import MarineFix.Broadcast.Mailbox
import Mathlib.Data.List.Sort
/-!
Every message that arrived in a mailbox is taken, still held, or was pushed out.
-/

namespace MarineFix

namespace Mailbox

/-- A full mailbox refuses a message. -/
def put? (mailbox : Mailbox) (message : Text) : Option Mailbox :=
  if mailbox.isFull then none else some { mailbox with held := mailbox.held ++ [message] }

/-- A full mailbox first hands out its oldest message. -/
def enqueue? (mailbox : Mailbox) (message : Text) : Option Mailbox := do
  let roomy ← if mailbox.isFull then mailbox.take?.map Prod.snd else some mailbox
  roomy.put? message

/-- The mailbox keeps to its capacity. -/
def Within (mailbox : Mailbox) : Prop :=
  0 < mailbox.capacity → (mailbox.held.length : Int) ≤ mailbox.capacity

theorem isFull_iff (mailbox : Mailbox) :
    mailbox.isFull = true ↔
      0 < mailbox.capacity ∧ mailbox.capacity ≤ (mailbox.held.length : Int) := by
  simp [isFull]

theorem isFull_eq_false_iff (mailbox : Mailbox) :
    mailbox.isFull = false ↔
      (0 < mailbox.capacity → (mailbox.held.length : Int) < mailbox.capacity) := by
  simp [isFull]

/-- A mailbox within its capacity has room once the oldest message has left. -/
theorem enqueue?_of_within {mailbox : Mailbox} (within : mailbox.Within) (message : Text) :
    mailbox.enqueue? message = some (mailbox.deliver message) := by
  obtain ⟨capacity, held⟩ := mailbox
  cases full : (Mailbox.mk capacity held).isFull with
  | false => simp [enqueue?, put?, deliver, full]
  | true =>
      obtain ⟨positive, reached⟩ := (isFull_iff _).mp full
      have bounded := within positive
      dsimp only at positive reached bounded
      cases held with
      | nil =>
          rw [List.length_nil] at reached
          omega
      | cons oldest rest =>
          have room : (Mailbox.mk capacity rest).isFull = false := by
            rw [isFull_eq_false_iff]
            intro _
            rw [List.length_cons] at bounded
            dsimp only
            omega
          simp [enqueue?, put?, deliver, take?, full, room]

theorem within_deliver {mailbox : Mailbox} (within : mailbox.Within) (message : Text) :
    (mailbox.deliver message).Within := by
  intro positive
  rw [capacity_deliver] at positive ⊢
  exact length_held_deliver_le positive (within positive) message

/-- An arrival is a message and the mailbox that it finds. -/
structure Arrival where
  found : Mailbox
  message : Text

/-- The messages of some arrivals. -/
def sent (arrivals : List Arrival) : List Text := arrivals.map Arrival.message

@[simp] theorem sent_append (first second : List Arrival) :
    sent (first ++ second) = sent first ++ sent second := List.map_append

@[simp] theorem length_sent (arrivals : List Arrival) : (sent arrivals).length = arrivals.length :=
  List.length_map _

/-- The positions from some point on denote the messages from that point on. -/
theorem map_getElem?_range' (messages : List Text) (start : Nat) :
    (List.range' start (messages.length - start)).map (messages[·]?) =
      (messages.drop start).map some := by
  apply List.ext_getElem?
  intro index
  simp only [List.getElem?_map, List.getElem?_drop]
  by_cases inside : index < messages.length - start
  · have present : start + index < messages.length := by omega
    simp [List.getElem?_range' inside, List.getElem?_eq_getElem present]
  · have absent : messages.length ≤ start + index := by omega
    have outside : (List.range' start (messages.length - start))[index]? = none := by
      simpa using inside
    simp [outside, List.getElem?_eq_none absent]

/-- A later message found the message at this position the oldest of a full mailbox. -/
def PushedOut (capacity : Int) (arrivals : List Arrival) (position : Nat) : Prop :=
  ∃ later arrival, position < later ∧ arrivals[later]? = some arrival ∧ 0 < capacity ∧
    (arrival.found.held.length : Int) = capacity ∧
    arrival.found.held = ((sent arrivals).take later).drop position

/-- The account of a mailbox keeps the positions of the messages that were taken. -/
structure Account (capacity : Int) (arrivals : List Arrival) (taken : List Text) (gone : Nat)
    (positions : List Nat) (mailbox : Mailbox) : Prop where
  capacity_eq : mailbox.capacity = capacity
  within : mailbox.Within
  gone_le : gone ≤ arrivals.length
  held_eq : mailbox.held = (sent arrivals).drop gone
  increasing : positions.Pairwise (· < ·)
  lt_gone : ∀ position ∈ positions, position < gone
  taken_eq : positions.map ((sent arrivals)[·]?) = taken.map some
  pushedOut : ∀ position < gone, position ∉ positions → PushedOut capacity arrivals position
  safe : ∀ arrival ∈ arrivals,
    arrival.found.enqueue? arrival.message = some (arrival.found.deliver arrival.message)

/-- There is an account of the mailbox. -/
def Accounted (capacity : Int) (arrivals : List Arrival) (taken : List Text)
    (mailbox : Mailbox) : Prop :=
  ∃ gone positions, Account capacity arrivals taken gone positions mailbox

theorem PushedOut.append {capacity : Int} {arrivals : List Arrival} {position : Nat}
    (pushedOut : PushedOut capacity arrivals position) (more : List Arrival) :
    PushedOut capacity (arrivals ++ more) position := by
  obtain ⟨later, arrival, order, found, positive, full, window⟩ := pushedOut
  have inside : later < arrivals.length := (List.getElem?_eq_some_iff.mp found).1
  refine ⟨later, arrival, order, ?_, positive, full, ?_⟩
  · rw [List.getElem?_append_left inside, found]
  · rw [window, sent_append, List.take_append_of_le_length]
    rw [length_sent]
    exact Nat.le_of_lt inside

/-- A new mailbox holds nothing. -/
theorem Accounted.start (capacity : Int) : Accounted capacity [] [] { capacity } :=
  ⟨0, [], {
    capacity_eq := rfl
    within := fun positive => by simpa using Int.le_of_lt positive
    gone_le := Nat.le_refl 0
    held_eq := rfl
    increasing := .nil
    lt_gone := by simp
    taken_eq := rfl
    pushedOut := by simp
    safe := by simp }⟩

section

variable {capacity : Int} {arrivals : List Arrival} {taken : List Text} {mailbox : Mailbox}

/-- Positions before the new arrival still denote the same messages. -/
theorem Account.taken_eq_append {gone : Nat} {positions : List Nat}
    (account : Account capacity arrivals taken gone positions mailbox) (more : List Arrival) :
    positions.map ((sent (arrivals ++ more))[·]?) = taken.map some := by
  rw [← account.taken_eq]
  apply List.map_congr_left
  intro position member
  have inside := Nat.lt_of_lt_of_le (account.lt_gone position member) account.gone_le
  rw [sent_append, List.getElem?_append_left (by rwa [length_sent])]

theorem Account.safe_append {gone : Nat} {positions : List Nat}
    (account : Account capacity arrivals taken gone positions mailbox) (message : Text) :
    ∀ arrival ∈ arrivals ++ [⟨mailbox, message⟩],
      arrival.found.enqueue? arrival.message = some (arrival.found.deliver arrival.message) := by
  intro arrival member
  rcases List.mem_append.mp member with old | new
  · exact account.safe arrival old
  · rw [List.mem_singleton.mp new]
    exact enqueue?_of_within account.within message

/-- A delivery to a mailbox with room adds to what it holds. -/
theorem Account.deliver_of_room {gone : Nat} {positions : List Nat}
    (account : Account capacity arrivals taken gone positions mailbox)
    (room : mailbox.isFull = false) (message : Text) :
    Account capacity (arrivals ++ [⟨mailbox, message⟩]) taken gone positions
      (mailbox.deliver message) where
  capacity_eq := account.capacity_eq
  within := within_deliver account.within message
  gone_le := by
    rw [List.length_append]
    exact Nat.le_add_right_of_le account.gone_le
  held_eq := by
    rw [held_deliver_of_not_full room, account.held_eq, sent_append, List.drop_append_of_le_length]
    · rfl
    · rw [length_sent]
      exact account.gone_le
  increasing := account.increasing
  lt_gone := account.lt_gone
  taken_eq := account.taken_eq_append _
  pushedOut position before untaken := (account.pushedOut position before untaken).append _
  safe := account.safe_append message

/-- A delivery to a full mailbox pushes out the oldest message. -/
theorem Account.deliver_of_full {gone : Nat} {positions : List Nat}
    (account : Account capacity arrivals taken gone positions mailbox)
    (full : mailbox.isFull = true) (message : Text) :
    Account capacity (arrivals ++ [⟨mailbox, message⟩]) taken (gone + 1) positions
      (mailbox.deliver message) := by
  obtain ⟨positive, reached⟩ := (isFull_iff _).mp full
  have exactly := Int.le_antisymm (account.within positive) reached
  rw [account.capacity_eq] at positive exactly
  have some_held : gone < arrivals.length := by
    have length := congrArg List.length account.held_eq
    rw [List.length_drop, length_sent] at length
    omega
  refine {
    capacity_eq := account.capacity_eq
    within := within_deliver account.within message
    gone_le := ?_
    held_eq := ?_
    increasing := account.increasing
    lt_gone := fun position member => Nat.lt_succ_of_lt (account.lt_gone position member)
    taken_eq := account.taken_eq_append _
    pushedOut := ?_
    safe := account.safe_append message }
  · rw [List.length_append]
    exact Nat.add_le_add_right account.gone_le 1
  · rw [held_deliver_of_full full, account.held_eq, List.drop_drop, sent_append,
      List.drop_append_of_le_length]
    · rfl
    · rw [length_sent]
      exact some_held
  · intro position before untaken
    rcases Nat.lt_succ_iff_lt_or_eq.mp before with earlier | rfl
    · exact (account.pushedOut position earlier untaken).append _
    · refine ⟨arrivals.length, ⟨mailbox, message⟩, some_held, List.getElem?_concat_length,
        positive, exactly, ?_⟩
      have all : (sent arrivals).length ≤ arrivals.length := Nat.le_of_eq (length_sent arrivals)
      rw [account.held_eq, sent_append, List.take_append_of_le_length
        (Nat.le_of_eq (length_sent arrivals).symm), List.take_of_length_le all]

/-- Every delivery can be accounted for. -/
theorem Accounted.deliver (accounted : Accounted capacity arrivals taken mailbox)
    (message : Text) :
    Accounted capacity (arrivals ++ [⟨mailbox, message⟩]) taken (mailbox.deliver message) := by
  obtain ⟨gone, positions, account⟩ := accounted
  cases full : mailbox.isFull with
  | false => exact ⟨gone, positions, account.deliver_of_room full message⟩
  | true => exact ⟨gone + 1, positions, account.deliver_of_full full message⟩

/-- The message that is taken is the first one that has not left. -/
theorem Accounted.take {message : Text} {rest : List Text}
    (accounted : Accounted capacity arrivals taken mailbox)
    (held : mailbox.held = message :: rest) :
    Accounted capacity arrivals (taken ++ [message]) { mailbox with held := rest } := by
  obtain ⟨gone, positions, account⟩ := accounted
  have window := account.held_eq
  rw [held] at window
  have oldest : (sent arrivals)[gone]? = some message := by
    have first := List.head?_drop (l := sent arrivals) (i := gone)
    rw [← window] at first
    exact first.symm
  have some_held : gone < arrivals.length := by
    have inside := (List.getElem?_eq_some_iff.mp oldest).1
    rwa [length_sent] at inside
  refine ⟨gone + 1, positions ++ [gone], {
    capacity_eq := account.capacity_eq
    within := ?_
    gone_le := some_held
    held_eq := ?_
    increasing := ?_
    lt_gone := ?_
    taken_eq := ?_
    pushedOut := ?_
    safe := account.safe }⟩
  · intro positive
    have bounded := account.within positive
    rw [held, List.length_cons] at bounded
    dsimp only at bounded ⊢
    omega
  · rw [← List.drop_drop, ← window]
    rfl
  · rw [List.pairwise_append]
    refine ⟨account.increasing, List.pairwise_singleton _ _, ?_⟩
    intro position member last found
    rw [List.mem_singleton.mp found]
    exact account.lt_gone position member
  · intro position member
    rcases List.mem_append.mp member with old | new
    · exact Nat.lt_succ_of_lt (account.lt_gone position old)
    · rw [List.mem_singleton.mp new]
      exact Nat.lt_succ_self gone
  · rw [List.map_append, List.map_append, account.taken_eq, List.map_singleton, oldest]
    rfl
  · intro position before untaken
    rw [List.mem_append, List.mem_singleton, not_or] at untaken
    exact account.pushedOut position (by omega) untaken.1

/-- Draining a mailbox takes all that it holds, one message after the other. -/
theorem Accounted.drain (accounted : Accounted capacity arrivals taken mailbox) :
    Accounted capacity arrivals (taken ++ mailbox.held) mailbox.drain.2 := by
  obtain ⟨limit, held⟩ := mailbox
  induction held generalizing taken with
  | nil => simpa [Mailbox.drain] using accounted
  | cons message rest ih =>
      have later := ih (accounted.take rfl)
      rwa [List.append_assoc] at later

theorem Accounted.capacity_eq (accounted : Accounted capacity arrivals taken mailbox) :
    mailbox.capacity = capacity := by
  obtain ⟨_, _, account⟩ := accounted
  exact account.capacity_eq

theorem Accounted.length_le (accounted : Accounted capacity arrivals taken mailbox)
    (positive : 0 < capacity) : (mailbox.held.length : Int) ≤ capacity := by
  obtain ⟨_, _, account⟩ := accounted
  have within := account.within
  rw [Within, account.capacity_eq] at within
  exact within positive

/-- Neither part of a delivery ever fails. -/
theorem Accounted.safe (accounted : Accounted capacity arrivals taken mailbox) :
    ∀ arrival ∈ arrivals,
      arrival.found.enqueue? arrival.message = some (arrival.found.deliver arrival.message) := by
  obtain ⟨_, _, account⟩ := accounted
  exact account.safe

/-- The content of a mailbox is the end of what arrived. -/
theorem Accounted.suffix (accounted : Accounted capacity arrivals taken mailbox) :
    mailbox.held <:+ sent arrivals := by
  obtain ⟨gone, _, account⟩ := accounted
  rw [account.held_eq]
  exact List.drop_suffix gone _

/-- Every position that was neither taken nor is held was pushed out. -/
theorem Accounted.positions (accounted : Accounted capacity arrivals taken mailbox) :
    ∃ positions : List Nat, positions.Pairwise (· < ·) ∧
      positions.map ((sent arrivals)[·]?) = (taken ++ mailbox.held).map some ∧
      ∀ position < arrivals.length, position ∉ positions →
        PushedOut capacity arrivals position := by
  obtain ⟨gone, positions, account⟩ := accounted
  refine ⟨positions ++ List.range' gone (arrivals.length - gone), ?_, ?_, ?_⟩
  · rw [List.pairwise_append]
    refine ⟨account.increasing, List.pairwise_lt_range', ?_⟩
    intro position member later found
    exact Nat.lt_of_lt_of_le (account.lt_gone position member) (List.mem_range'_1.mp found).1
  · rw [List.map_append, List.map_append, account.taken_eq, account.held_eq, ← length_sent,
      map_getElem?_range']
  · intro position inside untaken
    rw [List.mem_append, List.mem_range'_1, not_or] at untaken
    exact account.pushedOut position (by omega) untaken.1

/-- Without a limit nothing is ever pushed out. -/
theorem Accounted.eq_sent (accounted : Accounted capacity arrivals taken mailbox)
    (unlimited : capacity ≤ 0) : taken ++ mailbox.held = sent arrivals := by
  obtain ⟨positions, increasing, same, missing⟩ := accounted.positions
  have inside : ∀ position ∈ positions, position < arrivals.length := by
    intro position member
    have found : (sent arrivals)[position]? ∈ (taken ++ mailbox.held).map some := by
      rw [← same]
      exact List.mem_map_of_mem member
    obtain ⟨message, _, present⟩ := List.mem_map.mp found
    have bound := (List.getElem?_eq_some_iff.mp present.symm).1
    rwa [length_sent] at bound
  have every : positions = List.range arrivals.length := by
    apply increasing.eq_of_mem_iff List.pairwise_lt_range
    intro position
    rw [List.mem_range]
    refine ⟨inside position, fun before => ?_⟩
    by_contra absent
    obtain ⟨_, _, _, _, positive, _⟩ := missing position before absent
    omega
  have all : (taken ++ mailbox.held).map some = (sent arrivals).map some := by
    rw [← same, every, ← length_sent, List.range_eq_range']
    exact map_getElem?_range' (sent arrivals) 0
  exact (List.map_inj_right fun _ _ equal => Option.some.inj equal).mp all

end

end Mailbox

end MarineFix
