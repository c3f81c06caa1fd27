import MarineFix.Proofs.Broadcast.History
import MarineFix.Relay
/-!
A mailbox that only receives holds the newest messages that its capacity allows.
-/

namespace MarineFix

/-- As many of the last messages as the capacity allows. -/
def Mailbox.newest (capacity : Int) (messages : List Text) : List Text :=
  if capacity ≤ 0 then messages else messages.drop (messages.length - capacity.toNat)

namespace Mailbox

@[simp] theorem newest_nil (capacity : Int) : newest capacity [] = [] := by
  simp [newest]

/-- Every mailbox has room for one message. -/
@[simp] theorem newest_singleton (capacity : Int) (message : Text) :
    newest capacity [message] = [message] := by
  rw [newest]
  split
  · rfl
  · have none : [message].length - capacity.toNat = 0 := by
      rw [List.length_singleton]
      omega
    rw [none, List.drop_zero]

/-- A delivery moves the window by one message. -/
theorem deliver_newest (capacity : Int) (messages : List Text) (message : Text) :
    Mailbox.deliver { capacity, held := newest capacity messages } message =
      { capacity, held := newest capacity (messages ++ [message]) } := by
  by_cases unlimited : capacity ≤ 0
  · have room : isFull { capacity, held := messages } = false := by
      rw [isFull_eq_false_iff]
      intro positive
      dsimp only at positive
      omega
    simp [newest, unlimited, deliver, room]
  · have positive : 0 < capacity := by omega
    obtain ⟨limit, rfl⟩ := Int.eq_ofNat_of_zero_le (Int.le_of_lt positive)
    simp only [newest, unlimited, if_false, Int.toNat_natCast, deliver, List.length_append,
      List.length_singleton, Mailbox.mk.injEq, true_and]
    cases full : isFull
      { capacity := (limit : Int), held := messages.drop (messages.length - limit) } with
    | false =>
        have short := (isFull_eq_false_iff _).mp full positive
        simp only [List.length_drop] at short
        have start : messages.length - limit = 0 := by omega
        have next : messages.length + 1 - limit = 0 := by omega
        simp [start, next]
    | true =>
        have reached := ((isFull_iff _).mp full).2
        simp only [List.length_drop] at reached
        have next : messages.length + 1 - limit = messages.length - limit + 1 := by omega
        rw [if_pos rfl, List.drop_drop, next, List.drop_append_of_le_length (by omega)]

/-- A mailbox that only receives holds the newest messages. -/
theorem foldl_deliver (capacity : Int) (messages : List Text) :
    messages.foldl Mailbox.deliver { capacity } =
      { capacity, held := newest capacity messages } := by
  induction messages using List.reverseRecOn with
  | nil => simp
  | append_singleton messages message ih =>
      rw [List.foldl_concat, ih, deliver_newest]

end Mailbox

namespace Hub

variable {Key : Type}

/-- Messages that are published one after the other wait in this order. -/
theorem foldl_publish (hub : Hub Key) (messages : List Text) :
    messages.foldl publish hub =
      { hub with pending := hub.pending ++
          messages.flatMap fun message => hub.subscribers.map (·, message) } := by
  induction messages generalizing hub with
  | nil => simp
  | cons message rest ih => simp [ih, publish]

variable [DecidableEq Key]

/-- A mailbox that is subscribed once is sent each message once. -/
theorem waiting_flatMap {key : Key} {subscribers : List Key} (once : subscribers.count key = 1)
    (messages : List Text) :
    waiting key (messages.flatMap fun message => subscribers.map (·, message)) = messages := by
  induction messages with
  | nil => rfl
  | cons message rest ih =>
      rw [List.flatMap_cons, waiting_append, ih, waiting_map, once]
      rfl

/-- A broadcast fills the mailbox of a subscriber with the newest messages. -/
theorem held_broadcast {hub : Hub Key} {key : Key} {capacity : Int}
    (found : hub.find? key = some { capacity }) (idle : hub.pending = [])
    (once : hub.subscribers.count key = 1) (messages : List Text) :
    (Relay.broadcast hub messages).held key = Mailbox.newest capacity messages := by
  have sends : waiting key (messages.foldl publish hub).pending = messages := by
    rw [foldl_publish, idle, List.nil_append, waiting_flatMap once]
  have same : (messages.foldl publish hub).find? key = some { capacity } := by
    rw [foldl_publish]
    exact found
  have delivered := (messages.foldl publish hub).find?_tick key
  rw [sends, same, Option.map_some, Mailbox.foldl_deliver] at delivered
  rw [held, Relay.broadcast, delivered]
  rfl

@[simp] theorem subscribers_broadcast (hub : Hub Key) (messages : List Text) :
    (Relay.broadcast hub messages).subscribers = hub.subscribers := by
  rw [Relay.broadcast, foldl_publish]
  rfl

/-- The position of each capacity is the key of its mailbox. -/
def ofCapacities (capacities : List Int) : Hub Nat :=
  capacities.zipIdx.foldl (fun hub entry => (hub.create entry.2 entry.1).subscribe entry.2) {}

theorem ofCapacities_concat (capacities : List Int) (capacity : Int) :
    ofCapacities (capacities ++ [capacity]) =
      ((ofCapacities capacities).create capacities.length capacity).subscribe
        capacities.length := by
  simp [ofCapacities, List.zipIdx_append]

@[simp] theorem subscribers_ofCapacities (capacities : List Int) :
    (ofCapacities capacities).subscribers = List.range capacities.length := by
  induction capacities using List.reverseRecOn with
  | nil => rfl
  | append_singleton capacities capacity ih =>
      rw [ofCapacities_concat, subscribe, create, ih, List.length_append, List.length_singleton,
        List.range_succ]

@[simp] theorem pending_ofCapacities (capacities : List Int) :
    (ofCapacities capacities).pending = [] := by
  induction capacities using List.reverseRecOn with
  | nil => rfl
  | append_singleton capacities capacity ih =>
      rw [ofCapacities_concat, subscribe, create, ih]

theorem find?_ofCapacities (capacities : List Int) (key : Nat) :
    (ofCapacities capacities).find? key =
      capacities[key]?.map fun capacity => { capacity } := by
  induction capacities using List.reverseRecOn with
  | nil => rfl
  | append_singleton capacities capacity ih =>
      rw [ofCapacities_concat, find?, subscribe, create, List.lookup_append, ← find?, ih,
        List.getElem?_append]
      by_cases old : key < capacities.length
      · simp [old]
      · by_cases new : key = capacities.length
        · simp [new]
        · have beyond : key - capacities.length ≠ 0 := by omega
          have other : (key == capacities.length) = false := beq_eq_false_iff_ne.mpr new
          simp [old, List.lookup_cons, beyond, other]

/-- No mailbox of a new hub holds a message. -/
theorem held_ofCapacities (capacities : List Int) (key : Nat) :
    (ofCapacities capacities).held key = [] := by
  rw [held, find?_ofCapacities]
  cases capacities[key]? <;> rfl

/-- A broadcast leaves in every mailbox the newest messages. -/
theorem held_broadcast_ofCapacities {capacities : List Int} {key : Nat} {capacity : Int}
    (place : capacities[key]? = some capacity) (messages : List Text) :
    (Relay.broadcast (ofCapacities capacities) messages).held key =
      Mailbox.newest capacity messages := by
  apply held_broadcast
  · rw [find?_ofCapacities, place]
    rfl
  · exact pending_ofCapacities capacities
  · have inside := (List.getElem?_eq_some_iff.mp place).1
    rw [subscribers_ofCapacities]
    exact List.count_eq_one_of_mem List.nodup_range (List.mem_range.mpr inside)

end Hub

end MarineFix
