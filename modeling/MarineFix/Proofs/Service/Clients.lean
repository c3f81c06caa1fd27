import MarineFix.Proofs.Relay
import MarineFix.Service.Basic
/-!
Every client of a service sees what it would see alone.
-/

namespace MarineFix

namespace Hub

variable {Key : Type} [DecidableEq Key]

theorem take?_of_nil {hub : Hub Key} {key : Key} (empty : hub.held key = []) :
    hub.take? key = none := by
  rcases hub.take?_cases key with ⟨nothing, _⟩ | ⟨mailbox, message, rest, found, waits, _⟩
  · exact nothing
  · simp [held, found, waits] at empty

/-- A message is taken from its own mailbox and from no other. -/
theorem take?_of_cons {hub : Hub Key} {key : Key} {message : Text} {rest : List Text}
    (waits : hub.held key = message :: rest) :
    ∃ after, hub.take? key = some (message, after) ∧ after.subscribers = hub.subscribers ∧
      ∀ other, after.held other = if other = key then rest else hub.held other := by
  rcases hub.take?_cases key with ⟨_, empty⟩ | ⟨mailbox, first, others, found, holds, taken⟩
  · rw [empty] at waits
    cases waits
  · have same : mailbox.held = message :: rest := by simpa [held, found] using waits
    rw [holds, List.cons.injEq] at same
    obtain ⟨rfl, rfl⟩ := same
    refine ⟨_, taken, rfl, fun other => ?_⟩
    rw [held, find?, lookup_modify, ← find?]
    split
    · rename_i here
      rw [here, found]
      rfl
    · rfl

end Hub

namespace Service

theorem held_detach (hub : Hub Nat) (key other : Nat) :
    (detach hub key).held other = hub.held other := by
  rw [detach, Hub.unsubscribe?]
  split <;> rfl

theorem subscribers_detach (hub : Hub Nat) (key : Nat) :
    (detach hub key).subscribers = hub.subscribers.erase key := by
  rw [detach, Hub.unsubscribe?]
  split
  · rfl
  · rename_i absent
    exact (List.erase_of_not_mem absent).symm

/-- A client has its connection, its messages and its subscriptions. -/
structure Seat where
  connection : Connection
  waiting : List Text
  subscriptions : Nat

/-- The end of a connection gives one subscription back. -/
def Seat.leave (seat : Seat) (events : List Event) : Seat :=
  { seat with
    connection := { seat.connection with
      events := seat.connection.events ++ events
      isOpen := false }
    subscriptions := seat.subscriptions - 1 }

/-- A turn, in terms of what its client has. -/
def Seat.turn (seat : Seat) : Seat :=
  if seat.connection.isOpen then
    match seat.waiting with
    | [] => seat.leave [.closed goingAway]
    | message :: rest =>
        if seat.connection.patience = some 0 then { seat with waiting := rest }.leave []
        else
          { seat with
            connection := { seat.connection with
              patience := seat.connection.patience.map (· - 1)
              events := seat.connection.events ++ [.message message] }
            waiting := rest }
  else seat

/-- A turn changes what belongs to its own client only. -/
theorem Connection.turn_spec (connection : Connection) (isOpen : connection.isOpen = true)
    (key : Nat) (hub : Hub Nat) :
    let result := connection.turn key hub
    (⟨result.1, result.2.held key, result.2.subscribers.count key⟩ =
      Seat.turn ⟨connection, hub.held key, hub.subscribers.count key⟩) ∧
      ∀ other ≠ key, result.2.held other = hub.held other ∧
        result.2.subscribers.count other = hub.subscribers.count other := by
  have gone (hub : Hub Nat) : (detach hub key).subscribers.count key =
      hub.subscribers.count key - 1 := by
    rw [subscribers_detach, List.count_erase_self]
  have stays (hub : Hub Nat) (other : Nat) (apart : other ≠ key) :
      (detach hub key).subscribers.count other = hub.subscribers.count other := by
    rw [subscribers_detach, List.count_erase_of_ne apart]
  rw [Connection.turn, Seat.turn, if_pos isOpen]
  cases waits : hub.held key with
  | nil =>
      rw [Hub.take?_of_nil waits]
      refine ⟨?_, fun other apart => ⟨held_detach hub key other, stays hub other apart⟩⟩
      simp [Seat.leave, held_detach, waits, gone]
  | cons message rest =>
      obtain ⟨after, taken, subscribers, held⟩ := Hub.take?_of_cons waits
      rw [taken]
      dsimp only
      split
      · refine ⟨?_, fun other apart => ⟨?_, ?_⟩⟩
        · simp [Seat.leave, held_detach, held, gone, subscribers]
        · rw [held_detach, held, if_neg apart]
        · rw [stays after other apart, subscribers]
      · refine ⟨?_, fun other apart => ⟨?_, ?_⟩⟩
        · simp [held, subscribers]
        · rw [held, if_neg apart]
        · rw [subscribers]

/-- Turns after the end of a connection change nothing. -/
theorem Seat.turn_of_ended {seat : Seat} (ended : seat.connection.isOpen = false) :
    seat.turn = seat := by
  rw [turn, ended]
  rfl

namespace Audience

/-- A key without a client has a connection that has ended. -/
def seat (audience : Audience) (key : Nat) : Seat where
  connection := audience.connections[key]?.getD { patience := none, isOpen := false }
  waiting := audience.hub.held key
  subscriptions := audience.hub.subscribers.count key

/-- A turn changes what its own client has and nothing else. -/
theorem seat_turn (audience : Audience) (key other : Nat) :
    (audience.turn key).seat other =
      if other = key then (audience.seat other).turn else audience.seat other := by
  rw [turn]
  cases present : audience.connections[key]? with
  | none =>
      dsimp only
      split
      · rename_i same
        rw [Seat.turn_of_ended (by simp [seat, same, present])]
      · rfl
  | some connection =>
      have inside := (List.getElem?_eq_some_iff.mp present).1
      dsimp only
      split
      · rename_i isOpen
        obtain ⟨own, others⟩ := connection.turn_spec isOpen key audience.hub
        split
        · rename_i same
          subst same
          simp only [seat, List.getElem?_set_self inside, present, Option.getD_some]
          exact own
        · rename_i apart
          obtain ⟨held, count⟩ := others other apart
          simp only [seat, List.getElem?_set_ne (Ne.symm apart), held, count]
      · rename_i ended
        split
        · rename_i same
          rw [Seat.turn_of_ended (by simpa [seat, same, present] using ended)]
        · rfl

/-- Each client ends up as if only its own turns had been taken. -/
theorem seat_attend (audience : Audience) (order : List Nat) (key : Nat) :
    (audience.attend order).seat key = Seat.turn^[order.count key] (audience.seat key) := by
  induction order generalizing audience with
  | nil => rfl
  | cons first rest ih =>
      rw [attend, List.foldl_cons, ← attend, ih, seat_turn, List.count_cons]
      by_cases same : key = first
      · simp [same, Function.iterate_succ_apply]
      · have apart : (first == key) = false := beq_eq_false_iff_ne.mpr (Ne.symm same)
        simp [same, apart]

theorem length_connections_attend (audience : Audience) (order : List Nat) :
    (audience.attend order).connections.length = audience.connections.length := by
  induction order generalizing audience with
  | nil => rfl
  | cons first rest ih =>
      rw [attend, List.foldl_cons, ← attend, ih, turn]
      split
      · rfl
      · split
        · exact List.length_set
        · rfl

end Audience

/-- The close comes with the first missing message. -/
def remaining (patience : Option Nat) (waiting : List Text) : List Event :=
  match patience with
  | none => waiting.map .message ++ [.closed goingAway]
  | some limit =>
      (waiting.take limit).map .message ++
        if waiting.length ≤ limit then [.closed goingAway] else []

/-- A turn for each message and one for the end are enough. -/
theorem Seat.iterate_turn {seat : Seat} (isOpen : seat.connection.isOpen = true)
    (once : seat.subscriptions = 1) {count : Nat} (enough : seat.waiting.length < count) :
    let ended := turn^[count] seat
    ended.connection.events =
        seat.connection.events ++ remaining seat.connection.patience seat.waiting ∧
      ended.subscriptions = 0 := by
  obtain ⟨⟨patience, events, _⟩, waiting, _⟩ := seat
  obtain rfl := isOpen
  obtain rfl := once
  obtain ⟨turns, rfl⟩ := Nat.exists_eq_succ_of_ne_zero (Nat.ne_zero_of_lt enough)
  dsimp only at enough ⊢
  rw [Function.iterate_succ_apply]
  induction waiting generalizing patience events turns with
  | nil =>
      rw [Function.iterate_fixed (turn_of_ended rfl)]
      cases patience <;> exact ⟨by simp [turn, leave, remaining], rfl⟩
  | cons message rest ih =>
      rw [List.length_cons, Nat.succ_lt_succ_iff] at enough
      obtain ⟨turns, rfl⟩ := Nat.exists_eq_succ_of_ne_zero (Nat.ne_zero_of_lt enough)
      match patience with
      | none =>
          obtain ⟨shown, left⟩ := ih none (events ++ [.message message]) turns enough
          rw [Function.iterate_succ_apply]
          refine ⟨shown.trans ?_, left⟩
          simp [remaining]
      | some 0 =>
          rw [Function.iterate_fixed (turn_of_ended rfl)]
          exact ⟨by simp [turn, leave, remaining], rfl⟩
      | some (limit + 1) =>
          obtain ⟨shown, left⟩ := ih (some limit) (events ++ [.message message]) turns enough
          rw [Function.iterate_succ_apply]
          refine ⟨shown.trans ?_, left⟩
          simp [remaining]

/-- The hub of the clients that are attached one after the other. -/
theorem foldl_attach (count : Nat) :
    (List.range count).foldl attach {} =
      Hub.ofCapacities (List.replicate count mailboxCapacity) := by
  induction count with
  | zero => rfl
  | succ count ih =>
      rw [List.range_succ, List.foldl_concat, ih, List.replicate_succ', Hub.ofCapacities_concat,
        List.length_replicate]
      rfl

/-- The clients of a service whose source has delivered these messages. -/
def served (clients : List Client) (messages : List Text) : Audience :=
  audience clients <| Relay.broadcast
    (Hub.ofCapacities (List.replicate clients.length mailboxCapacity)) messages

/-- Every client of a service has one subscription and the newest messages. -/
theorem seat_served {clients : List Client} {key : Nat} {client : Client}
    (place : clients[key]? = some client) (messages : List Text) :
    (served clients messages).seat key =
      ⟨{ patience := client.dropsAfter }, Mailbox.newest mailboxCapacity messages, 1⟩ := by
  have inside := (List.getElem?_eq_some_iff.mp place).1
  have capacity : (List.replicate clients.length mailboxCapacity)[key]? = some mailboxCapacity := by
    rw [List.getElem?_replicate, if_pos inside]
  simp only [served, Audience.seat, audience, List.getElem?_map, place, Option.map_some,
    Option.getD_some, Hub.held_broadcast_ofCapacities capacity, Hub.subscribers_broadcast,
    Hub.subscribers_ofCapacities, List.length_replicate]
  rw [List.count_eq_one_of_mem List.nodup_range (List.mem_range.mpr inside)]

/-- A key without a client has neither a connection nor a subscription. -/
theorem seat_served_of_absent {clients : List Client} {key : Nat}
    (absent : clients.length ≤ key) (messages : List Text) :
    ((served clients messages).seat key).connection.isOpen = false ∧
      ((served clients messages).seat key).subscriptions = 0 := by
  constructor
  · simp [served, Audience.seat, audience, List.getElem?_eq_none absent]
  · simp only [served, Audience.seat, audience, Hub.subscribers_broadcast,
      Hub.subscribers_ofCapacities, List.length_replicate]
    exact List.count_eq_zero_of_not_mem fun member =>
      absurd (List.mem_range.mp member) (Nat.not_lt.mpr absent)

section

variable {clients : List Client} {messages : List Text} {order : List Nat}
  (enough : ∀ key < clients.length,
    (Mailbox.newest mailboxCapacity messages).length < order.count key)

include enough

/-- With enough turns a client sees what it would see alone. -/
theorem seat_attend_served {key : Nat} {client : Client} (place : clients[key]? = some client) :
    let ended := ((served clients messages).attend order).seat key
    ended.connection.events = .accepted ::
        remaining client.dropsAfter (Mailbox.newest mailboxCapacity messages) ∧
      ended.subscriptions = 0 := by
  rw [Audience.seat_attend, seat_served place]
  exact Seat.iterate_turn rfl rfl (enough key (List.getElem?_eq_some_iff.mp place).1)

/-- No subscription is left to a key, whether a client has it or not. -/
theorem subscriptions_attend_served (key : Nat) :
    (((served clients messages).attend order).seat key).subscriptions = 0 := by
  cases place : clients[key]? with
  | none =>
      obtain ⟨closed, none⟩ := seat_served_of_absent (List.getElem?_eq_none_iff.mp place) messages
      rw [Audience.seat_attend, Function.iterate_fixed (Seat.turn_of_ended closed), none]
  | some client => exact (seat_attend_served enough place).2

/-- Every client sees what it would see alone in any order of turns. -/
theorem attend_served :
    let ended := (served clients messages).attend order
    ended.connections.map Connection.events = clients.map (fun client =>
      .accepted :: remaining client.dropsAfter (Mailbox.newest mailboxCapacity messages)) ∧
      ended.hub.subscribers = [] := by
  intro ended
  have length : ended.connections.length = clients.length := by
    rw [Audience.length_connections_attend]
    exact List.length_map _
  constructor
  · apply List.ext_getElem?
    intro key
    rw [List.getElem?_map, List.getElem?_map]
    cases place : clients[key]? with
    | none =>
        rw [List.getElem?_eq_none_iff, ← length, ← List.getElem?_eq_none_iff] at place
        rw [place]
        rfl
    | some client =>
        have inside := (List.getElem?_eq_some_iff.mp place).1
        obtain ⟨connection, present⟩ : ∃ connection, ended.connections[key]? = some connection :=
          ⟨_, List.getElem?_eq_getElem (length ▸ inside)⟩
        have own : (ended.seat key).connection = connection := by
          rw [Audience.seat, present]
          rfl
        have shown := (seat_attend_served enough place).1
        rw [own] at shown
        rw [present]
        exact congrArg some shown
  · rw [List.eq_nil_iff_forall_not_mem]
    intro key member
    have held : 0 < (ended.seat key).subscriptions := List.count_pos_iff.mpr member
    rw [subscriptions_attend_served enough key] at held
    exact absurd held (Nat.lt_irrefl 0)

end

/-- The usual order gives every connection enough turns. -/
theorem count_order (audience : Audience) {key : Nat} (inside : key < audience.connections.length) :
    audience.order.count key = (audience.hub.held key).length + 1 := by
  have alone (count : Nat) : ((List.range count).flatMap fun other =>
      List.replicate ((audience.hub.held other).length + 1) other).count key =
        if key < count then (audience.hub.held key).length + 1 else 0 := by
    induction count with
    | zero => rfl
    | succ count ih =>
        rw [List.range_succ, List.flatMap_append, List.count_append, ih, List.flatMap_singleton,
          List.count_replicate]
        by_cases here : count = key
        · simp [here]
        · have same : key < count + 1 ↔ key < count := by omega
          simp [here, same]
  rw [Audience.order, alone, if_pos inside]

/-- Each client sees the newest messages of the source, in any order of turns. -/
theorem run_clients (settings : Feed.Settings) (link : Feed.Link) (script : List Feed.ScriptItem)
    (requests : List Request) (clients : List Client) :
    let feed : Feed := { settings, link, script }
    let texts := Relay.published settings link script
    let kept := texts.drop (texts.length - min 10 texts.length)
    let outcome := run feed requests clients
    outcome.clients = clients.map (fun client => .accepted :: remaining client.dropsAfter kept) ∧
      outcome.subscribersAfter = 0 ∧
      ∀ order : List Nat, (∀ key < clients.length, kept.length < order.count key) →
        let attached := (List.range clients.length).foldl attach {}
        let ended := (audience clients (Relay.serve feed attached).2.2.1).attend order
        ended.connections.map Connection.events = outcome.clients ∧ ended.hub.subscribers = [] := by
  intro feed texts kept outcome
  have newest : Mailbox.newest mailboxCapacity texts = kept := by
    have same : texts.length - 10 = texts.length - min 10 texts.length := by omega
    rw [Mailbox.newest, if_neg (by decide)]
    exact congrArg texts.drop same
  have delivered : (Relay.run feed ((List.range clients.length).foldl attach {})).2.2.1 =
      Relay.broadcast (Hub.ofCapacities (List.replicate clients.length mailboxCapacity)) texts := by
    rw [foldl_attach]
    exact Relay.delivered_run settings link script (Hub.pending_ofCapacities _)
  have waiting : audience clients (Relay.serve feed
      ((List.range clients.length).foldl attach {})).2.2.1 = served clients texts := by
    rw [served, ← delivered]
    rfl
  have usual : ∀ key < clients.length, kept.length < (served clients texts).order.count key := by
    intro key inside
    have connected : key < (served clients texts).connections.length := by
      rwa [served, audience, List.length_map]
    have held : (served clients texts).hub.held key = Mailbox.newest mailboxCapacity texts :=
      congrArg Seat.waiting (seat_served (List.getElem?_eq_getElem inside) texts)
    rw [count_order _ connected, held, newest]
    exact Nat.lt_succ_self _
  have ended (order : List Nat) := @attend_served clients texts order
  rw [newest, ← waiting] at ended
  rw [← waiting] at usual
  obtain ⟨seen, none⟩ := ended _ usual
  have result : outcome.clients = _ := seen
  refine ⟨result, ?_, fun order enough => ?_⟩
  · exact List.length_eq_zero_iff.mpr none
  · rw [result]
    exact ended order enough

end Service

end MarineFix
