import MarineFix.Broadcast.Session
import MarineFix.Proofs.Broadcast.Account
import Mathlib.Data.List.DropRight
/-!
The history of a hub tells what was subscribed, sent and taken for every mailbox.
-/

namespace MarineFix

namespace Hub

open Mailbox (Arrival sent Accounted)

variable {Key : Type} [DecidableEq Key]

/-- The messages for one mailbox among the deliveries. -/
def waiting (key : Key) (deliveries : List (Key × Text)) : List Text :=
  (deliveries.filter (·.1 = key)).map Prod.snd

/-- The arrivals at one mailbox while the deliveries are made one after the other. -/
def arrivals (key : Key) (mailboxes : List (Key × Mailbox)) : List (Key × Text) → List Arrival
  | [] => []
  | delivery :: rest =>
      (if delivery.1 = key then
        ((mailboxes.lookup key).map fun found => ⟨found, delivery.2⟩).toList else []) ++
        arrivals key (modify delivery.1 (·.deliver delivery.2) mailboxes) rest

@[simp] theorem waiting_nil (key : Key) : waiting key [] = [] := rfl

@[simp] theorem waiting_append (key : Key) (first second : List (Key × Text)) :
    waiting key (first ++ second) = waiting key first ++ waiting key second := by
  simp [waiting]

/-- Each subscription of the mailbox sends the message once. -/
theorem waiting_map (key : Key) (subscribers : List Key) (message : Text) :
    waiting key (subscribers.map (·, message)) =
      List.replicate (subscribers.count key) message := by
  induction subscribers with
  | nil => rfl
  | cons subscriber rest ih =>
      simp only [waiting, List.map_cons, List.filter_cons] at ih ⊢
      by_cases same : subscriber = key
      · simp [same, ih, List.replicate_succ]
      · simp [same, ih]

/-- The mailbox that a delivery leaves behind. -/
theorem lookup_delivery (key : Key) (delivery : Key × Text) (mailboxes : List (Key × Mailbox)) :
    (modify delivery.1 (·.deliver delivery.2) mailboxes).lookup key =
      (mailboxes.lookup key).map fun mailbox =>
        (waiting key [delivery]).foldl Mailbox.deliver mailbox := by
  rw [lookup_modify]
  by_cases here : key = delivery.1
  · simp [here, waiting]
  · simp [here, Ne.symm here, waiting]

/-- Every mailbox receives its messages in their order and none of the others. -/
theorem lookup_deliveries (key : Key) (mailboxes : List (Key × Mailbox))
    (deliveries : List (Key × Text)) :
    (deliveries.foldl (fun mailboxes delivery =>
        modify delivery.1 (·.deliver delivery.2) mailboxes) mailboxes).lookup key =
      (mailboxes.lookup key).map fun mailbox =>
        (waiting key deliveries).foldl Mailbox.deliver mailbox := by
  induction deliveries generalizing mailboxes with
  | nil => simp
  | cons delivery rest ih =>
      rw [List.foldl_cons, ih, lookup_delivery, Option.map_map]
      have split : waiting key (delivery :: rest) = waiting key [delivery] ++ waiting key rest :=
        waiting_append key [delivery] rest
      rw [split]
      simp only [List.foldl_append]
      rfl

theorem find?_tick (hub : Hub Key) (key : Key) :
    hub.tick.find? key = (hub.find? key).map fun mailbox =>
      (waiting key hub.pending).foldl Mailbox.deliver mailbox :=
  lookup_deliveries key hub.mailboxes hub.pending

/-- A mailbox that is there receives what waits for it. -/
theorem sent_arrivals {key : Key} {mailboxes : List (Key × Mailbox)} {mailbox : Mailbox}
    (found : mailboxes.lookup key = some mailbox) (deliveries : List (Key × Text)) :
    sent (arrivals key mailboxes deliveries) = waiting key deliveries := by
  induction deliveries generalizing mailboxes mailbox with
  | nil => rfl
  | cons delivery rest ih =>
      have later := lookup_delivery key delivery mailboxes
      rw [found, Option.map_some] at later
      rw [arrivals, Mailbox.sent_append, ih later]
      by_cases here : delivery.1 = key
      · simp [here, found, waiting, sent]
      · simp [here, waiting, sent]

/-- Nothing arrives at a mailbox that is not there. -/
theorem arrivals_of_absent {key : Key} {mailboxes : List (Key × Mailbox)}
    (absent : mailboxes.lookup key = none) (deliveries : List (Key × Text)) :
    arrivals key mailboxes deliveries = [] := by
  induction deliveries generalizing mailboxes with
  | nil => rfl
  | cons delivery rest ih =>
      have later := lookup_delivery key delivery mailboxes
      rw [absent, Option.map_none] at later
      simp [arrivals, absent, ih later]

/-- The deliveries of a tick to one mailbox can be accounted for. -/
theorem accounted_deliveries {key : Key} {mailboxes : List (Key × Mailbox)} {mailbox : Mailbox}
    {capacity : Int} {before : List Arrival} {taken : List Text}
    (found : mailboxes.lookup key = some mailbox)
    (accounted : Accounted capacity before taken mailbox) (deliveries : List (Key × Text)) :
    Accounted capacity (before ++ arrivals key mailboxes deliveries) taken
      ((waiting key deliveries).foldl Mailbox.deliver mailbox) := by
  induction deliveries generalizing mailboxes mailbox before with
  | nil => simpa [arrivals] using accounted
  | cons delivery rest ih =>
      have later := lookup_delivery key delivery mailboxes
      rw [found, Option.map_some] at later
      by_cases here : delivery.1 = key
      · have kept := ih later (by simpa [waiting, here] using accounted.deliver delivery.2)
        simpa [arrivals, waiting, here, found] using kept
      · have kept := ih later (by simpa [waiting, here] using accounted)
        simpa [arrivals, waiting, here] using kept

/-- The oldest message is taken from a mailbox that holds one. -/
theorem take?_cases (hub : Hub Key) (key : Key) :
    (hub.take? key = none ∧ hub.held key = []) ∨
      ∃ mailbox message rest, hub.find? key = some mailbox ∧ mailbox.held = message :: rest ∧
        hub.take? key = some (message, { hub with
          mailboxes := modify key (fun _ => { mailbox with held := rest }) hub.mailboxes }) := by
  rw [take?, held]
  cases hub.find? key with
  | none => exact .inl ⟨rfl, rfl⟩
  | some mailbox =>
      obtain ⟨capacity, held⟩ := mailbox
      cases held with
      | nil => exact .inl ⟨rfl, rfl⟩
      | cons message rest => exact .inr ⟨⟨capacity, message :: rest⟩, message, rest, rfl, rfl, rfl⟩

end Hub

namespace HubSession

open Mailbox (Arrival)

/-- A step and the session that it meets. -/
abbrev Moment := HubSession × Step

/-- All moments of a run. -/
def moments (session : HubSession) : List Step → List Moment
  | [] => []
  | step :: rest => (session, step) :: (session.step step).2.moments rest

/-- The messages that an answer hands out. -/
def Answer.texts : Answer → List Text
  | .message text => [text]
  | .messages texts => texts
  | _ => []

/-- The mailbox is subscribed once more. -/
def joins (id : MailboxId) : Moment → Bool
  | (session, .subscribe name) => session.current name = id
  | _ => false

/-- One subscription of the mailbox ends. -/
def quits (id : MailboxId) : Moment → Bool
  | (session, .unsubscribe name) =>
      session.current name = id && (session.step (.unsubscribe name)).1 = .done
  | _ => false

/-- The messages that are taken out of the mailbox. -/
def handed (id : MailboxId) : Moment → List Text
  | (session, .take name) =>
      if session.current name = id then (session.step (.take name)).1.texts else []
  | (session, .drain name) =>
      if session.current name = id then (session.step (.drain name)).1.texts else []
  | _ => []

/-- The messages that are put into the mailbox. -/
def arriving (id : MailboxId) : Moment → List Arrival
  | (session, .tick) => Hub.arrivals id session.hub.mailboxes session.hub.pending
  | _ => []

def Step.isTick : Step → Bool
  | .tick => true
  | _ => false

/-- The copies of a message that go to a mailbox with so many subscriptions. -/
def Step.copies (subscriptions : Nat) : Step → List Text
  | .publish message => List.replicate subscriptions message
  | _ => []

/-- The moments of a run that begins with an empty hub. -/
def history (steps : List Step) : List Moment := ({} : HubSession).moments steps

/-- The number of subscriptions that have not ended. -/
def subscriptions (id : MailboxId) (steps : List Step) : Nat :=
  (history steps).countP (joins id) - (history steps).countP (quits id)

def publishedAfter (id : MailboxId) (earlier : List Step) : List Step → List Text
  | [] => []
  | step :: rest =>
      step.copies (subscriptions id earlier) ++ publishedAfter id (earlier ++ [step]) rest

/-- All messages published to the mailbox, once for each subscription. -/
def published (id : MailboxId) (steps : List Step) : List Text := publishedAfter id [] steps

/-- The steps up to the last tick. -/
def ticked (steps : List Step) : List Step := steps.rdropWhile fun step => !step.isTick

/-- The messages published to the mailbox and delivered by a later tick. -/
def due (id : MailboxId) (steps : List Step) : List Text := published id (ticked steps)

def taken (id : MailboxId) (steps : List Step) : List Text := (history steps).flatMap (handed id)

def arrivals (id : MailboxId) (steps : List Step) : List Arrival :=
  (history steps).flatMap (arriving id)

/-- The state after a run that begins with an empty hub. -/
def reached (steps : List Step) : HubSession := ({} : HubSession).after steps

@[simp] theorem reached_concat (steps : List Step) (step : Step) :
    reached (steps ++ [step]) = ((reached steps).step step).2 := by
  simp [reached, after]

theorem moments_concat (session : HubSession) (steps : List Step) (step : Step) :
    session.moments (steps ++ [step]) = session.moments steps ++ [(session.after steps, step)] := by
  induction steps generalizing session with
  | nil => rfl
  | cons first rest ih => simp [moments, ih]

@[simp] theorem history_concat (steps : List Step) (step : Step) :
    history (steps ++ [step]) = history steps ++ [(reached steps, step)] :=
  moments_concat _ steps step

@[simp] theorem taken_concat (id : MailboxId) (steps : List Step) (step : Step) :
    taken id (steps ++ [step]) = taken id steps ++ handed id (reached steps, step) := by
  simp [taken]

@[simp] theorem arrivals_concat (id : MailboxId) (steps : List Step) (step : Step) :
    arrivals id (steps ++ [step]) = arrivals id steps ++ arriving id (reached steps, step) := by
  simp [arrivals]

theorem publishedAfter_concat (id : MailboxId) (earlier steps : List Step) (step : Step) :
    publishedAfter id earlier (steps ++ [step]) =
      publishedAfter id earlier steps ++ step.copies (subscriptions id (earlier ++ steps)) := by
  induction steps generalizing earlier with
  | nil => simp [publishedAfter]
  | cons first rest ih => simp [publishedAfter, ih]

@[simp] theorem published_concat (id : MailboxId) (steps : List Step) (step : Step) :
    published id (steps ++ [step]) =
      published id steps ++ step.copies (subscriptions id steps) :=
  publishedAfter_concat id [] steps step

theorem due_concat_of_tick (id : MailboxId) (steps : List Step) :
    due id (steps ++ [.tick]) = published id steps := by
  simp [due, ticked, Step.isTick, Step.copies]

theorem due_concat_of_not_tick (id : MailboxId) (steps : List Step) {step : Step}
    (other : step.isTick = false) : due id (steps ++ [step]) = due id steps := by
  simp [due, ticked, other]

/-- A message is taken from a mailbox that holds one, and otherwise nothing changes. -/
theorem step_take_cases (session : HubSession) (name : Text) :
    (session.step (.take name) = (.empty, session) ∧
      session.hub.held (session.current name) = []) ∨
    ∃ mailbox message rest, session.hub.find? (session.current name) = some mailbox ∧
      mailbox.held = message :: rest ∧
      session.step (.take name) = (.message message, { session with hub := { session.hub with
        mailboxes := Hub.modify (session.current name) (fun _ => { mailbox with held := rest })
          session.hub.mailboxes } }) := by
  rw [step]
  rcases session.hub.take?_cases (session.current name) with
    ⟨nothing, empty⟩ | ⟨mailbox, message, rest, found, held, taken⟩
  · rw [nothing]
    exact .inl ⟨rfl, empty⟩
  · rw [taken]
    exact .inr ⟨mailbox, message, rest, found, held, rfl⟩

/-- Taking a message changes the mailboxes only. -/
theorem step_take_frame (session : HubSession) (name : Text) :
    (session.step (.take name)).2.hub.subscribers = session.hub.subscribers ∧
      (session.step (.take name)).2.hub.pending = session.hub.pending ∧
      (session.step (.take name)).2.names = session.names := by
  rcases session.step_take_cases name with ⟨same, _⟩ | ⟨_, _, _, _, _, same⟩
  · rw [same]
    exact ⟨rfl, rfl, rfl⟩
  · rw [same]
    exact ⟨rfl, rfl, rfl⟩

/-- A subscription ends only if there is one. -/
theorem step_unsubscribe (session : HubSession) (name : Text) :
    session.step (.unsubscribe name) =
      if session.current name ∈ session.hub.subscribers then
        (.done, { session with hub := { session.hub with
          subscribers := session.hub.subscribers.erase (session.current name) } })
      else (.notSubscribed, session) := by
  rw [step, Hub.unsubscribe?]
  split <;> split <;> simp_all

/-- A step changes the subscriptions of a mailbox as its moment tells. -/
theorem count_subscribers_step (id : MailboxId) (session : HubSession) (step : Step) :
    (session.step step).2.hub.subscribers.count id + (quits id (session, step)).toNat =
      session.hub.subscribers.count id + (joins id (session, step)).toNat := by
  cases step with
  | create name capacity => rfl
  | publish message => rfl
  | tick => rfl
  | drain name => rfl
  | take name => rw [(session.step_take_frame name).1]; rfl
  | subscribe name =>
      by_cases same : session.current name = id <;>
        simp [HubSession.step, Hub.subscribe, joins, quits, same, List.count_append]
  | unsubscribe name =>
      simp only [joins, quits, step_unsubscribe]
      split
      · rename_i member
        by_cases same : session.current name = id
        · have positive := List.count_pos_iff.mpr member
          rw [same] at positive
          simp only [same, List.count_erase_self, decide_true, Bool.and_true, Bool.toNat_true,
            Bool.toNat_false]
          omega
        · simp [same, List.count_erase_of_ne (Ne.symm same)]
      · simp

/-- The subscriptions of the hub are those of the history. -/
theorem count_subscribers (id : MailboxId) (steps : List Step) :
    (reached steps).hub.subscribers.count id = subscriptions id steps := by
  suffices balance : (reached steps).hub.subscribers.count id +
      (history steps).countP (quits id) = (history steps).countP (joins id) by
    rw [subscriptions]
    omega
  induction steps using List.reverseRecOn with
  | nil => rfl
  | append_singleton steps step ih =>
      have change := count_subscribers_step id (reached steps) step
      have single (test : Moment → Bool) (moment : Moment) :
          [moment].countP test = (test moment).toNat := by
        cases holds : test moment <;> simp [holds]
      rw [reached_concat, history_concat, List.countP_append, List.countP_append, single, single]
      omega

/-- A tick empties the waiting deliveries, and other steps add copies. -/
theorem waiting_step (id : MailboxId) (session : HubSession) {step : Step}
    (other : step.isTick = false) :
    Hub.waiting id (session.step step).2.hub.pending =
      Hub.waiting id session.hub.pending ++ step.copies (session.hub.subscribers.count id) := by
  cases step with
  | tick => simp [Step.isTick] at other
  | publish message => simp [HubSession.step, Hub.publish, Hub.waiting_map, Step.copies]
  | take name => simp [(session.step_take_frame name).2.1, Step.copies]
  | unsubscribe name =>
      rw [step_unsubscribe]
      split <;> simp [Step.copies]
  | create name capacity => simp [HubSession.step, Hub.create, Step.copies]
  | subscribe name => simp [HubSession.step, Hub.subscribe, Step.copies]
  | drain name => simp [HubSession.step, Hub.drain, Step.copies]

/-- What is published is delivered already or waits for the next tick. -/
theorem due_append_waiting (id : MailboxId) (steps : List Step) :
    due id steps ++ Hub.waiting id (reached steps).hub.pending = published id steps := by
  induction steps using List.reverseRecOn with
  | nil => rfl
  | append_singleton steps step ih =>
      cases ticks : step.isTick with
      | false =>
          rw [due_concat_of_not_tick id steps ticks, reached_concat, waiting_step id _ ticks,
            count_subscribers, published_concat, ← ih, List.append_assoc]
      | true =>
          cases step with
          | tick =>
              rw [due_concat_of_tick, reached_concat, published_concat]
              rfl
          | _ => simp [Step.isTick] at ticks

end HubSession

end MarineFix
