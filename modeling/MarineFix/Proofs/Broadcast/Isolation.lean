import MarineFix.Proofs.Broadcast.Delivery
/-!
What happens to one mailbox depends on its own steps, the publishing and the ticks.
-/

namespace MarineFix

/-- A port is all that the hub knows of one mailbox. -/
structure Port where
  mailbox : Option Mailbox := none
  subscriptions : Nat := 0
  waiting : List Text := []

namespace Port

open HubSession (Step Answer)

def held (port : Port) : List Text := (port.mailbox.map Mailbox.held).getD []

/-- What a step does to the mailbox that it concerns. -/
def step (port : Port) : Step → Answer × Port
  | .create _ capacity => (.done, { port with mailbox := port.mailbox.or (some { capacity }) })
  | .subscribe _ => (.done, { port with subscriptions := port.subscriptions + 1 })
  | .unsubscribe _ =>
      if port.subscriptions = 0 then (.notSubscribed, port)
      else (.done, { port with subscriptions := port.subscriptions - 1 })
  | .publish message =>
      (.done, { port with
        waiting := port.waiting ++ List.replicate port.subscriptions message })
  | .tick =>
      (.done, { port with
        mailbox := port.mailbox.map fun mailbox => port.waiting.foldl Mailbox.deliver mailbox
        waiting := [] })
  | .take _ =>
      match port.mailbox.bind Mailbox.take? with
      | some (message, mailbox) => (.message message, { port with mailbox := some mailbox })
      | none => (.empty, port)
  | .drain _ =>
      (.messages port.held,
        { port with mailbox := port.mailbox.map fun mailbox => mailbox.drain.2 })

/-- The answers of all steps with what the mailbox holds after each of them. -/
def transcript (port : Port) : List Step → List (Answer × List Text)
  | [] => []
  | step :: rest =>
      ((port.step step).1, (port.step step).2.held) :: (port.step step).2.transcript rest

end Port

namespace HubSession

/-- The hub as one mailbox knows it. -/
def port (id : MailboxId) (session : HubSession) : Port where
  mailbox := session.hub.find? id
  subscriptions := session.hub.subscribers.count id
  waiting := Hub.waiting id session.hub.pending

/-- The step is about this mailbox or about all mailboxes. -/
def concerns (id : MailboxId) : Moment → Bool
  | (session, .create name _) => MailboxId.mk name (session.names.count name + 1) = id
  | (session, .subscribe name) => session.current name = id
  | (session, .unsubscribe name) => session.current name = id
  | (session, .take name) => session.current name = id
  | (session, .drain name) => session.current name = id
  | (_, .publish _) => true
  | (_, .tick) => true

/-- The moments of a run that concern the mailbox. -/
def concerning (id : MailboxId) (session : HubSession) (steps : List Step) : List Moment :=
  (session.moments steps).filter (concerns id)

/-- The steps of a run that concern the mailbox. -/
def own (id : MailboxId) (session : HubSession) (steps : List Step) : List Step :=
  (concerning id session steps).map Prod.snd

/-- The answer at a moment and what the mailbox holds after it. -/
def seen (id : MailboxId) (moment : Moment) : Answer × List Text :=
  ((moment.1.step moment.2).1, (moment.1.step moment.2).2.hub.held id)

section

variable {id : MailboxId} {session : HubSession}

theorem port_create_of_ne {name : Text} {capacity : Int}
    (other : MailboxId.mk name (session.names.count name + 1) ≠ id) :
    (session.step (.create name capacity)).2.port id = session.port id := by
  have apart : (id == MailboxId.mk name (session.names.count name + 1)) = false :=
    beq_eq_false_iff_ne.mpr other.symm
  simp [port, HubSession.step, Hub.create, Hub.find?, List.lookup_append, List.lookup_cons, apart]

/-- A step about other mailboxes leaves the port as it is. -/
theorem port_step_of_not_concerns {step : Step} (other : concerns id (session, step) = false) :
    (session.step step).2.port id = session.port id := by
  cases step with
  | publish message => simp [concerns] at other
  | tick => simp [concerns] at other
  | create name capacity => exact port_create_of_ne (of_decide_eq_false other)
  | subscribe name =>
      have apart : session.current name ≠ id := of_decide_eq_false other
      simp [port, HubSession.step, Hub.subscribe, Hub.find?, List.count_append, apart]
  | unsubscribe name =>
      have apart : session.current name ≠ id := of_decide_eq_false other
      rw [step_unsubscribe]
      split
      · simp [port, Hub.find?, List.count_erase_of_ne apart.symm]
      · rfl
  | take name =>
      have apart : session.current name ≠ id := of_decide_eq_false other
      rcases session.step_take_cases name with ⟨result, _⟩ | ⟨_, _, _, _, _, result⟩
      · rw [result]
      · simp [port, result, Hub.find?, Hub.lookup_modify, apart.symm]
  | drain name =>
      have apart : session.current name ≠ id := of_decide_eq_false other
      simp [port, HubSession.step, Hub.drain, Hub.find?, Hub.lookup_modify, apart.symm]

/-- A step about the mailbox depends on its port only. -/
theorem port_step_of_concerns {step : Step} (concerned : concerns id (session, step) = true) :
    ((session.step step).1, (session.step step).2.port id) = (session.port id).step step := by
  cases step with
  | publish message =>
      simp [port, Port.step, HubSession.step, Hub.publish, Hub.find?, Hub.waiting_map]
  | tick =>
      have ticked := session.hub.find?_tick id
      simp only [port, Port.step, HubSession.step, ticked]
      rfl
  | create name capacity =>
      have same : MailboxId.mk name (session.names.count name + 1) = id :=
        of_decide_eq_true concerned
      simp [port, Port.step, HubSession.step, Hub.create, Hub.find?, List.lookup_append, same]
  | subscribe name =>
      have same : session.current name = id := of_decide_eq_true concerned
      simp [port, Port.step, HubSession.step, Hub.subscribe, Hub.find?, List.count_append, same]
  | unsubscribe name =>
      have same : session.current name = id := of_decide_eq_true concerned
      rw [step_unsubscribe, same]
      by_cases member : id ∈ session.hub.subscribers
      · have positive := Nat.ne_of_gt (List.count_pos_iff.mpr member)
        simp [port, Port.step, member, positive, Hub.find?, List.count_erase_self]
      · simp [port, Port.step, member, List.count_eq_zero.mpr member]
  | take name =>
      have same : session.current name = id := of_decide_eq_true concerned
      rcases session.hub.take?_cases id with
        ⟨nothing, _⟩ | ⟨mailbox, message, rest, found, held, taken⟩
      · have refused : (session.hub.find? id).bind Mailbox.take? = none := by
          simpa [Hub.take?] using nothing
        simp [port, Port.step, HubSession.step, same, nothing, refused]
      · have oldest : mailbox.take? = some (message, { mailbox with held := rest }) := by
          simp [Mailbox.take?, held]
        have modified := Hub.lookup_modify id id (fun _ => { mailbox with held := rest })
          session.hub.mailboxes
        rw [if_pos rfl, show session.hub.mailboxes.lookup id = some mailbox from found] at modified
        simp [port, Port.step, HubSession.step, same, taken, found, oldest]
        exact modified
  | drain name =>
      have same : session.current name = id := of_decide_eq_true concerned
      simp [port, Port.step, Port.held, HubSession.step, Hub.drain, Hub.held, Hub.find?,
        Hub.lookup_modify, same]

end

theorem concerning_cons (id : MailboxId) (session : HubSession) (step : Step) (rest : List Step) :
    concerning id session (step :: rest) =
      (if concerns id (session, step) then [(session, step)] else []) ++
        concerning id (session.step step).2 rest := by
  rw [concerning, moments, List.filter_cons]
  split <;> rfl

/-- What is seen of a mailbox follows from its own steps. -/
theorem map_seen_concerning (id : MailboxId) (session : HubSession) (steps : List Step) :
    (concerning id session steps).map (seen id) =
      (session.port id).transcript (own id session steps) := by
  induction steps generalizing session with
  | nil => rfl
  | cons step rest ih =>
      have later := ih (session.step step).2
      rw [own, concerning_cons]
      cases concerned : concerns id (session, step) with
      | false =>
          rw [port_step_of_not_concerns concerned] at later
          exact later
      | true =>
          have result := port_step_of_concerns concerned
          simp only [if_true, List.singleton_append, List.map_cons, Port.transcript, ← result]
          exact congrArg _ later

def Step.makes (name : Text) : Step → Bool
  | .create other _ => other = name
  | _ => false

/-- The first mailbox of a name. -/
def firstOf (name : Text) : MailboxId := ⟨name, 1⟩

/-- The second session has made this mailbox alone of its name. -/
def Sole (id : MailboxId) (session alone : HubSession) : Prop :=
  alone.names.count id.name = if session.names.count id.name < id.generation then 0 else 1

section

variable {id : MailboxId} {session alone : HubSession}

/-- Only making a mailbox uses up its name. -/
theorem count_names_step (session : HubSession) (step : Step) (name : Text) :
    (session.step step).2.names.count name =
      session.names.count name + (step.makes name).toNat := by
  cases step with
  | create other capacity =>
      by_cases same : other = name <;>
        simp [HubSession.step, List.count_append, Step.makes, same]
  | take other => rw [(session.step_take_frame other).2.2]; rfl
  | unsubscribe other =>
      rw [step_unsubscribe]
      split <;> rfl
  | _ => rfl

theorem Sole.current_eq (sole : Sole id session alone) {name : Text}
    (same : session.current name = id) : alone.current name = firstOf id.name := by
  subst same
  have made : alone.names.count name = 1 := by
    simpa [Sole, current] using sole
  rw [current, made]
  rfl

/-- A step about the mailbox is about it also where it is alone. -/
theorem Sole.concerns_firstOf (sole : Sole id session alone) {step : Step}
    (concerned : concerns id (session, step) = true) :
    concerns (firstOf id.name) (alone, step) = true := by
  cases step with
  | publish message => rfl
  | tick => rfl
  | create name capacity =>
      have same : MailboxId.mk name (session.names.count name + 1) = id :=
        of_decide_eq_true concerned
      subst same
      have unmade : alone.names.count name = 0 := by
        simpa [Sole] using sole
      simp [concerns, firstOf, unmade]
  | subscribe name => exact decide_eq_true (sole.current_eq (of_decide_eq_true concerned))
  | unsubscribe name => exact decide_eq_true (sole.current_eq (of_decide_eq_true concerned))
  | take name => exact decide_eq_true (sole.current_eq (of_decide_eq_true concerned))
  | drain name => exact decide_eq_true (sole.current_eq (of_decide_eq_true concerned))

/-- A step of another mailbox may be left out. -/
theorem Sole.skip (sole : Sole id session alone) {step : Step}
    (other : concerns id (session, step) = false) :
    Sole id (session.step step).2 alone := by
  rw [Sole] at sole ⊢
  rw [sole, count_names_step]
  cases makes : step.makes id.name with
  | false => rfl
  | true =>
      cases step with
      | create name capacity =>
          obtain rfl : name = id.name := of_decide_eq_true makes
          have apart : session.names.count id.name + 1 ≠ id.generation := fun same =>
            of_decide_eq_false other (by rw [same])
          have still : session.names.count id.name < id.generation ↔
              session.names.count id.name + 1 < id.generation := by omega
          simp only [Bool.toNat_true, still]
      | _ => cases makes

theorem Sole.step (sole : Sole id session alone) {step : Step}
    (concerned : concerns id (session, step) = true) :
    Sole id (session.step step).2 (alone.step step).2 := by
  rw [Sole] at sole ⊢
  rw [count_names_step, count_names_step, sole]
  cases makes : step.makes id.name with
  | false => rfl
  | true =>
      cases step with
      | create name capacity =>
          have same : MailboxId.mk name (session.names.count name + 1) = id :=
            of_decide_eq_true concerned
          subst same
          simp
      | _ => cases makes

end

/-- The steps of a mailbox are about it also without all others. -/
theorem Sole.concerning_own {id : MailboxId} {session alone : HubSession}
    (sole : Sole id session alone) (steps : List Step) :
    concerning (firstOf id.name) alone (own id session steps) =
      alone.moments (own id session steps) := by
  induction steps generalizing session alone with
  | nil => rfl
  | cons step rest ih =>
      rw [own, concerning_cons]
      cases concerned : concerns id (session, step) with
      | false => exact ih (sole.skip concerned)
      | true =>
          simp only [if_true, List.singleton_append, List.map_cons, moments, concerning_cons,
            sole.concerns_firstOf concerned]
          exact congrArg _ (ih (sole.step concerned))

theorem map_snd_moments (session : HubSession) (steps : List Step) :
    (session.moments steps).map Prod.snd = steps := by
  induction steps generalizing session with
  | nil => rfl
  | cons step rest ih => rw [moments, List.map_cons, ih]

theorem map_seen_moments (id : MailboxId) (session : HubSession) (steps : List Step) :
    (session.moments steps).map (seen id) =
      (session.transcript steps).map fun entry => (entry.1, entry.2.hub.held id) := by
  induction steps generalizing session with
  | nil => rfl
  | cons step rest ih =>
      rw [moments, transcript_cons, List.map_cons, List.map_cons, ih]
      rfl

/-- A mailbox of a run behaves as it does in a run of its own steps. -/
theorem mailboxes_isolated (earlier : List Step) (name : Text) (capacity : Int)
    (later : List Step) :
    let id := made earlier name
    let steps := earlier ++ .create name capacity :: later
    let moments := (history steps).filter (concerns id)
    (moments.map fun moment =>
        ((moment.1.step moment.2).1, (moment.1.step moment.2).2.hub.held id)) =
      ((({} : HubSession).transcript (moments.map Prod.snd)).map fun entry =>
        (entry.1, entry.2.hub.held (firstOf name))) ∧
    ∀ moment ∈ history steps, concerns id moment = false →
      (moment.1.step moment.2).2.hub.held id = moment.1.hub.held id := by
  intro id steps moments
  have sole : Sole id {} {} := by
    simp [Sole, id, made]
  refine ⟨?_, ?_⟩
  · have all : concerning (firstOf name) {} (own id {} steps) =
        ({} : HubSession).moments (own id {} steps) := sole.concerning_own steps
    have same : own (firstOf name) {} (own id {} steps) = own id {} steps := by
      rw [own, all, map_snd_moments]
    calc moments.map (seen id)
        = (port id {}).transcript (own id {} steps) := map_seen_concerning id {} steps
      _ = (port (firstOf name) {}).transcript (own (firstOf name) {} (own id {} steps)) := by
          rw [same]
          rfl
      _ = (concerning (firstOf name) {} (own id {} steps)).map (seen (firstOf name)) :=
          (map_seen_concerning (firstOf name) {} (own id {} steps)).symm
      _ = _ := by
          rw [all, map_seen_moments]
          rfl
  · intro moment _ other
    have kept : (moment.1.step moment.2).2.port id = moment.1.port id :=
      port_step_of_not_concerns other
    exact congrArg Port.held kept

end HubSession

end MarineFix
