import MarineFix.Proofs.Broadcast.History
/-!
A mailbox receives what was published to it and loses messages only when it is full.
-/

namespace MarineFix.HubSession

open Mailbox (Arrival sent Accounted PushedOut)

/-- After the step the account of the mailbox goes on. -/
structure Continues (session : HubSession) (step : Step) (id : MailboxId)
    (mailbox after : Mailbox) : Prop where
  found : (session.step step).2.hub.find? id = some after
  accounted : ∀ capacity arrivals taken, Accounted capacity arrivals taken mailbox →
    Accounted capacity (arrivals ++ arriving id (session, step))
      (taken ++ handed id (session, step)) after

section

variable {session : HubSession} {id : MailboxId} {mailbox : Mailbox}

/-- Most steps leave the mailbox as it is. -/
theorem Continues.of_quiet {step : Step}
    (found : (session.step step).2.hub.find? id = some mailbox)
    (arrives : arriving id (session, step) = []) (hands : handed id (session, step) = []) :
    Continues session step id mailbox mailbox where
  found := found
  accounted capacity arrivals taken accounted := by
    rwa [arrives, hands, List.append_nil, List.append_nil]

theorem continues_tick (found : session.hub.find? id = some mailbox) :
    Continues session .tick id mailbox
      ((Hub.waiting id session.hub.pending).foldl Mailbox.deliver mailbox) where
  found := by
    have ticked := session.hub.find?_tick id
    rwa [found] at ticked
  accounted capacity arrivals taken accounted := by
    simp only [handed, List.append_nil]
    exact Hub.accounted_deliveries found accounted session.hub.pending

theorem exists_continues_take (found : session.hub.find? id = some mailbox) (name : Text) :
    ∃ after, Continues session (.take name) id mailbox after := by
  rcases session.step_take_cases name with ⟨result, _⟩ | ⟨other, message, rest, here, held, result⟩
  · refine ⟨mailbox, .of_quiet (by rwa [result]) rfl ?_⟩
    rw [handed, result]
    split <;> rfl
  · have modified := Hub.lookup_modify (session.current name) id
      (fun _ => { other with held := rest }) session.hub.mailboxes
    by_cases same : session.current name = id
    · rw [same, found] at here
      obtain rfl := Option.some.inj here
      refine ⟨{ mailbox with held := rest }, ?_, ?_⟩
      · rw [result, Hub.find?, modified, if_pos same.symm, ← Hub.find?, found]
        rfl
      · intro capacity arrivals taken accounted
        simp only [arriving, List.append_nil, handed, result, if_pos same]
        exact accounted.take held
    · refine ⟨mailbox, .of_quiet ?_ rfl (by rw [handed, if_neg same])⟩
      rw [result, Hub.find?, modified, if_neg (Ne.symm same), ← Hub.find?, found]

theorem exists_continues_drain (found : session.hub.find? id = some mailbox) (name : Text) :
    ∃ after, Continues session (.drain name) id mailbox after := by
  have modified := Hub.lookup_modify (session.current name) id (·.drain.2) session.hub.mailboxes
  by_cases same : session.current name = id
  · refine ⟨mailbox.drain.2, ?_, ?_⟩
    · rw [HubSession.step, Hub.drain, Hub.find?, modified, if_pos same.symm, ← Hub.find?, found]
      rfl
    · intro capacity arrivals taken accounted
      have texts : (session.step (.drain name)).1.texts = mailbox.held := by
        simp [HubSession.step, Hub.drain, Hub.held, same, found, Answer.texts]
      simp only [arriving, List.append_nil, handed, if_pos same, texts]
      exact accounted.drain
  · refine ⟨mailbox, .of_quiet ?_ rfl (by rw [handed, if_neg same])⟩
    rw [HubSession.step, Hub.drain, Hub.find?, modified, if_neg (Ne.symm same), ← Hub.find?, found]

/-- Every step keeps a mailbox that is there. -/
theorem exists_continues (found : session.hub.find? id = some mailbox) (step : Step) :
    ∃ after, Continues session step id mailbox after := by
  cases step with
  | create name capacity =>
      refine ⟨mailbox, .of_quiet ?_ rfl rfl⟩
      rw [HubSession.step, Hub.find?, Hub.create, List.lookup_append, ← Hub.find?, found]
      rfl
  | subscribe name => exact ⟨mailbox, .of_quiet found rfl rfl⟩
  | unsubscribe name =>
      refine ⟨mailbox, .of_quiet ?_ rfl rfl⟩
      rw [step_unsubscribe]
      split <;> exact found
  | publish message => exact ⟨mailbox, .of_quiet found rfl rfl⟩
  | tick => exact ⟨_, continues_tick found⟩
  | take name => exact exists_continues_take found name
  | drain name => exact exists_continues_drain found name

end

/-- Nothing was sent to the mailbox or taken out of it yet. -/
structure Unknown (id : MailboxId) (steps : List Step) : Prop where
  absent : (reached steps).hub.find? id = none
  unsubscribed : subscriptions id steps = 0
  published_eq : published id steps = []
  arrivals_eq : arrivals id steps = []
  taken_eq : taken id steps = []

/-- A name that was given away stays given away. -/
theorem count_names_le_step (session : HubSession) (step : Step) (name : Text) :
    session.names.count name ≤ (session.step step).2.names.count name := by
  cases step with
  | create other capacity => simp [HubSession.step]
  | take other => rw [(session.step_take_frame other).2.2]
  | unsubscribe other =>
      rw [step_unsubscribe]
      split <;> exact Nat.le_refl _
  | _ => exact Nat.le_refl _

/-- No name denotes a mailbox of a later generation. -/
theorem current_ne_of_early {session : HubSession} {id : MailboxId}
    (early : session.names.count id.name < id.generation) (name : Text) :
    session.current name ≠ id := by
  rintro rfl
  exact Nat.lt_irrefl _ early

/-- A mailbox comes into being only when it is made. -/
theorem find?_step_of_absent {session : HubSession} {id : MailboxId}
    (absent : session.hub.find? id = none) {step : Step}
    (early : (session.step step).2.names.count id.name < id.generation) :
    (session.step step).2.hub.find? id = none := by
  cases step with
  | create name capacity =>
      have apart : (id == (session.step (.create name capacity)).2.current name) = false :=
        beq_eq_false_iff_ne.mpr (current_ne_of_early early name).symm
      simp only [HubSession.step, current] at apart
      rw [HubSession.step, Hub.find?, Hub.create, List.lookup_append, ← Hub.find?, absent,
        List.lookup_cons, apart]
      rfl
  | subscribe name => exact absent
  | unsubscribe name =>
      rw [step_unsubscribe]
      split <;> exact absent
  | publish message => exact absent
  | tick =>
      have ticked := session.hub.find?_tick id
      rwa [absent] at ticked
  | take name =>
      rcases session.step_take_cases name with ⟨result, _⟩ | ⟨_, _, _, _, _, result⟩
      · rwa [result]
      · rw [result, Hub.find?, Hub.lookup_modify, ← Hub.find?, absent]
        split <;> rfl
  | drain name =>
      rw [HubSession.step, Hub.drain, Hub.find?, Hub.lookup_modify, ← Hub.find?, absent]
      split <;> rfl

/-- No step before a mailbox is made concerns it. -/
theorem moment_of_early {session : HubSession} {id : MailboxId}
    (early : session.names.count id.name < id.generation)
    (absent : session.hub.find? id = none) (step : Step) :
    joins id (session, step) = false ∧ handed id (session, step) = [] ∧
      arriving id (session, step) = [] := by
  have apart := current_ne_of_early early
  cases step with
  | tick => exact ⟨rfl, rfl, Hub.arrivals_of_absent absent _⟩
  | subscribe name => exact ⟨decide_eq_false (apart name), rfl, rfl⟩
  | take name => exact ⟨rfl, if_neg (apart name), rfl⟩
  | drain name => exact ⟨rfl, if_neg (apart name), rfl⟩
  | create name capacity => exact ⟨rfl, rfl, rfl⟩
  | unsubscribe name => exact ⟨rfl, rfl, rfl⟩
  | publish message => exact ⟨rfl, rfl, rfl⟩

/-- A mailbox is unknown until its name was given away often enough. -/
theorem unknown_of_early {id : MailboxId} {steps : List Step}
    (early : (reached steps).names.count id.name < id.generation) : Unknown id steps := by
  induction steps using List.reverseRecOn with
  | nil => exact ⟨rfl, rfl, rfl, rfl, rfl⟩
  | append_singleton steps step ih =>
      rw [reached_concat] at early
      have earlier := Nat.lt_of_le_of_lt (count_names_le_step _ step id.name) early
      have unknown := ih earlier
      obtain ⟨joins, hands, arrives⟩ := moment_of_early earlier unknown.absent step
      refine ⟨?_, ?_, ?_, ?_, ?_⟩
      · rw [reached_concat]
        exact find?_step_of_absent unknown.absent early
      · have change := count_subscribers_step id (reached steps) step
        rw [joins, count_subscribers, unknown.unsubscribed] at change
        rw [← count_subscribers, reached_concat]
        simp only [Bool.toNat_false] at change
        omega
      · rw [published_concat, unknown.published_eq, unknown.unsubscribed]
        cases step <;> rfl
      · rw [arrivals_concat, unknown.arrivals_eq, arrives]
        rfl
      · rw [taken_concat, unknown.taken_eq, hands]
        rfl

/-- The messages that arrive in a step are those that its tick delivers. -/
theorem sent_arrivals_concat {id : MailboxId} {steps : List Step} {mailbox : Mailbox}
    (found : (reached steps).hub.find? id = some mailbox)
    (same : sent (arrivals id steps) = due id steps) (step : Step) :
    sent (arrivals id (steps ++ [step])) = due id (steps ++ [step]) := by
  rw [arrivals_concat, Mailbox.sent_append, same]
  cases step with
  | tick =>
      rw [due_concat_of_tick, ← due_append_waiting, arriving]
      congr 1
      exact Hub.sent_arrivals found _
  | _ => rw [due_concat_of_not_tick id steps rfl]; exact List.append_nil _

/-- The mailbox that a step of the run makes. -/
def made (earlier : List Step) (name : Text) : MailboxId :=
  ⟨name, (reached earlier).names.count name + 1⟩

/-- Every mailbox of a run has an account from its first step on. -/
theorem exists_accounted (earlier : List Step) (name : Text) (capacity : Int)
    (later : List Step) :
    let id := made earlier name
    let steps := earlier ++ .create name capacity :: later
    ∃ mailbox, (reached steps).hub.find? id = some mailbox ∧
      Accounted capacity (arrivals id steps) (taken id steps) mailbox ∧
      sent (arrivals id steps) = due id steps := by
  intro id
  dsimp only
  induction later using List.reverseRecOn with
  | nil =>
      have unknown : Unknown id earlier := unknown_of_early (Nat.lt_succ_self _)
      refine ⟨{ capacity }, ?_, ?_, ?_⟩
      · rw [reached_concat, HubSession.step, Hub.find?, Hub.create, List.lookup_append,
          ← Hub.find?, unknown.absent]
        simp [id, made]
      · rw [arrivals_concat, taken_concat, unknown.arrivals_eq, unknown.taken_eq]
        exact Accounted.start capacity
      · have delivered := due_append_waiting id earlier
        rw [unknown.published_eq, List.append_eq_nil_iff] at delivered
        rw [arrivals_concat, unknown.arrivals_eq, due_concat_of_not_tick id earlier rfl,
          delivered.1]
        rfl
  | append_singleton later step ih =>
      obtain ⟨mailbox, found, accounted, same⟩ := ih
      obtain ⟨after, continues⟩ := exists_continues found step
      have longer : earlier ++ .create name capacity :: (later ++ [step]) =
          (earlier ++ .create name capacity :: later) ++ [step] := by
        simp
      rw [longer]
      refine ⟨after, ?_, ?_, sent_arrivals_concat found same step⟩
      · rw [reached_concat]
        exact continues.found
      · rw [arrivals_concat, taken_concat]
        exact continues.accounted _ _ _ accounted

/-- A refused step changes nothing. -/
theorem step_of_refused (session : HubSession) (step : Step)
    (refused : (session.step step).1 = .notSubscribed ∨ (session.step step).1 = .empty) :
    (session.step step).2 = session := by
  cases step with
  | unsubscribe name =>
      rw [step_unsubscribe] at refused ⊢
      split
      · rename_i member
        simp [member] at refused
      · rfl
  | take name =>
      rcases session.step_take_cases name with ⟨result, _⟩ | ⟨_, _, _, _, _, result⟩
      · rw [result]
      · simp [result] at refused
  | _ => simp [HubSession.step] at refused

/-- Ending a subscription is refused to a mailbox that has none. -/
theorem unsubscribe_refused_iff (steps : List Step) (name : Text) :
    ((reached steps).step (.unsubscribe name)).1 = .notSubscribed ↔
      subscriptions ((reached steps).current name) steps = 0 := by
  rw [← count_subscribers, List.count_eq_zero, step_unsubscribe]
  split <;> simp_all

/-- A message is refused to the one who asks an empty mailbox. -/
theorem take_refused_iff (session : HubSession) (name : Text) :
    (session.step (.take name)).1 = .empty ↔ session.hub.held (session.current name) = [] := by
  rcases session.step_take_cases name with ⟨result, empty⟩ | ⟨mailbox, _, _, found, held, result⟩
  · simp [result, empty]
  · simp [result, Hub.held, found, held]

/-- A mailbox gets what is due to it in order and loses only what was pushed out. -/
theorem delivery_accounted (earlier : List Step) (name : Text) (capacity : Int)
    (later : List Step) :
    let id := made earlier name
    let steps := earlier ++ .create name capacity :: later
    let session := reached steps
    let held := session.hub.held id
    let due := due id steps
    let arrivals := arrivals id steps
    session.hub.find? id = some { capacity, held } ∧
      sent arrivals = due ∧
      (held <:+ due ∧ (0 < capacity → (held.length : Int) ≤ capacity)) ∧
      (∃ positions : List Nat, positions.Pairwise (· < ·) ∧
        positions.map (due[·]?) = (taken id steps ++ held).map some ∧
        ∀ position < due.length, position ∉ positions →
          PushedOut capacity arrivals position) ∧
      (capacity ≤ 0 → taken id steps ++ held = due) ∧
      (∀ arrival ∈ arrivals,
        arrival.found.enqueue? arrival.message = some (arrival.found.deliver arrival.message)) ∧
      (∀ other, (session.step (.unsubscribe other)).1 = .notSubscribed ↔
        subscriptions (session.current other) steps = 0) ∧
      (∀ other, (session.step (.take other)).1 = .empty ↔
        session.hub.held (session.current other) = []) ∧
      ∀ step, (session.step step).1 = .notSubscribed ∨ (session.step step).1 = .empty →
        (session.step step).2 = session := by
  intro id steps session held due arrivals
  obtain ⟨mailbox, found, accounted, same⟩ := exists_accounted earlier name capacity later
  have content : mailbox = { capacity, held } := by
    have kept : held = mailbox.held := by
      change (reached steps).hub.find? id = some mailbox at found
      simp only [held, session, Hub.held, found]
      rfl
    rw [kept, ← accounted.capacity_eq]
  subst content
  change sent arrivals = due at same
  refine ⟨found, same, ⟨?_, accounted.length_le⟩, ?_, ?_, accounted.safe,
    unsubscribe_refused_iff steps, take_refused_iff session, step_of_refused session⟩
  · rw [← same]
    exact accounted.suffix
  · obtain ⟨positions, increasing, kept, missing⟩ := accounted.positions
    refine ⟨positions, increasing, ?_, ?_⟩
    · rw [← same]
      exact kept
    · rw [← same, Mailbox.length_sent]
      exact missing
  · rw [← same]
    exact accounted.eq_sent

end MarineFix.HubSession
