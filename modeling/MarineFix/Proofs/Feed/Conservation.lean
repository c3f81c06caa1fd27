import MarineFix.Proofs.Feed.Progress
import Mathlib.Data.List.Forall2
/-!
A session hands over, counts and reports what the consumed items hold.
-/

namespace MarineFix.FeedSession

open Feed

/-- The warnings of all steps together. -/
def warnings (session : FeedSession) : List Step → Nat
  | [] => 0
  | step :: rest => (session.step step).2.2.warnings + (session.step step).2.1.warnings rest

/-- One of the steps opens the feed. -/
def opens (session : FeedSession) (steps : List Step) : Bool :=
  (session.transcript steps).any fun entry => entry.1.opens

/-- The state after the last opening, and the steps behind it. -/
def sinceOpening (session : FeedSession) : List Step → FeedSession × List Step
  | [] => (session, [])
  | step :: rest =>
      if session.opens (step :: rest) then (session.step step).2.1.sinceOpening rest
      else (session, step :: rest)

/-- The answers that a step may have, without failures to decode. -/
def Step.Allows : Step → Answer → Prop
  | .enter, .opened => True
  | .enter, .unavailable _ => True
  | .exit, .done => True
  | .cancel, .done => True
  | .renewIterator, .done => True
  | .relink _, .done => True
  | .read, .record found => found ≠ .incomplete
  | .read, .stopped _ => True
  | .read, .notOpen => True
  | .list, .records found => .incomplete ∉ found
  | .list, .notOpen => True
  | .next, .record found => found ≠ .incomplete
  | .next, .finished => True
  | .next, .notOpen => True
  | _, _ => False

theorem opens_cons (session : FeedSession) (step : Step) (rest : List Step) :
    session.opens (step :: rest) =
      ((session.step step).1.opens || (session.step step).2.1.opens rest) := rfl

theorem warnings_cons (session : FeedSession) (step : Step) (rest : List Step) :
    session.warnings (step :: rest) =
      (session.step step).2.2.warnings + (session.step step).2.1.warnings rest := rfl

/-- The records of all answers are those of the consumed items. -/
theorem given_eq (session : FeedSession) (steps : List Step) :
    (session.transcript steps).flatMap (fun entry => entry.1.given) =
      (session.consumed steps).filterMap
        (·.delivery.record? session.feed.settings.decoder) := by
  induction steps generalizing session with
  | nil => simp
  | cons step rest ih =>
      have advances := session.advances step
      rw [transcript_cons, List.flatMap_cons, ih, advances.given_eq, advances.settings_eq,
        session.consumed_cons step rest, List.filterMap_append]

/-- The warnings of all steps are the rejected ones among the consumed items. -/
theorem warnings_eq (session : FeedSession) (steps : List Step) :
    session.warnings steps = (session.consumed steps).countP
      (·.delivery.isRejected session.feed.settings.decoder) := by
  induction steps generalizing session with
  | nil => simp [warnings]
  | cons step rest ih =>
      have advances := session.advances step
      rw [warnings_cons, ih, advances.warnings_eq, advances.settings_eq,
        session.consumed_cons step rest, List.countP_append]

/-- As long as nothing opens the feed, the count grows by the rejected items. -/
theorem skipped_eq (session : FeedSession) (steps : List Step)
    (closed : session.opens steps = false) :
    (session.after steps).feed.skipped = session.feed.skipped +
      (session.consumed steps).countP
        (·.delivery.isRejected session.feed.settings.decoder) := by
  induction steps generalizing session with
  | nil => simp
  | cons step rest ih =>
      have advances := session.advances step
      rw [opens_cons, Bool.or_eq_false_iff] at closed
      rw [after_cons, ih _ closed.2, advances.skipped_eq, closed.1, advances.settings_eq,
        session.consumed_cons step rest, List.countP_append, ← Nat.add_assoc]
      rfl

theorem after_sinceOpening (session : FeedSession) (steps : List Step) :
    (session.sinceOpening steps).1.after (session.sinceOpening steps).2 =
      session.after steps := by
  induction steps generalizing session with
  | nil => rfl
  | cons step rest ih =>
      rw [sinceOpening]
      split
      · exact ih _
      · rfl

theorem settings_sinceOpening (session : FeedSession) (steps : List Step) :
    (session.sinceOpening steps).1.feed.settings = session.feed.settings := by
  rw [← settings_after _ (session.sinceOpening steps).2, after_sinceOpening, settings_after]

/-- Nothing opens the feed after its last opening. -/
theorem opens_sinceOpening (session : FeedSession) (steps : List Step) :
    (session.sinceOpening steps).1.opens (session.sinceOpening steps).2 = false := by
  induction steps generalizing session with
  | nil => rfl
  | cons step rest ih =>
      rw [sinceOpening]
      split
      · exact ih _
      · rename_i closed
        simpa using closed

/-- The last opening leaves the count at zero. -/
theorem skipped_sinceOpening (session : FeedSession) (steps : List Step)
    (fresh : session.feed.skipped = 0) :
    (session.sinceOpening steps).1.feed.skipped = 0 := by
  suffices reset : session.opens steps = true →
      (session.sinceOpening steps).1.feed.skipped = 0 by
    cases opened : session.opens steps with
    | true => exact reset opened
    | false =>
        cases steps with
        | nil => exact fresh
        | cons step rest => simpa [sinceOpening, opened] using fresh
  intro opened
  clear fresh
  induction steps generalizing session with
  | nil => simp [opens] at opened
  | cons step rest ih =>
      rw [sinceOpening, if_pos opened]
      cases later : (session.step step).2.1.opens rest with
      | true => exact ih _ later
      | false =>
          rw [opens_cons, later, Bool.or_false] at opened
          have reset := (session.advances step).skipped_eq
          rw [opened, if_pos rfl] at reset
          cases rest with
          | nil => exact reset
          | cons second rest => simpa [sinceOpening, later] using reset

theorem incomplete_not_mem_given (session : FeedSession) (step : Step) :
    .incomplete ∉ (session.step step).1.given := by
  rw [(session.advances step).given_eq]
  intro member
  obtain ⟨item, _, found⟩ := List.mem_filterMap.mp member
  exact Delivery.record?_ne_incomplete _ _ found

/-- Every step has an answer of its own kind. -/
theorem step_allows (session : FeedSession) (step : Step) :
    step.Allows (session.step step).1 := by
  have complete := session.incomplete_not_mem_given step
  cases step with
  | enter =>
      rcases result : session.feed.enter with ⟨outcome, after, effects⟩
      cases outcome <;> simp [FeedSession.step, enter, result, Step.Allows]
  | exit => trivial
  | cancel => trivial
  | renewIterator => trivial
  | relink link => trivial
  | read =>
      revert complete
      simp only [FeedSession.step, read]
      split
      · split
        · intro complete pending
          simp [Answer.given, pending] at complete
        · simp [Step.Allows]
      · simp [Step.Allows]
  | list =>
      revert complete
      simp only [FeedSession.step, list]
      split
      · exact id
      · simp [Step.Allows]
  | next =>
      revert complete
      simp only [FeedSession.step, next]
      split
      · simp [Step.Allows]
      · split
        · split
          · intro complete pending
            simp [Answer.given, pending] at complete
          · simp [Step.Allows]
        · simp [Step.Allows]

theorem transcript_allows (session : FeedSession) (steps : List Step) :
    List.Forall₂ Step.Allows steps ((session.transcript steps).map fun entry => entry.1) := by
  induction steps generalizing session with
  | nil => exact .nil
  | cons step rest ih => exact .cons (session.step_allows step) (ih _)

/-- The records handed over and the sentences skipped are those of the consumed items. -/
theorem records_conserved (settings : Settings) (link : Link) (script : List ScriptItem)
    (steps : List Step) :
    let session := start settings link script
    let recent := session.sinceOpening steps
    let rejected := (recent.1.consumed recent.2).countP
      (·.delivery.isRejected settings.decoder)
    script = session.consumed steps ++ (session.after steps).feed.script ∧
      (session.transcript steps).flatMap (fun entry => entry.1.given) =
        (session.consumed steps).filterMap (·.delivery.record? settings.decoder) ∧
      recent.1.after recent.2 = session.after steps ∧
      (session.after steps).feed.skipped = rejected ∧
      recent.1.warnings recent.2 = rejected ∧
      List.Forall₂ Step.Allows steps
        ((session.transcript steps).map fun entry => entry.1) := by
  intro session recent rejected
  have same : recent.1.feed.settings = settings := session.settings_sinceOpening steps
  refine ⟨(session.consumed_append_script steps).symm, session.given_eq steps,
    session.after_sinceOpening steps, ?_, ?_, session.transcript_allows steps⟩
  · rw [← session.after_sinceOpening steps, skipped_eq _ _ (session.opens_sinceOpening steps),
      session.skipped_sinceOpening steps rfl, Nat.zero_add, session.settings_sinceOpening]
    rfl
  · rw [warnings_eq, same]

end MarineFix.FeedSession
