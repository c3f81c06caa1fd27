import MarineFix.Proofs.Feed.Progress
/-!
A cancelled session never reads again, whatever its steps are.
-/

namespace MarineFix

namespace Feed

theorem readScript_of_cancelled {feed : Feed} (cancelled : feed.cancelled = true)
    (script : List ScriptItem) :
    feed.readScript script = (.error .cancelled, { feed with script }, {}) := by
  rw [readScript.eq_def, if_pos cancelled]

theorem collectScript_of_cancelled {feed : Feed} (cancelled : feed.cancelled = true)
    (script : List ScriptItem) : feed.collectScript script = ([], { feed with script }, {}) := by
  rw [collectScript.eq_def, if_pos cancelled]

end Feed

namespace FeedSession

open Feed

/-- A step or a read inside it has cancelled the session. -/
def WasCancelled (session : FeedSession) (steps : List Step) : Prop :=
  (∃ front step rest, steps = front ++ step :: rest ∧
    step.cancels (session.after front).feed.link = true) ∨
    ∃ item ∈ session.consumed steps, item.cancels = true

/-- The step reads nothing, hands nothing over and counts nothing. -/
structure Idle (session : FeedSession) (step : Step) : Prop where
  reads_eq : (session.step step).2.2.reads = 0
  script_eq : (session.step step).2.1.feed.script = session.feed.script
  given_eq : (session.step step).1.given = []
  skipped_eq : (session.step step).2.1.feed.skipped =
    if (session.step step).1.opens then 0 else session.feed.skipped
  read_eq : step = .read → (session.step step).1 =
    if session.feed.isOpen then .stopped .cancelled else .notOpen
  list_eq : step = .list → (session.step step).1 =
    if session.feed.isOpen then .records [] else .notOpen
  next_eq : step = .next → session.feed.isOpen = true → session.finished = false →
    (session.step step).1 = .finished ∧ (session.step step).2.1.finished = true
  enter_eq : step = .enter →
    .connect session.feed.settings.host session.feed.settings.port ∈
        (session.step step).2.2.calls ∧
      (session.step step).2.1.feed = if (session.step step).1.opens then
        { session.feed with isOpen := true, skipped := 0 } else session.feed

/-- A cancelled session stays cancelled. -/
theorem cancelled_of_cancelled {session : FeedSession} (cancelled : session.feed.cancelled = true)
    (steps : List Step) : (session.after steps).feed.cancelled = true := by
  induction steps generalizing session with
  | nil => exact cancelled
  | cons step rest ih =>
      apply ih
      rw [(session.advances step).cancelled_eq, cancelled, Bool.true_or, Bool.true_or]

theorem cancelled_of_step {session : FeedSession} {step : Step}
    (cancels : step.cancels session.feed.link = true) :
    (session.step step).2.1.feed.cancelled = true := by
  rw [(session.advances step).cancelled_eq, cancels, Bool.or_true, Bool.true_or]

theorem cancelled_of_item {session : FeedSession} {step : Step} {item : ScriptItem}
    (inside : item ∈ session.consumed [step]) (cancels : item.cancels = true) :
    (session.step step).2.1.feed.cancelled = true := by
  rw [(session.advances step).cancelled_eq, List.any_eq_true.mpr ⟨item, inside, cancels⟩,
    Bool.or_true]

theorem cancelled_of_wasCancelled {session : FeedSession} {steps : List Step}
    (cancelled : session.WasCancelled steps) : (session.after steps).feed.cancelled = true := by
  rcases cancelled with ⟨front, step, rest, rfl, cancels⟩ | ⟨item, inside, cancels⟩
  · rw [after_append, after_cons]
    exact cancelled_of_cancelled (cancelled_of_step cancels) rest
  · induction steps generalizing session with
    | nil => simp at inside
    | cons step rest ih =>
        rw [session.consumed_cons step rest, List.mem_append] at inside
        rcases inside with first | later
        · exact cancelled_of_cancelled (cancelled_of_item first cancels) rest
        · exact ih later

/-- The steps of a cancelled session take nothing and start no read. -/
theorem consumed_of_cancelled {session : FeedSession} (cancelled : session.feed.cancelled = true)
    (steps : List Step) : session.consumed steps = [] ∧ session.reads steps = 0 := by
  induction steps generalizing session with
  | nil => exact ⟨session.consumed_nil, rfl⟩
  | cons step rest ih =>
      obtain ⟨taken, started⟩ := (session.advances step).idle_of_cancelled cancelled
      have stays : (session.step step).2.1.feed.cancelled = true :=
        cancelled_of_cancelled cancelled [step]
      obtain ⟨takenLater, startedLater⟩ := ih stays
      rw [session.consumed_cons step rest, taken, takenLater, reads_cons, started, startedLater]
      exact ⟨rfl, rfl⟩

theorem script_of_cancelled {session : FeedSession} (cancelled : session.feed.cancelled = true)
    (steps : List Step) : (session.after steps).feed.script = session.feed.script := by
  rw [← session.consumed_append_script steps, (consumed_of_cancelled cancelled steps).1,
    List.nil_append]

/-- Every step of a cancelled session is idle. -/
theorem idle_of_cancelled {session : FeedSession} (cancelled : session.feed.cancelled = true)
    (step : Step) : Idle session step where
  reads_eq := ((session.advances step).idle_of_cancelled cancelled).2
  script_eq := script_of_cancelled cancelled [step]
  given_eq := by
    rw [(session.advances step).given_eq, (consumed_of_cancelled cancelled [step]).1]
    rfl
  skipped_eq := by
    rw [(session.advances step).skipped_eq, (consumed_of_cancelled cancelled [step]).1]
    rfl
  read_eq := by
    rintro rfl
    simp only [FeedSession.step, read, Feed.read, readScript_of_cancelled cancelled]
    split <;> rfl
  list_eq := by
    rintro rfl
    simp only [FeedSession.step, list, Feed.collect, collectScript_of_cancelled cancelled]
    split <;> rfl
  next_eq := by
    rintro rfl opened unfinished
    simp [FeedSession.step, next, Feed.read, readScript_of_cancelled cancelled, opened, unfinished]
  enter_eq := by
    rintro rfl
    obtain ⟨state, _, _, connects⟩ := enter_spec session.feed
    rcases result : session.feed.enter with ⟨outcome, after, effects⟩
    rw [result] at state connects
    dsimp only at state connects
    have reached : { session.feed with
        cancelled := session.feed.cancelled || session.feed.link.cancelsWhileConnecting } =
        session.feed := by
      rw [cancelled, Bool.true_or, ← cancelled]
    rw [reached] at state
    cases outcome with
    | error fault =>
        simp only [FeedSession.step, enter, result, Answer.opens, state, if_false,
          Bool.false_eq_true]
        exact ⟨connects, trivial⟩
    | ok _ =>
        simp only [FeedSession.step, enter, result, Answer.opens, state, if_true]
        exact ⟨connects, by rw [cancelled, Bool.true_or]⟩

/-- An item of a joined list stands in one of its parts. -/
theorem append_eq_append_cons {first later before behind : List ScriptItem} {item : ScriptItem}
    (joined : first ++ later = before ++ item :: behind) :
    (∃ front, first = before ++ item :: front ∧ behind = front ++ later) ∨
      ∃ front, before = first ++ front ∧ later = front ++ item :: behind := by
  rcases List.append_eq_append_iff.mp joined with
    ⟨front, split, found⟩ | ⟨front, split, found⟩
  · exact .inr ⟨front, split, found⟩
  · cases front with
    | nil => exact .inr ⟨[], by simpa using split.symm, found.symm⟩
    | cons head front =>
        obtain ⟨rfl, rfl⟩ := List.cons.inj found
        exact .inl ⟨front, split, rfl⟩

/-- No read follows the read inside which the session was cancelled. -/
theorem last_of_cancels (session : FeedSession) (steps : List Step)
    {before : List ScriptItem} {item : ScriptItem} {behind : List ScriptItem}
    (taken : session.consumed steps = before ++ item :: behind) (cancels : item.cancels = true) :
    behind = [] ∧ session.reads steps = before.length + 1 := by
  induction steps generalizing session before with
  | nil => simp at taken
  | cons step rest ih =>
      have advances := session.advances step
      rw [session.consumed_cons step rest] at taken
      rcases append_eq_append_cons taken with ⟨front, split, found⟩ | ⟨front, split, found⟩
      · obtain ⟨none, count⟩ := advances.last_of_cancels _ _ _ split cancels
        have inside : item ∈ session.consumed [step] := by simp [split]
        obtain ⟨idle, quiet⟩ := consumed_of_cancelled (cancelled_of_item inside cancels) rest
        rw [found, none, idle, reads_cons, count, quiet]
        exact ⟨rfl, rfl⟩
      · obtain ⟨last, count⟩ := ih (session.step step).2.1 found
        have more : (session.step step).2.1.feed.script ≠ [] := by
          rw [← (session.step step).2.1.consumed_append_script rest, found]
          simp
        rw [reads_cons, count, advances.reads_eq more, split, List.length_append, Nat.add_assoc]
        exact ⟨last, rfl⟩

/-- In a cancelled session the count of rejected sentences never grows. -/
theorem skipped_le_of_cancelled {session : FeedSession}
    (cancelled : session.feed.cancelled = true) (steps : List Step) :
    (session.after steps).feed.skipped ≤ session.feed.skipped := by
  induction steps generalizing session with
  | nil => exact Nat.le_refl _
  | cons step rest ih =>
      have later := ih (cancelled_of_cancelled cancelled [step])
      have first : (session.step step).2.1.feed.skipped ≤ session.feed.skipped := by
        rw [(idle_of_cancelled cancelled step).skipped_eq]
        split
        · exact Nat.zero_le _
        · exact Nat.le_refl _
      exact Nat.le_trans later first

/-- The read that is cancelled is the last one of a session. -/
theorem cancellation_permanent (session : FeedSession) (earlier later : List Step) (step : Step)
    (cancelled : session.WasCancelled earlier) :
    let reached := session.after earlier
    (∀ before item behind, session.consumed earlier = before ++ item :: behind →
      item.cancels = true → behind = [] ∧ session.reads earlier = before.length + 1) ∧
      reached.reads later = 0 ∧
      (reached.after later).feed.script = reached.feed.script ∧
      (reached.after later).feed.skipped ≤ reached.feed.skipped ∧
      Idle (reached.after later) step := by
  intro reached
  have ended : reached.feed.cancelled = true := cancelled_of_wasCancelled cancelled
  have endedLater : (reached.after later).feed.cancelled = true := cancelled_of_cancelled ended later
  refine ⟨?_, (consumed_of_cancelled ended later).2, script_of_cancelled ended later,
    skipped_le_of_cancelled ended later, idle_of_cancelled endedLater step⟩
  intro before item behind taken cancels
  exact session.last_of_cancels earlier taken cancels

/-- A session that was cancelled lists no record after it is entered again. -/
theorem cancellation_permanent_reentered :
    let session := start {} {} [⟨true, .timeout⟩, ⟨false, .bytes [36, 71, 80, 86, 84, 71]⟩]
    session.WasCancelled [.enter, .read] ∧
      Idle ((session.after [.enter, .read]).after [.exit, .enter]) .list := by
  intro session
  have cancelled : session.WasCancelled [.enter, .read] :=
    .inr ⟨⟨true, .timeout⟩, by decide, rfl⟩
  exact ⟨cancelled,
    (session.cancellation_permanent [.enter, .read] [.exit, .enter] .list cancelled).2.2.2.2⟩

end FeedSession

end MarineFix
