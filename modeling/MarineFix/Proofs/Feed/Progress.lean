import MarineFix.Proofs.Feed.Reading
/-!
Each step of a session takes some items from the front of its script.
-/

namespace MarineFix.FeedSession

open Feed

/-- A session before its first step. -/
def start (settings : Settings) (link : Link) (script : List ScriptItem) : FeedSession where
  feed := { settings, link, script }

/-- The items that the steps take from the script. -/
def consumed (session : FeedSession) (steps : List Step) : List ScriptItem :=
  session.feed.script.take
    (session.feed.script.length - (session.after steps).feed.script.length)

/-- How many reads of the source the steps start. -/
def reads (session : FeedSession) : List Step → Nat
  | [] => 0
  | step :: rest => (session.step step).2.2.reads + (session.step step).2.1.reads rest

/-- The records that an answer hands over. -/
def Answer.given : Answer → List Record
  | .record found => [found]
  | .records found => found
  | _ => []

def Answer.opens : Answer → Bool
  | .opened => true
  | _ => false

/-- Some steps cancel the feed whatever the source delivers. -/
def Step.cancels (link : Link) : Step → Bool
  | .cancel => true
  | .enter => link.cancelsWhileConnecting
  | _ => false

/-- The effect of one step that takes these items. -/
structure Advances (session : FeedSession) (step : Step) (items : List ScriptItem) : Prop where
  script_eq : session.feed.script = items ++ (session.step step).2.1.feed.script
  settings_eq : (session.step step).2.1.feed.settings = session.feed.settings
  given_eq : (session.step step).1.given =
    items.filterMap (·.delivery.record? session.feed.settings.decoder)
  skipped_eq : (session.step step).2.1.feed.skipped =
    if (session.step step).1.opens then 0
    else session.feed.skipped +
      items.countP (·.delivery.isRejected session.feed.settings.decoder)
  warnings_eq : (session.step step).2.2.warnings =
    items.countP (·.delivery.isRejected session.feed.settings.decoder)
  cancelled_eq : (session.step step).2.1.feed.cancelled =
    (session.feed.cancelled || step.cancels session.feed.link || items.any (·.cancels))
  reads_eq : (session.step step).2.1.feed.script ≠ [] →
    (session.step step).2.2.reads = items.length
  idle_of_cancelled : session.feed.cancelled = true →
    items = [] ∧ (session.step step).2.2.reads = 0
  last_of_cancels : ∀ before item behind, items = before ++ item :: behind →
    item.cancels = true → behind = [] ∧ (session.step step).2.2.reads = before.length + 1

/-- A step that only reads advances by the items of its chain of reads. -/
theorem Advances.of_reads {session : FeedSession} {step : Step} {items : List ScriptItem}
    (chain : Reads session.feed items (session.step step).1.given
      (session.step step).2.1.feed (session.step step).2.2)
    (closed : (session.step step).1.opens = false)
    (passive : step.cancels session.feed.link = false) : Advances session step items where
  script_eq := chain.script_eq
  settings_eq := by rw [chain.after_eq]
  given_eq := chain.records_eq
  skipped_eq := by
    rw [closed, chain.after_eq]
    rfl
  warnings_eq := chain.warnings_eq
  cancelled_eq := by rw [passive, chain.after_eq, Bool.or_false]
  reads_eq := chain.reads_eq
  idle_of_cancelled cancelled := by
    obtain ⟨taken, _, _, effects⟩ := chain.of_cancelled cancelled
    exact ⟨taken, by rw [effects]⟩
  last_of_cancels _ _ _ taken cancels := chain.last_of_cancels taken cancels

/-- A step that starts no read takes no item. -/
theorem Advances.of_no_read {session : FeedSession} {step : Step}
    (script : (session.step step).2.1.feed.script = session.feed.script)
    (settings : (session.step step).2.1.feed.settings = session.feed.settings)
    (given : (session.step step).1.given = [])
    (skipped : (session.step step).2.1.feed.skipped =
      if (session.step step).1.opens then 0 else session.feed.skipped)
    (warnings : (session.step step).2.2.warnings = 0)
    (cancelled : (session.step step).2.1.feed.cancelled =
      (session.feed.cancelled || step.cancels session.feed.link))
    (reads : (session.step step).2.2.reads = 0) : Advances session step [] where
  script_eq := script.symm
  settings_eq := settings
  given_eq := given
  skipped_eq := skipped
  warnings_eq := warnings
  cancelled_eq := by rw [cancelled, List.any_nil, Bool.or_false]
  reads_eq _ := reads
  idle_of_cancelled _ := ⟨rfl, reads⟩
  last_of_cancels _ _ _ taken _ := by simp at taken

/-- Only the last item of a read can give a record. -/
theorem read_reads (session : FeedSession) :
    ∃ items, Reads session.feed items session.read.1.given session.read.2.1.feed
        session.read.2.2 ∧
      ∀ item ∈ items.dropLast,
        item.delivery.record? session.feed.settings.decoder = none := by
  rw [read]
  split
  · obtain ⟨items, chain, quiet⟩ := session.feed.read_reads
    rcases result : session.feed.read with ⟨outcome, after, effects⟩
    rw [result] at chain
    refine ⟨items, ?_, quiet⟩
    cases outcome with
    | ok record => exact chain
    | error stop => exact chain
  · exact ⟨[], .idle _, by simp⟩

theorem list_reads (session : FeedSession) :
    ∃ items, Reads session.feed items session.list.1.given session.list.2.1.feed
      session.list.2.2 := by
  rw [list]
  split
  · exact collectScript_reads session.feed session.feed.script
  · exact ⟨[], .idle _⟩

/-- The iterator reads until it is finished. -/
theorem next_reads (session : FeedSession) :
    ∃ items, Reads session.feed items session.next.1.given session.next.2.1.feed
        session.next.2.2 ∧
      ∀ item ∈ items.dropLast,
        item.delivery.record? session.feed.settings.decoder = none := by
  rw [next]
  split
  · exact ⟨[], .idle _, by simp⟩
  · split
    · obtain ⟨items, chain, quiet⟩ := session.feed.read_reads
      rcases result : session.feed.read with ⟨outcome, after, effects⟩
      rw [result] at chain
      refine ⟨items, ?_, quiet⟩
      cases outcome with
      | ok record => exact chain
      | error stop => exact chain
    · exact ⟨[], .idle _, by simp⟩

theorem opens_read (session : FeedSession) : session.read.1.opens = false := by
  rw [read]
  split
  · split <;> rfl
  · rfl

theorem opens_list (session : FeedSession) : session.list.1.opens = false := by
  rw [list]
  split <;> rfl

theorem opens_next (session : FeedSession) : session.next.1.opens = false := by
  rw [next]
  split
  · rfl
  · split
    · split <;> rfl
    · rfl

/-- Entering takes no item, and a fault on the way keeps the count. -/
theorem advances_enter (session : FeedSession) : Advances session .enter [] := by
  obtain ⟨state, warnings, reads, _⟩ := enter_spec session.feed
  rcases result : session.feed.enter with ⟨outcome, after, effects⟩
  rw [result] at state warnings reads
  dsimp only at state warnings reads
  cases outcome with
  | error fault =>
      have entry : session.step .enter =
          (.unavailable fault, { session with feed := after }, effects) := by
        simp only [step, enter, result]
      apply Advances.of_no_read <;> simp [entry, state, warnings, reads, Answer.given,
        Answer.opens, Step.cancels]
  | ok _ =>
      have entry : session.step .enter = (.opened, { session with feed := after }, effects) := by
        simp only [step, enter, result]
      apply Advances.of_no_read <;> simp [entry, state, warnings, reads, Answer.given,
        Answer.opens, Step.cancels]

/-- Every step advances by some items. -/
theorem exists_advances (session : FeedSession) (step : Step) :
    ∃ items, Advances session step items := by
  cases step with
  | enter => exact ⟨[], advances_enter session⟩
  | exit => exact ⟨[], .of_no_read rfl rfl rfl rfl rfl (Bool.or_false _).symm rfl⟩
  | read =>
      obtain ⟨items, chain, _⟩ := read_reads session
      exact ⟨items, .of_reads chain (opens_read session) rfl⟩
  | list =>
      obtain ⟨items, chain⟩ := list_reads session
      exact ⟨items, .of_reads chain (opens_list session) rfl⟩
  | cancel => exact ⟨[], .of_no_read rfl rfl rfl rfl rfl (Bool.or_true _).symm rfl⟩
  | next =>
      obtain ⟨items, chain, _⟩ := next_reads session
      exact ⟨items, .of_reads chain (opens_next session) rfl⟩
  | renewIterator => exact ⟨[], .of_no_read rfl rfl rfl rfl rfl (Bool.or_false _).symm rfl⟩
  | relink link => exact ⟨[], .of_no_read rfl rfl rfl rfl rfl (Bool.or_false _).symm rfl⟩

/-- What is taken and what is left make up the script. -/
theorem exists_consumed (session : FeedSession) (steps : List Step) :
    ∃ items, session.feed.script = items ++ (session.after steps).feed.script := by
  induction steps generalizing session with
  | nil => exact ⟨[], rfl⟩
  | cons step rest ih =>
      obtain ⟨first, advances⟩ := session.exists_advances step
      obtain ⟨later, split⟩ := ih (session.step step).2.1
      refine ⟨first ++ later, ?_⟩
      rw [advances.script_eq, split, List.append_assoc, after_cons]

theorem consumed_eq {session : FeedSession} {steps : List Step} {items : List ScriptItem}
    (split : session.feed.script = items ++ (session.after steps).feed.script) :
    session.consumed steps = items := by
  rw [consumed, split, List.length_append, Nat.add_sub_cancel, List.take_left]

theorem consumed_append_script (session : FeedSession) (steps : List Step) :
    session.consumed steps ++ (session.after steps).feed.script = session.feed.script := by
  obtain ⟨items, split⟩ := session.exists_consumed steps
  rw [consumed_eq split, ← split]

@[simp] theorem consumed_nil (session : FeedSession) : session.consumed [] = [] :=
  consumed_eq rfl

/-- Two runs in a row take the items of both. -/
theorem consumed_append (session : FeedSession) (first second : List Step) :
    session.consumed (first ++ second) =
      session.consumed first ++ (session.after first).consumed second := by
  apply consumed_eq
  rw [after_append, List.append_assoc, consumed_append_script, consumed_append_script]

theorem consumed_cons (session : FeedSession) (step : Step) (rest : List Step) :
    session.consumed (step :: rest) =
      session.consumed [step] ++ (session.step step).2.1.consumed rest :=
  session.consumed_append [step] rest

/-- Every step advances by the items that it takes. -/
theorem advances (session : FeedSession) (step : Step) :
    Advances session step (session.consumed [step]) := by
  obtain ⟨items, advances⟩ := session.exists_advances step
  have taken : session.consumed [step] = items := consumed_eq advances.script_eq
  rwa [taken]

@[simp] theorem reads_nil (session : FeedSession) : session.reads [] = 0 := rfl

theorem reads_cons (session : FeedSession) (step : Step) (rest : List Step) :
    session.reads (step :: rest) =
      (session.step step).2.2.reads + (session.step step).2.1.reads rest := rfl

theorem settings_after (session : FeedSession) (steps : List Step) :
    (session.after steps).feed.settings = session.feed.settings := by
  induction steps generalizing session with
  | nil => rfl
  | cons step rest ih => rw [after_cons, ih, (session.advances step).settings_eq]

end MarineFix.FeedSession
