import MarineFix.Proofs.Feed.Progress
/-!
A step that is cancelled inside a read hands over what the read delivers.
-/

namespace MarineFix.FeedSession

open Feed

/-- A step takes an item only when the feed is open. -/
theorem isOpen_of_consumed {session : FeedSession} {step : Step} {item : ScriptItem}
    (inside : item ∈ session.consumed [step]) : session.feed.isOpen = true := by
  cases closed : session.feed.isOpen with
  | true => rfl
  | false =>
      have same : (session.step step).2.1.feed.script = session.feed.script := by
        cases step with
        | enter => exact (advances_enter session).script_eq.symm
        | exit => rfl
        | read => simp [FeedSession.step, read, closed]
        | list => simp [FeedSession.step, list, closed]
        | cancel => rfl
        | next =>
            simp only [FeedSession.step, next, closed]
            split <;> rfl
        | renewIterator => rfl
        | relink link => rfl
      have nothing : session.consumed [step] = [] := consumed_eq same.symm
      simp [nothing] at inside

/-- A read that takes an item gives a record or stops. -/
theorem read_of_consumed {session : FeedSession} {item : ScriptItem}
    (inside : item ∈ session.consumed [.read]) :
    (∃ found, (session.step .read).1 = .record found) ∨
      ∃ stop, (session.step .read).1 = .stopped stop := by
  have opened := isOpen_of_consumed inside
  rcases result : session.feed.read with ⟨outcome, after, effects⟩
  cases outcome with
  | ok found => exact .inl ⟨found, by simp [FeedSession.step, read, opened, result]⟩
  | error stop => exact .inr ⟨stop, by simp [FeedSession.step, read, opened, result]⟩

/-- An iterator that takes an item gives a record or finishes. -/
theorem next_of_consumed {session : FeedSession} {item : ScriptItem}
    (inside : item ∈ session.consumed [.next]) :
    (∃ found, (session.step .next).1 = .record found) ∨ (session.step .next).1 = .finished := by
  have opened := isOpen_of_consumed inside
  cases finished : session.finished with
  | true => exact .inr (by simp [FeedSession.step, next, finished])
  | false =>
      rcases result : session.feed.read with ⟨outcome, after, effects⟩
      cases outcome with
      | ok found =>
          exact .inl ⟨found, by simp [FeedSession.step, next, finished, opened, result]⟩
      | error stop => exact .inr (by simp [FeedSession.step, next, finished, opened, result])

theorem list_of_consumed {session : FeedSession} {item : ScriptItem}
    (inside : item ∈ session.consumed [.list]) :
    ∃ records, (session.step .list).1 = .records records := by
  have opened := isOpen_of_consumed inside
  exact ⟨session.feed.collect.1, by simp [FeedSession.step, list, opened]⟩

/-- A single read goes on only after items without a record. -/
theorem quiet_of_single {session : FeedSession} {step : Step} (single : step = .read ∨ step = .next) :
    (session.consumed [step]).dropLast.filterMap
      (·.delivery.record? session.feed.settings.decoder) = [] := by
  rw [List.filterMap_eq_nil_iff]
  rcases single with rfl | rfl
  · obtain ⟨items, chain, quiet⟩ := read_reads session
    have taken : session.consumed [.read] = items := consumed_eq chain.script_eq
    rwa [taken]
  · obtain ⟨items, chain, quiet⟩ := next_reads session
    have taken : session.consumed [.next] = items := consumed_eq chain.script_eq
    rwa [taken]

/-- The item inside which a step is cancelled is its last one. -/
theorem consumed_of_cancels {session : FeedSession} {step : Step} {item : ScriptItem}
    (inside : item ∈ session.consumed [step]) (cancels : item.cancels = true) :
    ∃ before, session.consumed [step] = before ++ [item] := by
  obtain ⟨before, behind, taken⟩ := List.append_of_mem inside
  obtain ⟨rfl, _⟩ := (session.advances step).last_of_cancels before item behind taken cancels
  exact ⟨before, taken⟩

/-- A cancelled step hands over the record of its last item. -/
theorem given_of_cancels {session : FeedSession} {step : Step} {item : ScriptItem}
    (inside : item ∈ session.consumed [step]) (cancels : item.cancels = true) :
    (session.step step).1.given =
      (session.consumed [step]).dropLast.filterMap
        (·.delivery.record? session.feed.settings.decoder) ++
      (item.delivery.record? session.feed.settings.decoder).toList := by
  obtain ⟨before, taken⟩ := consumed_of_cancels inside cancels
  rw [(session.advances step).given_eq, taken, List.dropLast_concat, List.filterMap_append]
  cases held : item.delivery.record? session.feed.settings.decoder <;> simp [held]

/-- A step without a record answers with its end. -/
theorem ended_iff_of_given {answer : Answer} {held : Option Record} {ended : Prop}
    (given : answer.given = held.toList) (shape : (∃ found, answer = .record found) ∨ ended)
    (nothing : ended → answer.given = []) :
    (ended ↔ held = none) ∧ ∀ found, answer = .record found ↔ held = some found := by
  rcases shape with ⟨record, rfl⟩ | finish
  · have one : held = some record := Option.toList_eq_singleton_iff.mp given.symm
    have continues : ¬ ended := fun finish => List.cons_ne_nil record [] (nothing finish)
    simp [one, continues]
  · have none : held = none := by
      rw [nothing finish] at given
      exact Option.toList_eq_nil_iff.mp given.symm
    have empty : ∀ found, answer ≠ .record found := by
      rintro found rfl
      exact List.cons_ne_nil found [] (nothing finish)
    simp [none, finish, empty]

/-- A cancelled step ends without a record exactly when its read delivers none. -/
theorem ends_iff_of_cancels (session : FeedSession) (step : Step) (item : ScriptItem)
    (inside : item ∈ session.consumed [step]) (cancels : item.cancels = true) :
    let answer := (session.step step).1
    let held := item.delivery.record? session.feed.settings.decoder
    let earlier := (session.consumed [step]).dropLast.filterMap
      (·.delivery.record? session.feed.settings.decoder)
    (session.consumed [step]).getLast? = some item ∧
      (step = .read → ((∃ stop, answer = .stopped stop) ↔ held = none) ∧
        ∀ found, answer = .record found ↔ held = some found) ∧
      (step = .next → (answer = .finished ↔ held = none) ∧
        ∀ found, answer = .record found ↔ held = some found) ∧
      (step = .list → (answer = .records earlier ↔ held = none) ∧
        answer = .records (earlier ++ held.toList)) := by
  have given := given_of_cancels inside cancels
  dsimp only
  refine ⟨?_, ?_, ?_, ?_⟩
  · obtain ⟨before, taken⟩ := consumed_of_cancels inside cancels
    rw [taken, List.getLast?_concat]
  · rintro rfl
    rw [quiet_of_single (.inl rfl), List.nil_append] at given
    apply ended_iff_of_given given (read_of_consumed inside)
    rintro ⟨stop, stopped⟩
    rw [stopped]
    rfl
  · rintro rfl
    rw [quiet_of_single (.inr rfl), List.nil_append] at given
    apply ended_iff_of_given given (next_of_consumed inside)
    intro finished
    rw [finished]
    rfl
  · rintro rfl
    obtain ⟨records, ended⟩ := list_of_consumed inside
    rw [ended] at given ⊢
    change records = _ at given
    simp [given]

/-- A valid sentence whose delivery is preceded by a cancellation. -/
def interrupted : ScriptItem where
  cancels := true
  delivery := .bytes ("$GPVTG,,,,,,,,,*7E".toList.map fun char => UInt8.ofNat char.toNat)

/-- The sentence decodes, so the cancelled read that delivers it does not stop. -/
theorem ends_iff_of_cancels_interrupted :
    let session := (start {} {} [interrupted]).after [.enter]
    interrupted ∈ session.consumed [.read] ∧ interrupted.cancels = true ∧
      ((∃ stop, (session.step .read).1 = .stopped stop) ↔
        interrupted.delivery.record? {} = none) := by
  intro session
  have inside : interrupted ∈ session.consumed [.read] := by decide
  have ended := session.ends_iff_of_cancels .read interrupted inside rfl
  exact ⟨inside, rfl, (ended.2.1 rfl).1⟩

/-- Not every read that is cancelled under way stops. -/
theorem cancelled_read_continues :
    ¬ ∀ (settings : Settings) (link : Link) (script : List ScriptItem) (steps : List Step)
      (item : ScriptItem),
      let session := (start settings link script).after steps
      session.feed.isOpen = true → item ∈ session.consumed [.read] → item.cancels = true →
        ∃ stop, (session.step .read).1 = .stopped stop := by
  intro every
  obtain ⟨stop, ended⟩ :=
    every {} {} [interrupted] [.enter] interrupted rfl (by decide) rfl
  have answered : (((start {} {} [interrupted]).after [.enter]).step .read).1 =
      .record (.vtg ⟨some .gps, none, none, none, none, none⟩) := by rfl
  rw [answered] at ended
  cases ended

end MarineFix.FeedSession
