import MarineFix.Proofs.Feed.Progress
/-!
Lists and iterators give what single reads give up to the first stop.
-/

namespace MarineFix

namespace Feed

/-- A round stops without a read when the feed is cancelled. -/
def round (feed : Feed) : Reading × Feed × Effects :=
  if feed.cancelled then (.stopped .cancelled, feed, {})
  else match feed.script with
    | [] => (.stopped .ended, feed, { reads := 1 })
    | item :: rest =>
        let (reading, next, effects) := feed.readItem item
        (reading, { next with script := rest }, effects)

/-- Another round follows as long as nothing comes of them. -/
inductive Rounds : Feed → Nat → Except Stop Record → Feed → Effects → Prop where
  | record {feed after : Feed} {record : Record} {effects : Effects}
      (result : feed.round = (.record record, after, effects)) :
      Rounds feed 1 (.ok record) after effects
  | stopped {feed after : Feed} {stop : Stop} {effects : Effects}
      (result : feed.round = (.stopped stop, after, effects)) :
      Rounds feed 1 (.error stop) after effects
  | again {feed next after : Feed} {count : Nat} {outcome : Except Stop Record}
      {effects later : Effects} (result : feed.round = (.nothing, next, effects))
      (rest : Rounds next count outcome after later) :
      Rounds feed (count + 1) outcome after (effects ++ later)

/-- Successive reads give these records and then stop for the first time. -/
inductive Yields : Feed → List Record → Stop → Feed → Effects → Prop where
  | stopped {feed after : Feed} {stop : Stop} {effects : Effects}
      (result : feed.read = (.error stop, after, effects)) : Yields feed [] stop after effects
  | record {feed next after : Feed} {record : Record} {records : List Record} {stop : Stop}
      {effects later : Effects} (result : feed.read = (.ok record, next, effects))
      (rest : Yields next records stop after later) :
      Yields feed (record :: records) stop after (effects ++ later)

theorem read_eq_round (feed : Feed) :
    feed.read = match feed.round with
      | (.record record, next, effects) => (.ok record, next, effects)
      | (.stopped stop, next, effects) => (.error stop, next, effects)
      | (.nothing, next, effects) => (next.read.1, next.read.2.1, effects ++ next.read.2.2) := by
  obtain ⟨settings, link, script, isOpen, cancelled, skipped⟩ := feed
  cases cancelled with
  | true => cases script <;> rfl
  | false =>
      cases script with
      | nil => rfl
      | cons item rest =>
          simp only [round, read, readScript, Bool.false_eq_true, if_false]
          rcases readItem _ item with ⟨reading, next, effects⟩
          cases reading with
          | record record => rfl
          | stopped stop => rfl
          | nothing => simp only [readScript_setScript]

theorem collect_eq_round (feed : Feed) :
    feed.collect = match feed.round with
      | (.record record, next, effects) =>
          (record :: next.collect.1, next.collect.2.1, effects ++ next.collect.2.2)
      | (.stopped _, next, effects) => ([], next, effects)
      | (.nothing, next, effects) =>
          (next.collect.1, next.collect.2.1, effects ++ next.collect.2.2) := by
  obtain ⟨settings, link, script, isOpen, cancelled, skipped⟩ := feed
  cases cancelled with
  | true => cases script <;> rfl
  | false =>
      cases script with
      | nil => rfl
      | cons item rest =>
          simp only [round, collect, collectScript, Bool.false_eq_true, if_false]
          rcases readItem _ item with ⟨reading, next, effects⟩
          cases reading with
          | stopped stop => rfl
          | record record => simp only [collectScript_setScript]
          | nothing => simp only [collectScript_setScript]

/-- A round of which nothing comes takes an item. -/
theorem length_script_of_nothing {feed next : Feed} {effects : Effects}
    (result : feed.round = (.nothing, next, effects)) :
    feed.script.length = next.script.length + 1 := by
  rw [round] at result
  split at result
  · cases result
  · split at result
    · cases result
    · rename_i item rest script
      rcases reading : feed.readItem item with ⟨given, after, others⟩
      rw [reading] at result
      cases result
      rw [script, List.length_cons]

/-- A read ends after one round for each item and a last one. -/
theorem exists_rounds (feed : Feed) :
    ∃ count ≤ feed.script.length + 1,
      Rounds feed count feed.read.1 feed.read.2.1 feed.read.2.2 := by
  rw [read_eq_round]
  rcases result : feed.round with ⟨reading, next, effects⟩
  cases reading with
  | record record => exact ⟨1, Nat.le_add_left 1 _, .record result⟩
  | stopped stop => exact ⟨1, Nat.le_add_left 1 _, .stopped result⟩
  | nothing =>
      have fewer := length_script_of_nothing result
      obtain ⟨count, bound, rest⟩ := exists_rounds next
      exact ⟨count + 1, by omega, .again result rest⟩
termination_by feed.script.length

/-- Collecting begins with a read, and it goes on until one stops. -/
theorem collect_eq_read (feed : Feed) :
    feed.collect = match feed.read with
      | (.ok record, next, effects) =>
          (record :: next.collect.1, next.collect.2.1, effects ++ next.collect.2.2)
      | (.error _, after, effects) => ([], after, effects) := by
  rw [collect_eq_round, read_eq_round]
  rcases result : feed.round with ⟨reading, next, effects⟩
  cases reading with
  | record record => rfl
  | stopped stop => rfl
  | nothing =>
      have fewer := length_script_of_nothing result
      dsimp only
      rw [collect_eq_read next]
      rcases next.read with ⟨outcome, after, later⟩
      cases outcome with
      | ok record => simp only [Effects.append_assoc]
      | error stop => rfl
termination_by feed.script.length

/-- A read that gives a record takes the item that holds it. -/
theorem length_script_of_read {feed next : Feed} {record : Record} {effects : Effects}
    (result : feed.read = (.ok record, next, effects)) :
    next.script.length < feed.script.length := by
  obtain ⟨items, chain, _⟩ := feed.read_reads
  rw [result] at chain
  have held : [record] = items.filterMap (·.delivery.record? feed.settings.decoder) :=
    chain.records_eq
  cases items with
  | nil => cases held
  | cons item items =>
      have split : feed.script = item :: items ++ next.script := chain.script_eq
      rw [split, List.length_append, List.length_cons]
      omega

/-- Every feed stops after at most one record for each item of its script. -/
theorem exists_yields (feed : Feed) :
    ∃ records stop after effects,
      Yields feed records stop after effects ∧ records.length ≤ feed.script.length := by
  rcases result : feed.read with ⟨outcome, next, effects⟩
  cases outcome with
  | error stop => exact ⟨[], stop, next, effects, .stopped result, Nat.zero_le _⟩
  | ok record =>
      have fewer := length_script_of_read result
      obtain ⟨records, stop, after, later, rest, bound⟩ := exists_yields next
      exact ⟨record :: records, stop, after, effects ++ later, .record result rest,
        Nat.lt_of_le_of_lt bound fewer⟩
termination_by feed.script.length

/-- Collecting gives what successive reads give. -/
theorem Yields.collect_eq {feed after : Feed} {records : List Record} {stop : Stop}
    {effects : Effects} (yields : Yields feed records stop after effects) :
    feed.collect = (records, after, effects) := by
  induction yields with
  | stopped result => rw [collect_eq_read, result]
  | record result rest ih =>
      rw [collect_eq_read, result]
      dsimp only
      rw [ih]

end Feed

namespace FeedSession

open Feed

/-- The answers of all steps, in their order. -/
def answers (session : FeedSession) (steps : List Step) : List Answer :=
  (session.transcript steps).map fun entry => entry.1

/-- The effects of all steps together. -/
def effects (session : FeedSession) : List Step → Effects
  | [] => {}
  | step :: rest => (session.step step).2.2 ++ (session.step step).2.1.effects rest

/-- The step is one read that a stop turns into this answer. -/
structure IsRead (step : Step) (before behind : Bool) (answer : Stop → Answer) : Prop where
  record : ∀ {feed next : Feed} {record : Record} {effects : Effects}, feed.isOpen = true →
    feed.read = (.ok record, next, effects) →
      FeedSession.step ⟨feed, before⟩ step = (.record record, ⟨next, before⟩, effects)
  stopped : ∀ {feed after : Feed} {stop : Stop} {effects : Effects}, feed.isOpen = true →
    feed.read = (.error stop, after, effects) →
      FeedSession.step ⟨feed, before⟩ step = (answer stop, ⟨after, behind⟩, effects)

theorem isRead_read (finished : Bool) : IsRead .read finished finished .stopped where
  record opened result := by simp [step, read, opened, result]
  stopped opened result := by simp [step, read, opened, result]

/-- A stop finishes an iterator that reads. -/
theorem isRead_next : IsRead .next false true fun _ => .finished where
  record opened result := by simp [step, next, opened, result]
  stopped opened result := by simp [step, next, opened, result]

/-- Repeated reads answer with the records of the feed. -/
theorem IsRead.repeated {step : Step} {before behind : Bool} {answer : Stop → Answer}
    (isRead : IsRead step before behind answer) {feed after : Feed} {records : List Record}
    {stop : Stop} {effects : Effects} (yields : Yields feed records stop after effects)
    (opened : feed.isOpen = true) :
    let session : FeedSession := ⟨feed, before⟩
    let steps := List.replicate (records.length + 1) step
    session.answers steps = records.map .record ++ [answer stop] ∧
      session.after steps = ⟨after, behind⟩ ∧ session.effects steps = effects := by
  induction yields with
  | stopped result =>
      have entry := isRead.stopped opened result
      simp [answers, FeedSession.effects, entry]
  | @record feed next after record records stop effects later result rest ih =>
      have entry := isRead.record opened result
      have stays : next.isOpen = true := by
        obtain ⟨items, chain, _⟩ := feed.read_reads
        rw [result] at chain
        exact chain.isOpen_eq.trans opened
      obtain ⟨answered, reached, caused⟩ := ih stays
      dsimp only
      rw [List.length_cons, List.replicate_succ]
      refine ⟨?_, ?_, ?_⟩
      · rw [answers, transcript_cons, entry, List.map_cons, ← answers, answered]
        rfl
      · rw [after_cons, entry, reached]
      · rw [FeedSession.effects, entry, caused]

/-- Only a new iterator takes the place of a finished one. -/
theorem finished_step {session : FeedSession} (finished : session.finished = true) {step : Step}
    (kept : step ≠ .renewIterator) : (session.step step).2.1.finished = true := by
  cases step with
  | enter =>
      rcases result : session.feed.enter with ⟨outcome, after, effects⟩
      cases outcome <;> simpa [FeedSession.step, enter, result]
  | exit => exact finished
  | read =>
      simp only [FeedSession.step, read]
      split
      · split <;> exact finished
      · exact finished
  | list =>
      simp only [FeedSession.step, list]
      split <;> exact finished
  | cancel => exact finished
  | next => simp [FeedSession.step, next, finished]
  | renewIterator => exact absurd rfl kept
  | relink link => exact finished

theorem finished_after {session : FeedSession} (finished : session.finished = true)
    {steps : List Step} (kept : .renewIterator ∉ steps) :
    (session.after steps).finished = true := by
  induction steps generalizing session with
  | nil => exact finished
  | cons step rest ih =>
      rw [List.mem_cons, not_or] at kept
      exact ih (finished_step finished (Ne.symm kept.1)) kept.2

/-- A finished iterator reads nothing. -/
theorem step_next_of_finished {session : FeedSession} (finished : session.finished = true) :
    session.step .next = (.finished, session, {}) := by
  simp [step, next, finished]

/-- An iterator that has no record to hand over is finished. -/
theorem finished_of_next {session : FeedSession}
    (ended : (session.step .next).1 = .finished ∨ (session.step .next).1 = .notOpen) :
    (session.step .next).2.1.finished = true := by
  revert ended
  simp only [step, next]
  split
  · rename_i finished
    exact fun _ => finished
  · split
    · split <;> simp
    · simp

/-- A list and a fresh iterator do what reads up to the first stop do. -/
theorem loops_agree (session : FeedSession) :
    let fresh := (session.step .renewIterator).2.1
    (session.feed.isOpen = true → ∃ found stop,
      let reads := List.replicate (found.length + 1) Step.read
      let nexts := List.replicate (found.length + 1) Step.next
      session.answers reads = found.map .record ++ [.stopped stop] ∧
        session.step .list = (.records found, session.after reads, session.effects reads) ∧
        fresh.answers nexts = found.map .record ++ [.finished] ∧
        fresh.after nexts = { session.after reads with finished := true } ∧
        fresh.effects nexts = session.effects reads ∧
        found.length ≤ session.feed.script.length) ∧
      (session.feed.isOpen = false →
        session.step .read = (.notOpen, session, {}) ∧
          session.step .list = (.notOpen, session, {}) ∧
          fresh.step .next = (.notOpen, { session with finished := true }, {})) ∧
      ((session.step .next).1 = .finished ∨ (session.step .next).1 = .notOpen →
        ∀ later, .renewIterator ∉ later →
          let reached := (session.step .next).2.1.after later
          reached.step .next = (.finished, reached, {})) ∧
      ∃ count ≤ session.feed.script.length + 1,
        Rounds session.feed count session.feed.read.1 session.feed.read.2.1
          session.feed.read.2.2 := by
  intro fresh
  refine ⟨?_, ?_, ?_, exists_rounds session.feed⟩
  · intro opened
    obtain ⟨found, stop, after, effects, yields, bound⟩ := exists_yields session.feed
    obtain ⟨answered, reached, caused⟩ :=
      (isRead_read session.finished).repeated yields opened
    obtain ⟨iterated, finished, same⟩ := isRead_next.repeated yields opened
    have listed : session.step .list = (.records found, ⟨after, session.finished⟩, effects) := by
      simp [step, list, opened, yields.collect_eq]
    refine ⟨found, stop, answered, ?_, iterated, ?_, same.trans caused.symm, bound⟩
    · rw [listed, ← reached, ← caused]
    · rw [reached]
      exact finished
  · intro closed
    simp [fresh, step, read, list, next, closed]
  · intro ended later kept
    exact step_next_of_finished (finished_after (finished_of_next ended) kept)

/-- The end of a connection stands between two sentences. -/
def droppedBetween : List ScriptItem :=
  let sentence : ScriptItem :=
    ⟨false, .bytes ("$GPVTG,,,,,,,,,*7E".toList.map fun char => UInt8.ofNat char.toNat)⟩
  [⟨false, .timeout⟩, sentence, ⟨false, .dropped⟩, sentence]

/-- The list and the iterator end where the connection does. -/
theorem loops_agree_reconnected :
    let session : FeedSession := { feed := { script := droppedBetween, isOpen := true } }
    let ended := session.after [.next]
    let reconnected := (ended.step .next).2.1.after [.exit, .enter]
    session.feed.isOpen = true ∧
      session.step .list =
        (.records [.vtg ⟨some .gps, none, none, none, none, none⟩],
          session.after [.read, .read], session.effects [.read, .read]) ∧
      (ended.step .next).1 = .finished ∧ Step.renewIterator ∉ [Step.exit, Step.enter] ∧
      reconnected.feed.script.length = 1 ∧
      reconnected.step .next = (.finished, reconnected, {}) ∧
      (session.after [.exit]).feed.isOpen = false ∧
      (session.after [.exit]).step .list = (.notOpen, session.after [.exit], {}) := by
  intro session ended reconnected
  have finished : (ended.step .next).1 = .finished := rfl
  have kept : Step.renewIterator ∉ [Step.exit, Step.enter] := by decide
  obtain ⟨found, stop, _, listed, _⟩ := session.loops_agree.1 rfl
  have given : Answer.records found = .records [.vtg ⟨some .gps, none, none, none, none, none⟩] :=
    (congrArg Prod.fst listed).symm
  obtain rfl := Answer.records.inj given
  exact ⟨rfl, listed, finished, kept, rfl,
    ended.loops_agree.2.2.1 (.inl finished) [.exit, .enter] kept, rfl,
    ((session.after [.exit]).loops_agree.2.1 rfl).2.1⟩

end FeedSession

end MarineFix
