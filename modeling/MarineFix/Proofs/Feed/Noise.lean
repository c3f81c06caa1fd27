import MarineFix.Proofs.Feed.Cancellation
/-!
A session cannot be told from one whose script has no junk.
-/

namespace MarineFix

namespace Feed

/-- Noise, timeouts and lines without a leader are taken out. -/
def ScriptItem.cleaned? (item : ScriptItem) : Option ScriptItem :=
  if item.cancels then some item
  else match item.delivery with
    | .timeout => none
    | .dropped => some item
    | .bytes received =>
        let kept := received.filter (· < 128)
        if received ≠ [] ∧ (Text.strip (asciiText kept)).head? ≠ some '$' then none
        else some { item with delivery := .bytes kept }

/-- The script without its junk. -/
def cleaned (script : List ScriptItem) : List ScriptItem := script.filterMap ScriptItem.cleaned?

/-- The feed with a source that sends no junk. -/
def clean (feed : Feed) : Feed := { feed with script := cleaned feed.script }

/-- The number of reads is not seen. -/
def Effects.visible (effects : Effects) : List Call × List LogLine := (effects.calls, effects.logs)

theorem Effects.visible_append {first second others : Effects}
    (same : second.visible = others.visible) :
    (first ++ second).visible = (first ++ others).visible := by
  obtain ⟨calls, logs⟩ := Prod.mk.inj same
  simp [visible, calls, logs]

theorem asciiText_filter (received : List UInt8) :
    asciiText (received.filter (· < 128)) = asciiText received := by
  simp [asciiText, List.filter_filter]

/-- Any bytes at all are a line. -/
theorem receive_of_present (feed : Feed) {received : List UInt8} (present : received ≠ []) :
    feed.receive (.bytes received) = feed.decodeLine (Text.strip (asciiText received)) := by
  obtain ⟨byte, rest, rfl⟩ := List.exists_cons_of_ne_nil present
  rfl

/-- An item that is kept is read as it was with its noise. -/
theorem readItem_of_cleaned (feed : Feed) {item kept : ScriptItem}
    (cleans : item.cleaned? = some kept) : feed.readItem kept = feed.readItem item := by
  obtain ⟨cancels, delivery⟩ := item
  cases cancels with
  | true =>
      obtain rfl := Option.some.inj cleans
      rfl
  | false =>
      cases delivery with
      | timeout => cases cleans
      | dropped =>
          obtain rfl := Option.some.inj cleans
          rfl
      | bytes received =>
          simp only [ScriptItem.cleaned?, Bool.false_eq_true, if_false] at cleans
          split at cleans
          · cases cleans
          · rename_i wanted
            obtain rfl := Option.some.inj cleans
            by_cases empty : received = []
            · subst empty
              rfl
            · have leader : (Text.strip (asciiText (received.filter (· < 128)))).head? = some '$' :=
                Decidable.not_not.mp fun unled => wanted ⟨empty, unled⟩
              have left : received.filter (· < 128) ≠ [] := by
                intro none
                rw [none] at leader
                cases leader
              simp only [readItem, receive_of_present _ left, receive_of_present _ empty,
                asciiText_filter]

/-- Junk gives nothing and changes nothing. -/
theorem readItem_of_junk {feed : Feed} (active : feed.cancelled = false) {item : ScriptItem}
    (junk : item.cleaned? = none) : feed.readItem item = (.nothing, feed, { reads := 1 }) := by
  obtain ⟨cancels, delivery⟩ := item
  cases cancels with
  | true => cases junk
  | false =>
      cases delivery with
      | timeout => simp [readItem, cancelIf, receive, active]
      | dropped => cases junk
      | bytes received =>
          simp only [ScriptItem.cleaned?, Bool.false_eq_true, if_false] at junk
          split at junk
          · rename_i unwanted
            rw [asciiText_filter] at unwanted
            obtain ⟨present, unled⟩ := unwanted
            simp [readItem, cancelIf, receive_of_present _ present, decodeLine, unled]
          · cases junk

theorem cleaned_cons_of_junk {item : ScriptItem} (junk : item.cleaned? = none)
    (rest : List ScriptItem) : cleaned (item :: rest) = cleaned rest :=
  List.filterMap_cons_none junk

theorem cleaned_cons_of_kept {item kept : ScriptItem} (cleans : item.cleaned? = some kept)
    (rest : List ScriptItem) : cleaned (item :: rest) = kept :: cleaned rest :=
  List.filterMap_cons_some cleans

/-- The same outcome and the same visible effects, and a state without junk. -/
structure Clears {α σ : Type} (clean : σ → σ) (result clear : α × σ × Effects) : Prop where
  outcome : clear.1 = result.1
  state : clear.2.1 = clean result.2.1
  effects : clear.2.2.visible = result.2.2.visible

theorem Clears.exists_eq {α σ : Type} {clean : σ → σ} {outcome : α} {state : σ} {effects : Effects}
    {clear : α × σ × Effects} (clears : Clears clean (outcome, state, effects) clear) :
    ∃ others, clear = (outcome, clean state, others) ∧ others.visible = effects.visible :=
  ⟨clear.2.2, Prod.ext clears.outcome (Prod.ext clears.state rfl), clears.effects⟩

/-- A read finds the same record or the same end without the junk. -/
theorem readScript_cleaned (feed : Feed) (script : List ScriptItem) :
    Clears clean (feed.readScript script) (feed.readScript (cleaned script)) := by
  induction script generalizing feed with
  | nil =>
      simp only [cleaned, List.filterMap_nil, readScript]
      split <;> exact ⟨rfl, rfl, rfl⟩
  | cons item rest ih =>
      cases active : feed.cancelled with
      | true =>
          rw [readScript_of_cancelled active, readScript_of_cancelled active]
          exact ⟨rfl, rfl, rfl⟩
      | false =>
          have uncancelled : ¬ feed.cancelled = true := by simp [active]
          cases cleans : item.cleaned? with
          | none =>
              have later := ih feed
              rw [cleaned_cons_of_junk cleans, readScript, if_neg uncancelled,
                readItem_of_junk active cleans]
              exact ⟨later.outcome, later.state, later.effects⟩
          | some kept =>
              rw [cleaned_cons_of_kept cleans, readScript, readScript, if_neg uncancelled,
                if_neg uncancelled, readItem_of_cleaned feed cleans]
              rcases feed.readItem item with ⟨reading, next, effects⟩
              cases reading with
              | record record => exact ⟨rfl, rfl, rfl⟩
              | stopped stop => exact ⟨rfl, rfl, rfl⟩
              | nothing =>
                  have later := ih next
                  exact ⟨later.outcome, later.state, Effects.visible_append later.effects⟩

/-- All records are the same without the junk. -/
theorem collectScript_cleaned (feed : Feed) (script : List ScriptItem) :
    Clears clean (feed.collectScript script) (feed.collectScript (cleaned script)) := by
  induction script generalizing feed with
  | nil =>
      simp only [cleaned, List.filterMap_nil, collectScript]
      split <;> exact ⟨rfl, rfl, rfl⟩
  | cons item rest ih =>
      cases active : feed.cancelled with
      | true =>
          rw [collectScript_of_cancelled active, collectScript_of_cancelled active]
          exact ⟨rfl, rfl, rfl⟩
      | false =>
          have uncancelled : ¬ feed.cancelled = true := by simp [active]
          cases cleans : item.cleaned? with
          | none =>
              have later := ih feed
              rw [cleaned_cons_of_junk cleans, collectScript, if_neg uncancelled,
                readItem_of_junk active cleans]
              exact ⟨later.outcome, later.state, later.effects⟩
          | some kept =>
              rw [cleaned_cons_of_kept cleans, collectScript, collectScript, if_neg uncancelled,
                if_neg uncancelled, readItem_of_cleaned feed cleans]
              rcases feed.readItem item with ⟨reading, next, effects⟩
              have later := ih next
              cases reading with
              | stopped stop => exact ⟨rfl, rfl, rfl⟩
              | record record =>
                  exact ⟨congrArg (record :: ·) later.outcome, later.state,
                    Effects.visible_append later.effects⟩
              | nothing => exact ⟨later.outcome, later.state, Effects.visible_append later.effects⟩

theorem clears_read (feed : Feed) : Clears clean feed.read feed.clean.read := by
  have clear := readScript_cleaned feed feed.script
  rw [← readScript_setScript feed (cleaned feed.script) (cleaned feed.script)] at clear
  exact clear

theorem clears_collect (feed : Feed) : Clears clean feed.collect feed.clean.collect := by
  have clear := collectScript_cleaned feed feed.script
  rw [← collectScript_setScript feed (cleaned feed.script) (cleaned feed.script)] at clear
  exact clear

theorem clears_enter (feed : Feed) : Clears clean feed.enter feed.clean.enter := by
  have clear : feed.clean.enter = _ := enter_setScript feed (cleaned feed.script)
  rw [clear]
  exact ⟨rfl, by rw [Feed.clean, script_enter], rfl⟩

end Feed

namespace FeedSession

open Feed

/-- The session with a source that sends no junk. -/
def clean (session : FeedSession) : FeedSession := { session with feed := session.feed.clean }

/-- A step shows its answer, its count, its calls and its reports. -/
def visible (entry : Entry) : Answer × Nat × List Call × List LogLine :=
  (entry.1, entry.2.1.feed.skipped, entry.2.2.visible)

/-- One step looks the same without the junk, and leaves nothing of it behind. -/
theorem step_clears (session : FeedSession) (step : Step) :
    Clears clean (session.step step) (session.clean.step step) := by
  have same : session.feed.clean.isOpen = session.feed.isOpen := rfl
  cases step with
  | exit => exact ⟨rfl, rfl, rfl⟩
  | cancel => exact ⟨rfl, rfl, rfl⟩
  | renewIterator => exact ⟨rfl, rfl, rfl⟩
  | relink link => exact ⟨rfl, rfl, rfl⟩
  | enter =>
      have clears := clears_enter session.feed
      rcases result : session.feed.enter with ⟨outcome, feed, effects⟩
      rw [result] at clears
      obtain ⟨others, clear, seen⟩ := clears.exists_eq
      simp only [FeedSession.step, enter, clean, result, clear]
      cases outcome <;> exact ⟨rfl, rfl, seen⟩
  | read =>
      have clears := clears_read session.feed
      rcases result : session.feed.read with ⟨outcome, feed, effects⟩
      rw [result] at clears
      obtain ⟨others, clear, seen⟩ := clears.exists_eq
      simp only [FeedSession.step, read, clean, same, result, clear]
      split
      · cases outcome <;> exact ⟨rfl, rfl, seen⟩
      · exact ⟨rfl, rfl, rfl⟩
  | list =>
      have clears := clears_collect session.feed
      rcases result : session.feed.collect with ⟨records, feed, effects⟩
      rw [result] at clears
      obtain ⟨others, clear, seen⟩ := clears.exists_eq
      simp only [FeedSession.step, list, clean, same, result, clear]
      split
      · exact ⟨rfl, rfl, seen⟩
      · exact ⟨rfl, rfl, rfl⟩
  | next =>
      have clears := clears_read session.feed
      rcases result : session.feed.read with ⟨outcome, feed, effects⟩
      rw [result] at clears
      obtain ⟨others, clear, seen⟩ := clears.exists_eq
      simp only [FeedSession.step, next, clean, same, result, clear]
      split
      · exact ⟨rfl, rfl, rfl⟩
      · split
        · cases outcome <;> exact ⟨rfl, rfl, seen⟩
        · exact ⟨rfl, rfl, rfl⟩

/-- A run looks the same without the junk, and leaves nothing of it behind. -/
theorem run_clears (session : FeedSession) (steps : List Step) :
    (session.clean.transcript steps).map visible = (session.transcript steps).map visible ∧
      session.clean.after steps = (session.after steps).clean := by
  induction steps generalizing session with
  | nil => exact ⟨rfl, rfl⟩
  | cons step rest ih =>
      have first := session.step_clears step
      obtain ⟨later, last⟩ := ih (session.step step).2.1
      have seen : visible (session.clean.step step) = visible (session.step step) := by
        rw [visible, visible, first.outcome, first.state, first.effects]
        rfl
      rw [transcript_cons, transcript_cons, List.map_cons, List.map_cons, after_cons, after_cons,
        first.state, seen, later, last]
      exact ⟨rfl, rfl⟩

/-- The session with another script for its source. -/
def withScript (session : FeedSession) (script : List ScriptItem) : FeedSession :=
  { session with feed := { session.feed with script } }

/-- Scripts that differ only in their junk are read alike. -/
theorem visible_withScript {session : FeedSession} {script : List ScriptItem}
    (alike : cleaned script = cleaned session.feed.script) (steps : List Step) :
    ((session.withScript script).transcript steps).map visible =
      (session.transcript steps).map visible := by
  have same : (session.withScript script).clean = session.clean := by
    simp [withScript, clean, Feed.clean, alike]
  rw [← (session.run_clears steps).1, ← ((session.withScript script).run_clears steps).1, same]

/-- Every kind of read finds that the source has ended. -/
structure Ended (session : FeedSession) : Prop where
  read_eq : (session.step .read).1 = .stopped .ended
  list_eq : (session.step .list).1 = .records []
  next_eq : session.finished = false →
    (session.step .next).1 = .finished ∧ (session.step .next).2.1.finished = true

theorem ended_of_stops {session : FeedSession} (opened : session.feed.isOpen = true)
    (read : session.feed.read.1 = .error .ended) (collected : session.feed.collect.1 = []) :
    Ended session := by
  rcases reading : session.feed.read with ⟨outcome, feed, effects⟩
  rcases listing : session.feed.collect with ⟨records, listed, others⟩
  rw [reading] at read
  rw [listing] at collected
  obtain rfl : outcome = .error .ended := read
  obtain rfl : records = [] := collected
  exact {
    read_eq := by simp [FeedSession.step, FeedSession.read, opened, reading]
    list_eq := by simp [FeedSession.step, list, opened, listing]
    next_eq := by
      intro unfinished
      simp [FeedSession.step, next, opened, unfinished, reading] }

/-- No bytes at all end the source, whatever junk stands before. -/
theorem ended_of_empty {session : FeedSession} (opened : session.feed.isOpen = true)
    (active : session.feed.cancelled = false) {junk rest : List ScriptItem} {cancels : Bool}
    (script : session.feed.script = junk ++ ⟨cancels, .bytes []⟩ :: rest)
    (dropped : cleaned junk = []) : Ended session := by
  have kept : session.feed.clean.script = ⟨cancels, .bytes []⟩ :: cleaned rest := by
    have stays : ScriptItem.cleaned? ⟨cancels, .bytes []⟩ = some ⟨cancels, .bytes []⟩ := by
      cases cancels <;> rfl
    simp only [cleaned] at dropped
    simp [Feed.clean, script, cleaned, dropped, stays]
  have uncancelled : session.feed.clean.cancelled = false := active
  apply ended_of_stops opened
  · rw [← (clears_read session.feed).outcome, Feed.read, kept]
    simp [readScript, uncancelled, readItem, receive]
  · rw [← (clears_collect session.feed).outcome, Feed.collect, kept]
    simp [collectScript, uncancelled, readItem, receive]

section

variable {noise : List UInt8} (present : noise ≠ []) (noisy : ∀ byte ∈ noise, 128 ≤ byte)

include noisy

theorem filter_noise : noise.filter (· < 128) = [] := by
  rw [List.filter_eq_nil_iff]
  intro byte inside small
  have large := noisy byte inside
  rw [decide_eq_true_eq] at small
  exact UInt8.not_lt.mpr large small

include present

/-- A line with nothing but noise is dropped. -/
theorem cleaned?_noise : ScriptItem.cleaned? ⟨false, .bytes noise⟩ = none := by
  have unled : (Text.strip (asciiText [])).head? ≠ some '$' := by decide
  simp [ScriptItem.cleaned?, filter_noise noisy, present, unled]

/-- Noise is no end of the source, also with a cancellation. -/
theorem readItem_noise (feed : Feed) (cancels : Bool) :
    (feed.readItem ⟨cancels, .bytes noise⟩).1 = .nothing := by
  have nothing : asciiText noise = [] := by
    rw [asciiText, filter_noise noisy, List.map_nil]
  simp [readItem, receive_of_present _ present, nothing, decodeLine]

end

/-- A session shows the same without the junk in its script. -/
theorem junk_transparent (session : FeedSession) (steps : List Step) :
    (session.clean.transcript steps).map visible = (session.transcript steps).map visible ∧
      session.clean.after steps = (session.after steps).clean ∧
      (∀ noise, noise ≠ [] → (∀ byte ∈ noise, 128 ≤ byte) →
        (∀ cancels,
          ((session.after steps).feed.readItem ⟨cancels, .bytes noise⟩).1 = .nothing) ∧
        ∀ front rest, session.feed.script = front ++ ⟨false, .bytes noise⟩ :: rest →
          ((session.withScript (front ++ rest)).transcript steps).map visible =
            (session.transcript steps).map visible) ∧
      (∀ junk cancels rest, session.feed.script = junk ++ ⟨cancels, .bytes []⟩ :: rest →
        cleaned junk = [] → session.feed.isOpen = true → session.feed.cancelled = false →
        Ended session) := by
  obtain ⟨seen, left⟩ := session.run_clears steps
  refine ⟨seen, left, ?_, ?_⟩
  · intro noise present noisy
    refine ⟨readItem_noise present noisy _, ?_⟩
    intro front rest script
    apply visible_withScript
    simp [script, cleaned, cleaned?_noise present noisy]
  · intro junk cancels rest script dropped opened active
    exact ended_of_empty opened active script dropped

/-- Junk of each kind before the end of an open source. -/
def junkBeforeEnd : List ScriptItem :=
  [⟨false, .bytes [123, 125, 13, 10]⟩, ⟨false, .bytes [195, 169]⟩, ⟨false, .timeout⟩]

/-- The noise may be taken out, and the source ends behind the junk. -/
theorem junk_transparent_before_end :
    let session : FeedSession :=
      { feed := { script := junkBeforeEnd ++ [⟨false, .bytes []⟩], isOpen := true } }
    ((session.withScript [⟨false, .bytes [123, 125, 13, 10]⟩, ⟨false, .timeout⟩,
        ⟨false, .bytes []⟩]).transcript [.read, .list]).map visible =
      (session.transcript [.read, .list]).map visible ∧ Ended session := by
  intro session
  obtain ⟨_, _, noise, ended⟩ := session.junk_transparent [.read, .list]
  obtain ⟨_, without⟩ := noise [195, 169] (by decide) (by simp)
  exact ⟨without [⟨false, .bytes [123, 125, 13, 10]⟩] [⟨false, .timeout⟩, ⟨false, .bytes []⟩] rfl,
    ended junkBeforeEnd false [] rfl (by decide) rfl rfl⟩

end FeedSession

end MarineFix
