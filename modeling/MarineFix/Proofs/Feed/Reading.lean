import MarineFix.Feed.Session
/-!
A loop of reads is a chain of single reads whose records and counts add up.
-/

namespace MarineFix.Feed

/-- The sentence of a delivery is its stripped line with a leader. -/
def Delivery.sentence? : Delivery → Option Text
  | .bytes received =>
      let line := Text.strip (asciiText received)
      if line.head? = some '$' then some line else none
  | _ => none

/-- A sentence that decodes gives a record unless it waits for its further parts. -/
def Delivery.record? (decoder : Decoder) (delivery : Delivery) : Option Record :=
  match delivery.sentence?.map decoder.decode with
  | some (.ok .incomplete) => none
  | some (.ok record) => some record
  | _ => none

/-- Only a sentence can be rejected. -/
def Delivery.isRejected (decoder : Decoder) (delivery : Delivery) : Bool :=
  match delivery.sentence?.map decoder.decode with
  | some (.error _) => true
  | _ => false

def Reading.record? : Reading → Option Record
  | .record found => some found
  | _ => none

/-- The number of sentences that are reported as skipped. -/
def Effects.warnings (effects : Effects) : Nat := effects.logs.countP (·.level = .warning)

@[simp] theorem Effects.warnings_append (first second : Effects) :
    (first ++ second).warnings = first.warnings + second.warnings := by
  simp [warnings]

@[simp] theorem Effects.warnings_of_calls (calls : List Call) (reads : Nat) :
    (Effects.mk calls [] reads).warnings = 0 := rfl

theorem Delivery.record?_ne_incomplete (decoder : Decoder) (delivery : Delivery) :
    delivery.record? decoder ≠ some .incomplete := by
  rw [Delivery.record?]
  split
  · simp
  · rename_i record pending _
    rw [ne_eq, Option.some.injEq]
    exact pending
  · simp

/-- The record of a delivery was decoded. -/
theorem Delivery.exists_decode {decoder : Decoder} {delivery : Delivery} {record : Record}
    (found : delivery.record? decoder = some record) :
    ∃ sentence, decoder.decode sentence = .ok record := by
  rw [Delivery.record?] at found
  split at found
  · cases found
  · rename_i decoded
    obtain ⟨sentence, _, same⟩ := Option.map_eq_some_iff.mp decoded
    cases found
    exact ⟨sentence, same⟩
  · cases found

/-- A line gives its record or is counted and reported. -/
theorem decodeLine_spec (feed : Feed) (received : List UInt8) :
    let delivery : Delivery := .bytes received
    let result := feed.decodeLine (Text.strip (asciiText received))
    result.1.record? = delivery.record? feed.settings.decoder ∧
      result.2.1 = { feed with
        skipped := feed.skipped + (delivery.isRejected feed.settings.decoder).toNat } ∧
      result.2.2.warnings = (delivery.isRejected feed.settings.decoder).toNat ∧
      result.2.2.reads = 0 := by
  simp only [decodeLine, Delivery.record?, Delivery.isRejected, Delivery.sentence?]
  by_cases leader : (Text.strip (asciiText received)).head? = some '$'
  · simp only [leader, ne_eq, not_true_eq_false, if_false, if_true, Option.map_some]
    cases feed.settings.decoder.decode (Text.strip (asciiText received)) with
    | error failure => simp [Reading.record?, Effects.warnings, skipReport]
    | ok record => cases record <;> simp [Reading.record?, Effects.warnings]
  · simp [leader, Reading.record?, Effects.warnings]

/-- A delivery gives its record and changes the count alone. -/
theorem receive_spec (feed : Feed) (delivery : Delivery) :
    let result := feed.receive delivery
    result.1.record? = delivery.record? feed.settings.decoder ∧
      result.2.1 = { feed with
        skipped := feed.skipped + (delivery.isRejected feed.settings.decoder).toNat } ∧
      result.2.2.warnings = (delivery.isRejected feed.settings.decoder).toNat ∧
      result.2.2.reads = 0 := by
  cases delivery with
  | timeout =>
      refine ⟨?_, rfl, rfl, rfl⟩
      simp only [receive]
      split <;> rfl
  | dropped => exact ⟨rfl, rfl, rfl, rfl⟩
  | bytes received =>
      cases received with
      | nil => exact ⟨rfl, rfl, rfl, rfl⟩
      | cons byte rest => exact decodeLine_spec feed (byte :: rest)

/-- One read gives the record of its item and may be cancelled. -/
theorem readItem_spec (feed : Feed) (item : ScriptItem) :
    let result := feed.readItem item
    result.1.record? = item.delivery.record? feed.settings.decoder ∧
      result.2.1 = { feed with
        cancelled := feed.cancelled || item.cancels
        skipped := feed.skipped + (item.delivery.isRejected feed.settings.decoder).toNat } ∧
      result.2.2.warnings = (item.delivery.isRejected feed.settings.decoder).toNat ∧
      result.2.2.reads = 1 := by
  obtain ⟨cancels, delivery⟩ := item
  cases cancels with
  | false =>
      obtain ⟨record, after, warnings, reads⟩ := receive_spec feed delivery
      simp [readItem, cancelIf, record, after, warnings, reads]
  | true =>
      obtain ⟨record, after, warnings, reads⟩ := receive_spec feed.cancel.1 delivery
      simp only [cancel] at record after warnings reads
      simp [readItem, cancelIf, cancel, record, after, warnings, reads]

theorem decodeLine_setScript (feed : Feed) (script : List ScriptItem) (line : Text) :
    ({ feed with script } : Feed).decodeLine line =
      ((feed.decodeLine line).1, { (feed.decodeLine line).2.1 with script },
        (feed.decodeLine line).2.2) := by
  simp only [decodeLine]
  split
  · rfl
  · split <;> rfl

theorem receive_setScript (feed : Feed) (script : List ScriptItem) (delivery : Delivery) :
    ({ feed with script } : Feed).receive delivery =
      ((feed.receive delivery).1, { (feed.receive delivery).2.1 with script },
        (feed.receive delivery).2.2) := by
  cases delivery with
  | timeout => rfl
  | dropped => rfl
  | bytes received =>
      cases received with
      | nil => rfl
      | cons byte rest => exact decodeLine_setScript feed script _

/-- A read does not look at the items that follow. -/
theorem readItem_setScript (feed : Feed) (script : List ScriptItem) (item : ScriptItem) :
    ({ feed with script } : Feed).readItem item =
      ((feed.readItem item).1, { (feed.readItem item).2.1 with script },
        (feed.readItem item).2.2) := by
  obtain ⟨cancels, delivery⟩ := item
  cases cancels with
  | false => simp only [readItem, cancelIf, receive_setScript, Bool.false_eq_true, if_false]
  | true =>
      have same := receive_setScript feed.cancel.1 script delivery
      simp only [cancel] at same
      simp only [readItem, cancelIf, cancel, same, if_true]

/-- Which script the feed holds does not matter when another one is read. -/
theorem readScript_setScript (feed : Feed) (other script : List ScriptItem) :
    ({ feed with script := other } : Feed).readScript script = feed.readScript script := by
  induction script generalizing feed with
  | nil => rfl
  | cons item rest ih =>
      rw [readScript, readScript, readItem_setScript]
      rcases feed.readItem item with ⟨reading, next, effects⟩
      cases reading with
      | record record => rfl
      | stopped stop => rfl
      | nothing => simp only [ih]

theorem collectScript_setScript (feed : Feed) (other script : List ScriptItem) :
    ({ feed with script := other } : Feed).collectScript script = feed.collectScript script := by
  induction script generalizing feed with
  | nil => rfl
  | cons item rest ih =>
      rw [collectScript, collectScript, readItem_setScript]
      rcases feed.readItem item with ⟨reading, next, effects⟩
      cases reading with
      | stopped stop => rfl
      | record record => simp only [ih]
      | nothing => simp only [ih]

/-- A chain of reads with its items, records and effects. -/
inductive Reads : Feed → List ScriptItem → List Record → Feed → Effects → Prop where
  | idle (feed : Feed) : Reads feed [] [] feed {}
  | ended {feed : Feed} (active : feed.cancelled = false) (empty : feed.script = []) :
      Reads feed [] [] feed { reads := 1 }
  | item {feed after : Feed} {item : ScriptItem} {rest items : List ScriptItem}
      {records : List Record} {effects : Effects} (active : feed.cancelled = false)
      (script : feed.script = item :: rest)
      (later : Reads { (feed.readItem item).2.1 with script := rest } items records after effects) :
      Reads feed (item :: items) ((feed.readItem item).1.record?.toList ++ records) after
        ((feed.readItem item).2.2 ++ effects)

namespace Reads

variable {feed after : Feed} {items : List ScriptItem} {records : List Record} {effects : Effects}

/-- The items are taken from the front of the script. -/
theorem script_eq (chain : Reads feed items records after effects) :
    feed.script = items ++ after.script := by
  induction chain with
  | idle feed => rfl
  | ended active empty => rfl
  | item active script later ih => rw [script, List.cons_append, ← ih]

/-- Of the feed only the script, the cancellation and the count change. -/
theorem after_eq (chain : Reads feed items records after effects) :
    after = { feed with
      script := after.script
      cancelled := feed.cancelled || items.any (·.cancels)
      skipped := feed.skipped + items.countP (·.delivery.isRejected feed.settings.decoder) } := by
  induction chain with
  | idle feed => simp
  | ended active empty => simp
  | @item feed after item rest items records effects active script later ih =>
      obtain ⟨_, next, _, _⟩ := readItem_spec feed item
      rw [ih, next]
      cases rejected : item.delivery.isRejected feed.settings.decoder <;>
        simp [rejected, Bool.or_assoc, Nat.add_assoc, Nat.add_comm 1]

theorem isOpen_eq (chain : Reads feed items records after effects) :
    after.isOpen = feed.isOpen := by
  rw [chain.after_eq]

/-- The records are those of the items, in their order. -/
theorem records_eq (chain : Reads feed items records after effects) :
    records = items.filterMap (·.delivery.record? feed.settings.decoder) := by
  induction chain with
  | idle feed => rfl
  | ended active empty => rfl
  | @item feed after item rest items records effects active script later ih =>
      obtain ⟨record, next, _, _⟩ := readItem_spec feed item
      rw [ih, record, next]
      cases found : item.delivery.record? feed.settings.decoder <;> simp [found]

/-- Every rejected sentence is reported once. -/
theorem warnings_eq (chain : Reads feed items records after effects) :
    effects.warnings = items.countP (·.delivery.isRejected feed.settings.decoder) := by
  induction chain with
  | idle feed => rfl
  | ended active empty => rfl
  | @item feed after item rest items records effects active script later ih =>
      obtain ⟨_, next, warnings, _⟩ := readItem_spec feed item
      rw [Effects.warnings_append, ih, warnings, next]
      cases rejected : item.delivery.isRejected feed.settings.decoder <;>
        simp [rejected, Nat.add_comm]

/-- Every read takes an item as long as the script has one. -/
theorem reads_eq (chain : Reads feed items records after effects) (left : after.script ≠ []) :
    effects.reads = items.length := by
  induction chain with
  | idle feed => rfl
  | ended active empty => exact absurd empty left
  | @item feed after item rest items records effects active script later ih =>
      obtain ⟨_, _, _, reads⟩ := readItem_spec feed item
      rw [Effects.reads_append, ih left, reads, List.length_cons, Nat.add_comm]

/-- A cancelled feed takes nothing and starts no read. -/
theorem of_cancelled (chain : Reads feed items records after effects)
    (cancelled : feed.cancelled = true) :
    items = [] ∧ records = [] ∧ after = feed ∧ effects = {} := by
  cases chain with
  | idle => exact ⟨rfl, rfl, rfl, rfl⟩
  | ended active empty => simp [cancelled] at active
  | item active script later => simp [cancelled] at active

/-- A cancellation in the middle of a read makes that read the last one. -/
theorem last_of_cancels (chain : Reads feed items records after effects) {before : List ScriptItem}
    {item : ScriptItem} {behind : List ScriptItem} (taken : items = before ++ item :: behind)
    (cancels : item.cancels = true) : behind = [] ∧ effects.reads = before.length + 1 := by
  induction chain generalizing before with
  | idle feed => simp at taken
  | ended active empty => simp at taken
  | @item feed after first rest items records effects active script later ih =>
      obtain ⟨_, next, _, reads⟩ := readItem_spec feed first
      cases before with
      | nil =>
          rw [List.nil_append, List.cons.injEq] at taken
          obtain ⟨rfl, rfl⟩ := taken
          obtain ⟨none, _, _, same⟩ := later.of_cancelled (by simp [next, cancels])
          simp [none, same, reads]
      | cons head before =>
          rw [List.cons_append, List.cons.injEq] at taken
          obtain ⟨last, count⟩ := ih taken.2
          simp only [Effects.reads_append, reads, count, List.length_cons]
          exact ⟨last, Nat.add_comm 1 _⟩

end Reads

/-- The first link of a chain, in terms of what the read gave. -/
theorem Reads.of_readItem {feed next after : Feed} {item : ScriptItem}
    {rest items : List ScriptItem} {reading : Reading} {records : List Record}
    {effects later : Effects} (active : feed.cancelled = false)
    (result : feed.readItem item = (reading, next, effects))
    (chain : Reads { next with script := rest } items records after later) :
    Reads { feed with script := item :: rest } (item :: items)
      (reading.record?.toList ++ records) after (effects ++ later) := by
  have first : ({ feed with script := item :: rest } : Feed).readItem item =
      (reading, { next with script := item :: rest }, effects) := by
    rw [readItem_setScript, result]
  have link : Reads { feed with script := item :: rest } (item :: items) _ _ _ :=
    .item active rfl (by rw [first]; exact chain)
  rwa [first] at link

/-- A single read is a chain of its own. -/
theorem Reads.single {feed next : Feed} {item : ScriptItem} {rest : List ScriptItem}
    {reading : Reading} {effects : Effects} (active : feed.cancelled = false)
    (result : feed.readItem item = (reading, next, effects)) :
    Reads { feed with script := item :: rest } [item] reading.record?.toList
      { next with script := rest } effects := by
  simpa only [List.append_nil, Effects.append_empty] using
    Reads.of_readItem active result (.idle { next with script := rest })

/-- Reading is a chain that ends with its first record. -/
theorem readScript_reads (feed : Feed) (script : List ScriptItem) :
    let result := feed.readScript script
    ∃ items, Reads { feed with script } items result.1.toOption.toList result.2.1 result.2.2 ∧
      ∀ item ∈ items.dropLast, item.delivery.record? feed.settings.decoder = none := by
  induction script generalizing feed with
  | nil =>
      rw [readScript]
      split
      · exact ⟨[], .idle _, by simp⟩
      · rename_i active
        exact ⟨[], .ended (by simpa using active) rfl, by simp⟩
  | cons item rest ih =>
      rw [readScript]
      split
      · exact ⟨[], .idle _, by simp⟩
      · rename_i active
        rw [Bool.not_eq_true] at active
        rcases result : feed.readItem item with ⟨reading, next, effects⟩
        obtain ⟨found, state, _, _⟩ := readItem_spec feed item
        rw [result] at found state
        dsimp only at found state
        cases reading with
        | record record =>
            exact ⟨[item], Reads.single active result, by simp⟩
        | stopped stop =>
            exact ⟨[item], Reads.single active result, by simp⟩
        | nothing =>
            obtain ⟨items, chain, quiet⟩ := ih next
            refine ⟨item :: items, Reads.of_readItem active result chain, ?_⟩
            intro other member
            cases items with
            | nil => simp at member
            | cons second items =>
                have same : next.settings = feed.settings := by rw [state]
                rw [List.dropLast_cons_cons, List.mem_cons] at member
                rcases member with rfl | later
                · exact found.symm
                · rw [← same]
                  exact quiet other later

/-- Only the last item of a read can give its record. -/
theorem read_reads (feed : Feed) :
    ∃ items, Reads feed items feed.read.1.toOption.toList feed.read.2.1 feed.read.2.2 ∧
      ∀ item ∈ items.dropLast, item.delivery.record? feed.settings.decoder = none :=
  readScript_reads feed feed.script

/-- Collecting is a chain of reads that gives all its records. -/
theorem collectScript_reads (feed : Feed) (script : List ScriptItem) :
    let result := feed.collectScript script
    ∃ items, Reads { feed with script } items result.1 result.2.1 result.2.2 := by
  induction script generalizing feed with
  | nil =>
      rw [collectScript]
      split
      · exact ⟨[], .idle _⟩
      · rename_i active
        exact ⟨[], .ended (by simpa using active) rfl⟩
  | cons item rest ih =>
      rw [collectScript]
      split
      · exact ⟨[], .idle _⟩
      · rename_i active
        rw [Bool.not_eq_true] at active
        rcases result : feed.readItem item with ⟨reading, next, effects⟩
        cases reading with
        | record record =>
            obtain ⟨items, chain⟩ := ih next
            exact ⟨item :: items, Reads.of_readItem active result chain⟩
        | stopped stop =>
            exact ⟨[item], Reads.single active result⟩
        | nothing =>
            obtain ⟨items, chain⟩ := ih next
            exact ⟨item :: items, Reads.of_readItem active result chain⟩

theorem cancelIf_spec (condition : Bool) (feed : Feed) :
    let result := feed.cancelIf condition
    result.1 = { feed with cancelled := feed.cancelled || condition } ∧
      result.2.warnings = 0 ∧ result.2.reads = 0 := by
  cases condition with
  | false => simp [cancelIf]
  | true => simp [cancelIf, cancel]

theorem sendWatch_spec (feed : Feed) :
    feed.sendWatch.2.warnings = 0 ∧ feed.sendWatch.2.reads = 0 := by
  rw [sendWatch]
  split <;> exact ⟨rfl, rfl⟩

/-- Entering reads nothing, and a fault leaves the feed as it was. -/
theorem enter_spec (feed : Feed) :
    let reached : Feed :=
      { feed with cancelled := feed.cancelled || feed.link.cancelsWhileConnecting }
    let result := feed.enter
    (result.2.1 = match result.1 with
      | .ok _ => { reached with isOpen := true, skipped := 0 }
      | .error _ => reached) ∧
      result.2.2.warnings = 0 ∧ result.2.2.reads = 0 ∧
      .connect feed.settings.host feed.settings.port ∈ result.2.2.calls := by
  obtain ⟨state, warnings, reads⟩ := cancelIf_spec feed.link.cancelsWhileConnecting feed
  rcases cancelling : feed.cancelIf feed.link.cancelsWhileConnecting with ⟨reached, effects⟩
  rw [cancelling] at state warnings reads
  dsimp only at state warnings reads
  obtain ⟨sentWarnings, sentReads⟩ := sendWatch_spec reached
  simp only [enter, cancelling]
  split
  · simp [state, warnings, reads]
  · rcases sending : reached.sendWatch with ⟨outcome, sent⟩
    rw [sending] at sentWarnings sentReads
    dsimp only at sentWarnings sentReads
    cases outcome with
    | error fault => simp [state, warnings, reads, sentWarnings, sentReads]
    | ok _ =>
        have announced (settings : Settings) : ({ calls := [.openStream]
                                                  logs := [connectReport settings] } :
            Effects).warnings = 0 := rfl
        simp [state, warnings, reads, sentWarnings, sentReads, announced]

theorem cancelIf_setScript (condition : Bool) (feed : Feed) (script : List ScriptItem) :
    ({ feed with script } : Feed).cancelIf condition =
      ({ (feed.cancelIf condition).1 with script }, (feed.cancelIf condition).2) := by
  cases condition <;> rfl

/-- Entering does not look at the script. -/
theorem enter_setScript (feed : Feed) (script : List ScriptItem) :
    ({ feed with script } : Feed).enter =
      (feed.enter.1, { feed.enter.2.1 with script }, feed.enter.2.2) := by
  simp only [enter, cancelIf_setScript]
  rcases feed.cancelIf feed.link.cancelsWhileConnecting with ⟨reached, effects⟩
  dsimp only
  cases reached.link.connectFault with
  | some fault => rfl
  | none =>
      have same : ({ reached with script } : Feed).sendWatch = reached.sendWatch := rfl
      rw [same]
      rcases reached.sendWatch with ⟨outcome, sent⟩
      cases outcome <;> rfl

theorem script_enter (feed : Feed) : feed.enter.2.1.script = feed.script := by
  obtain ⟨state, _⟩ := enter_spec feed
  rw [state]
  split <;> rfl

end MarineFix.Feed
