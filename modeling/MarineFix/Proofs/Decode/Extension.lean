import MarineFix.Proofs.Decode.Kinds
/-!
A table with more kinds changes nothing for the sentences that the smaller table supports.
-/

namespace MarineFix

open Sentence

/-- A reading of a sentence gives a record or fails at a field. -/
abbrev Reading := NavigationSystem → Text → Except FieldFailure Record

/-- The known kinds, each with its reading. -/
abbrev Readings := Text → Option Reading

/-- The kinds that are known keep their readings, and other kinds may become known. -/
def Readings.Extend (wide narrow : Readings) : Prop :=
  ∀ kind reading, narrow kind = some reading → wide kind = some reading

namespace HandlerTable

def readings (table : HandlerTable) : Readings := fun kind =>
  (table.find? kind).map Handler.decode

theorem extend_readings {wide narrow : HandlerTable}
    (kept : ∀ kind ∈ narrow.kinds, wide.find? kind = narrow.find? kind) :
    wide.readings.Extend narrow.readings := by
  intro kind reading known
  obtain ⟨handler, found, same⟩ := Option.map_eq_some_iff.mp known
  rw [readings, kept kind (mem_kinds_of_find? found), found, Option.map_some, same]

end HandlerTable

namespace Decoder

/-- The kind selects the reading, and the talker gives the source of the record. -/
def dispatchWith (readings : Readings) (line talker kind : Text) : Except Failure Record :=
  match readings kind with
  | none => .error (.unsupported kind)
  | some reading => (reading (.ofTalker talker) line).mapError .field

/-- Decoding with a table of readings. -/
def decodeWith (requireChecksum : Bool) (readings : Readings) (sentence : Text) :
    Except Failure Record := do
  let line := Text.strip sentence
  checkFrame requireChecksum line
  let (talker, kind) ← messageType line
  dispatchWith readings line talker kind

theorem dispatch_eq_dispatchWith (table : HandlerTable) (line talker kind : Text) :
    dispatch table line talker kind = dispatchWith table.readings line talker kind := by
  rw [dispatch, dispatchWith, HandlerTable.readings]
  cases table.find? kind <;> rfl

/-- A decoder is one with the readings of its handlers. -/
theorem decode_eq_decodeWith (decoder : Decoder) (sentence : Text) :
    decoder.decode sentence =
      decodeWith decoder.requireChecksum decoder.table.readings sentence := by
  simp only [decode, decodeWith, dispatch_eq_dispatchWith]

section

variable {readings : Readings} {line talker kind : Text}

theorem dispatchWith_of_unknown (unknown : readings kind = none) :
    dispatchWith readings line talker kind = .error (.unsupported kind) := by
  rw [dispatchWith, unknown]

theorem dispatchWith_of_known {reading : Reading} (known : readings kind = some reading) :
    dispatchWith readings line talker kind =
      (reading (.ofTalker talker) line).mapError .field := by
  rw [dispatchWith, known]

/-- A known kind fails at a field if it fails. -/
theorem exists_field_of_known {reading : Reading} (known : readings kind = some reading)
    {failure : Failure} (failed : dispatchWith readings line talker kind = .error failure) :
    ∃ fault, failure = .field fault := by
  rw [dispatchWith_of_known known] at failed
  cases outcome : reading (.ofTalker talker) line with
  | ok record =>
      rw [outcome] at failed
      cases failed
  | error fault =>
      rw [outcome] at failed
      cases failed
      exact ⟨fault, rfl⟩

end

/-- A sentence fails alike with all tables, or the table decides about its kind. -/
theorem decodeWith_cases (requireChecksum : Bool) (sentence : Text) :
    (∃ failure : Failure, failure.IsUnframed ∧
      ∀ readings, decodeWith requireChecksum readings sentence = .error failure) ∨
    ∀ readings, decodeWith requireChecksum readings sentence =
      dispatchWith readings (Text.strip sentence) ((pick (fields sentence) 0).take 2)
        ((pick (fields sentence) 0).drop 2) := by
  have same : fields (Text.strip sentence) = fields sentence := by
    simp only [fields, content, Text.strip_strip]
  cases frame : checkFrame requireChecksum (Text.strip sentence) with
  | error failure =>
      refine .inl ⟨failure, unframed_of_checkFrame frame, fun readings => ?_⟩
      simp only [decodeWith, frame]
      rfl
  | ok _ =>
      by_cases short : (pick (fields sentence) 0).length < 5
      · refine .inl ⟨.shortType (pick (fields sentence) 0), .inr rfl, fun readings => ?_⟩
        simp only [decodeWith, frame, messageType, same, if_pos short]
        rfl
      · refine .inr fun readings => ?_
        simp only [decodeWith, frame, messageType, same, if_neg short]
        rfl

section

variable {requireChecksum : Bool} {sentence : Text} {narrow wide : Readings} {failure : Failure}

/-- A sentence that is not unsupported keeps its outcome. -/
theorem decodeWith_of_extend (extend : wide.Extend narrow)
    (supported : ∀ failure, decodeWith requireChecksum narrow sentence = .error failure →
      failure.category ≠ .unsupportedSentence) :
    decodeWith requireChecksum wide sentence = decodeWith requireChecksum narrow sentence := by
  rcases decodeWith_cases requireChecksum sentence with ⟨failure, _, rejected⟩ | dispatched
  · rw [rejected, rejected]
  · rw [dispatched] at supported
    rw [dispatched, dispatched]
    cases asked : narrow ((pick (fields sentence) 0).drop 2) with
    | none => exact absurd rfl (supported _ (dispatchWith_of_unknown asked))
    | some reading =>
        rw [dispatchWith_of_known asked, dispatchWith_of_known (extend _ _ asked)]

/-- An unsupported sentence tells its unknown kind. -/
theorem unknown_of_unsupported
    (failed : decodeWith requireChecksum narrow sentence = .error failure)
    (unsupported : failure.category = .unsupportedSentence) :
    failure = .unsupported ((pick (fields sentence) 0).drop 2) ∧
      narrow ((pick (fields sentence) 0).drop 2) = none ∧
      ∀ readings, decodeWith requireChecksum readings sentence =
        dispatchWith readings (Text.strip sentence) ((pick (fields sentence) 0).take 2)
          ((pick (fields sentence) 0).drop 2) := by
  rcases decodeWith_cases requireChecksum sentence with ⟨other, unframed, rejected⟩ | dispatched
  · rw [rejected] at failed
    cases failed
    exact absurd unsupported unframed.category_ne
  · rw [dispatched] at failed
    cases asked : narrow ((pick (fields sentence) 0).drop 2) with
    | none =>
        rw [dispatchWith_of_unknown asked] at failed
        exact ⟨(Except.error.inj failed).symm, rfl, dispatched⟩
    | some reading =>
        obtain ⟨fault, rfl⟩ := exists_field_of_known asked failed
        exact absurd unsupported (Failure.category_of_field fault).2

/-- A sentence that no table is asked about is rejected by every table. -/
theorem decodeWith_of_unframed
    (failed : decodeWith requireChecksum narrow sentence = .error failure)
    (unframed : failure.IsUnframed) (readings : Readings) :
    decodeWith requireChecksum readings sentence = .error failure := by
  rcases decodeWith_cases requireChecksum sentence with ⟨other, _, rejected⟩ | dispatched
  · rw [rejected, ← rejected narrow, failed]
  · rw [dispatched] at failed
    cases asked : narrow ((pick (fields sentence) 0).drop 2) with
    | none =>
        rw [dispatchWith_of_unknown asked] at failed
        cases failed
        exact absurd rfl unframed.category_ne
    | some reading =>
        obtain ⟨fault, rfl⟩ := exists_field_of_known asked failed
        exact absurd unframed (Failure.category_of_field fault).1

end

/-- Further kinds in a table change the outcome of no sentence that it supports. -/
theorem extension_conservative (requireChecksum : Bool) (sentence : Text) :
    (∀ table : HandlerTable, decode { requireChecksum, table } sentence =
      decodeWith requireChecksum table.readings sentence) ∧
    (∀ narrow wide : HandlerTable,
      (∀ kind ∈ narrow.kinds, wide.find? kind = narrow.find? kind) →
        wide.readings.Extend narrow.readings) ∧
    ∀ narrow wide : Readings, wide.Extend narrow →
      let before := decodeWith requireChecksum narrow sentence
      let later := decodeWith requireChecksum wide sentence
      let talker := (pick (fields sentence) 0).take 2
      let kind := (pick (fields sentence) 0).drop 2
      ((∀ failure, before = .error failure → failure.category ≠ .unsupportedSentence) →
        later = before) ∧
      (∀ failure, before = .error failure → failure.category = .unsupportedSentence →
        failure.sentenceKind? = some kind ∧ narrow kind = none ∧
        (wide kind = none → later = .error failure) ∧
        ∀ reading, wide kind = some reading →
          later = (reading (.ofTalker talker) (Text.strip sentence)).mapError .field) ∧
      ∀ failure, before = .error failure →
        failure.category = .checksum ∨ failure.category = .malformedSentence →
          failure.sentenceKind? = none ∧
            ∀ readings, decodeWith requireChecksum readings sentence = .error failure := by
  refine ⟨fun table => decode_eq_decodeWith _ sentence, ?_, ?_⟩
  · exact fun narrow wide kept => HandlerTable.extend_readings kept
  intro narrow wide extend before later talker kind
  refine ⟨decodeWith_of_extend extend, ?_, ?_⟩
  · intro failure failed unsupported
    obtain ⟨rfl, unknown, dispatched⟩ := unknown_of_unsupported failed unsupported
    refine ⟨rfl, unknown, ?_, ?_⟩
    · exact fun absent => (dispatched wide).trans (dispatchWith_of_unknown absent)
    · exact fun reading known => (dispatched wide).trans (dispatchWith_of_known known)
  · intro failure failed unframed
    have framing : failure.IsUnframed := unframed
    exact ⟨framing.sentenceKind?_eq, decodeWith_of_unframed failed framing⟩

/-- A reading that rejects each sentence and quotes its line and its source. -/
theorem extension_conservative_text :
    let sentence := " $GPTXT,01\r\n".toList
    let kind := ['T', 'X', 'T']
    let reading : Reading := fun source line => .error ⟨kind, 1, line, .letter source.name⟩
    let wide : Readings := fun other =>
      if other = kind then some reading else HandlerTable.standard.readings other
    wide.Extend HandlerTable.standard.readings ∧
      decode { requireChecksum := false } sentence = .error (.unsupported kind) ∧
      decodeWith false wide sentence =
        .error (.field ⟨kind, 1, "$GPTXT,01".toList, .letter "GPS".toList⟩) := by
  intro sentence kind reading wide
  have extend : wide.Extend HandlerTable.standard.readings := by
    intro other known found
    by_cases same : other = kind
    · rw [same] at found
      cases found
    · exact (if_neg same).trans found
  obtain ⟨own, _, grown⟩ := extension_conservative false sentence
  have rejected : decode { requireChecksum := false } sentence = .error (.unsupported kind) := by
    decide
  obtain ⟨_, unknown, _⟩ := grown HandlerTable.standard.readings wide extend
  obtain ⟨_, _, _, asked⟩ := unknown _ ((own .standard).symm.trans rejected) rfl
  exact ⟨extend, rejected, asked reading rfl⟩

end Decoder

end MarineFix
