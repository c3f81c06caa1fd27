import MarineFix.Decode.Decoder
import MarineFix.Proofs.Sentence.Frame
/-!
The frame of a line is tested first, and from then on its fields alone decide.
-/

namespace MarineFix

open Sentence

namespace HandlerTable

/-- What a table makes of the fields of a framed line. -/
def decodeFields (table : HandlerTable) (fields : List Text) : Except Failure Record :=
  let type := pick fields 0
  if type.length < 5 then .error (.shortType type)
  else match table.find? (type.drop 2) with
    | none => .error (.unsupported (type.drop 2))
    | some handler => (handler.decodeFields (.ofTalker (type.take 2)) fields).mapError .field

theorem mem_kinds_of_find? {table : HandlerTable} {kind : Text} {handler : Handler}
    (found : table.find? kind = some handler) : kind ∈ table.kinds := by
  obtain ⟨front, back, entries, _⟩ := List.lookup_eq_some_iff.mp found
  simp [kinds, entries]

/-- The message type of a record is long enough, and its kind is known. -/
theorem mem_kinds_of_decodeFields {table : HandlerTable} {fields : List Text} {record : Record}
    (decoded : table.decodeFields fields = .ok record) :
    5 ≤ (pick fields 0).length ∧ (pick fields 0).drop 2 ∈ table.kinds := by
  simp only [decodeFields] at decoded
  split at decoded
  · simp at decoded
  · rename_i long
    split at decoded
    · simp at decoded
    · rename_i handler found
      exact ⟨Nat.le_of_not_lt long, mem_kinds_of_find? found⟩

/-- The kinds of the standard table have three characters. -/
theorem length_type_of_standard {fields : List Text} {record : Record}
    (decoded : standard.decodeFields fields = .ok record) : (pick fields 0).length = 5 := by
  obtain ⟨long, known⟩ := mem_kinds_of_decodeFields decoded
  have three : ∀ kind ∈ standard.kinds, kind.length = 3 := by decide
  have short := three _ known
  rw [List.length_drop] at short
  omega

end HandlerTable

namespace Decoder

/-- Decoding tests the frame, and then the fields alone decide. -/
theorem decode_eq (decoder : Decoder) (sentence : Text) :
    decoder.decode sentence =
      (checkFrame decoder.requireChecksum (Text.strip sentence)).bind fun _ =>
        decoder.table.decodeFields (fields sentence) := by
  have same : fields (Text.strip sentence) = fields sentence := by
    simp only [fields, content, Text.strip_strip]
  simp only [decode, messageType, dispatch, HandlerTable.decodeFields, Handler.decode, same, bind,
    Except.bind]
  cases checkFrame decoder.requireChecksum (Text.strip sentence) with
  | error failure => rfl
  | ok _ =>
      by_cases short : (pick (fields sentence) 0).length < 5
      · simp only [short, if_true]
      · cases found : decoder.table.find? ((pick (fields sentence) 0).drop 2) with
        | none => simp only [short, if_false, found]
        | some handler => simp only [short, if_false, found]

theorem decode_strip (decoder : Decoder) (sentence : Text) :
    decoder.decode (Text.strip sentence) = decoder.decode sentence := by
  simp only [decode, Text.strip_strip]

/-- A sentence without a leader is rejected. -/
theorem decode_of_no_leader (decoder : Decoder) {sentence : Text}
    (absent : (Text.strip sentence).head? ≠ some '$') :
    ∃ failure, decoder.decode sentence = .error failure := by
  rw [decode_eq, checkFrame, if_pos absent]
  exact ⟨_, rfl⟩

/-- A valid checksum puts the frame in order. -/
theorem checkFrame_of_validChecksum {sentence : Text} (requireChecksum : Bool)
    (valid : validChecksum sentence = true) :
    checkFrame requireChecksum (Text.strip sentence) = .ok () := by
  obtain ⟨content, frame⟩ := validChecksum_iff.mp valid
  obtain ⟨_, high, low, line, _⟩ := frame?_eq_some_iff.mp frame
  have leader : (Text.strip sentence).head? = some '$' := by rw [line]; rfl
  have marked : hasChecksum (Text.strip sentence) = true := by simp [hasChecksum, line]
  simp [checkFrame, leader, marked, valid]

theorem decode_of_validChecksum {sentence : Text} (decoder : Decoder)
    (valid : validChecksum sentence = true) :
    decoder.decode sentence = decoder.table.decodeFields (fields sentence) := by
  rw [decode_eq, checkFrame_of_validChecksum _ valid]
  rfl

/-- A decoder that insists on a checksum rejects every sentence without a valid one. -/
theorem decode_of_not_validChecksum {decoder : Decoder} {sentence : Text}
    (strict : decoder.requireChecksum = true) (invalid : validChecksum sentence = false) :
    ∃ failure, decoder.decode sentence = .error failure := by
  have rejected : ∃ failure, checkFrame true (Text.strip sentence) = .error failure := by
    simp only [checkFrame, validChecksum_strip, invalid]
    split
    · exact ⟨_, rfl⟩
    · split
      · exact ⟨_, rfl⟩
      · exact ⟨_, rfl⟩
  obtain ⟨failure, frame⟩ := rejected
  refine ⟨failure, ?_⟩
  rw [decode_eq, strict, frame]
  rfl

theorem validChecksum_of_decode {decoder : Decoder} {sentence : Text} {record : Record}
    (strict : decoder.requireChecksum = true) (decoded : decoder.decode sentence = .ok record) :
    validChecksum sentence = true := by
  by_contra invalid
  rw [Bool.not_eq_true] at invalid
  obtain ⟨failure, rejected⟩ := decode_of_not_validChecksum strict invalid
  simp [decoded] at rejected

/-- Two valid frames around one content decode alike. -/
theorem decode_congr {first second framed : Text} (decoder : Decoder)
    (firstFrame : frame? first = some (framed, checksum framed))
    (secondFrame : frame? second = some (framed, checksum framed)) :
    decoder.decode first = decoder.decode second := by
  have same : fields first = fields second := by
    rw [fields, fields, content_of_frame? firstFrame, content_of_frame? secondFrame]
  rw [decode_of_validChecksum decoder (validChecksum_iff.mpr ⟨framed, firstFrame⟩),
    decode_of_validChecksum decoder (validChecksum_iff.mpr ⟨framed, secondFrame⟩), same]

end Decoder

end MarineFix
