import Mathlib.Data.List.Basic
import MarineFix.Proofs.Decode.Framing
import MarineFix.Proofs.Sentence.Checksum
/-!
A checksum covers the content that is cut into fields, and nothing else decides.
-/

namespace MarineFix

open Sentence

namespace Decoder

/-- A line with a mark or without a leader never misses its checksum. -/
theorem checkFrame_congr {line : Text} (decided : '*' ∈ line ∨ line.head? ≠ some '$') :
    checkFrame true line = checkFrame false line := by
  rw [checkFrame, checkFrame]
  rcases decided with marked | leaderless
  · have found : hasChecksum line = true := by simpa [hasChecksum] using marked
    rw [found]
    rfl
  · rw [if_pos leaderless, if_pos leaderless]

/-- A line without a mark is in order unless a checksum is required. -/
theorem checkFrame_of_unmarked (requireChecksum : Bool) {line : Text}
    (leader : line.head? = some '$') (unmarked : '*' ∉ line) :
    checkFrame requireChecksum line =
      if requireChecksum then .error (.checksumMissing line) else .ok () := by
  have absent : hasChecksum line = false := by simpa [hasChecksum] using unmarked
  simp [checkFrame, leader, absent]

/-- The right checksum replaces the permission to have none. -/
theorem decode_of_unmarked (table : HandlerTable) {sentence body : Text} {high low : Char}
    (line : Text.strip sentence = '$' :: body) (unmarked : '*' ∉ body)
    (digits : hexPair? high low = some (checksum body)) :
    decode { requireChecksum := false, table } sentence =
      decode { requireChecksum := true, table } ('$' :: (body ++ ['*', high, low])) := by
  have frame := frame?_framed unmarked digits
  have accepted : checkFrame false (Text.strip sentence) = .ok () := by
    rw [line, checkFrame_of_unmarked false rfl (by simpa using unmarked)]
    rfl
  have same : fields sentence = fields ('$' :: (body ++ ['*', high, low])) := by
    rw [fields, fields, content_of_unmarked line unmarked, content_of_frame? frame]
  rw [decode_of_validChecksum _ (validChecksum_iff.mpr ⟨body, frame⟩), ← same, decode_eq, accepted]
  rfl

/-- Strict and lenient decoders differ only on sentences without a checksum. -/
theorem decode_strict_lenient (table : HandlerTable) (sentence : Text) :
    let strict : Decoder := { requireChecksum := true, table }
    let lenient : Decoder := { requireChecksum := false, table }
    let line := Text.strip sentence
    let body := line.tail
    if '*' ∈ line ∨ line.head? ≠ some '$' then
      strict.decode sentence = lenient.decode sentence
    else
      strict.decode sentence = .error (.checksumMissing line) ∧
        (checksum body < 0x100 → ∃ high low, Text.hexadecimal 2 (checksum body) = [high, low] ∧
          hexPair? high low = some (checksum body)) ∧
        ∀ high low, hexPair? high low = some (checksum body) →
          lenient.decode sentence = strict.decode ('$' :: (body ++ ['*', high, low])) := by
  intro strict lenient line body
  split
  · rename_i decided
    rw [decode_eq, decode_eq, checkFrame_congr decided]
  · rename_i undecided
    obtain ⟨unmarked, leader⟩ := not_or.mp undecided
    rw [ne_eq, not_not] at leader
    have split : line = '$' :: body := (List.cons_head?_tail leader).symm
    have absent : '*' ∉ body := fun found => unmarked (List.mem_of_mem_tail found)
    refine ⟨?_, exists_hexPair, fun high low digits => decode_of_unmarked table split absent digits⟩
    rw [decode_eq, checkFrame_of_unmarked true leader unmarked]
    rfl

/-- The fields of a sentence with a valid checksum are those of the content it covers. -/
theorem fields_of_validChecksum {sentence : Text} (valid : validChecksum sentence = true) :
    ∃ framed, frame? sentence = some (framed, checksum framed) ∧
      [','].intercalate (fields sentence) = framed ∧
      (fields sentence).length = framed.count ',' + 1 ∧
      ∀ (decoder : Decoder) (other : Text), validChecksum other = true →
        (frame? other).map Prod.fst = some framed →
          decoder.decode other = decoder.decode sentence := by
  obtain ⟨framed, frame⟩ := validChecksum_iff.mp valid
  have covered := content_of_frame? frame
  refine ⟨framed, frame, ?_, ?_, ?_⟩
  · rw [fields, covered, intercalate_splitCommas]
  · rw [fields, covered, length_splitCommas]
  · intro decoder other otherValid same
    obtain ⟨found, otherFrame⟩ := validChecksum_iff.mp otherValid
    rw [otherFrame, Option.map_some, Option.some.injEq] at same
    dsimp only at same
    subst same
    exact decode_congr decoder otherFrame frame

/-- A second leader and the blanks of a content belong to its fields. -/
theorem fields_of_validChecksum_letter_case :
    let sentence := "  $$GPXYW, \n,*4F\r\n".toList
    let other := "$$GPXYW, \n,*4f".toList
    let framed := "$GPXYW, \n,".toList
    validChecksum sentence = true ∧ validChecksum other = true ∧
      [','].intercalate (fields sentence) = framed ∧ (fields sentence).length = 3 ∧
      ∀ decoder : Decoder, decoder.decode other = decoder.decode sentence := by
  intro sentence other framed
  have valid : validChecksum sentence = true := by decide
  have otherValid : validChecksum other = true := by decide
  have otherFrame : (frame? other).map Prod.fst = some framed := by decide
  have frame : frame? sentence = some (framed, 0x4F) := by decide
  obtain ⟨found, foundFrame, joined, _, alike⟩ := fields_of_validChecksum valid
  obtain ⟨rfl, _⟩ := Prod.mk.inj (Option.some.inj (frame.symm.trans foundFrame))
  exact ⟨valid, otherValid, joined, by decide,
    fun decoder => alike decoder other otherValid otherFrame⟩

end Decoder

end MarineFix
