import MarineFix.Proofs.Decode.Framing
/-!
A decoder that insists on a checksum detects a replaced character.
-/

namespace MarineFix

open Sentence

namespace Sentence

/-- A replaced character is the last one only at the last place. -/
theorem isBlank_getLast_set {text : Text} {index : Nat} {new : Char}
    (solid : ∀ character, text.getLast? = some character → Text.isBlank character = false)
    (kept : Text.isBlank new = true → index + 1 ≠ text.length) :
    ∀ character, (text.set index new).getLast? = some character →
      Text.isBlank character = false := by
  intro character last
  rw [List.getLast?_eq_getElem?, List.length_set, List.getElem?_set] at last
  split at last
  · rename_i place
    split at last
    · rename_i inside
      rw [Option.some.injEq] at last
      subst last
      by_contra blank
      rw [Bool.not_eq_false] at blank
      have := kept blank
      omega
    · simp at last
  · rw [← List.getLast?_eq_getElem?] at last
    exact solid character last

/-- A stripped digit leaves an incomplete frame. -/
theorem frame?_of_blank_low {framed : Text} {high blank : Char} (absent : '*' ∉ framed)
    (solid : Text.isBlank high = false) (lost : Text.isBlank blank = true) :
    frame? ('$' :: (framed ++ ['*', high, blank])) = none := by
  have line : Text.strip ('$' :: (framed ++ ['*', high, blank])) =
      '$' :: (framed ++ ['*', high]) := by
    rw [Text.strip_cons_of_not_blank (by decide),
      show '$' :: (framed ++ ['*', high, blank]) = '$' :: (framed ++ ['*', high]) ++ [blank] by simp,
      Text.stripRight_append_of_blank _ lost,
      show '$' :: (framed ++ ['*', high]) = '$' :: (framed ++ ['*']) ++ [high] by simp,
      Text.stripRight_append_of_not_blank _ solid]
  simp [frame?, line, dropWhile_bne_append absent]

/-- A stripped leader leaves a frame at a later leader only. -/
theorem content_of_blank_leader {framed found : Text} {blank high low : Char} {declared : Nat}
    (lost : Text.isBlank blank = true) (solid : Text.isBlank low = false)
    (frame : frame? (blank :: (framed ++ ['*', high, low])) = some (found, declared)) :
    ∃ blanks, (∀ character ∈ blanks, Text.isBlank character = true) ∧
      framed = blanks ++ '$' :: found := by
  obtain ⟨_, first, second, line, _⟩ := frame?_eq_some_iff.mp frame
  rw [Text.strip_of_getLast, Text.stripLeft_cons_of_blank lost, Text.stripLeft] at line
  · refine ⟨(framed ++ ['*', high, low]).takeWhile Text.isBlank, ?_, ?_⟩
    · intro character member
      have all := List.all_takeWhile (p := Text.isBlank) (l := framed ++ ['*', high, low])
      exact List.all_eq_true.mp all character member
    · have whole := List.takeWhile_append_dropWhile (p := Text.isBlank)
        (l := framed ++ ['*', high, low])
      rw [line, ← List.cons_append, ← List.append_assoc] at whole
      exact (List.append_inj' whole rfl).1.symm
  · intro character last
    rw [getLast?_frame, Option.some.injEq] at last
    exact last ▸ solid

/-- Two complete frames of one length that differ in one character have one content. -/
theorem content_of_set {framed found : Text} {high low first second new : Char} {index : Nat}
    (digits : hexPair? high low = some (checksum framed))
    (others : hexPair? first second = some (checksum found))
    (line : ('$' :: (framed ++ ['*', high, low])).set index new =
      '$' :: (found ++ ['*', first, second])) : found = framed := by
  cases index with
  | zero =>
      rw [List.set_cons_zero, List.cons.injEq] at line
      exact (List.append_inj' line.2 rfl).1.symm
  | succ index =>
      rw [List.set_cons_succ, List.cons.injEq, List.set_append] at line
      split at line
      · obtain ⟨same, tail⟩ := List.append_inj' line.2 rfl
        cases tail
        rw [digits, Option.some.injEq] at others
        rw [← same] at others ⊢
        exact set_eq_of_checksum_eq others.symm
      · exact (List.append_inj' line.2 (by simp)).1.symm

/-- A frame that stays valid keeps its content or loses its leader. -/
theorem content_of_corrupted {sentence framed found : Text} {index : Nat} {new : Char}
    (frame : frame? sentence = some (framed, checksum framed))
    (corrupted : frame? ((Text.strip sentence).set index new) = some (found, checksum found)) :
    found = framed ∨ ∃ blanks, (∀ character ∈ blanks, Text.isBlank character = true) ∧
      framed = blanks ++ '$' :: found := by
  obtain ⟨absent, high, low, line, digits⟩ := frame?_eq_some_iff.mp frame
  obtain ⟨_, first, second, other, others⟩ := frame?_eq_some_iff.mp corrupted
  obtain ⟨solidHigh, solidLow⟩ := isBlank_of_hexPair? digits
  rw [line] at corrupted other
  have solid : ∀ character, ('$' :: (framed ++ ['*', high, low])).getLast? = some character →
      Text.isBlank character = false := by
    intro character last
    rw [getLast?_frame, Option.some.injEq] at last
    exact last ▸ solidLow
  by_cases blank : Text.isBlank new = true
  · cases index with
    | zero =>
        rw [List.set_cons_zero] at corrupted
        exact .inr (content_of_blank_leader blank solidLow corrupted)
    | succ index =>
        by_cases last : index = framed.length + 2
        · have lost : ('$' :: (framed ++ ['*', high, low])).set (index + 1) new =
              '$' :: (framed ++ ['*', high, new]) := by
            subst last
            simp
          rw [lost, frame?_of_blank_low absent solidHigh blank] at corrupted
          simp at corrupted
        · left
          rw [Text.strip_of_getLast, List.set_cons_succ,
            Text.stripLeft_cons_of_not_blank (by decide), ← List.set_cons_succ] at other
          · exact content_of_set digits others other
          · apply isBlank_getLast_set solid
            intro _
            simpa using last
  · left
    rw [Bool.not_eq_true] at blank
    rw [Text.strip_of_getLast, Text.stripLeft_of_head] at other
    · exact content_of_set digits others other
    · intro character head
      cases index with
      | zero =>
          rw [List.set_cons_zero, List.head?_cons, Option.some.injEq] at head
          exact head ▸ blank
      | succ index =>
          rw [List.set_cons_succ, List.head?_cons, Option.some.injEq] at head
          subst head
          decide
    · apply isBlank_getLast_set solid
      simp [blank]

end Sentence

namespace Decoder

/-- A message type that lost its start is too short for the standard table. -/
theorem decodeFields_of_lost_leader {blanks found : Text} {record : Record}
    (only : ∀ character ∈ blanks, Text.isBlank character = true)
    (decoded : HandlerTable.standard.decodeFields (splitCommas (blanks ++ '$' :: found)) =
      .ok record) (table : HandlerTable) :
    ∃ failure, table.decodeFields (splitCommas found) = .error failure := by
  have whole := HandlerTable.length_type_of_standard decoded
  have solid : ∀ character ∈ blanks ++ ['$'], (character != ',') = true := by
    intro character member
    rw [bne_iff_ne]
    rintro rfl
    rcases List.mem_append.mp member with found | found
    · exact absurd (only _ found) (by decide)
    · exact absurd found (by decide)
  rw [pick_splitCommas_zero, show blanks ++ '$' :: found = blanks ++ ['$'] ++ found by simp,
    List.takeWhile_append_of_pos solid] at whole
  have short : (pick (splitCommas found) 0).length < 5 := by
    rw [pick_splitCommas_zero]
    simp only [List.length_append, List.length_cons, List.length_nil] at whole
    omega
  exact ⟨.shortType (pick (splitCommas found) 0), by simp [HandlerTable.decodeFields, short]⟩

/-- One replaced character of a line is detected or leaves its record as it is. -/
theorem decode_set_strip {sentence : Text} {record : Record}
    (decoded : decode {} sentence = .ok record) (index : Nat) (new : Char) :
    (∃ failure, decode {} ((Text.strip sentence).set index new) = .error failure) ∨
      decode {} ((Text.strip sentence).set index new) = .ok record := by
  have valid := validChecksum_of_decode rfl decoded
  obtain ⟨framed, frame⟩ := validChecksum_iff.mp valid
  cases checked : validChecksum ((Text.strip sentence).set index new) with
  | false => exact .inl (decode_of_not_validChecksum rfl checked)
  | true =>
      obtain ⟨found, corrupted⟩ := validChecksum_iff.mp checked
      rcases content_of_corrupted frame corrupted with same | ⟨blanks, only, lost⟩
      · right
        rw [← decoded]
        exact decode_congr {} (same ▸ corrupted) frame
      · left
        rw [decode_of_validChecksum _ valid, fields, content_of_frame? frame, lost] at decoded
        rw [decode_of_validChecksum _ checked, fields, content_of_frame? corrupted]
        exact decodeFields_of_lost_leader only decoded _

/-- A checksum digit in the other case leaves the record as it is. -/
theorem decode_set_strip_letter_case :
    decode {} "$GPVTG,,,,,,,,,*7E".toList =
        .ok (.vtg ⟨some .gps, none, none, none, none, none⟩) ∧
      ((∃ failure, decode {} ((Text.strip "$GPVTG,,,,,,,,,*7E".toList).set 17 'e') =
          .error failure) ∨
        decode {} ((Text.strip "$GPVTG,,,,,,,,,*7E".toList).set 17 'e') =
          .ok (.vtg ⟨some .gps, none, none, none, none, none⟩)) := by
  have decoded : decode {} "$GPVTG,,,,,,,,,*7E".toList =
      .ok (.vtg ⟨some .gps, none, none, none, none, none⟩) := by decide
  exact ⟨decoded, decode_set_strip decoded 17 'e'⟩

end Decoder

end MarineFix
