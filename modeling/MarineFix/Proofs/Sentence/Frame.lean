import MarineFix.Sentence.Checksum
import Mathlib.Data.List.TakeWhile
import Mathlib.Data.Nat.Bitwise
/-!
A frame is a leader, a content, an asterisk and two hexadecimal digits.
-/

namespace MarineFix.Sentence

theorem takeWhile_bne_append {mark : Char} {text : Text} (absent : mark ∉ text) (rest : Text) :
    (text ++ mark :: rest).takeWhile (· != mark) = text := by
  rw [List.takeWhile_append_of_pos]
  · simp
  · intro character found
    simp only [bne_iff_ne]
    exact fun same => absent (same ▸ found)

theorem dropWhile_bne_append {mark : Char} {text : Text} (absent : mark ∉ text) (rest : Text) :
    (text ++ mark :: rest).dropWhile (· != mark) = mark :: rest := by
  rw [List.dropWhile_append_of_pos]
  · simp
  · intro character found
    simp only [bne_iff_ne]
    exact fun same => absent (same ▸ found)

theorem not_mem_takeWhile_bne (mark : Char) (text : Text) :
    mark ∉ text.takeWhile (· != mark) := by
  intro found
  have kept := List.all_takeWhile (p := (· != mark)) (l := text)
  rw [List.all_eq_true] at kept
  simpa using kept mark found

theorem takeWhile_bne_of_not_mem {mark : Char} {text : Text} (absent : mark ∉ text) :
    text.takeWhile (· != mark) = text := by
  rw [List.takeWhile_eq_self_iff]
  intro character found
  rw [bne_iff_ne]
  exact fun same => absent (same ▸ found)

/-- The first field ends at the first comma. -/
theorem pick_splitCommas_zero (text : Text) :
    pick (splitCommas text) 0 = text.takeWhile (· != ',') := by
  induction text with
  | nil => rfl
  | cons character rest ih =>
      obtain ⟨first, others, split⟩ := List.exists_cons_of_ne_nil (splitCommas_ne_nil rest)
      rw [split, pick_cons_zero] at ih
      by_cases comma : character = ','
      · subst comma
        simp
      · simp [splitCommas, comma, split, ih]

theorem isBlank_of_hexPair? {high low : Char} {declared : Nat}
    (digits : hexPair? high low = some declared) :
    Text.isBlank high = false ∧ Text.isBlank low = false := by
  obtain ⟨sixteens, first, rest⟩ := Option.bind_eq_some_iff.mp digits
  obtain ⟨ones, second, _⟩ := Option.map_eq_some_iff.mp rest
  exact ⟨Text.isBlank_of_hexDigit? first, Text.isBlank_of_hexDigit? second⟩

theorem getLast?_frame (first : Char) (framed : Text) (high low : Char) :
    (first :: (framed ++ ['*', high, low])).getLast? = some low := by
  rw [show first :: (framed ++ ['*', high, low]) = (first :: framed ++ ['*', high]) ++ [low] by simp,
    List.getLast?_concat]

/-- A complete frame has no blanks around it. -/
theorem strip_framed (framed : Text) {high low : Char} {declared : Nat}
    (digits : hexPair? high low = some declared) :
    Text.strip ('$' :: (framed ++ ['*', high, low])) = '$' :: (framed ++ ['*', high, low]) := by
  rw [Text.strip_of_getLast, Text.stripLeft_cons_of_not_blank (by decide)]
  intro character last
  rw [getLast?_frame, Option.some.injEq] at last
  exact last ▸ (isBlank_of_hexPair? digits).2

/-- A frame is a leader, a content, an asterisk and two digits. -/
theorem frame?_eq_some_iff {sentence content : Text} {declared : Nat} :
    frame? sentence = some (content, declared) ↔
      '*' ∉ content ∧ ∃ high low, Text.strip sentence = '$' :: (content ++ ['*', high, low]) ∧
        hexPair? high low = some declared := by
  constructor
  · intro framed
    rw [frame?] at framed
    split at framed
    · rename_i body line
      split at framed
      · rename_i high low tail
        obtain ⟨value, digits, same⟩ := Option.map_eq_some_iff.mp framed
        cases same
        refine ⟨not_mem_takeWhile_bne '*' body, high, low, ?_, digits⟩
        rw [line, ← tail, List.takeWhile_append_dropWhile]
      · simp at framed
    · simp at framed
  · rintro ⟨absent, high, low, line, digits⟩
    simp only [frame?, line, takeWhile_bne_append absent, dropWhile_bne_append absent, digits,
      Option.map_some]

theorem frame?_framed {framed : Text} (absent : '*' ∉ framed) {high low : Char} {declared : Nat}
    (digits : hexPair? high low = some declared) :
    frame? ('$' :: (framed ++ ['*', high, low])) = some (framed, declared) :=
  frame?_eq_some_iff.mpr ⟨absent, high, low, strip_framed framed digits, digits⟩

@[simp] theorem frame?_strip (sentence : Text) : frame? (Text.strip sentence) = frame? sentence := by
  simp only [frame?, Text.strip_strip]

@[simp] theorem validChecksum_strip (sentence : Text) :
    validChecksum (Text.strip sentence) = validChecksum sentence := by
  simp only [validChecksum, frame?_strip]

/-- A sentence with a valid checksum declares the checksum of its content. -/
theorem validChecksum_iff {sentence : Text} :
    validChecksum sentence = true ↔
      ∃ content, frame? sentence = some (content, checksum content) := by
  rw [validChecksum]
  split
  · rename_i content declared framed
    rw [framed]
    simp only [beq_iff_eq, Option.some.injEq, Prod.mk.injEq]
    constructor
    · intro same
      exact ⟨content, rfl, same.symm⟩
    · rintro ⟨_, rfl, same⟩
      exact same.symm
  · rename_i unframed
    simp [unframed]

/-- What the checksum covers is what is cut into fields. -/
theorem content_of_frame? {sentence framed : Text} {declared : Nat}
    (frame : frame? sentence = some (framed, declared)) : content sentence = framed := by
  obtain ⟨absent, high, low, line, _⟩ := frame?_eq_some_iff.mp frame
  rw [content, line, dropLeader, takeWhile_bne_append absent]

/-- The content of a line without a checksum is all that follows its leader. -/
theorem content_of_unmarked {sentence body : Text} (line : Text.strip sentence = '$' :: body)
    (unmarked : '*' ∉ body) : content sentence = body := by
  rw [content, line, dropLeader, takeWhile_bne_of_not_mem unmarked]

/-- One character is determined by the checksum and all the others. -/
theorem eq_of_checksum_eq {before behind : Text} {first second : Char}
    (same : checksum (before ++ first :: behind) = checksum (before ++ second :: behind)) :
    first = second := by
  simp only [checksum_append, checksum_cons] at same
  have middle := Nat.xor_right_injective same
  exact Char.toNat_inj.mp (Nat.xor_left_injective middle)

/-- A replacement of one character that keeps the checksum keeps the content. -/
theorem set_eq_of_checksum_eq {content : Text} {index : Nat} {new : Char}
    (same : checksum (content.set index new) = checksum content) :
    content.set index new = content := by
  by_cases inside : index < content.length
  · have split : content = content.take index ++ content[index] :: content.drop (index + 1) := by
      simp
    rw [List.set_eq_take_append_cons_drop, if_pos inside] at same ⊢
    conv at same => rhs; rw [split]
    rw [eq_of_checksum_eq same]
    exact split.symm
  · exact List.set_eq_of_length_le (Nat.le_of_not_lt inside)

end MarineFix.Sentence
