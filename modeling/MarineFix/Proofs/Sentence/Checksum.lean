import MarineFix.Proofs.Sentence.Frame
import MarineFix.Proofs.Text.Blank
import MarineFix.Proofs.Text.Digits
/-!
The digits of a valid checksum write the exclusive or of the content.
-/

namespace MarineFix.Sentence

/-- The two hexadecimal digits of a number, each in lower or in upper case. -/
def IsHexPair (high low : Char) (value : Nat) : Prop :=
  ∃ sixteens ones, Text.IsHexDigit high sixteens ∧ Text.IsHexDigit low ones ∧
    value = 16 * sixteens + ones

section

variable {high low : Char} {value : Nat}

theorem hexPair?_eq_some_iff : hexPair? high low = some value ↔ IsHexPair high low value := by
  simp only [hexPair?, Option.bind_eq_some_iff, Option.map_eq_some_iff,
    Text.hexDigit?_eq_some_iff]
  constructor
  · rintro ⟨sixteens, first, ones, second, whole⟩
    exact ⟨sixteens, ones, first, second, whole.symm⟩
  · rintro ⟨sixteens, ones, first, second, whole⟩
    exact ⟨sixteens, first, ones, second, whole.symm⟩

theorem IsHexPair.lt (digits : IsHexPair high low value) : value < 0x100 := by
  obtain ⟨sixteens, ones, ⟨small, _⟩, ⟨smallOnes, _⟩, whole⟩ := digits
  omega

/-- A number of eight bits is written in two hexadecimal digits. -/
theorem exists_hexPair (small : value < 0x100) :
    ∃ high low, Text.hexadecimal 2 value = [high, low] ∧ hexPair? high low = some value := by
  have first : Text.hexadecimal 1 (value / 16) = [(value / 16).digitChar] := by
    rw [Text.hexadecimal, Nat.toDigits_of_lt_base (by omega)]
    rfl
  refine ⟨(value / 16).digitChar, (value % 16).digitChar, ?_, ?_⟩
  · rw [Text.hexadecimal_succ (by decide), first]
    rfl
  · have whole : 16 * (value / 16) + value % 16 = value := by omega
    rw [hexPair?, Text.hexDigit?_digitChar _ (by omega), Option.bind_some,
      Text.hexDigit?_digitChar _ (by omega), Option.map_some, whole]

/-- The digits of a number are unique up to their case. -/
theorem IsHexPair.iff_toLower (digits : IsHexPair high low value) {other last : Char} :
    IsHexPair other last value ↔ other.toLower = high.toLower ∧ last.toLower = low.toLower := by
  obtain ⟨sixteens, ones, first, second, rfl⟩ := digits
  rw [← Text.hexDigit?_eq_iff_toLower first, ← Text.hexDigit?_eq_iff_toLower second,
    Text.hexDigit?_eq_some_iff, Text.hexDigit?_eq_some_iff]
  constructor
  · rintro ⟨otherSixteens, otherOnes, otherFirst, otherSecond, same⟩
    have bound := second.1
    have otherBound := otherSecond.1
    obtain ⟨rfl, rfl⟩ : otherSixteens = sixteens ∧ otherOnes = ones := by omega
    exact ⟨otherFirst, otherSecond⟩
  · rintro ⟨otherFirst, otherSecond⟩
    exact ⟨sixteens, ones, otherFirst, otherSecond, rfl⟩

end

/-- The checksum has no more bits than the characters of the content. -/
theorem checksum_lt_two_pow (bits : Nat) {content : Text}
    (small : ∀ character ∈ content, character.toNat < 2 ^ bits) : checksum content < 2 ^ bits := by
  induction content with
  | nil => exact Nat.two_pow_pos bits
  | cons character rest ih =>
      rw [checksum_cons]
      exact Nat.xor_lt_two_pow (small character List.mem_cons_self)
        (ih fun other found => small other (List.mem_cons_of_mem _ found))

theorem strip_of_leader_of_mark (content rest : Text) :
    Text.strip ('$' :: (content ++ '*' :: rest)) =
      '$' :: (content ++ '*' :: Text.stripRight rest) := by
  rw [Text.strip_cons_of_not_blank (by decide), ← List.cons_append,
    Text.stripRight_append_cons_of_not_blank _ (by decide), List.cons_append]

/-- Only the digits of its exclusive or are a valid checksum of a content. -/
theorem validChecksum_framed_iff {content : Text} (unmarked : '*' ∉ content) {high low : Char} :
    validChecksum ('$' :: (content ++ ['*', high, low])) = true ↔
      IsHexPair high low (checksum content) := by
  rw [← hexPair?_eq_some_iff]
  constructor
  · intro valid
    obtain ⟨found, frame⟩ := validChecksum_iff.mp valid
    obtain ⟨absent, first, second, line, digits⟩ := frame?_eq_some_iff.mp frame
    rw [strip_of_leader_of_mark, List.cons.injEq] at line
    have same : content = found := by
      have cut := congrArg (List.takeWhile (· != '*')) line.2
      rwa [takeWhile_bne_append unmarked, takeWhile_bne_append absent] at cut
    subst same
    have tail : Text.stripRight [high, low] = [first, second] :=
      (List.cons.inj (List.append_cancel_left line.2)).2
    have whole : Text.stripRight [high, low] = [high, low] :=
      (Text.stripRight_prefix [high, low]).eq_of_length (by rw [tail]; rfl)
    rw [whole] at tail
    cases tail
    exact digits
  · intro digits
    exact validChecksum_iff.mpr ⟨content, frame?_framed unmarked digits⟩

/-- A sentence with a valid checksum is a frame between blanks. -/
theorem validChecksum_iff_exists {sentence : Text} :
    validChecksum sentence = true ↔
      ∃ before content high low behind, Text.IsBlanks before ∧ Text.IsBlanks behind ∧
        '*' ∉ content ∧ IsHexPair high low (checksum content) ∧
          sentence = before ++ '$' :: (content ++ ['*', high, low]) ++ behind := by
  constructor
  · intro valid
    obtain ⟨content, frame⟩ := validChecksum_iff.mp valid
    obtain ⟨unmarked, high, low, line, digits⟩ := frame?_eq_some_iff.mp frame
    obtain ⟨before, behind, left, right, split⟩ := Text.exists_blanks_around sentence
    rw [line] at split
    exact ⟨before, content, high, low, behind, left, right, unmarked,
      hexPair?_eq_some_iff.mp digits, split⟩
  · rintro ⟨before, content, high, low, behind, left, right, unmarked, digits, rfl⟩
    rw [← validChecksum_strip, Text.strip_between_blanks left right, validChecksum_strip]
    exact (validChecksum_framed_iff unmarked).mpr digits

/-- A content has a valid checksum exactly when its exclusive or is below 256. -/
theorem validChecksum_grammar :
    (∀ sentence : Text, validChecksum sentence = true ↔
      ∃ before content high low behind, Text.IsBlanks before ∧ Text.IsBlanks behind ∧
        '*' ∉ content ∧ IsHexPair high low (checksum content) ∧
          sentence = before ++ '$' :: (content ++ ['*', high, low]) ++ behind) ∧
    (∀ content : Text, '*' ∉ content →
      let valid (high low : Char) : Prop :=
        validChecksum ('$' :: (content ++ ['*', high, low])) = true
      (∀ high low, valid high low ↔ IsHexPair high low (checksum content)) ∧
      ((∃ high low, valid high low) ↔ checksum content < 0x100) ∧
      ∀ high low other last, valid high low →
        (valid other last ↔ other.toLower = high.toLower ∧ last.toLower = low.toLower)) ∧
    (∀ content : Text, (∀ character ∈ content, character.toNat < 0x100) →
      checksum content < 0x100) ∧
    ∀ content : Text, (∀ character ∈ content, character.toNat < 0x80) →
      checksum content < 0x80 := by
  refine ⟨fun _ => validChecksum_iff_exists, ?_, ?_, ?_⟩
  · intro content unmarked valid
    have pair (high low : Char) : valid high low ↔ IsHexPair high low (checksum content) :=
      validChecksum_framed_iff unmarked
    refine ⟨pair, ⟨?_, ?_⟩, ?_⟩
    · rintro ⟨high, low, declared⟩
      exact ((pair high low).mp declared).lt
    · intro small
      obtain ⟨high, low, _, digits⟩ := exists_hexPair small
      exact ⟨high, low, (pair high low).mpr (hexPair?_eq_some_iff.mp digits)⟩
    · intro high low other last declared
      rw [pair other last]
      exact ((pair high low).mp declared).iff_toLower
  · exact fun content small => checksum_lt_two_pow 8 small
  · exact fun content small => checksum_lt_two_pow 7 small

/-- A letter of eight bits has a checksum, and one of nine bits has none. -/
theorem validChecksum_grammar_wide :
    let content := "$\nÄ".toList
    let wide := "Ā".toList
    '*' ∉ content ∧ '*' ∉ wide ∧
      validChecksum ('$' :: (content ++ ['*', 'e', 'A'])) = true ∧
      validChecksum ('$' :: (content ++ ['*', 'E', 'a'])) = true ∧
      ¬ ∃ high low, validChecksum ('$' :: (wide ++ ['*', high, low])) = true := by
  intro content wide
  obtain ⟨_, framed, _⟩ := validChecksum_grammar
  have unmarked : '*' ∉ content := by decide
  have wideUnmarked : '*' ∉ wide := by decide
  have digits : IsHexPair 'e' 'A' (checksum content) := ⟨14, 10, by decide, by decide, by decide⟩
  obtain ⟨pair, _, cases⟩ := framed content unmarked
  have mixed := (pair 'e' 'A').mpr digits
  have other := (cases 'e' 'A' 'E' 'a' mixed).mpr (by decide)
  refine ⟨unmarked, wideUnmarked, mixed, other, ?_⟩
  rw [(framed wide wideUnmarked).2.1]
  decide

end MarineFix.Sentence
