import MarineFix.Text.Basic
/-!
Blank characters around a sentence carry no data and are stripped.
-/

namespace MarineFix.Text

/-- Unicode treats these separators and controls as white space. -/
def blanks : CharClass :=
  [(0x09, 0x0D), (0x1C, 0x20), (0x85, 0x85), (0xA0, 0xA0), (0x1680, 0x1680), (0x2000, 0x200A),
   (0x2028, 0x2029), (0x202F, 0x202F), (0x205F, 0x205F), (0x3000, 0x3000)]

def isBlank (character : Char) : Bool := blanks.holds character

/-- The blanks on the left are removed. -/
def stripLeft (text : Text) : Text := text.dropWhile isBlank

/-- The blanks on the right are removed. -/
def stripRight (text : Text) : Text := (text.reverse.dropWhile isBlank).reverse

/-- The blanks on both sides are removed. -/
def strip (text : Text) : Text := stripRight (stripLeft text)

@[simp] theorem strip_nil : strip [] = [] := rfl

theorem stripLeft_cons_of_blank {character : Char} (blank : isBlank character = true)
    (rest : Text) : stripLeft (character :: rest) = stripLeft rest := by
  simp [stripLeft, blank]

theorem stripLeft_cons_of_not_blank {character : Char} (solid : isBlank character = false)
    (rest : Text) : stripLeft (character :: rest) = character :: rest := by
  simp [stripLeft, solid]

theorem stripRight_append_of_blank (text : Text) {character : Char}
    (blank : isBlank character = true) :
    stripRight (text ++ [character]) = stripRight text := by
  simp [stripRight, blank]

theorem stripRight_append_of_not_blank (text : Text) {character : Char}
    (solid : isBlank character = false) :
    stripRight (text ++ [character]) = text ++ [character] := by
  simp [stripRight, solid]

/-- A text that starts with a solid character loses nothing on the left. -/
theorem strip_cons_of_not_blank {character : Char} (solid : isBlank character = false)
    (rest : Text) : strip (character :: rest) = stripRight (character :: rest) := by
  rw [strip, stripLeft_cons_of_not_blank solid]

theorem stripLeft_of_head {text : Text}
    (solid : ∀ character, text.head? = some character → isBlank character = false) :
    stripLeft text = text := by
  cases text with
  | nil => rfl
  | cons character rest => exact stripLeft_cons_of_not_blank (solid character rfl) rest

theorem isBlank_head_stripLeft {text : Text} {character : Char}
    (first : (stripLeft text).head? = some character) : isBlank character = false := by
  have solid := List.head?_dropWhile_not isBlank text
  rw [show (text.dropWhile isBlank).head? = some character from first] at solid
  exact solid

@[simp] theorem stripLeft_stripLeft (text : Text) : stripLeft (stripLeft text) = stripLeft text :=
  stripLeft_of_head fun _ => isBlank_head_stripLeft

@[simp] theorem stripRight_stripRight (text : Text) :
    stripRight (stripRight text) = stripRight text := by
  have again := stripLeft_stripLeft text.reverse
  simp only [stripLeft] at again
  simp [stripRight, again]

/-- Only the end of a text is lost on the right. -/
theorem stripRight_prefix (text : Text) : stripRight text <+: text := by
  have lost : text.reverse.dropWhile isBlank <:+ text.reverse := List.dropWhile_suffix _
  rw [← List.reverse_prefix, List.reverse_reverse] at lost
  exact lost

theorem stripRight_of_getLast {text : Text}
    (solid : ∀ character, text.getLast? = some character → isBlank character = false) :
    stripRight text = text := by
  have front : stripLeft text.reverse = text.reverse := by
    apply stripLeft_of_head
    intro character first
    rw [List.head?_reverse] at first
    exact solid character first
  rw [stripRight, show text.reverse.dropWhile isBlank = text.reverse from front,
    List.reverse_reverse]

/-- A text that ends with a solid character loses nothing on the right. -/
theorem strip_of_getLast {text : Text}
    (solid : ∀ character, text.getLast? = some character → isBlank character = false) :
    strip text = stripLeft text := by
  apply stripRight_of_getLast
  intro character last
  apply solid character
  rw [← List.takeWhile_append_dropWhile (p := isBlank) (l := text), List.getLast?_append]
  simp [show (text.dropWhile isBlank).getLast? = some character from last]

/-- A digit is no blank, so it ends a text for good. -/
theorem isBlank_of_hexDigit? {character : Char} {value : Nat}
    (digit : hexDigit? character = some value) : isBlank character = false := by
  have ranges : 48 ≤ character.toNat ∧ character.toNat ≤ 57 ∨
      97 ≤ character.toNat ∧ character.toNat ≤ 102 ∨
      65 ≤ character.toNat ∧ character.toNat ≤ 70 := by
    simp only [hexDigit?, Char.le_def, UInt32.le_iff_toNat_le] at digit
    split at digit
    · exact .inl ‹_›
    · split at digit
      · exact .inr (.inl ‹_›)
      · split at digit
        · exact .inr (.inr ‹_›)
        · simp at digit
  simp only [isBlank, CharClass.holds, blanks, List.any_cons, List.any_nil, Bool.or_false,
    Bool.or_eq_false_iff, Bool.and_eq_false_iff, decide_eq_false_iff_not]
  omega

@[simp] theorem strip_strip (text : Text) : strip (strip text) = strip text := by
  have solid : stripLeft (strip text) = strip text := stripLeft_of_head fun character first => by
    cases kept : strip text with
    | nil => simp [kept] at first
    | cons head rest =>
        rw [kept] at first
        cases first
        have start := stripRight_prefix (stripLeft text)
        rw [show stripRight (stripLeft text) = character :: rest from kept] at start
        obtain ⟨tail, whole⟩ := start
        exact isBlank_head_stripLeft (by rw [← whole]; rfl)
  rw [strip, solid, strip, stripRight_stripRight]

end MarineFix.Text
