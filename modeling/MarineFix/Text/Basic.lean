/-!
A text is a list of characters that may show a number.
-/

namespace MarineFix

/-- A text is a list of Unicode characters. -/
abbrev Text := List Char

namespace Text

/-- A natural number is written in decimal digits without leading zeros. -/
def ofNat (value : Nat) : Text := Nat.toDigits 10 value

/-- A negative number is written with a leading minus sign. -/
def ofInt (value : Int) : Text :=
  if value < 0 then '-' :: ofNat value.natAbs else ofNat value.natAbs

/-- The decimal digits are filled with zeros on the left up to a width. -/
def padded (width value : Nat) : Text := (ofNat value).leftpad width '0'

/-- Zeros fill the lower-case digits up to a width. -/
def hexadecimal (width value : Nat) : Text := (Nat.toDigits 16 value).leftpad width '0'

/-- The value of a hexadecimal digit of either case. -/
def hexDigit? (character : Char) : Option Nat :=
  if '0' ≤ character ∧ character ≤ '9' then some (character.toNat - '0'.toNat)
  else if 'a' ≤ character ∧ character ≤ 'f' then some (character.toNat - 'a'.toNat + 10)
  else if 'A' ≤ character ∧ character ≤ 'F' then some (character.toNat - 'A'.toNat + 10)
  else none

/-- The number that a list of decimal digits denotes. -/
def toNat (digits : Text) : Nat := Nat.ofDigitChars 10 digits 0

/-- Only the ten ASCII digits count as digits. -/
def IsDigits (text : Text) : Prop := ∀ character ∈ text, character.isDigit = true

instance (text : Text) : Decidable (IsDigits text) := List.decidableBAll _ text

@[simp] theorem toNat_ofNat (value : Nat) : toNat (ofNat value) = value :=
  Nat.ofDigitChars_ten_toDigits

@[simp] theorem isDigits_nil : IsDigits [] := by simp [IsDigits]

@[simp] theorem isDigits_cons (character : Char) (rest : Text) :
    IsDigits (character :: rest) ↔ character.isDigit = true ∧ IsDigits rest := by
  simp [IsDigits]

@[simp] theorem isDigits_append (first second : Text) :
    IsDigits (first ++ second) ↔ IsDigits first ∧ IsDigits second := by
  simp only [IsDigits, List.mem_append]
  exact ⟨fun all => ⟨fun character found => all character (.inl found),
      fun character found => all character (.inr found)⟩,
    fun both character found => found.elim (both.1 character) (both.2 character)⟩

theorem isDigits_ofNat (value : Nat) : IsDigits (ofNat value) := by
  intro character found
  exact Nat.isDigit_of_mem_toDigits (by decide) (by decide) found

end Text

/-- A class of characters is a list of closed ranges of code points. -/
abbrev CharClass := List (Nat × Nat)

/-- A character belongs to a class when a range holds its code point. -/
def CharClass.holds (ranges : CharClass) (character : Char) : Bool :=
  ranges.any fun range => range.1 ≤ character.toNat && character.toNat ≤ range.2

end MarineFix
