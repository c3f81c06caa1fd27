import MarineFix.Number.Layout
import Mathlib.Algebra.Group.Nat.Defs
/-!
Decimal and hexadecimal digits are read back.
-/

namespace MarineFix.Text

/-- No digit stands at the front. -/
def StartsNoDigit (text : Text) : Prop := ∀ character ∈ text.head?, character.isDigit = false

theorem startsNoDigit_cons {mark : Char} (noDigit : mark.isDigit = false) (rest : Text) :
    StartsNoDigit (mark :: rest) := by
  rintro _ ⟨⟩
  exact noDigit

theorem ne_of_isDigit {digit character : Char} (isDigit : digit.isDigit = true)
    (noDigit : character.isDigit = false) : digit ≠ character := by
  rintro rfl
  rw [noDigit] at isDigit
  cases isDigit

theorem takeWhile_isDigit_append {digits rest : Text} (all : IsDigits digits)
    (stops : StartsNoDigit rest) : (digits ++ rest).takeWhile Char.isDigit = digits := by
  rw [List.takeWhile_append_of_pos all]
  cases rest with
  | nil => simp
  | cons character rest => simp [stops character rfl]

theorem dropWhile_isDigit_append {digits rest : Text} (all : IsDigits digits)
    (stops : StartsNoDigit rest) : (digits ++ rest).dropWhile Char.isDigit = rest := by
  rw [List.dropWhile_append_of_pos all]
  cases rest with
  | nil => rfl
  | cons character rest => simp [stops character rfl]

/-- A text determines where the digits at its front end. -/
theorem digits_append_inj {first second rest others : Text} (all : IsDigits first)
    (allOther : IsDigits second) (stops : StartsNoDigit rest) (stopsOther : StartsNoDigit others)
    (same : first ++ rest = second ++ others) : first = second ∧ rest = others := by
  have digits := congrArg (List.takeWhile Char.isDigit) same
  rw [takeWhile_isDigit_append all stops, takeWhile_isDigit_append allOther stopsOther] at digits
  have behind := congrArg (List.dropWhile Char.isDigit) same
  rw [dropWhile_isDigit_append all stops, dropWhile_isDigit_append allOther stopsOther] at behind
  exact ⟨digits, behind⟩

/-- The digits in front weigh as much as the digits behind them are long. -/
theorem toNat_append (first second : Text) :
    toNat (first ++ second) = toNat first * 10 ^ second.length + toNat second := by
  rw [toNat, Nat.ofDigitChars_append, Nat.ofDigitChars_eq_ofDigitChars_zero, Nat.mul_comm]
  rfl

@[simp] theorem toNat_replicate_zero (count : Nat) : toNat (List.replicate count '0') = 0 := by
  simp [toNat]

/-- Leading zeros do not change a number. -/
theorem toNat_zeros_append (count : Nat) (digits : Text) :
    toNat (List.replicate count '0' ++ digits) = toNat digits := by
  rw [toNat_append, toNat_replicate_zero, Nat.zero_mul, Nat.zero_add]

theorem isDigits_zeros (count : Nat) : IsDigits (List.replicate count '0') := by
  intro character member
  rw [List.eq_of_mem_replicate member]
  rfl

theorem isDigits_singleton {digit : Char} (isDigit : digit.isDigit = true) : IsDigits [digit] :=
  (isDigits_cons _ _).mpr ⟨isDigit, isDigits_nil⟩

/-- The value of a digit. -/
theorem toNat_singleton {digit : Char} (isDigit : digit.isDigit = true) :
    digit.toNat = toNat [digit] + 48 ∧ toNat [digit] < 10 := by
  have range := Char.isDigit_iff_toNat.mp isDigit
  have zero : '0'.toNat = 48 := rfl
  have nine : '9'.toNat = 57 := rfl
  simp only [toNat, Nat.ofDigitChars_cons, Nat.ofDigitChars_nil]
  omega

theorem toNat_lt {digits : Text} (all : IsDigits digits) : toNat digits < 10 ^ digits.length := by
  induction digits with
  | nil => decide
  | cons digit rest ih =>
      rw [isDigits_cons] at all
      have small := Nat.le_of_lt_succ (toNat_singleton all.1).2
      have scaled := Nat.mul_le_mul_right (10 ^ rest.length) small
      have behind := ih all.2
      rw [show digit :: rest = [digit] ++ rest from rfl, toNat_append, List.length_append,
        List.length_singleton, Nat.pow_add]
      omega

/-- Digits of one length are told apart by their numbers. -/
theorem eq_of_toNat_eq {first second : Text} (all : IsDigits first) (allOther : IsDigits second)
    (width : first.length = second.length) (same : toNat first = toNat second) : first = second := by
  induction first generalizing second with
  | nil => exact (List.eq_nil_of_length_eq_zero width.symm).symm
  | cons digit rest ih =>
      cases second with
      | nil => cases width
      | cons other others =>
          rw [List.length_cons, List.length_cons, Nat.add_right_cancel_iff] at width
          rw [isDigits_cons] at all allOther
          have parted : toNat [digit] * 10 ^ others.length + toNat rest =
              toNat [other] * 10 ^ others.length + toNat others := by
            rw [← toNat_append, ← width, ← toNat_append]
            exact same
          have small : toNat rest < 10 ^ others.length := width ▸ toNat_lt all.2
          have behind : toNat rest = toNat others := by
            have remainders := congrArg (· % 10 ^ others.length) parted
            simp only [Nat.mul_add_mod_self_right] at remainders
            rwa [Nat.mod_eq_of_lt small, Nat.mod_eq_of_lt (toNat_lt allOther.2)] at remainders
          have front : toNat [digit] = toNat [other] := by
            rw [behind, Nat.add_right_cancel_iff] at parted
            exact Nat.eq_of_mul_eq_mul_right (Nat.pow_pos (by decide)) parted
          have heads : digit = other := by
            rw [← Char.toNat_inj, (toNat_singleton all.1).1, (toNat_singleton allOther.1).1, front]
          rw [heads, ih all.2 allOther.2 width behind]

/-- A number is written with no more digits than it was read from. -/
theorem length_ofNat_toNat_le {digits : Text} (all : IsDigits digits) (present : digits ≠ []) :
    (ofNat (toNat digits)).length ≤ digits.length :=
  (Nat.length_toDigits_le_iff (by decide) (List.length_pos_iff.mpr present)).mpr (toNat_lt all)

/-- A power of ten has more digits than its exponent says. -/
theorem lt_length_ofNat_pow {exponent : Nat} (positive : 0 < exponent) :
    exponent < (ofNat (10 ^ exponent)).length := by
  rw [← Nat.not_le, ofNat, Nat.length_toDigits_le_iff (by decide) positive]
  exact Nat.lt_irrefl _

theorem isDigits_padded (width value : Nat) : IsDigits (padded width value) :=
  (isDigits_append _ _).mpr ⟨isDigits_zeros _, isDigits_ofNat value⟩

theorem toNat_padded (width value : Nat) : toNat (padded width value) = value :=
  (toNat_zeros_append _ _).trans (toNat_ofNat value)

/-- A number is written with the digits that it was read from. -/
theorem padded_toNat {digits : Text} (all : IsDigits digits) (present : digits ≠ []) :
    padded digits.length (toNat digits) = digits := by
  apply eq_of_toNat_eq (isDigits_padded _ _) all
  · rw [padded, List.length_leftpad, Nat.max_eq_left (length_ofNat_toNat_le all present)]
  · exact toNat_padded _ _

/-- The text of a padded number determines the number and where its digits end. -/
theorem padded_append_inj {width first second : Nat} {rest others : Text}
    (stops : StartsNoDigit rest) (stopsOther : StartsNoDigit others)
    (same : padded width first ++ rest = padded width second ++ others) :
    first = second ∧ rest = others := by
  obtain ⟨digits, behind⟩ :=
    digits_append_inj (isDigits_padded _ _) (isDigits_padded _ _) stops stopsOther same
  have value := congrArg toNat digits
  rw [toNat_padded, toNat_padded] at value
  exact ⟨value, behind⟩

theorem ofNat_ne_nil (value : Nat) : ofNat value ≠ [] := Nat.toDigits_ne_nil

/-- A positive number has no leading zero. -/
theorem head?_ofNat_ne {value : Nat} (positive : 0 < value) : (ofNat value).head? ≠ some '0' := by
  induction value using Nat.strongRecOn with
  | ind value ih =>
      rw [ofNat, Nat.toDigits_eq_if (by decide)]
      split
      · rename_i single
        simp only [List.head?_cons, ne_eq, Option.some.injEq, Nat.digitChar_eq_zero]
        omega
      · have shorter := ih (value / 10) (by omega) (by omega)
        obtain ⟨first, rest, digits⟩ := List.exists_cons_of_ne_nil (ofNat_ne_nil (value / 10))
        rw [ofNat] at shorter digits
        rw [digits] at shorter ⊢
        exact shorter

theorem hexDigit?_digitChar (digit : Nat) (small : digit < 16) :
    hexDigit? digit.digitChar = some digit := by
  have every : ∀ digit : Fin 16, hexDigit? digit.val.digitChar = some digit.val := by decide
  exact every ⟨digit, small⟩

/-- The last of several hexadecimal digits is split off. -/
theorem hexadecimal_succ {width : Nat} (positive : 0 < width) (value : Nat) :
    hexadecimal (width + 1) value =
      hexadecimal width (value / 16) ++ [(value % 16).digitChar] := by
  by_cases single : value < 16
  · have front : value / 16 = 0 := by omega
    have last : value % 16 = value := by omega
    have filled : width = width - 1 + 1 := by omega
    rw [hexadecimal, hexadecimal, front, last, Nat.toDigits_of_lt_base single, Nat.toDigits_zero]
    simp only [List.leftpad, List.length_singleton, Nat.add_sub_cancel]
    rw [← List.replicate_succ', ← filled]
  · rw [hexadecimal, hexadecimal, Nat.toDigits_of_base_le (by decide) (by omega)]
    simp [List.leftpad]

/-- Four hexadecimal digits are enough for sixteen bits. -/
theorem hexadecimal_four {value : Nat} (small : value < 0x10000) :
    hexadecimal 4 value = [(value / 0x1000).digitChar, (value / 0x100 % 16).digitChar,
      (value / 0x10 % 16).digitChar, (value % 16).digitChar] := by
  have first : hexadecimal 1 (value / 0x1000) = [(value / 0x1000).digitChar] := by
    rw [hexadecimal, Nat.toDigits_of_lt_base (by omega)]
    rfl
  have second : value / 16 / 16 = value / 0x100 := Nat.div_div_eq_div_mul ..
  have third : value / 0x100 / 16 = value / 0x1000 := Nat.div_div_eq_div_mul ..
  rw [hexadecimal_succ (by decide), hexadecimal_succ (by decide), hexadecimal_succ (by decide),
    second, third, first]
  rfl

/-- The character is the hexadecimal digit of this value in either case. -/
def IsHexDigit (character : Char) (value : Nat) : Prop :=
  value < 16 ∧ (character = value.digitChar ∨ character = value.digitChar.toUpper)

instance (character : Char) (value : Nat) : Decidable (IsHexDigit character value) :=
  inferInstanceAs (Decidable (_ ∧ _))

theorem toNat_lt_of_hexDigit? {character : Char} {value : Nat}
    (read : hexDigit? character = some value) : character.toNat < 128 := by
  apply Nat.lt_of_not_le
  intro large
  have beyond (last : Char) (ascii : last.toNat < 128) : ¬ character ≤ last := by
    rw [Char.le_def, UInt32.le_iff_toNat_le]
    exact Nat.not_le_of_lt (Nat.lt_of_lt_of_le ascii large)
  simp [hexDigit?, beyond '9' (by decide), beyond 'f' (by decide), beyond 'F' (by decide)] at read

/-- The sixteen digits are read in both cases, and no other character is read. -/
theorem hexDigit?_eq_some_iff {character : Char} {value : Nat} :
    hexDigit? character = some value ↔ IsHexDigit character value := by
  constructor
  · intro read
    have every : ∀ code : Fin 128, ∀ value ∈ hexDigit? (Char.ofNat code),
        IsHexDigit (Char.ofNat code) value := by decide
    have own := every ⟨character.toNat, toNat_lt_of_hexDigit? read⟩ value
    rw [Char.ofNat_toNat] at own
    exact own read
  · rintro ⟨small, lower | upper⟩
    · rw [lower, hexDigit?_digitChar value small]
    · have every : ∀ digit : Fin 16, hexDigit? digit.val.digitChar.toUpper = some digit.val := by
        decide
      rw [upper]
      exact every ⟨value, small⟩

theorem toLower_of_isHexDigit {character : Char} {value : Nat}
    (digit : IsHexDigit character value) : character.toLower = value.digitChar := by
  have every : ∀ digit : Fin 16, digit.val.digitChar.toLower = digit.val.digitChar ∧
      digit.val.digitChar.toUpper.toLower = digit.val.digitChar := by decide
  obtain ⟨small, rfl | rfl⟩ := digit
  · exact (every ⟨value, small⟩).1
  · exact (every ⟨value, small⟩).2

/-- A digit keeps its value in the other case. -/
theorem hexDigit?_toLower (character : Char) :
    hexDigit? character.toLower = hexDigit? character := by
  by_cases ascii : character.toNat < 128
  · have every : ∀ code : Fin 128,
        hexDigit? (Char.ofNat code).toLower = hexDigit? (Char.ofNat code) := by decide
    have own := every ⟨character.toNat, ascii⟩
    rwa [Char.ofNat_toNat] at own
  · have kept : character.toLower = character := dif_neg fun capital =>
      ascii (Nat.lt_of_le_of_lt (UInt32.le_iff_toNat_le.mp capital.2) (by decide))
    rw [kept]

/-- Digits have one value exactly when they differ at most in case. -/
theorem hexDigit?_eq_iff_toLower {character other : Char} {value : Nat}
    (digit : IsHexDigit character value) :
    hexDigit? other = some value ↔ other.toLower = character.toLower := by
  constructor
  · intro read
    rw [toLower_of_isHexDigit (hexDigit?_eq_some_iff.mp read), toLower_of_isHexDigit digit]
  · intro same
    rw [← hexDigit?_toLower, same, hexDigit?_toLower]
    exact hexDigit?_eq_some_iff.mpr digit

end MarineFix.Text
