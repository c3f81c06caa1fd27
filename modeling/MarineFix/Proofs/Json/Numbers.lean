import MarineFix.Json.Reader
import MarineFix.Proofs.Number.Rounding
import MarineFix.Proofs.Text.Digits
/-!
A number that is written as JSON is read back.
-/

namespace MarineFix

namespace Decimal

/-- The zeros behind the significant digits. -/
theorem exists_zeros (digits : Text) :
    ∃ zeros, digits = significant digits ++ List.replicate zeros '0' := by
  refine ⟨(digits.reverse.takeWhile (· == '0')).length, ?_⟩
  have all : digits.reverse.takeWhile (· == '0') =
      List.replicate (digits.reverse.takeWhile (· == '0')).length '0' := by
    rw [List.eq_replicate_iff]
    have zero := List.all_eq_true.mp (List.all_takeWhile (p := (· == '0')) (l := digits.reverse))
    exact ⟨rfl, fun character member => eq_of_beq (zero character member)⟩
  rw [significant, ← List.reverse_inj, List.reverse_append, List.reverse_reverse,
    List.reverse_replicate, ← all, List.takeWhile_append_dropWhile]

/-- The digits of a fraction stand behind a point. -/
def fractionText : Text → Text
  | [] => []
  | digit :: rest => '.' :: digit :: rest

/-- The digits of a power stand behind its mark and its sign. -/
def powerText : Option Int → Text
  | none => []
  | some power => 'e' :: (if power < 0 then '-' else '+') :: Text.padded 2 power.natAbs

/-- A whole part is a single zero or starts with another digit. -/
def IsWhole (digits : Text) : Prop :=
  digits = ['0'] ∨ Text.IsDigits digits ∧ digits ≠ [] ∧ digits.head? ≠ some '0'

theorem IsWhole.exists_cons {whole : Text} (isWhole : IsWhole whole) :
    ∃ digit rest, whole = digit :: rest ∧ digit.isDigit = true := by
  rcases isWhole with rfl | ⟨all, present, _⟩
  · exact ⟨'0', [], rfl, rfl⟩
  · obtain ⟨digit, rest, rfl⟩ := List.exists_cons_of_ne_nil present
    exact ⟨digit, rest, rfl, all digit List.mem_cons_self⟩

theorem IsWhole.isDigits {whole : Text} (isWhole : IsWhole whole) : Text.IsDigits whole := by
  rcases isWhole with rfl | ⟨all, _⟩
  · exact Text.isDigits_singleton rfl
  · exact all

theorem isWhole_ofNat (value : Nat) : IsWhole (Text.ofNat value) := by
  by_cases zero : value = 0
  · subst zero
    exact .inl rfl
  · exact .inr ⟨Text.isDigits_ofNat value, Text.ofNat_ne_nil value,
      Text.head?_ofNat_ne (Nat.pos_of_ne_zero zero)⟩

/-- The parts of a number that is not written as an integer. -/
structure Parts where
  whole : Text
  fraction : Text
  power : Option Int
  isWhole : IsWhole whole
  isFraction : Text.IsDigits fraction
  marked : fraction ≠ [] ∨ power ≠ none

namespace Parts

def text (parts : Parts) : Text :=
  parts.whole ++ fractionText parts.fraction ++ powerText parts.power

def decimal (parts : Parts) : Decimal where
  coefficient := Text.toNat (parts.whole ++ parts.fraction)
  exponent := parts.power.getD 0 - parts.fraction.length

end Parts

/-- The digits and the point of a decimal determine its units. -/
theorem units_significant (decimal : Decimal) :
    let digits := Text.ofNat decimal.coefficient
    units ⟨Text.toNat (significant digits),
      digits.length + decimal.exponent - (significant digits).length⟩ = decimal.units := by
  intro digits
  obtain ⟨coefficient, exponent⟩ := decimal
  obtain ⟨zeros, split⟩ := exists_zeros digits
  have read : Text.toNat digits = coefficient := Text.toNat_ofNat coefficient
  have value : coefficient = Text.toNat (significant digits) * 10 ^ zeros := by
    have both := congrArg Text.toNat split
    rwa [read, Text.toNat_append, Text.toNat_replicate_zero, List.length_replicate,
      Nat.add_zero] at both
  have length : digits.length = (significant digits).length + zeros := by
    have both := congrArg List.length split
    rwa [List.length_append, List.length_replicate] at both
  have place : (digits.length : Int) + exponent - (significant digits).length =
      exponent + zeros := by omega
  have narrow : exponent = exponent + zeros - zeros := by omega
  rw [place, ← units_widen _ _ zeros, ← value, ← narrow]

/-- A positive decimal has a significant digit, and its first one is no zero. -/
theorem significant_ofNat {coefficient : Nat} (positive : 0 < coefficient) :
    Text.IsDigits (significant (Text.ofNat coefficient)) ∧
      significant (Text.ofNat coefficient) ≠ [] ∧
      (significant (Text.ofNat coefficient)).head? ≠ some '0' := by
  have all := Text.isDigits_ofNat coefficient
  have first := Text.head?_ofNat_ne positive
  obtain ⟨zeros, split⟩ := exists_zeros (Text.ofNat coefficient)
  generalize significant (Text.ofNat coefficient) = digits at *
  rw [split] at all first
  have present : digits ≠ [] := by
    rintro rfl
    have zero : coefficient = 0 := by
      rw [← Text.toNat_ofNat coefficient, split, List.nil_append, Text.toNat_replicate_zero]
    omega
  obtain ⟨digit, rest, rfl⟩ := List.exists_cons_of_ne_nil present
  exact ⟨((Text.isDigits_append _ _).mp all).1, present, first⟩

section

variable {digits : Text} (all : Text.IsDigits digits) (present : digits ≠ [])

include all present

/-- A point before all digits puts zeros and all the digits into the fraction. -/
theorem parts_of_point_before (point : Int) (before : point ≤ 0) :
    ∃ parts : Parts, '0' :: '.' :: List.replicate (-point).toNat '0' ++ digits = parts.text ∧
      parts.decimal.units = units ⟨Text.toNat digits, point - digits.length⟩ := by
  have isFraction : Text.IsDigits (List.replicate (-point).toNat '0' ++ digits) :=
    (Text.isDigits_append _ _).mpr ⟨Text.isDigits_zeros _, all⟩
  have marked : List.replicate (-point).toNat '0' ++ digits ≠ [] :=
    List.append_ne_nil_of_right_ne_nil _ present
  obtain ⟨digit, rest, fraction⟩ := List.exists_cons_of_ne_nil marked
  refine ⟨⟨['0'], List.replicate (-point).toNat '0' ++ digits, none, .inl rfl, isFraction,
    .inl marked⟩, ?_, ?_⟩
  · simp [Parts.text, powerText, fraction, fractionText]
  · have value : Text.toNat (['0'] ++ (List.replicate (-point).toNat '0' ++ digits)) =
        Text.toNat digits := by
      rw [show ['0'] = List.replicate 1 '0' from rfl, Text.toNat_zeros_append,
        Text.toNat_zeros_append]
    have place : (0 : Int) - (List.replicate (-point).toNat '0' ++ digits).length =
        point - digits.length := by
      rw [List.length_append, List.length_replicate]
      omega
    rw [Parts.decimal, value, Option.getD_none, place]

variable (first : digits.head? ≠ some '0')

include first

/-- A point behind all digits fills them up with zeros. -/
theorem parts_of_point_behind (point : Nat) (behind : digits.length ≤ point) :
    ∃ parts : Parts, digits.rightpad point '0' ++ ['.', '0'] = parts.text ∧
      parts.decimal.units = units ⟨Text.toNat digits, point - digits.length⟩ := by
  have filled : digits.rightpad point '0' =
      digits ++ List.replicate (point - digits.length) '0' := rfl
  have isWhole : IsWhole (digits.rightpad point '0') := by
    obtain ⟨digit, rest, rfl⟩ := List.exists_cons_of_ne_nil present
    rw [filled]
    exact .inr ⟨(Text.isDigits_append _ _).mpr ⟨all, Text.isDigits_zeros _⟩,
      List.cons_ne_nil _ _, first⟩
  refine ⟨⟨digits.rightpad point '0', ['0'], none, isWhole, Text.isDigits_singleton rfl,
    .inl (List.cons_ne_nil _ _)⟩, ?_, ?_⟩
  · simp [Parts.text, powerText, fractionText]
  · generalize zeros : point - digits.length = count at *
    have value : Text.toNat (digits.rightpad point '0' ++ ['0']) =
        Text.toNat digits * 10 ^ (count + 1) := by
      rw [filled, List.append_assoc, ← List.replicate_succ', Text.toNat_append,
        Text.toNat_replicate_zero, List.length_replicate, Nat.add_zero]
    have place : (0 : Int) - (['0'] : Text).length =
        (point : Int) - digits.length - (count + 1 : Nat) := by
      rw [List.length_singleton]
      omega
    rw [Parts.decimal, value, Option.getD_none, place, units_widen]

/-- A point between two digits divides them into the whole part and the fraction. -/
theorem parts_of_point_inside (point : Nat) (after : 0 < point) (inside : point < digits.length) :
    ∃ parts : Parts, digits.take point ++ '.' :: digits.drop point = parts.text ∧
      parts.decimal.units = units ⟨Text.toNat digits, point - digits.length⟩ := by
  have marked : digits.drop point ≠ [] := by
    rw [ne_eq, List.drop_eq_nil_iff]
    omega
  have isWhole : IsWhole (digits.take point) := by
    refine .inr ⟨fun character member => all character (List.mem_of_mem_take member), ?_, ?_⟩
    · rw [ne_eq, List.take_eq_nil_iff, not_or]
      exact ⟨Nat.ne_of_gt after, present⟩
    · rwa [List.head?_take, if_neg (Nat.ne_of_gt after)]
  obtain ⟨next, others, fraction⟩ := List.exists_cons_of_ne_nil marked
  refine ⟨⟨digits.take point, digits.drop point, none, isWhole,
    fun character member => all character (List.mem_of_mem_drop member), .inl marked⟩, ?_, ?_⟩
  · simp [Parts.text, powerText, fraction, fractionText]
  · have place : (0 : Int) - (digits.drop point).length = point - digits.length := by
      rw [List.length_drop]
      omega
    rw [Parts.decimal, List.take_append_drop, Option.getD_none, place]

/-- The digits around a point are the parts of a number without a power. -/
theorem positional_parts (point : Int) :
    ∃ parts : Parts, positional digits point = parts.text ∧
      parts.decimal.units = units ⟨Text.toNat digits, point - digits.length⟩ := by
  rw [positional]
  split
  · rename_i before
    exact parts_of_point_before all present point before
  · rename_i after
    obtain ⟨place, rfl⟩ := Int.eq_ofNat_of_zero_le (Int.le_of_lt (Int.not_le.mp after))
    rw [Int.toNat_natCast]
    split
    · rename_i behind
      exact parts_of_point_behind all present first place behind
    · rename_i inside
      exact parts_of_point_inside all present first place (by omega) (by omega)

/-- The digits around a point and a power are the parts of a number. -/
theorem scientific_parts (exponent : Int) :
    ∃ parts : Parts, scientific digits exponent = parts.text ∧
      parts.decimal.units = units ⟨Text.toNat digits, exponent + 1 - digits.length⟩ := by
  obtain ⟨digit, rest, rfl⟩ := List.exists_cons_of_ne_nil present
  rw [Text.isDigits_cons] at all
  refine ⟨⟨[digit], rest, some exponent, .inr ⟨?_, ?_, first⟩, all.2, .inr ?_⟩, ?_, ?_⟩
  · exact Text.isDigits_singleton all.1
  · exact List.cons_ne_nil _ _
  · exact Option.some_ne_none _
  · cases rest <;> simp [scientific, Parts.text, fractionText, powerText]
  · have place : exponent - (rest.length : Int) = exponent + 1 - (digit :: rest).length := by
      rw [List.length_cons]
      omega
    rw [Parts.decimal, Option.getD_some, place]
    rfl

end

/-- Every decimal is written in parts of the same units. -/
theorem exists_parts (decimal : Decimal) :
    ∃ parts : Parts, decimal.text = parts.text ∧ parts.decimal.units = decimal.units := by
  have value := units_significant decimal
  rw [text]
  split
  · rename_i zero
    obtain ⟨coefficient, exponent⟩ := decimal
    obtain rfl : coefficient = 0 := zero
    refine ⟨⟨['0'], ['0'], none, .inl rfl, Text.isDigits_singleton rfl,
      .inl (List.cons_ne_nil _ _)⟩, rfl, ?_⟩
    exact (units_zero _).trans (units_zero _).symm
  · rename_i nonzero
    obtain ⟨all, present, first⟩ := significant_ofNat (Nat.pos_of_ne_zero nonzero)
    split
    · obtain ⟨parts, written, same⟩ := positional_parts all present first
        ((Text.ofNat decimal.coefficient).length + decimal.exponent)
      exact ⟨parts, written, same.trans value⟩
    · obtain ⟨parts, written, same⟩ := scientific_parts all present first
        ((Text.ofNat decimal.coefficient).length + decimal.exponent - 1)
      rw [Int.sub_add_cancel] at same
      exact ⟨parts, written, same.trans value⟩

end Decimal

namespace Json

open Decimal (IsWhole fractionText powerText)

/-- A text that does not continue a number. -/
def EndsNumber (rest : Text) : Prop :=
  Text.StartsNoDigit rest ∧ ∀ character ∈ rest.head?, character ∉ ['.', 'e', 'E']

theorem splitWhole_append {whole rest : Text} (isWhole : IsWhole whole)
    (stops : Text.StartsNoDigit rest) : splitWhole (whole ++ rest) = (whole, rest) := by
  rcases isWhole with rfl | ⟨all, present, first⟩
  · rfl
  · obtain ⟨digit, others, rfl⟩ := List.exists_cons_of_ne_nil present
    have nonzero : digit ≠ '0' := by simpa using first
    have split : splitWhole (digit :: others ++ rest) =
        ((digit :: others ++ rest).takeWhile Char.isDigit,
          (digit :: others ++ rest).dropWhile Char.isDigit) := by
      rw [List.cons_append, splitWhole.eq_2]
      intro _ same
      exact nonzero (List.cons.inj same).1
    rw [split, Text.takeWhile_isDigit_append all stops, Text.dropWhile_isDigit_append all stops]

/-- A fraction is read up to the text behind its digits. -/
theorem splitFraction_append {fraction rest : Text} (all : Text.IsDigits fraction)
    (stops : Text.StartsNoDigit rest) (ends : rest.head? ≠ some '.') :
    splitFraction (fractionText fraction ++ rest) = (fraction, rest) := by
  cases fraction with
  | nil =>
      rw [fractionText, List.nil_append, splitFraction.eq_2]
      rintro others rfl
      exact ends rfl
  | cons digit others =>
      rw [fractionText, List.cons_append, splitFraction,
        Text.takeWhile_isDigit_append all stops, Text.dropWhile_isDigit_append all stops,
        if_neg (List.cons_ne_nil _ _)]

/-- A power is read up to the text behind its digits. -/
theorem splitPower_append (power : Option Int) {rest : Text} (ends : EndsNumber rest) :
    splitPower (powerText power ++ rest) = (power, rest) := by
  cases power with
  | none =>
      cases rest with
      | nil => rfl
      | cons character rest =>
          have other := ends.2 character rfl
          simp only [List.mem_cons, not_or] at other
          simp [powerText, splitPower, other]
  | some power =>
      have digits := Text.takeWhile_isDigit_append (Text.isDigits_padded 2 power.natAbs) ends.1
      have behind := Text.dropWhile_isDigit_append (Text.isDigits_padded 2 power.natAbs) ends.1
      have present : Text.padded 2 power.natAbs ≠ [] :=
        List.append_ne_nil_of_right_ne_nil _ (Text.ofNat_ne_nil _)
      by_cases negative : power < 0
      · have value : -(power.natAbs : Int) = power := by omega
        rw [powerText, if_pos negative]
        simp only [List.cons_append, splitPower, true_or, if_true, Numeral.splitSign, digits,
          behind, present, if_false, Text.toNat_padded, value]
      · have value : (power.natAbs : Int) = power := by omega
        rw [powerText, if_neg negative]
        simp only [List.cons_append, splitPower, true_or, if_true, Numeral.splitSign, digits,
          behind, present, if_false, Text.toNat_padded, value, Bool.false_eq_true]

theorem powerText_append (power : Option Int) {rest : Text} (ends : EndsNumber rest) :
    Text.StartsNoDigit (powerText power ++ rest) ∧ (powerText power ++ rest).head? ≠ some '.' := by
  cases power with
  | none => exact ⟨ends.1, fun point => ends.2 '.' point (by decide)⟩
  | some power => exact ⟨fun _ found => by cases found; rfl, by simp [powerText]⟩

theorem fractionText_append (fraction : Text) {rest : Text} (stops : Text.StartsNoDigit rest) :
    Text.StartsNoDigit (fractionText fraction ++ rest) := by
  cases fraction with
  | nil => exact stops
  | cons digit others => exact fun _ found => by cases found; rfl

/-- The parts of a number are read as the decimal that they stand for. -/
theorem readNumber_parts (parts : Decimal.Parts) (negative : Bool) {rest : Text}
    (ends : EndsNumber rest) :
    readNumber negative (parts.text ++ rest) =
      .ok (.scalar (.real (parts.decimal.toBinary64 negative)), rest) := by
  obtain ⟨whole, fraction, power, isWhole, isFraction, marked⟩ := parts
  have present : whole ≠ [] := by
    obtain ⟨digit, others, rfl, _⟩ := isWhole.exists_cons
    exact List.cons_ne_nil _ _
  have afterFraction := powerText_append power ends
  have afterWhole := fractionText_append fraction afterFraction.1
  have notInteger : ¬ (fraction = [] ∧ power = none) := by
    rintro ⟨none, plain⟩
    exact marked.elim (· none) (· plain)
  rw [Decimal.Parts.text, List.append_assoc, List.append_assoc, readNumber,
    splitWhole_append isWhole afterWhole]
  dsimp only
  rw [splitFraction_append isFraction afterFraction.1 afterFraction.2]
  dsimp only
  rw [splitPower_append power ends]
  dsimp only
  rw [if_neg present, if_neg notInteger, Decimal.toBinary64_withinReach]
  rfl

/-- The digits of an integer are read as that integer. -/
theorem readNumber_ofNat {value : Nat} (short : (Text.ofNat value).length ≤ Numeral.maxDigits)
    (negative : Bool) {rest : Text} (ends : EndsNumber rest) :
    readNumber negative (Text.ofNat value ++ rest) =
      .ok (.scalar (.integer (if negative then -value else value)), rest) := by
  have noFraction := splitFraction_append Text.isDigits_nil ends.1
    fun point => ends.2 '.' point (by decide)
  rw [readNumber, splitWhole_append (Decimal.isWhole_ofNat value) ends.1]
  dsimp only
  rw [show rest = fractionText [] ++ rest from rfl, noFraction]
  dsimp only
  rw [show rest = powerText none ++ rest from rfl, splitPower_append none ends]
  dsimp only
  rw [if_neg (Text.ofNat_ne_nil value), if_pos ⟨rfl, rfl⟩, if_neg (Nat.not_lt.mpr short),
    Text.toNat_ofNat]
  rfl

/-- A number behind an optional minus sign is not taken for a word. -/
theorem readPlain_signed {whole : Text} (isWhole : IsWhole whole) (negative : Bool) (rest : Text) :
    readPlain (Binary64.signed negative (whole ++ rest)) = readNumber negative (whole ++ rest) := by
  obtain ⟨digit, others, rfl, isDigit⟩ := isWhole.exists_cons
  have other (character : Char) (noDigit : character.isDigit = false) : character ≠ digit :=
    (Text.ne_of_isDigit isDigit noDigit).symm
  rw [List.cons_append]
  have noWord : readWord (Binary64.signed negative (digit :: (others ++ rest))) = none := by
    cases negative <;> simp [readWord, words, after?, Binary64.signed, other]
  rw [readPlain.eq_def, noWord]
  cases negative with
  | true => rfl
  | false =>
      have unsigned : ∀ behind, digit :: (others ++ rest) = '-' :: behind → False := fun _ same =>
        other '-' rfl (List.cons.inj same).1.symm
      simp only [Binary64.signed, Bool.false_eq_true, if_false]

theorem ofInt_append (value : Int) (rest : Text) :
    Text.ofInt value ++ rest =
      Binary64.signed (decide (value < 0)) (Text.ofNat value.natAbs ++ rest) := by
  rw [Text.ofInt]
  by_cases negative : value < 0 <;> simp [negative, Binary64.signed]

/-- The text of a finite real number in its parts. -/
theorem exists_realText (negative : Bool) {units : Nat}
    (fits : Number.OnGrid units ∧ units < Number.limit) :
    ∃ parts : Decimal.Parts, parts.decimal.units = units ∧ ∀ rest,
      realText (.finite negative units fits) ++ rest =
        Binary64.signed negative
          (parts.whole ++ (fractionText parts.fraction ++ (powerText parts.power ++ rest))) := by
  obtain ⟨parts, written, same⟩ := (Decimal.shortest units).exists_parts
  refine ⟨parts, same.trans (Decimal.units_shortest fits.1), fun rest => ?_⟩
  rw [realText, Binary64.text, written, Decimal.Parts.text]
  cases negative <;> simp [Binary64.signed]

/-- An integer with few enough digits is read back. -/
theorem readPlain_ofInt {value : Int} (short : (Text.ofNat value.natAbs).length ≤ Numeral.maxDigits)
    {rest : Text} (ends : EndsNumber rest) :
    readPlain (Text.ofInt value ++ rest) = .ok (.scalar (.integer value), rest) := by
  rw [ofInt_append, readPlain_signed (Decimal.isWhole_ofNat value.natAbs),
    readNumber_ofNat short (decide (value < 0)) ends]
  by_cases negative : value < 0
  · have same : -(value.natAbs : Int) = value := by omega
    rw [decide_eq_true negative, if_pos rfl, same]
  · have same : (value.natAbs : Int) = value := by omega
    rw [decide_eq_false negative, if_neg Bool.false_ne_true, same]

/-- A real number is read back, whatever it is. -/
theorem readPlain_realText (value : Binary64) {rest : Text} (ends : EndsNumber rest) :
    readPlain (realText value ++ rest) = .ok (.scalar (.real value), rest) := by
  cases value with
  | infinite negative => cases negative <;> rfl
  | finite negative units fits =>
      obtain ⟨parts, same, written⟩ := exists_realText negative fits
      have number := readNumber_parts parts negative ends
      rw [Decimal.toBinary64_of_units same fits, Decimal.Parts.text, List.append_assoc,
        List.append_assoc] at number
      rw [written, readPlain_signed parts.isWhole, number]

end Json

end MarineFix
