import MarineFix.Number.Decimal
/-!
Only plain decimal numerals of ASCII digits are numbers.
-/

namespace MarineFix.Numeral

/-- A sign in front is split off. -/
def splitSign : Text → Bool × Text
  | '-' :: rest => (true, rest)
  | '+' :: rest => (false, rest)
  | text => (false, text)

/-- An integer has at most this many digits, and leading zeros count. -/
def maxDigits : Nat := 4300

/-- An optional sign is followed by one or more digits. -/
def integer? (text : Text) : Option Int :=
  let (negative, digits) := splitSign text
  if Text.IsDigits digits ∧ digits ≠ [] ∧ digits.length ≤ maxDigits then
    some (if negative then -(Text.toNat digits : Int) else Text.toNat digits)
  else none

/-- One side of the point may be empty when the point is there. -/
def decimal? (text : Text) : Option Decimal :=
  let whole := text.takeWhile Char.isDigit
  match text.dropWhile Char.isDigit with
  | [] => if whole = [] then none else some ⟨Text.toNat whole, 0⟩
  | '.' :: fraction =>
      if Text.IsDigits fraction ∧ (whole ≠ [] ∨ fraction ≠ []) then
        some ⟨Text.toNat (whole ++ fraction), -fraction.length⟩
      else none
  | _ => none

/-- A numeral that rounds beyond the finite range is no number. -/
def real? (text : Text) : Option Binary64 :=
  let (negative, magnitude) := splitSign text
  (decimal? magnitude).bind fun decimal =>
    let value := decimal.toBinary64 negative
    if value.isFinite then some value else none

/-- A power of ten follows the letter e of either case. -/
def scaled? (text : Text) : Option Decimal :=
  let isMark (character : Char) : Bool := character == 'e' || character == 'E'
  (decimal? (text.takeWhile fun character => !isMark character)).bind fun decimal =>
    match text.dropWhile fun character => !isMark character with
    | [] => some decimal
    | _ :: power =>
        let (negative, digits) := splitSign power
        if Text.IsDigits digits ∧ digits ≠ [] then
          let exponent : Int := Text.toNat digits
          some { decimal with
            exponent := decimal.exponent + if negative then -exponent else exponent }
        else none

/-- A scaled decimal may round to zero or to infinity. -/
def scaledReal? (text : Text) : Option Binary64 :=
  let (negative, magnitude) := splitSign text
  (scaled? magnitude).map fun decimal => decimal.withinReach.toBinary64 negative

end MarineFix.Numeral
