import MarineFix.Number.Decimal
/-!
The text of a binary64 number always shows a decimal point or an exponent.
-/

namespace MarineFix

namespace Decimal

/-- The zeros at the end of the digits carry no information. -/
def significant (digits : Text) : Text := (digits.reverse.dropWhile (· == '0')).reverse

/-- The point stands before, after or inside the digits. -/
def positional (digits : Text) (point : Int) : Text :=
  if point ≤ 0 then '0' :: '.' :: List.replicate (-point).toNat '0' ++ digits
  else if digits.length ≤ point.toNat then digits.rightpad point.toNat '0' ++ ['.', '0']
  else digits.take point.toNat ++ '.' :: digits.drop point.toNat

/-- The exponent has a sign and at least two digits. -/
def scientific (digits : Text) (exponent : Int) : Text :=
  digits.take 1 ++ (if digits.length = 1 then [] else '.' :: digits.drop 1) ++
    'e' :: (if exponent < 0 then '-' else '+') :: Text.padded 2 exponent.natAbs

/-- Numbers from 10^-4 up to 10^16 are written without an exponent. -/
def text (decimal : Decimal) : Text :=
  let digits := Text.ofNat decimal.coefficient
  let point : Int := digits.length + decimal.exponent
  if decimal.coefficient = 0 then ['0', '.', '0']
  else if -4 < point ∧ point ≤ 16 then positional (significant digits) point
  else scientific (significant digits) (point - 1)

end Decimal

namespace Binary64

/-- A minus sign stands before a negative number and before a negative zero. -/
def signed (negative : Bool) (text : Text) : Text := if negative then '-' :: text else text

/-- The fewest digits that identify the number. -/
def text : Binary64 → Text
  | .finite negative units _ => signed negative (Decimal.shortest units).text
  | .infinite negative => signed negative "inf".toList

end Binary64

end MarineFix
