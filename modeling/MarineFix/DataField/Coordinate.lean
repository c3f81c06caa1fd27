import MarineFix.DataField.Basic
/-!
A coordinate is a numeral of degrees and minutes and the letter of its hemisphere.
-/

namespace MarineFix

open Number Sentence

/-- Whole degrees and minutes, which are a sixtieth of a degree each. -/
structure Sexagesimal where
  degrees : Nat
  minutes : Decimal
deriving DecidableEq

namespace Sexagesimal

/-- Two to five digits stand before the point, and any number behind it. -/
def ofText? (text : Text) : Option Sexagesimal :=
  let whole := text.takeWhile Char.isDigit
  let degrees := Text.toNat (whole.take (whole.length - 2))
  let minutes := whole.drop (whole.length - 2)
  if 2 ≤ whole.length ∧ whole.length ≤ 5 then
    match text.dropWhile Char.isDigit with
    | [] => some ⟨degrees, ⟨Text.toNat minutes, 0⟩⟩
    | '.' :: fraction =>
        if Text.IsDigits fraction then
          some ⟨degrees, ⟨Text.toNat (minutes ++ fraction), -fraction.length⟩⟩
        else none
    | _ => none
  else none

/-- The minutes, their sixtieth and the sum are each rounded. -/
def toBinary64 (negative : Bool) (angle : Sexagesimal) : Binary64 :=
  .ofQuotient negative (angle.degrees * unitsPerOne + nearest angle.minutes.units 60) 1

end Sexagesimal

/-- The letters of the two hemispheres, of which the second is negative. -/
def Axis.hemispheres : Axis → List (Text × Bool)
  | .latitude => [(['N'], false), (['S'], true)]
  | .longitude => [(['E'], false), (['W'], true)]

/-- The hemisphere is tested before the numeral, and only when there is one. -/
def DataField.coordinate (axis : Axis) (kind : Text) (fields : List Text) (index : Nat) :
    DataField.Decoded Binary64 :=
  if pick fields index = [] then .ok none
  else match axis.hemispheres.lookup (pick fields (index + 1)) with
    | none =>
        .error ⟨kind, index + 1, pick fields (index + 1),
          .letter (axis.name ++ " hemisphere".toList)⟩
    | some negative =>
        match Sexagesimal.ofText? (pick fields index) with
        | none => .error ⟨kind, index, pick fields index, .coordinate axis⟩
        | some angle => .ok (some (angle.toBinary64 negative))

end MarineFix
