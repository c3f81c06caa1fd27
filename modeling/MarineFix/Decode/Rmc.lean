import MarineFix.DataField.Clock
import MarineFix.DataField.Coordinate
import MarineFix.Record.Basic
/-!
Decoding of the recommended minimum sentence.
-/

namespace MarineFix.Rmc

open Sentence DataField

def kind : Text := ['R', 'M', 'C']

/-- A differential fix is active as well. -/
def statusLetters : List (Text × Bool) := [(['A'], true), (['D'], true), (['V'], false)]

/-- The side west of north is negative. -/
def variationSides : List (Text × Bool) := [(['E'], false), (['W'], true)]

/-- The side of the variation decides which way its sign turns. -/
def decodeVariation (fields : List Text) : Except FieldFailure (Option Binary64) := do
  match ← real kind fields 10 with
  | none => return none
  | some magnitude =>
      match variationSides.lookup (pick fields 11) with
      | none => throw ⟨kind, 11, pick fields 11, .letter "variation side".toList⟩
      | some west => return some (if west then magnitude.negate else magnitude)

/-- The fields are decoded from left to right up to the first failure. -/
def decode (source : NavigationSystem) (fields : List Text) : Except FieldFailure Rmc := do
  let statusActive ← letter statusLetters "navigation receiver status".toList kind fields 2
  let latitude ← coordinate .latitude kind fields 3
  let longitude ← coordinate .longitude kind fields 5
  let speedKnots ← real kind fields 7
  let bearing ← real kind fields 8
  let variation ← decodeVariation fields
  let mode ← letter FixMode.alphabet "mode indicator".toList kind fields 12
  return {
    source := some source
    timestamp := Timestamp.ofTexts? (pick fields 9) (pick fields 1)
    statusActive
    latitude
    longitude
    speedKnots
    bearing
    variation
    mode }

end MarineFix.Rmc
