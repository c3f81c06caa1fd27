import MarineFix.DataField.Basic
import MarineFix.Record.Basic
/-!
Decoding of the track sentence.
-/

namespace MarineFix.Vtg

open Sentence DataField

def kind : Text := ['V', 'T', 'G']

/-- The fields are decoded from left to right up to the first failure. -/
def decode (source : NavigationSystem) (fields : List Text) : Except FieldFailure Vtg := do
  let trackTrue ← real kind fields 1
  let trackMagnetic ← real kind fields 3
  let speedKnots ← real kind fields 5
  let speedKilometersPerHour ← real kind fields 7
  let mode ← letter FixMode.alphabet "mode indicator".toList kind fields 9
  return {
    source := some source
    trackTrue
    trackMagnetic
    speedKnots
    speedKilometersPerHour
    mode }

end MarineFix.Vtg
