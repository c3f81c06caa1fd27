import MarineFix.DataField.Clock
import MarineFix.DataField.Coordinate
import MarineFix.Record.Basic
/-!
Decoding of the fix data sentence.
-/

namespace MarineFix.Gga

open Sentence DataField

def kind : Text := ['G', 'G', 'A']

/-- The fields are decoded from left to right up to the first failure. -/
def decode (source : NavigationSystem) (fields : List Text) : Except FieldFailure Gga := do
  let latitude ← coordinate .latitude kind fields 2
  let longitude ← coordinate .longitude kind fields 4
  let fixQuality ← integer kind fields 6
  let satellites ← integer kind fields 7
  let dilution ← real kind fields 8
  let altitude ← real kind fields 9
  let geoidHeight ← real kind fields 11
  let correctionAge ← real kind fields 13
  let stationId ← integer kind fields 14
  return {
    source := some source
    utcTime := TimeOfDay.ofText? (pick fields 1)
    latitude
    longitude
    fixQuality
    satellites
    dilution
    altitude
    geoidHeight
    correctionAge
    stationId }

end MarineFix.Gga
