import MarineFix.Json.Value
import MarineFix.Record.Calendar
import MarineFix.Record.Source
/-!
A record has a value for each field of its sentence that has data.
-/

namespace MarineFix

open Number

/-- The recommended minimum: time, position, course and speed. -/
structure Rmc where
  source : Option NavigationSystem
  timestamp : Option Timestamp
  statusActive : Option Bool
  latitude : Option Binary64
  longitude : Option Binary64
  speedKnots : Option Binary64
  bearing : Option Binary64
  variation : Option Binary64
  mode : Option FixMode
deriving DecidableEq

/-- The fix data: time, position, quality and height. -/
structure Gga where
  source : Option NavigationSystem
  utcTime : Option TimeOfDay
  latitude : Option Binary64
  longitude : Option Binary64
  fixQuality : Option Int
  satellites : Option Int
  dilution : Option Binary64
  altitude : Option Binary64
  geoidHeight : Option Binary64
  correctionAge : Option Binary64
  stationId : Option Int
deriving DecidableEq

/-- The track over ground and its speed. -/
structure Vtg where
  source : Option NavigationSystem
  trackTrue : Option Binary64
  trackMagnetic : Option Binary64
  speedKnots : Option Binary64
  speedKilometersPerHour : Option Binary64
  mode : Option FixMode
deriving DecidableEq

/-- A decoded sentence, or the mark of one that waits for its parts. -/
inductive Record where
  | rmc (fix : Rmc)
  | gga (fix : Gga)
  | vtg (fix : Vtg)
  | incomplete
deriving DecidableEq

/-- The quality zero stands for a fix that is not valid. -/
def Gga.valid (fix : Gga) : Bool :=
  match fix.fixQuality with
  | some quality => 0 < quality
  | none => false

/-- A track needs a mode that does not declare it not valid. -/
def Vtg.valid (fix : Vtg) : Bool :=
  match fix.mode with
  | some mode => mode != .notValid
  | none => false

/-- One meter per second is 3.6 kilometers per hour, rounded to binary64. -/
def Vtg.kilometersPerHour : Nat := (Decimal.mk 36 (-1)).units

def Vtg.speedMetersPerSecond (fix : Vtg) : Option Binary64 :=
  fix.speedKilometersPerHour.map (·.divideBy Vtg.kilometersPerHour)

/-- Values are compared as numbers, and a missing value equals only a missing value. -/
def Binary64.agreesOptional : Option Binary64 → Option Binary64 → Bool
  | some first, some second => first.agrees second
  | none, none => true
  | _, _ => false

open Binary64 in
/-- Records of one type agree when each of their fields does. -/
def Record.agrees : Record → Record → Bool
  | .rmc first, .rmc second =>
      first.source == second.source && first.timestamp == second.timestamp &&
      first.statusActive == second.statusActive &&
      agreesOptional first.latitude second.latitude &&
      agreesOptional first.longitude second.longitude &&
      agreesOptional first.speedKnots second.speedKnots &&
      agreesOptional first.bearing second.bearing &&
      agreesOptional first.variation second.variation && first.mode == second.mode
  | .gga first, .gga second =>
      first.source == second.source && first.utcTime == second.utcTime &&
      agreesOptional first.latitude second.latitude &&
      agreesOptional first.longitude second.longitude &&
      first.fixQuality == second.fixQuality && first.satellites == second.satellites &&
      agreesOptional first.dilution second.dilution &&
      agreesOptional first.altitude second.altitude &&
      agreesOptional first.geoidHeight second.geoidHeight &&
      agreesOptional first.correctionAge second.correctionAge &&
      first.stationId == second.stationId
  | .vtg first, .vtg second =>
      first.source == second.source && agreesOptional first.trackTrue second.trackTrue &&
      agreesOptional first.trackMagnetic second.trackMagnetic &&
      agreesOptional first.speedKnots second.speedKnots &&
      agreesOptional first.speedKilometersPerHour second.speedKilometersPerHour &&
      first.mode == second.mode
  | .incomplete, .incomplete => true
  | _, _ => false

@[simp] theorem Binary64.agreesOptional_self (value : Option Binary64) :
    agreesOptional value value = true := by
  cases value with
  | none => rfl
  | some value => exact value.agrees_self

@[simp] theorem Record.agrees_self (record : Record) : record.agrees record = true := by
  cases record <;> simp [agrees]

end MarineFix
