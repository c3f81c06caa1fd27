import MarineFix.Record.Basic
/-!
The message of a record is one JSON object whose keys depend on its type only.
-/

namespace MarineFix

open Json (Scalar)

namespace Message

/-- A missing value is null. -/
def nullable {α : Type} (scalar : α → Scalar) : Option α → Scalar
  | some value => scalar value
  | none => .null

def real : Option Binary64 → Scalar := nullable .real

def integer : Option Int → Scalar := nullable .integer

/-- A time in UTC ends in the letter Z. -/
def utc (text : Text) : Scalar := .string (text ++ ['Z'])

/-- A satellite system is written as its name. -/
def systemName : Option NavigationSystem → Scalar := nullable fun system => .string system.name

def modeLetter : Option FixMode → Scalar := nullable fun mode => .string [mode.letter]

end Message

open Message

def Rmc.members (fix : Rmc) : List (Text × Scalar) :=
  [("source".toList, systemName fix.source),
    ("timestamp".toList, nullable (fun instant => utc instant.text) fix.timestamp),
    ("status_active".toList, nullable .bool fix.statusActive),
    ("latitude".toList, real fix.latitude),
    ("longitude".toList, real fix.longitude),
    ("sog_knots".toList, real fix.speedKnots),
    ("bearing".toList, real fix.bearing),
    ("variation".toList, real fix.variation),
    ("mode".toList, modeLetter fix.mode)]

def Gga.members (fix : Gga) : List (Text × Scalar) :=
  [("source".toList, systemName fix.source),
    ("utc_time".toList, nullable (fun time => utc time.text) fix.utcTime),
    ("latitude".toList, real fix.latitude),
    ("longitude".toList, real fix.longitude),
    ("fix_quality".toList, integer fix.fixQuality),
    ("num_satellites".toList, integer fix.satellites),
    ("horizontal_dilution_of_precision".toList, real fix.dilution),
    ("altitude_meters".toList, real fix.altitude),
    ("geoid_height_meters".toList, real fix.geoidHeight),
    ("dgps_age_seconds".toList, real fix.correctionAge),
    ("dgps_station_id".toList, integer fix.stationId)]

def Vtg.members (fix : Vtg) : List (Text × Scalar) :=
  [("source".toList, systemName fix.source),
    ("track_true_degrees".toList, real fix.trackTrue),
    ("track_magnetic_degrees".toList, real fix.trackMagnetic),
    ("speed_knots".toList, real fix.speedKnots),
    ("speed_kilometers_per_hour".toList, real fix.speedKilometersPerHour),
    ("mode".toList, modeLetter fix.mode)]

namespace Record

def typeName : Record → Text
  | .rmc _ => "rmc".toList
  | .gga _ => "gga".toList
  | .vtg _ => "vtg".toList
  | .incomplete => "incomplete".toList

def fields : Record → List (Text × Scalar)
  | .rmc fix => fix.members
  | .gga fix => fix.members
  | .vtg fix => fix.members
  | .incomplete => []

/-- The type of the record comes first. -/
def members (record : Record) : List (Text × Scalar) :=
  ("type".toList, .string record.typeName) :: record.fields

/-- These values follow from the fields and are not part of the message. -/
def derived : Record → List (Text × Scalar)
  | .gga fix => [("valid".toList, .bool fix.valid)]
  | .vtg fix =>
      [("valid".toList, .bool fix.valid),
        ("speed_meters_per_second".toList, real fix.speedMetersPerSecond)]
  | _ => []

/-- The members as one object, with integers of any length. -/
def message (record : Record) : Text := Json.objectText record.members

/-- The text that subscribers receive, unless an integer is too long for it. -/
def message? (record : Record) : Option Text := Json.objectText? record.members

end Record

end MarineFix
