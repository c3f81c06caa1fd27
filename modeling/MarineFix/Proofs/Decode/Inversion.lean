import MarineFix.Decode.Handler
/-!
A sentence decodes to a record exactly when each field decodes to its value.
-/

namespace MarineFix

open Sentence DataField

theorem exists_of_map_eq_ok {ε α β : Type} {change : α → β} {outcome : Except ε α} {result : β}
    (mapped : outcome.map change = .ok result) :
    ∃ value, outcome = .ok value ∧ change value = result := by
  cases outcome with
  | error fault => cases mapped
  | ok value => exact ⟨value, rfl, Except.ok.inj mapped⟩

/-- A step that succeeds after another one goes on from its value. -/
theorem exists_of_bind_eq_ok {ε α β : Type} {outcome : Except ε α} {next : α → Except ε β}
    {result : β} (bound : (outcome >>= next) = .ok result) :
    ∃ value, outcome = .ok value ∧ next value = .ok result := by
  cases outcome with
  | error fault => cases bound
  | ok value => exact ⟨value, rfl, bound⟩

/-- Each value of the record is what its field decodes to. -/
structure Rmc.Decodes (source : NavigationSystem) (fields : List Text) (fix : Rmc) : Prop where
  source : fix.source = some source
  timestamp : fix.timestamp = Timestamp.ofTexts? (pick fields 9) (pick fields 1)
  statusActive : letter statusLetters "navigation receiver status".toList kind fields 2 =
    .ok fix.statusActive
  latitude : coordinate .latitude kind fields 3 = .ok fix.latitude
  longitude : coordinate .longitude kind fields 5 = .ok fix.longitude
  speedKnots : real kind fields 7 = .ok fix.speedKnots
  bearing : real kind fields 8 = .ok fix.bearing
  variation : decodeVariation fields = .ok fix.variation
  mode : letter FixMode.alphabet "mode indicator".toList kind fields 12 = .ok fix.mode

/-- Each value of the record is what its field decodes to. -/
structure Gga.Decodes (source : NavigationSystem) (fields : List Text) (fix : Gga) : Prop where
  source : fix.source = some source
  utcTime : fix.utcTime = TimeOfDay.ofText? (pick fields 1)
  latitude : coordinate .latitude kind fields 2 = .ok fix.latitude
  longitude : coordinate .longitude kind fields 4 = .ok fix.longitude
  fixQuality : integer kind fields 6 = .ok fix.fixQuality
  satellites : integer kind fields 7 = .ok fix.satellites
  dilution : real kind fields 8 = .ok fix.dilution
  altitude : real kind fields 9 = .ok fix.altitude
  geoidHeight : real kind fields 11 = .ok fix.geoidHeight
  correctionAge : real kind fields 13 = .ok fix.correctionAge
  stationId : integer kind fields 14 = .ok fix.stationId

/-- Each value of the record is what its field decodes to. -/
structure Vtg.Decodes (source : NavigationSystem) (fields : List Text) (fix : Vtg) : Prop where
  source : fix.source = some source
  trackTrue : real kind fields 1 = .ok fix.trackTrue
  trackMagnetic : real kind fields 3 = .ok fix.trackMagnetic
  speedKnots : real kind fields 5 = .ok fix.speedKnots
  speedKilometersPerHour : real kind fields 7 = .ok fix.speedKilometersPerHour
  mode : letter FixMode.alphabet "mode indicator".toList kind fields 9 = .ok fix.mode

section

variable {source : NavigationSystem} {fields : List Text}

theorem Rmc.decode_eq_ok_iff {fix : Rmc} :
    decode source fields = .ok fix ↔ Decodes source fields fix := by
  constructor
  · intro decoded
    obtain ⟨_, status, decoded⟩ := exists_of_bind_eq_ok decoded
    obtain ⟨_, latitude, decoded⟩ := exists_of_bind_eq_ok decoded
    obtain ⟨_, longitude, decoded⟩ := exists_of_bind_eq_ok decoded
    obtain ⟨_, speed, decoded⟩ := exists_of_bind_eq_ok decoded
    obtain ⟨_, bearing, decoded⟩ := exists_of_bind_eq_ok decoded
    obtain ⟨_, variation, decoded⟩ := exists_of_bind_eq_ok decoded
    obtain ⟨_, mode, decoded⟩ := exists_of_bind_eq_ok decoded
    cases decoded
    exact ⟨rfl, rfl, status, latitude, longitude, speed, bearing, variation, mode⟩
  · intro decodes
    obtain ⟨_, _, _, _, _, _, _, _, _⟩ := fix
    obtain ⟨rfl, rfl, status, latitude, longitude, speed, bearing, variation, mode⟩ := decodes
    rw [decode, status, latitude, longitude, speed, bearing, variation, mode]
    rfl

theorem Gga.decode_eq_ok_iff {fix : Gga} :
    decode source fields = .ok fix ↔ Decodes source fields fix := by
  constructor
  · intro decoded
    obtain ⟨_, latitude, decoded⟩ := exists_of_bind_eq_ok decoded
    obtain ⟨_, longitude, decoded⟩ := exists_of_bind_eq_ok decoded
    obtain ⟨_, quality, decoded⟩ := exists_of_bind_eq_ok decoded
    obtain ⟨_, satellites, decoded⟩ := exists_of_bind_eq_ok decoded
    obtain ⟨_, dilution, decoded⟩ := exists_of_bind_eq_ok decoded
    obtain ⟨_, altitude, decoded⟩ := exists_of_bind_eq_ok decoded
    obtain ⟨_, geoid, decoded⟩ := exists_of_bind_eq_ok decoded
    obtain ⟨_, age, decoded⟩ := exists_of_bind_eq_ok decoded
    obtain ⟨_, station, decoded⟩ := exists_of_bind_eq_ok decoded
    cases decoded
    exact ⟨rfl, rfl, latitude, longitude, quality, satellites, dilution, altitude, geoid, age,
      station⟩
  · intro decodes
    obtain ⟨_, _, _, _, _, _, _, _, _, _, _⟩ := fix
    obtain ⟨rfl, rfl, latitude, longitude, quality, satellites, dilution, altitude, geoid, age,
      station⟩ := decodes
    rw [decode, latitude, longitude, quality, satellites, dilution, altitude, geoid, age, station]
    rfl

theorem Vtg.decode_eq_ok_iff {fix : Vtg} :
    decode source fields = .ok fix ↔ Decodes source fields fix := by
  constructor
  · intro decoded
    obtain ⟨_, trackTrue, decoded⟩ := exists_of_bind_eq_ok decoded
    obtain ⟨_, trackMagnetic, decoded⟩ := exists_of_bind_eq_ok decoded
    obtain ⟨_, knots, decoded⟩ := exists_of_bind_eq_ok decoded
    obtain ⟨_, kilometers, decoded⟩ := exists_of_bind_eq_ok decoded
    obtain ⟨_, mode, decoded⟩ := exists_of_bind_eq_ok decoded
    cases decoded
    exact ⟨rfl, trackTrue, trackMagnetic, knots, kilometers, mode⟩
  · intro decodes
    obtain ⟨_, _, _, _, _, _⟩ := fix
    obtain ⟨rfl, trackTrue, trackMagnetic, knots, kilometers, mode⟩ := decodes
    rw [decode, trackTrue, trackMagnetic, knots, kilometers, mode]
    rfl

end

end MarineFix
