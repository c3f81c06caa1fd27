import Mathlib.Data.List.Basic
import MarineFix.Proofs.DataField.Clock
import MarineFix.Proofs.Decode.Inversion
/-!
A record has no value exactly where its sentence has no field or an empty one.
-/

namespace MarineFix

open Sentence DataField

/-- The sentence has no field at this position, or an empty one. -/
def Sentence.Absent (fields : List Text) (index : Nat) : Prop :=
  fields.length ≤ index ∨ fields[index]? = some []

theorem Sentence.pick_eq_nil_iff (fields : List Text) (index : Nat) :
    pick fields index = [] ↔ Absent fields index := by
  rw [pick, List.getD_eq_getElem?_getD, Absent, ← List.getElem?_eq_none_iff]
  cases fields[index]? <;> simp

namespace DataField

variable {kind : Text} {fields : List Text} {index : Nat}

/-- A field of any kind has no value exactly when it is absent. -/
theorem eq_none_iff_of_optional {α : Type} {expected : Expectation} {read : Text → Option α}
    {value : Option α} (decoded : optional expected read kind fields index = .ok value) :
    value = none ↔ Absent fields index := by
  have empty := @optional_eq_none_iff α expected read kind fields index
  rwa [decoded, Except.ok.injEq, pick_eq_nil_iff] at empty

/-- A coordinate is missing exactly when its numeral is. -/
theorem eq_none_iff_of_coordinate {axis : Axis} {value : Option Binary64}
    (decoded : coordinate axis kind fields index = .ok value) :
    value = none ↔ Absent fields index := by
  rw [← pick_eq_nil_iff]
  rw [coordinate] at decoded
  split at decoded
  · rename_i empty
    cases decoded
    exact ⟨fun _ => empty, fun _ => rfl⟩
  · rename_i present
    split at decoded
    · cases decoded
    · split at decoded
      · cases decoded
      · cases decoded
        exact ⟨nofun, fun empty => absurd empty present⟩

end DataField

/-- A variation is missing exactly when its magnitude is. -/
theorem Rmc.eq_none_iff_of_decodeVariation {fields : List Text} {value : Option Binary64}
    (decoded : decodeVariation fields = .ok value) : value = none ↔ Absent fields 10 := by
  obtain ⟨magnitude, read, signed⟩ := exists_of_bind_eq_ok decoded
  rw [← eq_none_iff_of_optional read]
  cases magnitude with
  | none =>
      cases signed
      exact ⟨fun _ => rfl, fun _ => rfl⟩
  | some magnitude =>
      dsimp only at signed
      split at signed
      · cases signed
      · cases signed
        exact ⟨nofun, nofun⟩

/-- The date is absent, or it is no real date. -/
def Date.Missing (fields : List Text) (index : Nat) : Prop :=
  Absent fields index ∨ ¬ IsReading (pick fields index)

/-- The time of day is absent, or it is no clock reading. -/
def TimeOfDay.Missing (fields : List Text) (index : Nat) : Prop :=
  Absent fields index ∨ ¬ IsReading (pick fields index)

/-- An empty text is no date. -/
theorem Date.missing_iff (fields : List Text) (index : Nat) :
    Missing fields index ↔ ¬ IsReading (pick fields index) := by
  refine ⟨?_, .inr⟩
  rintro (absent | unreadable)
  · rw [(pick_eq_nil_iff fields index).mpr absent, ← isSome_ofText?_iff]
    decide
  · exact unreadable

/-- An empty text is no clock reading. -/
theorem TimeOfDay.missing_iff (fields : List Text) (index : Nat) :
    Missing fields index ↔ ¬ IsReading (pick fields index) := by
  refine ⟨?_, .inr⟩
  rintro (absent | unreadable)
  · rw [(pick_eq_nil_iff fields index).mpr absent, ← isSome_ofText?_iff]
    decide
  · exact unreadable

/-- The record has a gap exactly where the sentence has one. -/
structure Rmc.Gaps (fields : List Text) (fix : Rmc) : Prop where
  timestamp : fix.timestamp = none ↔ Date.Missing fields 9 ∨ TimeOfDay.Missing fields 1
  statusActive : fix.statusActive = none ↔ Absent fields 2
  latitude : fix.latitude = none ↔ Absent fields 3
  longitude : fix.longitude = none ↔ Absent fields 5
  speedKnots : fix.speedKnots = none ↔ Absent fields 7
  bearing : fix.bearing = none ↔ Absent fields 8
  variation : fix.variation = none ↔ Absent fields 10
  mode : fix.mode = none ↔ Absent fields 12

/-- The record has a gap exactly where the sentence has one. -/
structure Gga.Gaps (fields : List Text) (fix : Gga) : Prop where
  utcTime : fix.utcTime = none ↔ TimeOfDay.Missing fields 1
  latitude : fix.latitude = none ↔ Absent fields 2
  longitude : fix.longitude = none ↔ Absent fields 4
  fixQuality : fix.fixQuality = none ↔ Absent fields 6
  satellites : fix.satellites = none ↔ Absent fields 7
  dilution : fix.dilution = none ↔ Absent fields 8
  altitude : fix.altitude = none ↔ Absent fields 9
  geoidHeight : fix.geoidHeight = none ↔ Absent fields 11
  correctionAge : fix.correctionAge = none ↔ Absent fields 13
  stationId : fix.stationId = none ↔ Absent fields 14

/-- The record has a gap exactly where the sentence has one. -/
structure Vtg.Gaps (fields : List Text) (fix : Vtg) : Prop where
  trackTrue : fix.trackTrue = none ↔ Absent fields 1
  trackMagnetic : fix.trackMagnetic = none ↔ Absent fields 3
  speedKnots : fix.speedKnots = none ↔ Absent fields 5
  speedKilometersPerHour : fix.speedKilometersPerHour = none ↔ Absent fields 7
  mode : fix.mode = none ↔ Absent fields 9

section

variable {source : NavigationSystem} {fields : List Text}

theorem Rmc.gaps {fix : Rmc} (decodes : Decodes source fields fix) : Gaps fields fix where
  timestamp := by
    rw [decodes.timestamp, Timestamp.ofTexts?_eq_none_iff, Date.missing_iff, TimeOfDay.missing_iff]
  statusActive := eq_none_iff_of_optional decodes.statusActive
  latitude := eq_none_iff_of_coordinate decodes.latitude
  longitude := eq_none_iff_of_coordinate decodes.longitude
  speedKnots := eq_none_iff_of_optional decodes.speedKnots
  bearing := eq_none_iff_of_optional decodes.bearing
  variation := eq_none_iff_of_decodeVariation decodes.variation
  mode := eq_none_iff_of_optional decodes.mode

theorem Gga.gaps {fix : Gga} (decodes : Decodes source fields fix) : Gaps fields fix where
  utcTime := by
    rw [decodes.utcTime, TimeOfDay.ofText?_eq_none_iff, TimeOfDay.missing_iff]
  latitude := eq_none_iff_of_coordinate decodes.latitude
  longitude := eq_none_iff_of_coordinate decodes.longitude
  fixQuality := eq_none_iff_of_optional decodes.fixQuality
  satellites := eq_none_iff_of_optional decodes.satellites
  dilution := eq_none_iff_of_optional decodes.dilution
  altitude := eq_none_iff_of_optional decodes.altitude
  geoidHeight := eq_none_iff_of_optional decodes.geoidHeight
  correctionAge := eq_none_iff_of_optional decodes.correctionAge
  stationId := eq_none_iff_of_optional decodes.stationId

theorem Vtg.gaps {fix : Vtg} (decodes : Decodes source fields fix) : Gaps fields fix where
  trackTrue := eq_none_iff_of_optional decodes.trackTrue
  trackMagnetic := eq_none_iff_of_optional decodes.trackMagnetic
  speedKnots := eq_none_iff_of_optional decodes.speedKnots
  speedKilometersPerHour := eq_none_iff_of_optional decodes.speedKilometersPerHour
  mode := eq_none_iff_of_optional decodes.mode

end

/-- A value is missing exactly when its fields are absent or name no real time. -/
theorem Handler.gaps_of_decode {handler : Handler} {source : NavigationSystem} {sentence : Text}
    {record : Record} (decoded : handler.decode source sentence = .ok record) :
    match handler with
    | .rmc => ∃ fix, record = .rmc fix ∧ fix.source = some source ∧ fix.Gaps (fields sentence)
    | .gga => ∃ fix, record = .gga fix ∧ fix.source = some source ∧ fix.Gaps (fields sentence)
    | .vtg => ∃ fix, record = .vtg fix ∧ fix.source = some source ∧ fix.Gaps (fields sentence)
    | .awaitParts => record = .incomplete := by
  cases handler with
  | rmc =>
      obtain ⟨fix, read, rfl⟩ := exists_of_map_eq_ok decoded
      have decodes := Rmc.decode_eq_ok_iff.mp read
      exact ⟨fix, rfl, decodes.source, Rmc.gaps decodes⟩
  | gga =>
      obtain ⟨fix, read, rfl⟩ := exists_of_map_eq_ok decoded
      have decodes := Gga.decode_eq_ok_iff.mp read
      exact ⟨fix, rfl, decodes.source, Gga.gaps decodes⟩
  | vtg =>
      obtain ⟨fix, read, rfl⟩ := exists_of_map_eq_ok decoded
      have decodes := Vtg.decode_eq_ok_iff.mp read
      exact ⟨fix, rfl, decodes.source, Vtg.gaps decodes⟩
  | awaitParts => exact (Except.ok.inj decoded).symm

/-- A receiver that is not active differs from one that does not say so. -/
theorem Handler.gaps_of_decode_void :
    let sentence := "$GPRMC,,V,,N".toList
    let fix : Rmc := ⟨some .gps, none, some false, none, none, none, none, none, none⟩
    Handler.rmc.decode .gps sentence = .ok (.rmc fix) ∧ fix.Gaps (fields sentence) := by
  intro sentence fix
  have decoded : Handler.rmc.decode .gps sentence = .ok (.rmc fix) := by decide
  obtain ⟨_, same, _, gaps⟩ := Handler.gaps_of_decode decoded
  cases same
  exact ⟨decoded, gaps⟩

end MarineFix
