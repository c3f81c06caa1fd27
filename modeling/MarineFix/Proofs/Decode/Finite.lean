import MarineFix.Proofs.Decode.Message
import MarineFix.Proofs.Decode.Variation
import MarineFix.Proofs.Json.Standard
/-!
The numbers of a decoded record are finite, so its message is standard JSON.
-/

namespace MarineFix

open Number Sentence DataField Message
open Json (Scalar)

namespace Message

theorem isFinite_nullable {α : Type} {scalar : α → Scalar} {value : Option α}
    (each : ∀ present ∈ value, (scalar present).IsFinite) : (nullable scalar value).IsFinite := by
  cases value with
  | none => trivial
  | some present => exact each present rfl

theorem isFinite_utc {α : Type} (text : α → Text) (value : Option α) :
    (nullable (fun present => utc (text present)) value).IsFinite :=
  isFinite_nullable fun _ _ => trivial

theorem isFinite_systemName (value : Option NavigationSystem) : (systemName value).IsFinite :=
  isFinite_nullable fun _ _ => trivial

theorem isFinite_modeLetter (value : Option FixMode) : (modeLetter value).IsFinite :=
  isFinite_nullable fun _ _ => trivial

variable {kind : Text} {fields : List Text} {index : Nat} {value : Option Binary64}

/-- A numeral that overflows is no value of its field. -/
theorem isFinite_real (decoded : DataField.real kind fields index = .ok value) :
    (real value).IsFinite := by
  apply isFinite_nullable
  rintro present ⟨⟩
  obtain ⟨_, _, _, _, _, nearest⟩ := Numeral.real?_eq_some_iff.mp (read_of_optional decoded)
  exact nearest.finite

theorem isFinite_coordinate {axis : Axis} (decoded : coordinate axis kind fields index = .ok value) :
    (real value).IsFinite := by
  apply isFinite_nullable
  rintro present ⟨⟩
  exact (coordinate_eq_some_iff.mp decoded).bounds.1

theorem isFinite_variation (decoded : Rmc.decodeVariation fields = .ok value) :
    (real value).IsFinite := by
  apply isFinite_nullable
  rintro present ⟨⟩
  obtain ⟨magnitude, west, found, _, rfl⟩ := Rmc.decodeVariation_eq_some_iff.mp decoded
  have finite : magnitude.isFinite = true := isFinite_real found
  cases west with
  | false => exact finite
  | true => exact (Binary64.isFinite_negate magnitude).trans finite

end Message

section

variable {source : NavigationSystem} {fields : List Text}

theorem Rmc.isFinite_members {fix : Rmc} (decodes : Decodes source fields fix) :
    ∀ member ∈ fix.members, member.2.IsFinite := by
  have truth (value : Option Bool) : (nullable Scalar.bool value).IsFinite :=
    isFinite_nullable fun _ _ => trivial
  simp [members, truth, isFinite_utc, isFinite_systemName, isFinite_modeLetter,
    isFinite_coordinate decodes.latitude, isFinite_coordinate decodes.longitude,
    isFinite_real decodes.speedKnots, isFinite_real decodes.bearing,
    isFinite_variation decodes.variation]

theorem Gga.isFinite_members {fix : Gga} (decodes : Decodes source fields fix) :
    ∀ member ∈ fix.members, member.2.IsFinite := by
  have whole (value : Option Int) : (integer value).IsFinite :=
    isFinite_nullable fun _ _ => trivial
  simp [members, whole, isFinite_utc, isFinite_systemName,
    isFinite_coordinate decodes.latitude, isFinite_coordinate decodes.longitude,
    isFinite_real decodes.dilution, isFinite_real decodes.altitude,
    isFinite_real decodes.geoidHeight, isFinite_real decodes.correctionAge]

theorem Vtg.isFinite_members {fix : Vtg} (decodes : Decodes source fields fix) :
    ∀ member ∈ fix.members, member.2.IsFinite := by
  simp [members, isFinite_systemName, isFinite_modeLetter, isFinite_real decodes.trackTrue,
    isFinite_real decodes.trackMagnetic, isFinite_real decodes.speedKnots,
    isFinite_real decodes.speedKilometersPerHour]

theorem Vtg.unitsPerOne_le_kilometersPerHour : unitsPerOne ≤ kilometersPerHour := by
  have scale : (0 : ℚ) < (Decimal.mk 36 (-1)).denominator :=
    Nat.cast_pos.mpr (Decimal.denominator_pos _)
  rw [kilometersPerHour, Decimal.units]
  apply le_nearest_of_grid (Decimal.denominator_pos _) Binary64.onGrid_unitsPerOne
  rw [le_div_iff₀ scale]
  have factors : unitsPerOne * (Decimal.mk 36 (-1)).denominator ≤
      (Decimal.mk 36 (-1)).numerator := by
    have ten : Nat.pow 10 (- -1 : Int).toNat = 10 := rfl
    have one : Nat.pow 10 (-1 : Int).toNat = 1 := rfl
    rw [Decimal.denominator, Decimal.numerator, ten, one, Nat.mul_comm]
    exact Nat.mul_le_mul_right _ (by decide)
  exact_mod_cast factors

/-- The speed in meters per second is a quotient of a finite speed. -/
theorem Vtg.isFinite_speedMetersPerSecond {fix : Vtg} (decodes : Decodes source fields fix) :
    (real fix.speedMetersPerSecond).IsFinite := by
  apply isFinite_nullable
  intro present found
  obtain ⟨speed, known, rfl⟩ := Option.map_eq_some_iff.mp found
  have decoded := decodes.speedKilometersPerHour
  rw [known] at decoded
  have finite : speed.isFinite = true := isFinite_real decoded
  exact Binary64.isFinite_divideBy finite unitsPerOne_le_kilometersPerHour

end

/-- Every value of a decoded record and every derived one is finite. -/
theorem Handler.isFinite_of_decodeFields {handler : Handler} {source : NavigationSystem}
    {fields : List Text} {record : Record}
    (decoded : handler.decodeFields source fields = .ok record) :
    ∀ member ∈ record.members ++ record.derived, member.2.IsFinite := by
  cases handler with
  | rmc =>
      obtain ⟨fix, found, rfl⟩ := exists_of_map_eq_ok decoded
      have decodes := Rmc.decode_eq_ok_iff.mp found
      simp only [Record.members, Record.fields, Record.derived, List.append_nil,
        List.forall_mem_cons]
      exact ⟨trivial, Rmc.isFinite_members decodes⟩
  | gga =>
      obtain ⟨fix, found, rfl⟩ := exists_of_map_eq_ok decoded
      have decodes := Gga.decode_eq_ok_iff.mp found
      simp only [Record.members, Record.fields, Record.derived, List.forall_mem_append,
        List.forall_mem_cons]
      exact ⟨⟨trivial, Gga.isFinite_members decodes⟩, trivial, List.forall_mem_nil _⟩
  | vtg =>
      obtain ⟨fix, found, rfl⟩ := exists_of_map_eq_ok decoded
      have decodes := Vtg.decode_eq_ok_iff.mp found
      simp only [Record.members, Record.fields, Record.derived, List.forall_mem_append,
        List.forall_mem_cons]
      exact ⟨⟨trivial, Vtg.isFinite_members decodes⟩, trivial,
        Vtg.isFinite_speedMetersPerSecond decodes, List.forall_mem_nil _⟩
  | awaitParts =>
      cases decoded
      simp only [Record.members, Record.fields, Record.derived, List.append_nil,
        List.forall_mem_cons]
      exact ⟨trivial, List.forall_mem_nil _⟩

/-- Only finite numbers and integers of at most 4300 digits leave a decoder. -/
theorem Decoder.decode_finite {decoder : Decoder} {sentence : Text} {record : Record}
    (decoded : decoder.decode sentence = .ok record) :
    (∀ member ∈ record.members ++ record.derived,
      (∀ value, member.2 = .real value → value.isFinite = true) ∧
      ∀ value, member.2 = .integer value → (Text.ofNat value.natAbs).length ≤ 4300) ∧
    (∀ again, decoder.decode sentence = .ok again → record.agrees again = true) ∧
    ∃ message, record.message? = some message ∧ Json.Standard.IsObject message ∧
      Json.ofText message =
        .ok (.object (record.members.map fun member => (member.1, .scalar member.2))) := by
  obtain ⟨entry, _, source, found⟩ := exists_handler_of_decode decoded
  have finite := Handler.isFinite_of_decodeFields found
  refine ⟨fun member inside => ⟨?_, ?_⟩, ?_, record.message, message?_of_decode decoded,
    Json.Standard.isObject_objectText fun member inside => ?_, ofText_message decoded⟩
  · intro value same
    have real := finite member inside
    rwa [same] at real
  · intro value same
    have short : member.2.Readable :=
      (List.mem_append.mp inside).elim (readable_members decoded member)
        (record.readable_derived member)
    rwa [same] at short
  · intro again decodedAgain
    rw [decoded] at decodedAgain
    cases decodedAgain
    exact record.agrees_self
  · exact finite member (List.mem_append_left _ inside)

/-- The numbers of a track and its derived speed are finite. -/
theorem Decoder.decode_finite_track :
    ∃ record, Decoder.decode {} "$GPVTG,54.7,T,34.4,M,5.5,N,10.2,K,A*15".toList = .ok record ∧
      (∀ member ∈ record.members ++ record.derived,
        (∀ value, member.2 = .real value → value.isFinite = true) ∧
        ∀ value, member.2 = .integer value → (Text.ofNat value.natAbs).length ≤ 4300) ∧
      ∃ message, record.message? = some message ∧ Json.Standard.IsObject message := by
  have readable :
      (Decoder.decode {} "$GPVTG,54.7,T,34.4,M,5.5,N,10.2,K,A*15".toList).isOk = true := by
    decide +kernel
  cases decoded : Decoder.decode {} "$GPVTG,54.7,T,34.4,M,5.5,N,10.2,K,A*15".toList with
  | error failure =>
      rw [decoded] at readable
      cases readable
  | ok record =>
      obtain ⟨finite, _, message, written, standard, _⟩ := Decoder.decode_finite decoded
      exact ⟨record, rfl, finite, message, written, standard⟩

end MarineFix
