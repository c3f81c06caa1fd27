import MarineFix.Proofs.Json.Injective
import MarineFix.Proofs.Record.Calendar
import MarineFix.Record.Message
/-!
Records that differ in any field have different messages.
-/

namespace MarineFix

open Json (Scalar)

theorem NavigationSystem.name_injective {first second : NavigationSystem}
    (same : first.name = second.name) : first = second := by
  have found := congrArg ofName? same
  rwa [ofName?_name, ofName?_name, Option.some.injEq] at found

theorem FixMode.letter_injective {first second : FixMode} (same : first.letter = second.letter) :
    first = second := by
  have found := congrArg (fun letter => alphabet.lookup [letter]) same
  simpa using found

namespace Message

/-- Every value is written as a scalar of its own, which is not null. -/
structure Faithful {α : Type} (scalar : α → Scalar) : Prop where
  ne_null : ∀ value, scalar value ≠ .null
  injective : ∀ first second, scalar first = scalar second → first = second

/-- A value is null only when it is missing. -/
theorem Faithful.isNull {α : Type} {scalar : α → Scalar} (faithful : Faithful scalar)
    (value : Option α) : decide (nullable scalar value = .null) = value.isNone := by
  cases value with
  | none => rfl
  | some value => exact decide_eq_false (faithful.ne_null value)

theorem Faithful.nullable_inj {α : Type} {scalar : α → Scalar} (faithful : Faithful scalar)
    {first second : Option α} :
    nullable scalar first = nullable scalar second ↔ first = second := by
  refine ⟨fun same => ?_, congrArg _⟩
  cases first with
  | none =>
      cases second with
      | none => rfl
      | some other => exact absurd same.symm (faithful.ne_null other)
  | some value =>
      cases second with
      | none => exact absurd same (faithful.ne_null value)
      | some other => exact congrArg some (faithful.injective _ _ same)

theorem faithful_real : Faithful Scalar.real where
  ne_null _ := Scalar.noConfusion
  injective _ _ := Scalar.real.inj

theorem faithful_integer : Faithful Scalar.integer where
  ne_null _ := Scalar.noConfusion
  injective _ _ := Scalar.integer.inj

theorem faithful_bool : Faithful Scalar.bool where
  ne_null _ := Scalar.noConfusion
  injective _ _ := Scalar.bool.inj

/-- Texts tell values apart also with the letter of UTC. -/
theorem faithful_utc {α : Type} {text : α → Text}
    (injective : ∀ first second, text first = text second → first = second) :
    Faithful fun value => utc (text value) where
  ne_null _ := Scalar.noConfusion
  injective first second same :=
    injective first second (List.append_cancel_right (Scalar.string.inj same))

theorem faithful_instant : Faithful fun instant : Timestamp => utc instant.text :=
  faithful_utc fun _ _ => Timestamp.text_injective

theorem faithful_time : Faithful fun time : TimeOfDay => utc time.text :=
  faithful_utc fun _ _ => TimeOfDay.text_injective

theorem faithful_system : Faithful fun system : NavigationSystem => .string system.name where
  ne_null _ := Scalar.noConfusion
  injective _ _ same := NavigationSystem.name_injective (Scalar.string.inj same)

theorem faithful_mode : Faithful fun mode : FixMode => .string [mode.letter] where
  ne_null _ := Scalar.noConfusion
  injective _ _ same := FixMode.letter_injective (List.cons.inj (Scalar.string.inj same)).1

/-- A missing value can be read. -/
theorem readable_nullable {α : Type} {scalar : α → Scalar} {value : Option α} :
    (nullable scalar value).Readable ↔
      ∀ present, some present = value → (scalar present).Readable := by
  cases value with
  | none => simp [nullable]
  | some present => simp [nullable]

end Message

open Message

theorem Rmc.members_injective {first second : Rmc} (same : first.members = second.members) :
    first = second := by
  obtain ⟨⟩ := first
  obtain ⟨⟩ := second
  simp only [members, real, systemName, modeLetter, List.cons.injEq, Prod.mk.injEq, true_and,
    and_true, faithful_real.nullable_inj, faithful_bool.nullable_inj,
    faithful_instant.nullable_inj, faithful_system.nullable_inj,
    faithful_mode.nullable_inj] at same
  rw [mk.injEq]
  exact same

theorem Gga.members_injective {first second : Gga} (same : first.members = second.members) :
    first = second := by
  obtain ⟨⟩ := first
  obtain ⟨⟩ := second
  simp only [members, real, integer, systemName, List.cons.injEq, Prod.mk.injEq, true_and,
    and_true, faithful_real.nullable_inj, faithful_integer.nullable_inj,
    faithful_time.nullable_inj, faithful_system.nullable_inj] at same
  rw [mk.injEq]
  exact same

theorem Vtg.members_injective {first second : Vtg} (same : first.members = second.members) :
    first = second := by
  obtain ⟨⟩ := first
  obtain ⟨⟩ := second
  simp only [members, real, systemName, modeLetter, List.cons.injEq, Prod.mk.injEq, true_and,
    and_true, faithful_real.nullable_inj, faithful_system.nullable_inj,
    faithful_mode.nullable_inj] at same
  rw [mk.injEq]
  exact same

namespace Record

/-- The members of a record tell its type and all its fields. -/
theorem members_injective {first second : Record} (same : first.members = second.members) :
    first = second := by
  obtain ⟨kind, fields⟩ := List.cons.inj same
  have kinds : first.typeName = second.typeName := Scalar.string.inj (Prod.mk.inj kind).2
  cases first with
  | rmc fix =>
      cases second with
      | rmc other => rw [Rmc.members_injective fields]
      | _ => cases kinds
  | gga fix =>
      cases second with
      | gga other => rw [Gga.members_injective fields]
      | _ => cases kinds
  | vtg fix =>
      cases second with
      | vtg other => rw [Vtg.members_injective fields]
      | _ => cases kinds
  | incomplete =>
      cases second with
      | incomplete => rfl
      | _ => cases kinds

/-- The keys of the fields, and whether each has no value. -/
def attributes : Record → List (Text × Bool)
  | .rmc fix =>
      [("source".toList, fix.source.isNone), ("timestamp".toList, fix.timestamp.isNone),
        ("status_active".toList, fix.statusActive.isNone),
        ("latitude".toList, fix.latitude.isNone), ("longitude".toList, fix.longitude.isNone),
        ("sog_knots".toList, fix.speedKnots.isNone), ("bearing".toList, fix.bearing.isNone),
        ("variation".toList, fix.variation.isNone), ("mode".toList, fix.mode.isNone)]
  | .gga fix =>
      [("source".toList, fix.source.isNone), ("utc_time".toList, fix.utcTime.isNone),
        ("latitude".toList, fix.latitude.isNone), ("longitude".toList, fix.longitude.isNone),
        ("fix_quality".toList, fix.fixQuality.isNone),
        ("num_satellites".toList, fix.satellites.isNone),
        ("horizontal_dilution_of_precision".toList, fix.dilution.isNone),
        ("altitude_meters".toList, fix.altitude.isNone),
        ("geoid_height_meters".toList, fix.geoidHeight.isNone),
        ("dgps_age_seconds".toList, fix.correctionAge.isNone),
        ("dgps_station_id".toList, fix.stationId.isNone)]
  | .vtg fix =>
      [("source".toList, fix.source.isNone), ("track_true_degrees".toList, fix.trackTrue.isNone),
        ("track_magnetic_degrees".toList, fix.trackMagnetic.isNone),
        ("speed_knots".toList, fix.speedKnots.isNone),
        ("speed_kilometers_per_hour".toList, fix.speedKilometersPerHour.isNone),
        ("mode".toList, fix.mode.isNone)]
  | .incomplete => []

/-- The key of a member and whether its value is null. -/
def slot (member : Text × Scalar) : Text × Bool := (member.1, decide (member.2 = .null))

/-- A member is null exactly when its field has no value. -/
theorem map_slot_members (record : Record) :
    record.members.map slot = ("type".toList, false) :: record.attributes := by
  cases record with
  | rmc fix =>
      simp only [members, fields, Rmc.members, attributes, List.map_cons, List.map_nil, slot, real,
        systemName, modeLetter, faithful_real.isNull, faithful_bool.isNull,
        faithful_instant.isNull, faithful_system.isNull, faithful_mode.isNull]
      rfl
  | gga fix =>
      simp only [members, fields, Gga.members, attributes, List.map_cons, List.map_nil, slot, real,
        integer, systemName, faithful_real.isNull, faithful_integer.isNull,
        faithful_time.isNull, faithful_system.isNull]
      rfl
  | vtg fix =>
      simp only [members, fields, Vtg.members, attributes, List.map_cons, List.map_nil, slot, real,
        systemName, modeLetter, faithful_real.isNull, faithful_system.isNull,
        faithful_mode.isNull]
      rfl
  | incomplete => rfl

theorem keys_attributes {first second : Record} (kinds : first.typeName = second.typeName) :
    first.attributes.map Prod.fst = second.attributes.map Prod.fst := by
  cases first <;> cases second <;> first | rfl | cases kinds

/-- The fields that hold an integer. -/
def integers : Record → List (Option Int)
  | .gga fix => [fix.fixQuality, fix.satellites, fix.stationId]
  | _ => []

/-- All members can be read when no integer is too long. -/
theorem readable_members_iff (record : Record) :
    (∀ member ∈ record.members, member.2.Readable) ↔
      ∀ value, some value ∈ record.integers → (Text.ofNat value.natAbs).length ≤ 4300 := by
  cases record with
  | rmc fix =>
      simp [members, fields, Rmc.members, integers, real, systemName, modeLetter, utc,
        readable_nullable]
  | gga fix =>
      simp [members, fields, Gga.members, integers, real, integer, systemName, utc,
        readable_nullable, Numeral.maxDigits, or_imp, forall_and]
  | vtg fix =>
      simp [members, fields, Vtg.members, integers, real, systemName, modeLetter,
        readable_nullable]
  | incomplete => simp [members, fields, integers]

/-- No integer is derived from a record. -/
theorem readable_derived (record : Record) : ∀ member ∈ record.derived, member.2.Readable := by
  cases record <;> simp [derived, real, readable_nullable]

/-- A record has no message exactly when an integer is too long. -/
theorem message?_eq_none_iff (record : Record) :
    record.message? = none ↔
      ∃ value, some value ∈ record.integers ∧ 4300 < (Text.ofNat value.natAbs).length := by
  have writes : record.message?.isSome ↔ ∀ member ∈ record.members, member.2.Readable := by
    simp [Option.isSome_iff_exists, message?, Json.objectText?_eq_some_iff]
  rw [← Option.not_isSome_iff_eq_none, writes, readable_members_iff]
  simp only [Classical.not_forall, Nat.not_le, exists_prop]

/-- Records with a message are told apart by it and are recovered from it. -/
theorem message_faithful (first second : Record) :
    (∀ text, first.message? = some text →
      (second.message? = some text ↔ first = second) ∧
      (∀ members, Json.objectText? members = some text ↔ members = first.members) ∧
      Json.ofText text =
        .ok (.object (first.members.map fun member => (member.1, .scalar member.2)))) ∧
    (first.message? = none ↔
      ∃ value, some value ∈ first.integers ∧ 4300 < (Text.ofNat value.natAbs).length) ∧
    first.members.map slot = ("type".toList, false) :: first.attributes ∧
    (first.typeName = second.typeName →
      first.attributes.map Prod.fst = second.attributes.map Prod.fst) := by
  refine ⟨fun text written => ⟨⟨fun again => ?_, ?_⟩, fun members => ⟨fun again => ?_, ?_⟩, ?_⟩,
    first.message?_eq_none_iff, first.map_slot_members, keys_attributes⟩
  · exact members_injective (Json.objectText?_injective written again)
  · rintro rfl
    exact written
  · exact Json.objectText?_injective again written
  · rintro rfl
    exact written
  · exact Json.ofText_of_objectText? written

/-- Two zeros are told apart, and an integer of 4301 digits is refused. -/
theorem message_faithful_track :
    let zero (negative : Bool) : Record :=
      .vtg ⟨none, some (.ofQuotient negative 0 1), none, none, none, none⟩
    (zero false).message? = some (zero false).message ∧
      (zero true).message? ≠ some (zero false).message ∧
      (zero false).typeName = (zero true).typeName ∧
      (zero false).attributes.map Prod.fst = (zero true).attributes.map Prod.fst ∧
      let crowd : Option Int := some (10 ^ 4300 : Nat)
      (gga ⟨none, none, none, none, none, crowd, none, none, none, none, none⟩).message? =
        none := by
  intro zero
  have written : (zero false).message? = some (zero false).message := rfl
  have kind (negative : Bool) : (zero negative).typeName = "vtg".toList := rfl
  have kinds : (zero false).typeName = (zero true).typeName := (kind false).trans (kind true).symm
  obtain ⟨told, _, _, keys⟩ := message_faithful (zero false) (zero true)
  refine ⟨written, fun same => ?_, kinds, keys kinds, ?_⟩
  · have tracks := (told _ written).1.mp same
    simp only [zero, vtg.injEq, Vtg.mk.injEq, Option.some.injEq] at tracks
    have signs := congrArg Binary64.isNegative tracks.2.1
    rw [Binary64.isNegative_ofQuotient, Binary64.isNegative_ofQuotient] at signs
    cases signs
  · obtain ⟨_, refused, _⟩ := message_faithful (gga _) .incomplete
    exact refused.mpr ⟨_, List.mem_cons_of_mem _ List.mem_cons_self,
      Text.lt_length_ofNat_pow (by decide)⟩

end Record

end MarineFix
