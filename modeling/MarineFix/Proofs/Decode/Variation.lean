import MarineFix.Proofs.DataField.Coordinates
import MarineFix.Proofs.Decode.Message
/-!
The side of a variation keeps the number of its magnitude or turns it over.
-/

namespace MarineFix

open Number Sentence DataField

namespace Rmc

/-- The sides lie as the hemispheres of a longitude do. -/
theorem lookup_variationSides_eq_some_iff {side : Text} {west : Bool} :
    variationSides.lookup side = some west ↔ Axis.longitude.IsHemisphere side west := by
  rw [← Axis.lookup_hemispheres_eq_some_iff]
  rfl

theorem decodeVariation_eq_some_iff {fields : List Text} {value : Binary64} :
    decodeVariation fields = .ok (some value) ↔ ∃ magnitude west,
      real kind fields 10 = .ok (some magnitude) ∧
      Axis.longitude.IsHemisphere (pick fields 11) west ∧
      value = if west then magnitude.negate else magnitude := by
  constructor
  · intro decoded
    obtain ⟨read, found, signed⟩ := exists_of_bind_eq_ok decoded
    cases read with
    | none => cases signed
    | some magnitude =>
        dsimp only at signed
        split at signed
        · cases signed
        · rename_i west known
          cases signed
          exact ⟨magnitude, west, found, lookup_variationSides_eq_some_iff.mp known, rfl⟩
  · rintro ⟨magnitude, west, found, known, rfl⟩
    have side := lookup_variationSides_eq_some_iff.mpr known
    simp only [decodeVariation, found, bind, Except.bind, side]
    rfl

end Rmc

/-- A variation has the sign of its side unless its magnitude has a minus sign. -/
theorem Handler.variation_sign {source : NavigationSystem} {sentence : Text} {fix : Rmc}
    {value : Binary64} (decoded : Handler.rmc.decode source sentence = .ok (.rmc fix))
    (present : fix.variation = some value) :
    ∃ negative number, Numeral.Denotes (pick (fields sentence) 10) negative number ∧
      (pick (fields sentence) 11 = ['E'] ∧ value.IsNearest number ∧
          (0 ≤ value.toRat ↔ negative = false ∨ value.toRat = 0) ∨
        pick (fields sentence) 11 = ['W'] ∧ value.IsNearest (-number) ∧
          (value.toRat ≤ 0 ↔ negative = false ∨ value.toRat = 0)) := by
  obtain ⟨_, read, same⟩ := exists_of_map_eq_ok decoded
  cases same
  have varies := (Rmc.decode_eq_ok_iff.mp read).variation
  rw [present, Rmc.decodeVariation_eq_some_iff] at varies
  obtain ⟨magnitude, west, found, side, rfl⟩ := varies
  obtain ⟨negative, number, denotes, _, sign, nearest⟩ :=
    Numeral.real?_eq_some_iff.mp (read_of_optional found)
  refine ⟨negative, number, denotes, ?_⟩
  generalize pick (fields sentence) 11 = letter at side
  cases side with
  | east => exact .inl ⟨rfl, nearest, sign ▸ Binary64.toRat_nonneg_iff nearest.finite⟩
  | west =>
      have law := Binary64.toRat_nonpos_iff nearest.negate.finite
      rw [Binary64.isNegative_negate, sign, Bool.not_eq_true'] at law
      exact .inr ⟨rfl, nearest.negate, law⟩

/-- An eastern magnitude with a minus sign. -/
def signedMagnitude : Text := "$GPRMC,,,,,,,,,,-1,E".toList

theorem denotes_signedMagnitude :
    Numeral.Denotes (pick (fields signedMagnitude) 10) true (-1) := by
  refine ⟨['-'], ['1'], [], .minus, by decide, ⟨by decide, .inl rfl, .inl nofun⟩, ?_⟩
  have one : Text.toNat ['1'] = 1 := rfl
  have none : Text.toNat [] = 0 := rfl
  simp [Numeral.magnitude, Text.fractionValue, one, none]

/-- The sentence decodes to a record with the number that its magnitude denotes. -/
theorem exists_decode_signedMagnitude :
    ∃ fix value, Handler.rmc.decode .gps signedMagnitude = .ok (.rmc fix) ∧
      fix.variation = some value ∧ value.IsNearest (-1) := by
  have inRange : |(-1 : ℚ)| < 2 ^ 1024 - 2 ^ 970 := by
    rw [abs_neg]
    exact abs_lt_range (by norm_num) (by norm_num)
  obtain ⟨value, read⟩ :=
    (Numeral.exists_real?_iff _).mpr ⟨true, -1, denotes_signedMagnitude, inRange⟩
  obtain ⟨_, number, denotes, _, _, nearest⟩ := Numeral.real?_eq_some_iff.mp read
  rw [(denotes.unique denotes_signedMagnitude).2] at nearest
  let fix : Rmc := ⟨some .gps, none, none, none, none, none, none, some value, none⟩
  have nowhere (axis : Axis) (index : Nat) (empty : pick (fields signedMagnitude) index = []) :
      coordinate axis Rmc.kind (fields signedMagnitude) index = .ok none :=
    coordinate_eq_none_iff.mpr ((pick_eq_nil_iff _ _).mp empty)
  have decodes : Rmc.Decodes .gps (fields signedMagnitude) fix :=
    { source := rfl
      timestamp := rfl
      statusActive := optional_of_empty (by decide)
      latitude := nowhere .latitude 3 (by decide)
      longitude := nowhere .longitude 5 (by decide)
      speedKnots := optional_of_empty (by decide)
      bearing := optional_of_empty (by decide)
      variation := Rmc.decodeVariation_eq_some_iff.mpr
        ⟨value, false, optional_of_read (by decide) read, .east, rfl⟩
      mode := optional_of_empty (by decide) }
  refine ⟨fix, value, ?_, rfl, nearest⟩
  simp only [Handler.decode, Handler.decodeFields]
  rw [Rmc.decode_eq_ok_iff.mpr decodes, Except.map]

/-- The minus sign of a magnitude is kept on the eastern side. -/
theorem Handler.variation_sign_signed :
    ∃ fix value, Handler.rmc.decode .gps signedMagnitude = .ok (.rmc fix) ∧
      fix.variation = some value ∧
      ∃ negative number, Numeral.Denotes (pick (fields signedMagnitude) 10) negative number ∧
        (pick (fields signedMagnitude) 11 = ['E'] ∧ value.IsNearest number ∧
            (0 ≤ value.toRat ↔ negative = false ∨ value.toRat = 0) ∨
          pick (fields signedMagnitude) 11 = ['W'] ∧ value.IsNearest (-number) ∧
            (value.toRat ≤ 0 ↔ negative = false ∨ value.toRat = 0)) := by
  obtain ⟨fix, value, decoded, present, _⟩ := exists_decode_signedMagnitude
  exact ⟨fix, value, decoded, present, Handler.variation_sign decoded present⟩

/-- An eastern variation that is negative. -/
theorem Handler.eastern_variation_negative :
    pick (fields signedMagnitude) 11 = ['E'] ∧
    ∃ fix value, Handler.rmc.decode .gps signedMagnitude = .ok (.rmc fix) ∧
      fix.variation = some value ∧ value.toRat < 0 := by
  obtain ⟨fix, value, decoded, present, nearest⟩ := exists_decode_signedMagnitude
  refine ⟨by decide, fix, value, decoded, present, ?_⟩
  obtain ⟨one, finite, exact⟩ := Binary64.exists_toRat_eq (by decide : 1 < 2 ^ 53) (Nat.zero_le _)
  have bound : value.toRat ≤ one.negate.toRat := by
    apply nearest.toRat_le ((Binary64.isFinite_negate one).trans finite)
    rw [Binary64.toRat_negate, exact]
    norm_num
  rw [Binary64.toRat_negate, exact] at bound
  norm_num at bound
  linarith

end MarineFix
