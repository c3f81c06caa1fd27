import MarineFix.DataField.Coordinate
import MarineFix.Proofs.DataField.Numerals
/-!
The texts that are coordinates, and the binary64 numbers of their angles.
-/

namespace MarineFix

open Number Sentence DataField

/-- The letters of the hemispheres, of which two are negative. -/
inductive Axis.IsHemisphere : Axis → Text → Bool → Prop where
  | north : IsHemisphere .latitude ['N'] false
  | south : IsHemisphere .latitude ['S'] true
  | east : IsHemisphere .longitude ['E'] false
  | west : IsHemisphere .longitude ['W'] true

theorem Axis.lookup_hemispheres_eq_some_iff {axis : Axis} {letter : Text} {negative : Bool} :
    axis.hemispheres.lookup letter = some negative ↔ axis.IsHemisphere letter negative := by
  constructor
  · intro known
    obtain ⟨front, back, entries, _⟩ := List.lookup_eq_some_iff.mp known
    have member : (letter, negative) ∈ axis.hemispheres := by simp [entries]
    cases axis with
    | latitude =>
        simp only [hemispheres, List.mem_cons, Prod.mk.injEq, List.not_mem_nil, or_false] at member
        rcases member with ⟨rfl, rfl⟩ | ⟨rfl, rfl⟩
        · exact .north
        · exact .south
    | longitude =>
        simp only [hemispheres, List.mem_cons, Prod.mk.injEq, List.not_mem_nil, or_false] at member
        rcases member with ⟨rfl, rfl⟩ | ⟨rfl, rfl⟩
        · exact .east
        · exact .west
  · rintro (_ | _ | _ | _) <;> rfl

namespace Sexagesimal

/-- A coordinate has two to five digits, and a fraction may follow them. -/
def IsReading (text : Text) : Prop :=
  ∃ whole fraction : Text, text = whole ++ fraction ∧ Text.IsDigits whole ∧
    2 ≤ whole.length ∧ whole.length ≤ 5 ∧ fraction.IsFraction

/-- Degrees of up to three digits, minutes of two digits, and a fraction. -/
structure Spelled (text degrees minutes fraction : Text) : Prop where
  whole : text = degrees ++ minutes ++ fraction
  isDegrees : Text.IsDigits degrees
  short : degrees.length ≤ 3
  isMinutes : minutes.IsPair
  isFraction : fraction.IsFraction

theorem isReading_iff (text : Text) :
    IsReading text ↔ ∃ degrees minutes fraction, Spelled text degrees minutes fraction := by
  constructor
  · rintro ⟨whole, fraction, rfl, all, least, most, isFraction⟩
    rw [← List.take_append_drop (whole.length - 2) whole, Text.isDigits_append] at all
    refine ⟨whole.take (whole.length - 2), whole.drop (whole.length - 2), fraction,
      ⟨?_, all.1, ?_, Text.isPair_of_length_eq all.2 ?_, isFraction⟩⟩
    · rw [List.take_append_drop]
    · rw [List.length_take]
      omega
    · rw [List.length_drop]
      omega
  · rintro ⟨degrees, minutes, fraction, ⟨rfl, isDegrees, short, isMinutes, isFraction⟩⟩
    refine ⟨degrees ++ minutes, fraction, rfl,
      (Text.isDigits_append _ _).mpr ⟨isDegrees, isMinutes.isDigits⟩, ?_, ?_, isFraction⟩
    · rw [List.length_append, isMinutes.length_eq]
      omega
    · rw [List.length_append, isMinutes.length_eq]
      omega

/-- The degrees and the minutes with their fraction as they are written. -/
def ofParts (degrees minutes fraction : Text) : Sexagesimal :=
  ⟨Text.toNat degrees, ⟨Text.toNat (minutes ++ fraction.tail), -fraction.tail.length⟩⟩

theorem Spelled.ofText?_eq {text degrees minutes fraction : Text}
    (spelled : Spelled text degrees minutes fraction) :
    ofText? text = some (ofParts degrees minutes fraction) := by
  obtain ⟨rfl, isDegrees, short, isMinutes, isFraction⟩ := spelled
  have all : Text.IsDigits (degrees ++ minutes) :=
    (Text.isDigits_append _ _).mpr ⟨isDegrees, isMinutes.isDigits⟩
  have length : (degrees ++ minutes).length = degrees.length + 2 := by
    rw [List.length_append, isMinutes.length_eq]
  simp only [ofText?, Text.takeWhile_isDigit_append all isFraction.startsNoDigit,
    Text.dropWhile_isDigit_append all isFraction.startsNoDigit, length, Nat.add_sub_cancel,
    List.take_left, List.drop_left]
  rw [if_pos (by omega)]
  rcases isFraction with rfl | ⟨digits, allBehind, rfl⟩
  · simp [ofParts]
  · exact if_pos allBehind

theorem isReading_of_ofText? {text : Text} {angle : Sexagesimal} (read : ofText? text = some angle) :
    IsReading text := by
  have all : Text.IsDigits (text.takeWhile Char.isDigit) :=
    fun character member => List.mem_takeWhile_imp member
  refine ⟨text.takeWhile Char.isDigit, text.dropWhile Char.isDigit,
    List.takeWhile_append_dropWhile.symm, all, ?_⟩
  simp only [ofText?] at read
  split at read
  · rename_i lengths
    refine ⟨lengths.1, lengths.2, ?_⟩
    split at read
    · rename_i ended
      exact .inl ended
    · rename_i fraction pointed
      split at read
      · rename_i allBehind
        exact .inr ⟨fraction, allBehind, pointed⟩
      · cases read
    · cases read
  · cases read

/-- A coordinate is read part by part. -/
theorem ofText?_eq_some_iff {text : Text} {angle : Sexagesimal} :
    ofText? text = some angle ↔ ∃ degrees minutes fraction,
      Spelled text degrees minutes fraction ∧ angle = ofParts degrees minutes fraction := by
  constructor
  · intro read
    obtain ⟨degrees, minutes, fraction, spelled⟩ :=
      (isReading_iff text).mp (isReading_of_ofText? read)
    rw [spelled.ofText?_eq] at read
    exact ⟨degrees, minutes, fraction, spelled, (Option.some.inj read).symm⟩
  · rintro ⟨degrees, minutes, fraction, spelled, rfl⟩
    exact spelled.ofText?_eq

theorem ofText?_eq_none_iff (text : Text) : ofText? text = none ↔ ¬ IsReading text := by
  rw [isReading_iff, Option.eq_none_iff_forall_ne_some]
  constructor
  · rintro unread ⟨degrees, minutes, fraction, spelled⟩
    exact unread _ spelled.ofText?_eq
  · rintro unreadable angle read
    exact unreadable ((isReading_iff text).mp (isReading_of_ofText? read))

/-- The minutes, their sixtieth and the sum are each rounded to the nearest number. -/
def IsSum (degrees : Nat) (minutes : ℚ) (sum : Binary64) : Prop :=
  ∃ rounded sixtieth : Binary64, rounded.IsNearest minutes ∧
    sixtieth.IsNearest (rounded.toRat / 60) ∧ sum.IsNearest (degrees + sixtieth.toRat) ∧
    sum.isNegative = false

section

variable {degrees : Nat} {minutes : ℚ} {rounded sixtieth sum : Binary64}

theorem rounded_bounds (nonneg : 0 ≤ minutes) (small : minutes < 100)
    (nearest : rounded.IsNearest minutes) : 0 ≤ rounded.toRat ∧ rounded.toRat ≤ 100 := by
  have bounds := nearest.bounds (by decide : 100 < 2 ^ 53) (Nat.zero_le _) nonneg
  norm_num at bounds
  exact bounds small.le

theorem sixtieth_bounds (bounds : 0 ≤ rounded.toRat ∧ rounded.toRat ≤ 100)
    (nearest : sixtieth.IsNearest (rounded.toRat / 60)) :
    0 ≤ sixtieth.toRat ∧ sixtieth.toRat ≤ 7 / 4 := by
  have few : 2 ≤ unitPlaces := by decide
  have rounds := nearest.bounds (by decide : 7 < 2 ^ 53) few (by linarith)
  norm_num at rounds
  exact rounds (by linarith)

theorem sum_bounds (few : degrees ≤ 999) (bounds : 0 ≤ sixtieth.toRat ∧ sixtieth.toRat ≤ 7 / 4)
    (nearest : sum.IsNearest (degrees + sixtieth.toRat)) :
    0 ≤ sum.toRat ∧ sum.toRat ≤ 4003 / 4 := by
  have nonneg : (0 : ℚ) ≤ degrees := Nat.cast_nonneg _
  have most : (degrees : ℚ) ≤ 999 := by exact_mod_cast few
  have places : 2 ≤ unitPlaces := by decide
  have rounds := nearest.bounds (by decide : 4003 < 2 ^ 53) places (by linarith)
  norm_num at rounds
  exact rounds (by linarith)

variable (few : degrees ≤ 999) (nonneg : 0 ≤ minutes) (small : minutes < 100)

include few nonneg small

/-- No sum of degrees and minutes reaches 1001 degrees. -/
theorem IsSum.bounds (isSum : IsSum degrees minutes sum) :
    sum.isFinite = true ∧ 0 ≤ sum.toRat ∧ sum.toRat < 1001 := by
  obtain ⟨rounded, sixtieth, first, second, third, _⟩ := isSum
  have bounds := sum_bounds few (sixtieth_bounds (rounded_bounds nonneg small first) second) third
  exact ⟨third.finite, bounds.1, by linarith⟩

/-- The degrees and the minutes determine their sum. -/
theorem IsSum.unique {other : Binary64} (isSum : IsSum degrees minutes sum)
    (isSumOther : IsSum degrees minutes other) : sum = other := by
  obtain ⟨rounded, sixtieth, first, second, third, sign⟩ := isSum
  obtain ⟨rounded', sixtieth', first', second', third', sign'⟩ := isSumOther
  have firstBounds := rounded_bounds nonneg small first
  have secondBounds := sixtieth_bounds firstBounds second
  have most : (degrees : ℚ) ≤ 999 := by exact_mod_cast few
  rw [← first.unique (abs_lt_range nonneg (by linarith)) first'] at second'
  rw [← second.unique (abs_lt_range (by linarith) (by linarith)) second'] at third'
  have same := third.unique
    (abs_lt_range (add_nonneg (Nat.cast_nonneg _) secondBounds.1) (by linarith)) third'
  exact Binary64.eq_of_toRat_eq third.finite third'.finite (sign.trans sign'.symm) same

end

/-- A quotient of moderate size is rounded to the nearest number. -/
theorem isNearest_of_quotient {numerator denominator : Nat} {number : ℚ} (positive : 0 < denominator)
    (exact : (numerator / denominator / unitsPerOne : ℚ) = number) (small : number ≤ 2 ^ 53) :
    (Binary64.ofQuotient false numerator denominator).IsNearest number := by
  subst exact
  exact Binary64.isNearest_ofQuotient positive (lt_of_le_of_lt small two_pow_lt_range)

/-- The number of a coordinate is computed with three roundings. -/
theorem isSum_toBinary64 {angle : Sexagesimal} (few : angle.degrees ≤ 999)
    (small : angle.minutes.value < 100) :
    IsSum angle.degrees angle.minutes.value (angle.toBinary64 false) := by
  have scale : (unitsPerOne : ℚ) ≠ 0 := Nat.cast_ne_zero.mpr (Nat.ne_of_gt unitsPerOne_pos)
  have most : (angle.degrees : ℚ) ≤ 999 := by exact_mod_cast few
  have inRange : angle.minutes.value < 2 ^ 1024 - 2 ^ 970 :=
    lt_of_le_of_lt (by linarith) two_pow_lt_range
  have first := Decimal.isNearest_toBinary64 inRange false
  have firstValue := Decimal.toRat_toBinary64 inRange false
  have firstBounds := rounded_bounds angle.minutes.value_nonneg small first
  generalize angle.minutes.toBinary64 false = rounded at *
  rw [withSign_false] at firstValue
  have sixtieth : (angle.minutes.units / (60 : Nat) / unitsPerOne : ℚ) = rounded.toRat / 60 := by
    rw [firstValue, div_right_comm, Nat.cast_ofNat]
  have second := isNearest_of_quotient (by decide) sixtieth (by linarith)
  have secondValue := Binary64.toRat_ofQuotient false
    ((Binary64.isFinite_ofQuotient_iff _ _ _).mp second.finite)
  have secondBounds := sixtieth_bounds firstBounds second
  generalize Binary64.ofQuotient false angle.minutes.units 60 = part at *
  rw [withSign_false] at secondValue
  have total : ((angle.degrees * unitsPerOne + nearest angle.minutes.units 60 : Nat) / (1 : Nat) /
      unitsPerOne : ℚ) = angle.degrees + part.toRat := by
    rw [secondValue, Nat.cast_one, div_one, Nat.cast_add, Nat.cast_mul, add_div,
      mul_div_cancel_right₀ _ scale]
  exact ⟨rounded, part, first, second, isNearest_of_quotient (by decide) total (by linarith),
    Binary64.isNegative_ofQuotient _ _ _⟩

/-- The other hemisphere has the opposite number. -/
theorem toBinary64_not (negative : Bool) (angle : Sexagesimal) :
    angle.toBinary64 (!negative) = (angle.toBinary64 negative).negate := by
  rw [toBinary64, toBinary64, Binary64.negate_ofQuotient]

theorem toBinary64_eq (negative : Bool) (angle : Sexagesimal) :
    angle.toBinary64 negative =
      if negative then (angle.toBinary64 false).negate else angle.toBinary64 false := by
  cases negative with
  | false => rw [if_neg Bool.false_ne_true]
  | true => rw [if_pos rfl, ← toBinary64_not, Bool.not_false]

section

variable {text degrees minutes fraction : Text} (spelled : Spelled text degrees minutes fraction)

include spelled

theorem Spelled.degrees_le : Text.toNat degrees ≤ 999 := by
  have bound := Text.toNat_lt spelled.isDegrees
  have width := Nat.pow_le_pow_right (by decide : 0 < 10) spelled.short
  omega

theorem Spelled.minutes_lt : Numeral.magnitude minutes fraction < 100 := by
  have whole : Text.toNat minutes < 10 ^ 2 :=
    spelled.isMinutes.length_eq ▸ Text.toNat_lt spelled.isMinutes.isDigits
  have most : (Text.toNat minutes : ℚ) ≤ 99 := by exact_mod_cast Nat.le_of_lt_succ whole
  have part := Text.fractionValue_lt_one spelled.isFraction.isDigits
  rw [Numeral.magnitude]
  linarith

/-- The number that is read from a coordinate is the sum of its parts. -/
theorem Spelled.isSum : IsSum (Text.toNat degrees) (Numeral.magnitude minutes fraction)
    ((ofParts degrees minutes fraction).toBinary64 false) := by
  have value : (ofParts degrees minutes fraction).minutes.value =
      Numeral.magnitude minutes fraction := Numeral.value_eq_magnitude minutes fraction
  rw [← value]
  exact isSum_toBinary64 spelled.degrees_le (value ▸ spelled.minutes_lt)

end

end Sexagesimal

namespace DataField

/-- The number is the sum of degrees and minutes, negated on the negative hemisphere. -/
def Locates (axis : Axis) (text letter : Text) (value : Binary64) : Prop :=
  ∃ negative degrees minutes fraction sum, axis.IsHemisphere letter negative ∧
    Sexagesimal.Spelled text degrees minutes fraction ∧
    Sexagesimal.IsSum (Text.toNat degrees) (Numeral.magnitude minutes fraction) sum ∧
    value = if negative then sum.negate else sum

theorem locates_iff {axis : Axis} {text letter : Text} {value : Binary64} :
    Locates axis text letter value ↔ ∃ negative angle, axis.IsHemisphere letter negative ∧
      Sexagesimal.ofText? text = some angle ∧ angle.toBinary64 negative = value := by
  constructor
  · rintro ⟨negative, degrees, minutes, fraction, sum, hemisphere, spelled, isSum, same⟩
    refine ⟨negative, _, hemisphere, spelled.ofText?_eq, ?_⟩
    rw [same, Sexagesimal.toBinary64_eq, isSum.unique spelled.degrees_le (Numeral.magnitude_nonneg _ _)
      spelled.minutes_lt spelled.isSum]
  · rintro ⟨negative, angle, hemisphere, read, same⟩
    obtain ⟨degrees, minutes, fraction, spelled, rfl⟩ := Sexagesimal.ofText?_eq_some_iff.mp read
    exact ⟨negative, degrees, minutes, fraction, _, hemisphere, spelled, spelled.isSum,
      same.symm.trans (Sexagesimal.toBinary64_eq _ _)⟩

/-- A located number is finite, and its magnitude stays below 1001. -/
theorem Locates.bounds {axis : Axis} {text letter : Text} {value : Binary64}
    (locates : Locates axis text letter value) :
    value.isFinite = true ∧ |value.toRat| < 1001 := by
  obtain ⟨negative, degrees, minutes, fraction, sum, _, spelled, isSum, rfl⟩ := locates
  obtain ⟨finite, nonneg, small⟩ :=
    isSum.bounds spelled.degrees_le (Numeral.magnitude_nonneg _ _) spelled.minutes_lt
  cases negative with
  | false => exact ⟨finite, (abs_of_nonneg nonneg).trans_lt small⟩
  | true =>
      refine ⟨(Binary64.isFinite_negate sum).trans finite, ?_⟩
      rw [if_pos rfl, Binary64.toRat_negate, abs_neg, abs_of_nonneg nonneg]
      exact small

section

variable {axis : Axis} {kind : Text} {fields : List Text} {index : Nat}

theorem coordinate_eq_none_iff :
    coordinate axis kind fields index = .ok none ↔ Absent fields index := by
  refine ⟨fun decoded => (eq_none_iff_of_coordinate decoded).mp rfl, fun absent => ?_⟩
  rw [coordinate, if_pos ((pick_eq_nil_iff fields index).mpr absent)]

/-- A numeral without a known letter fails, whatever the numeral is. -/
theorem coordinate_of_unknown (present : ¬ Absent fields index)
    (unknown : ∀ negative, ¬ axis.IsHemisphere (pick fields (index + 1)) negative) :
    coordinate axis kind fields index =
      .error ⟨kind, index + 1, pick fields (index + 1),
        .letter (axis.name ++ " hemisphere".toList)⟩ := by
  have missing : axis.hemispheres.lookup (pick fields (index + 1)) = none := by
    rw [Option.eq_none_iff_forall_ne_some]
    exact fun negative known => unknown negative (Axis.lookup_hemispheres_eq_some_iff.mp known)
  rw [coordinate, if_neg (mt (pick_eq_nil_iff fields index).mp present), missing]

/-- Behind a numeral with a known letter only the reading of the numeral counts. -/
theorem coordinate_of_known {negative : Bool} (present : ¬ Absent fields index)
    (known : axis.IsHemisphere (pick fields (index + 1)) negative) :
    coordinate axis kind fields index = (Sexagesimal.ofText? (pick fields index)).elim
      (.error ⟨kind, index, pick fields index, .coordinate axis⟩)
      fun angle => .ok (some (angle.toBinary64 negative)) := by
  have stands : pick fields index ≠ [] := mt (pick_eq_nil_iff fields index).mp present
  have letter := Axis.lookup_hemispheres_eq_some_iff.mpr known
  simp only [coordinate, if_neg stands, letter]
  cases Sexagesimal.ofText? (pick fields index) with
  | none => rw [Option.elim_none]
  | some angle => rw [Option.elim_some]

theorem coordinate_of_unreadable {negative : Bool} (present : ¬ Absent fields index)
    (known : axis.IsHemisphere (pick fields (index + 1)) negative)
    (unreadable : ¬ Sexagesimal.IsReading (pick fields index)) :
    coordinate axis kind fields index =
      .error ⟨kind, index, pick fields index, .coordinate axis⟩ := by
  rw [coordinate_of_known present known, (Sexagesimal.ofText?_eq_none_iff _).mpr unreadable,
    Option.elim_none]

theorem not_absent_of_ofText? {angle : Sexagesimal}
    (read : Sexagesimal.ofText? (pick fields index) = some angle) : ¬ Absent fields index := by
  rw [← pick_eq_nil_iff]
  intro empty
  rw [empty] at read
  cases read

theorem coordinate_eq_some_iff {value : Binary64} :
    coordinate axis kind fields index = .ok (some value) ↔
      Locates axis (pick fields index) (pick fields (index + 1)) value := by
  rw [locates_iff]
  constructor
  · intro decoded
    have present : ¬ Absent fields index := by
      rw [← @coordinate_eq_none_iff axis kind, decoded]
      exact nofun
    by_cases known : ∃ negative, axis.IsHemisphere (pick fields (index + 1)) negative
    · obtain ⟨negative, known⟩ := known
      rw [coordinate_of_known present known] at decoded
      cases read : Sexagesimal.ofText? (pick fields index) with
      | none => rw [read] at decoded; cases decoded
      | some angle =>
          rw [read] at decoded
          exact ⟨negative, angle, known, rfl, Option.some.inj (Except.ok.inj decoded)⟩
    · rw [coordinate_of_unknown present (not_exists.mp known)] at decoded
      cases decoded
  · rintro ⟨negative, angle, known, read, same⟩
    rw [coordinate_of_known (not_absent_of_ofText? read) known, read, Option.elim_some, same]

/-- A numeral with a known letter is read exactly when it is a coordinate. -/
theorem exists_coordinate_iff {negative : Bool}
    (known : axis.IsHemisphere (pick fields (index + 1)) negative) :
    (∃ value, coordinate axis kind fields index = .ok (some value)) ↔
      Sexagesimal.IsReading (pick fields index) := by
  simp only [coordinate_eq_some_iff, Sexagesimal.isReading_iff]
  constructor
  · rintro ⟨value, _, degrees, minutes, fraction, _, _, spelled, _⟩
    exact ⟨degrees, minutes, fraction, spelled⟩
  · rintro ⟨degrees, minutes, fraction, spelled⟩
    exact ⟨_, negative, degrees, minutes, fraction, _, known, spelled, spelled.isSum, rfl⟩

/-- The letter of the other hemisphere negates the number, and it changes nothing else. -/
theorem coordinate_of_opposite {others : List Text} {negative : Bool}
    (same : pick others index = pick fields index)
    (known : axis.IsHemisphere (pick fields (index + 1)) negative)
    (opposite : axis.IsHemisphere (pick others (index + 1)) !negative) :
    coordinate axis kind others index =
      (coordinate axis kind fields index).map (Option.map Binary64.negate) := by
  by_cases absent : Absent fields index
  · have absentOther : Absent others index := by rwa [← pick_eq_nil_iff, same, pick_eq_nil_iff]
    rw [coordinate_eq_none_iff.mpr absent, coordinate_eq_none_iff.mpr absentOther]
    rfl
  · have present : ¬ Absent others index := by rwa [← pick_eq_nil_iff, same, pick_eq_nil_iff]
    rw [coordinate_of_known absent known, coordinate_of_known present opposite, same]
    cases Sexagesimal.ofText? (pick fields index) with
    | none => rfl
    | some angle =>
        rw [Option.elim_some, Option.elim_some, angle.toBinary64_not negative]
        rfl

/-- Coordinates of one angle and hemisphere have one number. -/
theorem Locates.unique {text other letter : Text} {value valueOther : Binary64}
    {degrees minutes fraction degrees' minutes' fraction' : Text}
    (locates : Locates axis text letter value) (locatesOther : Locates axis other letter valueOther)
    (spelled : Sexagesimal.Spelled text degrees minutes fraction)
    (spelledOther : Sexagesimal.Spelled other degrees' minutes' fraction')
    (sameDegrees : Text.toNat degrees = Text.toNat degrees')
    (sameMinutes : Numeral.magnitude minutes fraction = Numeral.magnitude minutes' fraction') :
    value = valueOther := by
  obtain ⟨negative, angle, known, read, rfl⟩ := locates_iff.mp locates
  obtain ⟨negative', angle', known', read', rfl⟩ := locates_iff.mp locatesOther
  have letters := Axis.lookup_hemispheres_eq_some_iff.mpr known
  rw [Axis.lookup_hemispheres_eq_some_iff.mpr known', Option.some.injEq] at letters
  rw [spelled.ofText?_eq, Option.some.injEq] at read
  rw [spelledOther.ofText?_eq, Option.some.injEq] at read'
  have isSum := spelled.isSum
  rw [sameDegrees, sameMinutes, read] at isSum
  rw [letters, Sexagesimal.toBinary64_eq, Sexagesimal.toBinary64_eq negative angle',
    isSum.unique spelledOther.degrees_le (Numeral.magnitude_nonneg _ _) spelledOther.minutes_lt
      (read' ▸ spelledOther.isSum)]

end

/-- A coordinate has the value that its numeral and its letter stand for. -/
theorem coordinate_exact (axis : Axis) (kind : Text) (fields : List Text) (index : Nat) :
    let text := pick fields index
    let letter := pick fields (index + 1)
    let unknown : FieldFailure := ⟨kind, index + 1, letter, .letter (axis.name ++ " hemisphere".toList)⟩
    let malformed : FieldFailure := ⟨kind, index, text, .coordinate axis⟩
    unknown.category = .invalidEnumeration ∧ malformed.category = .malformedField ∧
    (coordinate axis kind fields index = .ok none ↔ Absent fields index) ∧
    (¬ Absent fields index → (∀ negative, ¬ axis.IsHemisphere letter negative) →
      coordinate axis kind fields index = .error unknown) ∧
    (∀ negative, ¬ Absent fields index → axis.IsHemisphere letter negative →
      ((∃ value, coordinate axis kind fields index = .ok (some value)) ↔
        Sexagesimal.IsReading text) ∧
      (¬ Sexagesimal.IsReading text → coordinate axis kind fields index = .error malformed)) ∧
    (∀ value, coordinate axis kind fields index = .ok (some value) ↔ Locates axis text letter value) ∧
    (∀ (others : List Text) (negative : Bool), pick others index = text →
      axis.IsHemisphere letter negative → axis.IsHemisphere (pick others (index + 1)) (!negative) →
      coordinate axis kind others index =
        (coordinate axis kind fields index).map (Option.map Binary64.negate)) ∧
    (∀ (other : Text) (others : List Text) (place : Nat) (value valueOther : Binary64)
      (degrees minutes fraction degrees' minutes' fraction' : Text),
      coordinate axis kind fields index = .ok (some value) →
      coordinate axis other others place = .ok (some valueOther) →
      pick others (place + 1) = letter → Sexagesimal.Spelled text degrees minutes fraction →
      Sexagesimal.Spelled (pick others place) degrees' minutes' fraction' →
      Text.toNat degrees = Text.toNat degrees' →
      Numeral.magnitude minutes fraction = Numeral.magnitude minutes' fraction' →
      value = valueOther) ∧
    ∀ value, coordinate axis kind fields index = .ok (some value) →
      value.isFinite = true ∧ |value.toRat| < 1001 := by
  intro text letter unknown malformed
  refine ⟨rfl, rfl, coordinate_eq_none_iff, coordinate_of_unknown, ?_,
    fun _ => coordinate_eq_some_iff, ?_, ?_, ?_⟩
  · intro negative present known
    exact ⟨exists_coordinate_iff known, coordinate_of_unreadable present known⟩
  · intro others negative same known opposite
    exact coordinate_of_opposite same known opposite
  · intro other others place value valueOther degrees minutes fraction degrees' minutes' fraction'
      decoded decodedOther sameLetter spelled spelledOther sameDegrees sameMinutes
    have locates := coordinate_eq_some_iff.mp decoded
    have locatesOther := coordinate_eq_some_iff.mp decodedOther
    rw [sameLetter] at locatesOther
    exact locates.unique locatesOther spelled spelledOther sameDegrees sameMinutes
  · exact fun value decoded => (coordinate_eq_some_iff.mp decoded).bounds

end DataField

end MarineFix
