import MarineFix.Proofs.Number.Grid
/-!
The binary64 number of a rational number is the one nearest to it.
-/

namespace MarineFix

namespace Number

/-- The magnitude is turned over when the sign is negative. -/
def withSign (negative : Bool) (magnitude : ℚ) : ℚ := if negative then -magnitude else magnitude

@[simp] theorem withSign_false (magnitude : ℚ) : withSign false magnitude = magnitude := rfl

@[simp] theorem withSign_true (magnitude : ℚ) : withSign true magnitude = -magnitude := rfl

@[simp] theorem abs_withSign (negative : Bool) (magnitude : ℚ) :
    |withSign negative magnitude| = |magnitude| := by
  cases negative <;> simp

theorem withSign_not (negative : Bool) (magnitude : ℚ) :
    withSign (!negative) magnitude = -withSign negative magnitude := by
  cases negative <;> simp

theorem quotient_nonneg (numerator denominator : Nat) :
    (0 : ℚ) ≤ numerator / denominator / unitsPerOne :=
  div_nonneg (div_nonneg (Nat.cast_nonneg _) (Nat.cast_nonneg _)) (Nat.cast_nonneg _)

/-- Every rational number is a signed quotient of units. -/
theorem exists_quotient (number : ℚ) : ∃ (negative : Bool) (numerator denominator : Nat),
    0 < denominator ∧ number = withSign negative (numerator / denominator / unitsPerOne) := by
  have scale : (unitsPerOne : ℚ) ≠ 0 := Nat.cast_ne_zero.mpr (Nat.ne_of_gt unitsPerOne_pos)
  have magnitude :
      ((number.num.natAbs * unitsPerOne : Nat) / number.den / unitsPerOne : ℚ) = |number| := by
    rw [Nat.cast_mul, div_right_comm, mul_div_cancel_right₀ _ scale, Nat.cast_natAbs, Int.cast_abs,
      ← Nat.abs_cast number.den, ← abs_div, Rat.num_div_den]
  refine ⟨decide (number < 0), number.num.natAbs * unitsPerOne, number.den, number.den_pos, ?_⟩
  rw [magnitude]
  by_cases below : number < 0
  · rw [decide_eq_true below, withSign_true, abs_of_neg below, neg_neg]
  · rw [decide_eq_false below, withSign_false, abs_of_nonneg (not_lt.mp below)]

/-- Numbers of up to 53 binary digits lie far inside the finite range. -/
theorem two_pow_lt_range : (2 : ℚ) ^ 53 < 2 ^ 1024 - 2 ^ 970 := by
  have top : (2 : ℚ) ^ 1024 = 2 ^ 54 * 2 ^ 970 := pow_add 2 54 970
  have scaled (half : ℚ) (large : 1 ≤ half) : 2 ^ 53 < 2 ^ 54 * half - half := by linarith
  rw [top]
  exact scaled _ (one_le_pow₀ (by norm_num))

theorem abs_lt_range {number : ℚ} (nonneg : 0 ≤ number) (small : number ≤ 2 ^ 53) :
    |number| < 2 ^ 1024 - 2 ^ 970 := by
  rw [abs_of_nonneg nonneg]
  exact lt_of_le_of_lt small two_pow_lt_range

end Number

open Number

namespace Binary64

/-- The number of a finite value, and zero for an infinity. -/
def toRat : Binary64 → ℚ
  | .finite negative units _ => withSign negative (units / unitsPerOne)
  | .infinite _ => 0

/-- The significand of a finite number. -/
def significand : Binary64 → Nat
  | .finite _ units _ => Number.significand units
  | .infinite _ => 0

/-- No finite number is nearer, and a tie has the even significand. -/
structure IsNearest (value : Binary64) (number : ℚ) : Prop where
  finite : value.isFinite = true
  nearest : ∀ other : Binary64, other.isFinite = true →
    |number - value.toRat| ≤ |number - other.toRat|
  even : ∀ other : Binary64, other.isFinite = true → other.toRat ≠ value.toRat →
    |number - value.toRat| = |number - other.toRat| → Even value.significand

@[simp] theorem toRat_negate (value : Binary64) : value.negate.toRat = -value.toRat := by
  cases value with
  | finite negative units fits => exact withSign_not negative _
  | infinite negative => simp [negate, toRat]

@[simp] theorem significand_negate (value : Binary64) :
    value.negate.significand = value.significand := by
  cases value <;> rfl

theorem abs_toRat (negative : Bool) (units : Nat) (fits : OnGrid units ∧ units < limit) :
    |(finite negative units fits).toRat| = units / unitsPerOne := by
  rw [toRat, abs_withSign, abs_of_nonneg (div_nonneg (Nat.cast_nonneg _) (Nat.cast_nonneg _))]

/-- Numbers with the same magnitude have the same units. -/
theorem units_eq_of_abs_eq {negative negativeOther : Bool} {units unitsOther : Nat}
    {fits : OnGrid units ∧ units < limit} {fitsOther : OnGrid unitsOther ∧ unitsOther < limit}
    (same : |(finite negative units fits).toRat| = |(finite negativeOther unitsOther fitsOther).toRat|) :
    units = unitsOther := by
  have scale : (unitsPerOne : ℚ) ≠ 0 := Nat.cast_ne_zero.mpr (Nat.ne_of_gt unitsPerOne_pos)
  rwa [abs_toRat, abs_toRat, div_left_inj' scale, Nat.cast_inj] at same

/-- A finite value is determined by its sign and its number. -/
theorem eq_of_toRat_eq {first second : Binary64} (isFinite : first.isFinite = true)
    (isFiniteOther : second.isFinite = true) (signs : first.isNegative = second.isNegative)
    (same : first.toRat = second.toRat) : first = second := by
  cases first with
  | infinite => cases isFinite
  | finite negative units fits =>
      cases second with
      | infinite => cases isFiniteOther
      | finite negativeOther unitsOther fitsOther =>
          obtain rfl : negative = negativeOther := signs
          obtain rfl := units_eq_of_abs_eq (congrArg abs same)
          rfl

/-- Numbers that stand for the same number agree. -/
theorem agrees_of_toRat_eq {first second : Binary64} (isFinite : first.isFinite = true)
    (isFiniteOther : second.isFinite = true) (same : first.toRat = second.toRat) :
    first.agrees second = true := by
  cases first with
  | infinite => cases isFinite
  | finite negative units fits =>
      cases second with
      | infinite => cases isFiniteOther
      | finite negativeOther unitsOther fitsOther =>
          obtain rfl := units_eq_of_abs_eq (congrArg abs same)
          rw [agrees, beq_self_eq_true, Bool.true_and, Bool.or_eq_true, beq_iff_eq, beq_iff_eq]
          by_cases signs : negative = negativeOther
          · exact .inl signs
          · right
            rw [toRat, toRat, Bool.eq_not_of_ne signs, withSign_not, neg_eq_self,
              ← abs_eq_zero, abs_withSign, abs_eq_zero] at same
            have scale : (unitsPerOne : ℚ) ≠ 0 :=
              Nat.cast_ne_zero.mpr (Nat.ne_of_gt unitsPerOne_pos)
            exact Nat.cast_eq_zero.mp ((div_eq_zero_iff.mp same).resolve_right scale)

/-- A finite value is at least zero exactly without a sign or as a zero. -/
theorem toRat_nonneg_iff {value : Binary64} (finite : value.isFinite = true) :
    0 ≤ value.toRat ↔ value.isNegative = false ∨ value.toRat = 0 := by
  cases value with
  | infinite => cases finite
  | finite negative units fits =>
      have nonneg : (0 : ℚ) ≤ units / unitsPerOne :=
        div_nonneg (Nat.cast_nonneg _) (Nat.cast_nonneg _)
      cases negative with
      | false => exact ⟨fun _ => .inl rfl, fun _ => nonneg⟩
      | true =>
          have opposite : -(units / unitsPerOne : ℚ) ≤ 0 := neg_nonpos.mpr nonneg
          exact ⟨fun above => .inr (le_antisymm opposite above), fun zero =>
            (zero.resolve_left nofun).ge⟩

theorem toRat_nonpos_iff {value : Binary64} (finite : value.isFinite = true) :
    value.toRat ≤ 0 ↔ value.isNegative = true ∨ value.toRat = 0 := by
  have turned := toRat_nonneg_iff ((isFinite_negate value).trans finite)
  rwa [toRat_negate, isNegative_negate, neg_nonneg, neg_eq_zero, Bool.not_eq_false'] at turned

theorem toRat_ofQuotient (negative : Bool) {numerator denominator : Nat}
    (inRange : nearest numerator denominator < limit) :
    (ofQuotient negative numerator denominator).toRat =
      withSign negative (nearest numerator denominator / unitsPerOne) := by
  rw [ofQuotient, dif_pos inRange, toRat]

theorem significand_ofQuotient (negative : Bool) {numerator denominator : Nat}
    (inRange : nearest numerator denominator < limit) :
    (ofQuotient negative numerator denominator).significand =
      Number.significand (nearest numerator denominator) := by
  rw [ofQuotient, dif_pos inRange, significand]

/-- The value is the same number, a nearer one, or the even one. -/
def IsPreferred (number : ℚ) (value other : Binary64) : Prop :=
  other.toRat = value.toRat ∨ |number - value.toRat| < |number - other.toRat| ∨
    |number - value.toRat| = |number - other.toRat| ∧ Even value.significand ∧ Odd other.significand

theorem IsPreferred.le {number : ℚ} {value other : Binary64}
    (preferred : IsPreferred number value other) :
    |number - value.toRat| ≤ |number - other.toRat| := by
  rcases preferred with same | closer | ⟨tie, _⟩
  · rw [same]
  · exact closer.le
  · exact tie.le

theorem IsPreferred.negate {number : ℚ} {value other : Binary64}
    (preferred : IsPreferred number value other) :
    IsPreferred (-number) value.negate other.negate := by
  have distance (value : Binary64) : |-number - value.negate.toRat| = |number - value.toRat| := by
    rw [toRat_negate, neg_sub_neg, abs_sub_comm]
  rw [IsPreferred, distance, distance, significand_negate, significand_negate, toRat_negate,
    toRat_negate, neg_inj]
  exact preferred

section

variable {numerator denominator : Nat} (positive : 0 < denominator)
  (inRange : nearest numerator denominator < limit)

include positive inRange

theorem isPreferred_of_positive (units : Nat) (fits : OnGrid units ∧ units < limit) :
    IsPreferred (numerator / denominator / unitsPerOne) (ofQuotient false numerator denominator)
      (.finite false units fits) := by
  have scale : (0 : ℚ) < unitsPerOne := Nat.cast_pos.mpr unitsPerOne_pos
  have distance (units : Nat) :
      |(numerator / denominator / unitsPerOne - units / unitsPerOne : ℚ)| =
        |(numerator / denominator - units : ℚ)| / unitsPerOne := by
    rw [← sub_div, abs_div, abs_of_pos scale]
  rw [IsPreferred, toRat_ofQuotient false inRange, significand_ofQuotient false inRange]
  simp only [toRat, significand, withSign_false, distance]
  by_cases same : units = nearest numerator denominator
  · exact .inl (by rw [same])
  · obtain ⟨near, tied⟩ := nearest_of_grid positive fits.1 same
    rcases near.lt_or_eq with closer | tie
    · exact .inr (.inl (div_lt_div_of_pos_right closer scale))
    · exact .inr (.inr ⟨by rw [tie], tied tie⟩)

theorem isPreferred_of_negative (units : Nat) (fits : OnGrid units ∧ units < limit) :
    IsPreferred (numerator / denominator / unitsPerOne) (ofQuotient false numerator denominator)
      (.finite true units fits) := by
  have scale : (0 : ℚ) < unitsPerOne := Nat.cast_pos.mpr unitsPerOne_pos
  have nonneg := quotient_nonneg numerator denominator
  have zeroFits : OnGrid 0 ∧ 0 < limit :=
    ⟨⟨0, 0, by decide, rfl⟩, Nat.lt_of_le_of_lt (Nat.zero_le _) inRange⟩
  have toZero := isPreferred_of_positive positive inRange 0 zeroFits
  by_cases zero : units = 0
  · subst zero
    have same : (finite true 0 fits).toRat = (finite false 0 zeroFits).toRat := by
      rw [toRat, toRat, Nat.cast_zero, zero_div, withSign_true, withSign_false, neg_zero]
    rw [IsPreferred, same]
    exact toZero
  · have distance := toZero.le
    have apart : (0 : ℚ) < units / unitsPerOne :=
      div_pos (Nat.cast_pos.mpr (Nat.pos_of_ne_zero zero)) scale
    rw [toRat.eq_1 false, withSign_false, Nat.cast_zero, zero_div, sub_zero,
      abs_of_nonneg nonneg] at distance
    refine .inr (.inl (lt_of_le_of_lt distance ?_))
    rw [toRat, withSign_true, sub_neg_eq_add, abs_of_nonneg (add_nonneg nonneg apart.le)]
    exact lt_add_of_pos_right _ apart

/-- The rounded quotient is preferred to every finite number. -/
theorem isPreferred_ofQuotient (negative : Bool) {other : Binary64}
    (finite : other.isFinite = true) :
    IsPreferred (withSign negative (numerator / denominator / unitsPerOne))
      (ofQuotient negative numerator denominator) other := by
  have unsigned (other : Binary64) (finite : other.isFinite = true) :
      IsPreferred (numerator / denominator / unitsPerOne)
        (ofQuotient false numerator denominator) other := by
    rcases other with ⟨_ | _, units, fits⟩ | _
    · exact isPreferred_of_positive positive inRange units fits
    · exact isPreferred_of_negative positive inRange units fits
    · cases finite
  cases negative with
  | false => exact unsigned other finite
  | true =>
      have turned := (unsigned other.negate (by simpa using finite)).negate
      rwa [negate_ofQuotient, negate_negate] at turned

end

section

variable {negative : Bool} {numerator denominator : Nat} (positive : 0 < denominator)
  (inRange : (numerator / denominator / unitsPerOne : ℚ) < 2 ^ 1024 - 2 ^ 970)

include positive inRange

/-- A quotient inside the finite range is rounded to the nearest number. -/
theorem isNearest_ofQuotient : (ofQuotient negative numerator denominator).IsNearest
    (withSign negative (numerator / denominator / unitsPerOne)) := by
  have small := (nearest_lt_limit_iff positive).mpr inRange
  refine ⟨(isFinite_ofQuotient_iff _ _ _).mpr small, ?_, ?_⟩
  · exact fun other finite => (isPreferred_ofQuotient positive small negative finite).le
  · intro other finite apart tie
    rcases isPreferred_ofQuotient positive small negative finite with same | closer | ⟨_, even, _⟩
    · exact absurd same apart
    · exact absurd tie (ne_of_lt closer)
    · exact even

/-- Nothing else is nearest to a quotient. -/
theorem IsNearest.toRat_eq_ofQuotient {value : Binary64} (nearest : value.IsNearest
    (withSign negative (numerator / denominator / unitsPerOne))) :
    value.toRat = (ofQuotient negative numerator denominator).toRat := by
  have small := (nearest_lt_limit_iff positive).mpr inRange
  have finite := (isFinite_ofQuotient_iff negative _ _).mpr small
  rcases isPreferred_ofQuotient positive small negative nearest.finite with same | closer | tied
  · exact same
  · exact absurd closer (not_lt.mpr (nearest.nearest _ finite))
  · obtain ⟨tie, _, odd⟩ := tied
    by_contra apart
    exact Nat.not_odd_iff_even.mpr (nearest.even _ finite (Ne.symm apart) tie.symm) odd

end

/-- A number of the finite range determines the one that is nearest to it. -/
theorem IsNearest.unique {first second : Binary64} {number : ℚ}
    (inRange : |number| < 2 ^ 1024 - 2 ^ 970) (nearest : first.IsNearest number)
    (nearestOther : second.IsNearest number) : first.toRat = second.toRat := by
  obtain ⟨negative, numerator, denominator, positive, rfl⟩ := exists_quotient number
  rw [abs_withSign, abs_of_nonneg (quotient_nonneg _ _)] at inRange
  rw [nearest.toRat_eq_ofQuotient positive inRange, nearestOther.toRat_eq_ofQuotient positive inRange]

/-- Turning a number over turns the nearest one over. -/
theorem IsNearest.negate {value : Binary64} {number : ℚ} (nearest : value.IsNearest number) :
    value.negate.IsNearest (-number) := by
  have distance (other : Binary64) : |-number - other.toRat| = |number - other.negate.toRat| := by
    rw [toRat_negate, ← abs_neg, neg_sub, sub_neg_eq_add, sub_neg_eq_add, add_comm]
  refine ⟨(isFinite_negate value).trans nearest.finite, ?_, ?_⟩
  · intro other finite
    rw [distance, distance, negate_negate]
    exact nearest.nearest _ ((isFinite_negate other).trans finite)
  · intro other finite apart tie
    rw [distance, distance, negate_negate] at tie
    rw [significand_negate]
    refine nearest.even _ ((isFinite_negate other).trans finite) ?_ tie
    intro same
    rw [toRat_negate] at same
    exact apart (by rw [toRat_negate, ← same, neg_neg])

/-- The nearest number does not pass a finite number above. -/
theorem IsNearest.toRat_le {value bound : Binary64} {number : ℚ} (nearest : value.IsNearest number)
    (finite : bound.isFinite = true) (below : number ≤ bound.toRat) : value.toRat ≤ bound.toRat := by
  have near := nearest.nearest bound finite
  rw [abs_of_nonpos (sub_nonpos.mpr below)] at near
  have up := neg_le_of_abs_le near
  linarith

/-- The nearest number does not pass a finite number below. -/
theorem IsNearest.le_toRat {value bound : Binary64} {number : ℚ} (nearest : value.IsNearest number)
    (finite : bound.isFinite = true) (above : bound.toRat ≤ number) : bound.toRat ≤ value.toRat := by
  have near := nearest.nearest bound finite
  rw [abs_of_nonneg (sub_nonneg.mpr above)] at near
  have down := le_of_abs_le near
  linarith

/-- A few digits with binary places are held exactly. -/
theorem exists_toRat_eq {digits places : Nat} (small : digits < 2 ^ 53) (few : places ≤ unitPlaces) :
    ∃ value : Binary64, value.isFinite = true ∧ value.toRat = digits / 2 ^ places := by
  have inRange : digits * 2 ^ (unitPlaces - places) < limit := by
    rw [limit_eq]
    calc digits * 2 ^ (unitPlaces - places)
        < 2 ^ 53 * 2 ^ (unitPlaces - places) :=
          Nat.mul_lt_mul_of_pos_right small (Nat.two_pow_pos _)
      _ ≤ 2 ^ 53 * 2 ^ (971 + unitPlaces) :=
          Nat.mul_le_mul_left _ (Nat.pow_le_pow_right (by decide) (by omega))
  refine ⟨.finite false _ ⟨⟨digits, unitPlaces - places, small, rfl⟩, inRange⟩, rfl, ?_⟩
  have scale : (2 : ℚ) ^ (unitPlaces - places) ≠ 0 := by positivity
  have units : (unitsPerOne : ℚ) = 2 ^ places * 2 ^ (unitPlaces - places) := by
    rw [unitsPerOne_eq, Nat.cast_pow, Nat.cast_ofNat, ← pow_add, Nat.add_sub_cancel' few]
  rw [toRat, withSign_false, units, Nat.pow_eq, Nat.cast_mul, Nat.cast_pow, Nat.cast_ofNat,
    mul_div_mul_right _ _ scale]

/-- Rounding keeps a number between zero and a bound of few digits. -/
theorem IsNearest.bounds {value : Binary64} {number : ℚ} {digits places : Nat}
    (nearest : value.IsNearest number) (small : digits < 2 ^ 53) (few : places ≤ unitPlaces)
    (nonneg : 0 ≤ number) (below : number ≤ digits / 2 ^ places) :
    0 ≤ value.toRat ∧ value.toRat ≤ digits / 2 ^ places := by
  obtain ⟨bound, finite, top⟩ := exists_toRat_eq small few
  obtain ⟨zero, zeroFinite, bottom⟩ := exists_toRat_eq (Nat.two_pow_pos 53) few
  rw [Nat.cast_zero, zero_div] at bottom
  rw [← top] at below ⊢
  rw [← bottom] at nonneg ⊢
  exact ⟨nearest.le_toRat zeroFinite nonneg, nearest.toRat_le finite below⟩

/-- One is a number of the grid. -/
theorem onGrid_unitsPerOne : OnGrid unitsPerOne :=
  ⟨1, unitPlaces, by decide, by rw [unitsPerOne_eq, Nat.one_mul, Nat.pow_eq]⟩

/-- A division by one or more does not leave the finite range. -/
theorem isFinite_divideBy {value : Binary64} {divisor : Nat} (finite : value.isFinite = true)
    (large : unitsPerOne ≤ divisor) : (value.divideBy divisor).isFinite = true := by
  cases value with
  | infinite => cases finite
  | finite negative units fits =>
      have positive : 0 < divisor := Nat.lt_of_lt_of_le unitsPerOne_pos large
      have below : ((units * unitsPerOne : Nat) / divisor : ℚ) ≤ units := by
        rw [div_le_iff₀ (Nat.cast_pos.mpr positive), ← Nat.cast_mul, Nat.cast_le]
        exact Nat.mul_le_mul_left units large
      rw [divideBy, isFinite_ofQuotient_iff]
      exact Nat.lt_of_le_of_lt (nearest_le_of_grid positive fits.1 below) fits.2

end Binary64

namespace Decimal

/-- The exact number that the decimal stands for. -/
def value (decimal : Decimal) : ℚ := decimal.coefficient * 10 ^ decimal.exponent

theorem value_nonneg (decimal : Decimal) : 0 ≤ decimal.value :=
  mul_nonneg (Nat.cast_nonneg _) (zpow_nonneg (by norm_num) _)

theorem quotient_eq_value (decimal : Decimal) :
    (decimal.numerator / decimal.denominator / unitsPerOne : ℚ) = decimal.value := by
  have scale : (unitsPerOne : ℚ) ≠ 0 := Nat.cast_ne_zero.mpr (Nat.ne_of_gt unitsPerOne_pos)
  have power : (10 : ℚ) ^ decimal.exponent =
      10 ^ decimal.exponent.toNat / 10 ^ (-decimal.exponent).toNat := by
    rw [← zpow_natCast, ← zpow_natCast, ← zpow_sub₀ (by norm_num)]
    congr 1
    omega
  rw [numerator, denominator, Nat.cast_mul, div_right_comm, mul_div_cancel_right₀ _ scale,
    Nat.cast_mul, Nat.pow_eq, Nat.pow_eq, Nat.cast_pow, Nat.cast_pow, Nat.cast_ofNat, value, power,
    mul_div_assoc]

/-- A decimal in range is read as the nearest number. -/
theorem isNearest_toBinary64 {decimal : Decimal} (inRange : decimal.value < 2 ^ 1024 - 2 ^ 970)
    (negative : Bool) : (decimal.toBinary64 negative).IsNearest (withSign negative decimal.value) := by
  rw [← quotient_eq_value] at inRange ⊢
  exact Binary64.isNearest_ofQuotient decimal.denominator_pos inRange

theorem toRat_toBinary64 {decimal : Decimal} (inRange : decimal.value < 2 ^ 1024 - 2 ^ 970)
    (negative : Bool) :
    (decimal.toBinary64 negative).toRat = withSign negative (decimal.units / unitsPerOne) := by
  rw [← quotient_eq_value, ← nearest_lt_limit_iff decimal.denominator_pos] at inRange
  exact Binary64.toRat_ofQuotient negative inRange

theorem isFinite_toBinary64_iff (negative : Bool) (decimal : Decimal) :
    (decimal.toBinary64 negative).isFinite = true ↔ decimal.value < 2 ^ 1024 - 2 ^ 970 := by
  rw [← quotient_eq_value, ← nearest_lt_limit_iff decimal.denominator_pos]
  exact Binary64.isFinite_ofQuotient_iff _ _ _

end Decimal

end MarineFix
