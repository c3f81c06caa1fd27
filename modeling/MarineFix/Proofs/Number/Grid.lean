import Mathlib.Algebra.Order.Field.Rat
import Mathlib.Algebra.Ring.Parity
import Mathlib.Data.Nat.Cast.Order.Field
import Mathlib.Data.Rat.Cast.Order
import Mathlib.Tactic.Linarith
import Mathlib.Tactic.Ring
import MarineFix.Proofs.Number.Rounding
/-!
Rounding ends at the nearest number of the grid, in a tie at the even one.
-/

namespace MarineFix.Number

/-- Rounding is off by half of the divisor at an even number only. -/
theorem halfEven_error (numerator : Nat) {denominator : Nat} (positive : 0 < denominator) :
    let rounded := halfEven numerator denominator
    (2 * (rounded * denominator) ≤ 2 * numerator + denominator ∧
      2 * numerator ≤ 2 * (rounded * denominator) + denominator) ∧
    (2 * (rounded * denominator) = 2 * numerator + denominator ∨
      2 * numerator = 2 * (rounded * denominator) + denominator → rounded % 2 = 0) := by
  intro rounded
  have whole := Nat.div_add_mod numerator denominator
  have rest := Nat.mod_lt numerator positive
  have above : (numerator / denominator + 1) * denominator =
      denominator * (numerator / denominator) + denominator := by
    rw [Nat.add_mul, Nat.one_mul, Nat.mul_comm]
  have below : numerator / denominator * denominator = denominator * (numerator / denominator) :=
    Nat.mul_comm _ _
  have outcome : rounded = numerator / denominator ∧ 2 * (numerator % denominator) < denominator ∨
      rounded = numerator / denominator + 1 ∧ denominator < 2 * (numerator % denominator) ∨
      rounded = numerator / denominator ∧ 2 * (numerator % denominator) = denominator ∧
        rounded % 2 = 0 ∨
      rounded = numerator / denominator + 1 ∧ 2 * (numerator % denominator) = denominator ∧
        rounded % 2 = 0 := by
    simp only [rounded, halfEven]
    repeat' split
    all_goals omega
  generalize rounded = rounded at *
  rcases outcome with ⟨rfl, _⟩ | ⟨rfl, _⟩ | ⟨rfl, _, _⟩ | ⟨rfl, _, _⟩
  · omega
  · omega
  · omega
  · omega

/-- A rounded quotient is at most a half away from the exact one. -/
theorem abs_sub_halfEven_le (numerator : Nat) {denominator : Nat} (positive : 0 < denominator) :
    |(numerator / denominator : ℚ) - halfEven numerator denominator| ≤ 1 / 2 := by
  have scale : (0 : ℚ) < denominator := Nat.cast_pos.mpr positive
  obtain ⟨⟨below, above⟩, _⟩ := halfEven_error numerator positive
  generalize halfEven numerator denominator = rounded at *
  have low : (2 * (rounded * denominator) : ℚ) ≤ 2 * numerator + denominator := by
    exact_mod_cast below
  have high : (2 * numerator : ℚ) ≤ 2 * (rounded * denominator) + denominator := by
    exact_mod_cast above
  have least : (rounded - 1 / 2 : ℚ) ≤ numerator / denominator := by
    rw [le_div_iff₀ scale]
    linarith
  have greatest : (numerator / denominator : ℚ) ≤ rounded + 1 / 2 := by
    rw [div_le_iff₀ scale]
    linarith
  rw [abs_le]
  constructor <;> linarith

/-- A quotient that lies between two whole numbers goes to the even one. -/
theorem even_halfEven (numerator : Nat) {denominator : Nat} (positive : 0 < denominator)
    (tie : |(numerator / denominator : ℚ) - halfEven numerator denominator| = 1 / 2) :
    Even (halfEven numerator denominator) := by
  have scale : (denominator : ℚ) ≠ 0 := Nat.cast_ne_zero.mpr (Nat.ne_of_gt positive)
  obtain ⟨_, even⟩ := halfEven_error numerator positive
  generalize halfEven numerator denominator = rounded at *
  rw [Nat.even_iff]
  apply even
  rcases (abs_eq (by norm_num)).mp tie with above | below
  · right
    have exact : (numerator : ℚ) = (rounded + 1 / 2) * denominator := by
      rw [← div_eq_iff scale]
      linarith
    have doubled : (2 * numerator : ℚ) = 2 * (rounded * denominator) + denominator := by
      rw [exact]
      ring
    exact_mod_cast doubled
  · left
    have exact : (numerator : ℚ) = (rounded - 1 / 2) * denominator := by
      rw [← div_eq_iff scale]
      linarith
    have doubled : (2 * (rounded * denominator) : ℚ) = 2 * numerator + denominator := by
      rw [exact]
      ring
    exact_mod_cast doubled

/-- A whole number at most a half away is the nearest. -/
theorem abs_sub_le_of_half {quotient : ℚ} {rounded other : Nat}
    (near : |quotient - rounded| ≤ 1 / 2) (apart : other ≠ rounded) :
    |quotient - rounded| ≤ |quotient - other| ∧
      (|quotient - rounded| = |quotient - other| →
        |quotient - rounded| = 1 / 2 ∧ (other + 1 = rounded ∨ other = rounded + 1)) := by
  have bounds := abs_le.mp near
  have far : 1 / 2 ≤ |quotient - other| := by
    rcases Nat.lt_or_gt_of_ne apart with less | more
    · have step : (other + 1 : ℚ) ≤ rounded := by exact_mod_cast less
      exact le_trans (by linarith) (le_abs_self _)
    · have step : (rounded + 1 : ℚ) ≤ other := by exact_mod_cast more
      exact le_trans (by linarith) (neg_le_abs _)
  refine ⟨near.trans far, fun tie => ?_⟩
  have half : |quotient - rounded| = 1 / 2 := le_antisymm near (tie ▸ far)
  refine ⟨half, ?_⟩
  rcases (abs_eq (by norm_num)).mp half with above | below
  · rcases (abs_eq (by norm_num)).mp (tie.symm.trans half) with same | next
    · have equal : (other : ℚ) = rounded := by linarith
      exact absurd (by exact_mod_cast equal) apart
    · have equal : (other : ℚ) = rounded + 1 := by linarith
      exact .inr (by exact_mod_cast equal)
  · rcases (abs_eq (by norm_num)).mp (tie.symm.trans half) with before | same
    · have equal : (other + 1 : ℚ) = rounded := by linarith
      exact .inl (by exact_mod_cast equal)
    · have equal : (other : ℚ) = rounded := by linarith
      exact absurd (by exact_mod_cast equal) apart

/-- The binary digits that hold a number of the grid. -/
def significand (units : Nat) : Nat := units / spacing units

/-- Digits that leave no more room above them are the significand. -/
theorem significand_mul_pow {digits shift : Nat} (small : digits < 2 ^ 53)
    (full : shift = 0 ∨ 2 ^ 52 ≤ digits) : significand (digits * 2 ^ shift) = digits := by
  have step : spacing (digits * 2 ^ shift) = 2 ^ shift := by
    rw [spacing, Nat.pow_eq]
    congr 1
    by_cases zero : digits = 0
    · subst zero
      rcases full with rfl | large
      · rfl
      · omega
    · have nonzero : digits * 2 ^ shift ≠ 0 :=
        Nat.mul_ne_zero zero (Nat.ne_of_gt (Nat.two_pow_pos _))
      have below : (digits * 2 ^ shift).log2 < 53 + shift := by
        rw [Nat.log2_lt nonzero, Nat.pow_add]
        exact Nat.mul_lt_mul_of_pos_right small (Nat.two_pow_pos _)
      rcases full with rfl | large
      · omega
      · have above : 52 + shift ≤ (digits * 2 ^ shift).log2 := by
          rw [Nat.le_log2 nonzero, Nat.pow_add]
          exact Nat.mul_le_mul_right _ large
        omega
  rw [significand, step, Nat.mul_div_cancel _ (Nat.two_pow_pos _)]

theorem two_pow_carried (shift : Nat) : 2 ^ 53 * 2 ^ shift = 2 ^ 52 * 2 ^ (shift + 1) := by
  rw [← Nat.pow_add, ← Nat.pow_add]
  congr 1
  omega

/-- An even number of steps has an even significand. -/
theorem even_significand {digits shift : Nat} (even : Even digits) (most : digits ≤ 2 ^ 53)
    (full : shift = 0 ∨ 2 ^ 52 ≤ digits) : Even (significand (digits * 2 ^ shift)) := by
  rcases Nat.lt_or_eq_of_le most with small | rfl
  · rwa [significand_mul_pow small full]
  · rw [two_pow_carried, significand_mul_pow (by decide) (.inr (Nat.le_refl _))]
    decide

/-- A whole number has the spacing of one unit or 53 digits above it. -/
theorem exists_spacing (whole : Nat) :
    ∃ shift, spacing whole = 2 ^ shift ∧ whole < 2 ^ 53 * 2 ^ shift ∧
      (shift = 0 ∨ 2 ^ 52 * 2 ^ shift ≤ whole) := by
  refine ⟨whole.log2 - 52, rfl, ?_, ?_⟩
  · rw [← Nat.div_lt_iff_lt_mul (Nat.two_pow_pos _)]
    exact div_spacing_lt whole
  · by_cases unit : whole.log2 ≤ 52
    · exact .inl (Nat.sub_eq_zero_of_le unit)
    · right
      have nonzero : whole ≠ 0 := by
        rintro rfl
        exact unit (Nat.zero_le _)
      rw [← Nat.pow_add, Nat.add_sub_cancel' (by omega)]
      exact Nat.log2_self_le nonzero

/-- A quotient in its steps has 53 digits before the point. -/
theorem quotient_in_steps {numerator denominator shift : Nat} (positive : 0 < denominator)
    (below : numerator / denominator < 2 ^ 53 * 2 ^ shift)
    (above : shift = 0 ∨ 2 ^ 52 * 2 ^ shift ≤ numerator / denominator) :
    (numerator / (denominator * 2 ^ shift : Nat) : ℚ) < (2 ^ 53 : Nat) ∧
      (shift = 0 ∨ ((2 ^ 52 : Nat) : ℚ) ≤ numerator / (denominator * 2 ^ shift : Nat)) := by
  have scale : (0 : ℚ) < (denominator * 2 ^ shift : Nat) :=
    Nat.cast_pos.mpr (Nat.mul_pos positive (Nat.two_pow_pos shift))
  constructor
  · rw [Nat.div_lt_iff_lt_mul positive, Nat.mul_assoc, Nat.mul_comm (2 ^ shift)] at below
    rw [div_lt_iff₀ scale]
    exact_mod_cast below
  · refine above.imp_right fun large => ?_
    rw [Nat.le_div_iff_mul_le positive, Nat.mul_assoc, Nat.mul_comm (2 ^ shift)] at large
    rw [le_div_iff₀ scale]
    exact_mod_cast large

theorem digits_le_of_half {quotient : ℚ} {digits : Nat} (half : |quotient - digits| ≤ 1 / 2)
    (small : quotient < (2 ^ 53 : Nat)) : digits ≤ 2 ^ 53 := by
  have bound : (digits : ℚ) < (2 ^ 53 + 1 : Nat) := by
    have near := (abs_le.mp half).1
    rw [Nat.cast_add_one]
    linarith
  exact Nat.lt_succ_iff.mp (by exact_mod_cast bound)

theorem le_digits_of_half {quotient : ℚ} {digits : Nat} (half : |quotient - digits| ≤ 1 / 2)
    (large : ((2 ^ 52 : Nat) : ℚ) ≤ quotient) : 2 ^ 52 ≤ digits := by
  have bound : ((2 ^ 52 : Nat) : ℚ) < (digits + 1 : Nat) := by
    have near := (abs_le.mp half).2
    rw [Nat.cast_add_one]
    linarith
  exact Nat.lt_succ_iff.mp (by exact_mod_cast bound)

theorem odd_of_neighbour {digits other : Nat} (even : Even digits)
    (neighbours : other + 1 = digits ∨ other = digits + 1) : Odd other := by
  rcases neighbours with rfl | rfl
  · rwa [Nat.even_add_one, Nat.not_even_iff_odd] at even
  · exact even.add_one

/-- The rounded number is the nearest multiple of the spacing. -/
theorem nearest_of_dvd {numerator denominator other : Nat} (positive : 0 < denominator)
    (multiple : spacing (numerator / denominator) ∣ other)
    (apart : other ≠ nearest numerator denominator) :
    let quotient : ℚ := numerator / denominator
    |quotient - nearest numerator denominator| ≤ |quotient - other| ∧
      (|quotient - nearest numerator denominator| = |quotient - other| →
        Even (significand (nearest numerator denominator)) ∧ Odd (significand other)) := by
  intro quotient
  obtain ⟨shift, step, below, above⟩ := exists_spacing (numerator / denominator)
  obtain ⟨steps, rfl⟩ := multiple
  simp only [nearest, step] at apart ⊢
  rw [Nat.mul_comm (2 ^ shift) steps] at apart ⊢
  have stepPositive : (0 : ℚ) < 2 ^ shift := by positivity
  have scaledPositive : 0 < denominator * 2 ^ shift :=
    Nat.mul_pos positive (Nat.two_pow_pos shift)
  obtain ⟨small, large⟩ := quotient_in_steps positive below above
  have near := abs_sub_halfEven_le numerator scaledPositive
  have even := even_halfEven numerator scaledPositive
  have inSteps : quotient = numerator / (denominator * 2 ^ shift : Nat) * 2 ^ shift := by
    rw [Nat.cast_mul, Nat.cast_pow, Nat.cast_ofNat, ← div_div,
      div_mul_cancel₀ _ (ne_of_gt stepPositive)]
  generalize (numerator / (denominator * 2 ^ shift : Nat) : ℚ) = scaled at *
  generalize halfEven numerator (denominator * 2 ^ shift) = rounded at *
  have distance (digits : Nat) :
      |quotient - (digits * 2 ^ shift : Nat)| = |scaled - digits| * 2 ^ shift := by
    rw [inSteps, Nat.cast_mul, Nat.cast_pow, Nat.cast_ofNat, ← sub_mul, abs_mul,
      abs_of_pos stepPositive]
  have differ : steps ≠ rounded := fun same => apart (by rw [same])
  obtain ⟨least, tied⟩ := abs_sub_le_of_half near differ
  rw [distance, distance]
  refine ⟨mul_le_mul_of_nonneg_right least stepPositive.le, fun tie => ?_⟩
  have same := mul_right_cancel₀ (ne_of_gt stepPositive) tie
  obtain ⟨half, neighbours⟩ := tied same
  have far : |scaled - steps| ≤ 1 / 2 := same ▸ near
  have evenDigits : Even rounded := even half
  have oddDigits := odd_of_neighbour evenDigits neighbours
  have notMost : steps ≠ 2 ^ 53 := by
    rintro rfl
    exact absurd oddDigits (by decide)
  refine ⟨even_significand evenDigits (digits_le_of_half near small)
    (large.imp_right (le_digits_of_half near)), ?_⟩
  rwa [significand_mul_pow (Nat.lt_of_le_of_ne (digits_le_of_half far small) notMost)
    (large.imp_right (le_digits_of_half far))]

/-- The rounded number is the nearest one of the grid. -/
theorem nearest_of_grid {numerator denominator other : Nat} (positive : 0 < denominator)
    (grid : OnGrid other) (apart : other ≠ nearest numerator denominator) :
    let quotient : ℚ := numerator / denominator
    |quotient - nearest numerator denominator| ≤ |quotient - other| ∧
      (|quotient - nearest numerator denominator| = |quotient - other| →
        Even (significand (nearest numerator denominator)) ∧ Odd (significand other)) := by
  intro quotient
  by_cases level : (numerator / denominator).log2 ≤ other.log2
  · apply nearest_of_dvd positive _ apart
    exact Nat.dvd_trans (Nat.pow_dvd_pow 2 (Nat.sub_le_sub_right level 52)) (spacing_dvd grid)
  · have higher : other.log2 + 1 ≤ (numerator / denominator).log2 := Nat.lt_of_not_le level
    have nonzero : numerator / denominator ≠ 0 := by
      intro zero
      rw [zero, Nat.log2_zero] at higher
      exact Nat.not_succ_le_zero _ higher
    have reached : ((2 ^ (numerator / denominator).log2 : Nat) : ℚ) ≤ quotient :=
      (Nat.cast_le.mpr (Nat.log2_self_le nonzero)).trans Nat.cast_div_le
    have passed : (other : ℚ) < (2 ^ (numerator / denominator).log2 : Nat) :=
      Nat.cast_lt.mpr (Nat.lt_of_lt_of_le Nat.lt_log2_self (Nat.pow_le_pow_right (by decide) higher))
    have multiple : spacing (numerator / denominator) ∣ 2 ^ (numerator / denominator).log2 :=
      Nat.pow_dvd_pow 2 (Nat.sub_le _ _)
    have near : |quotient - nearest numerator denominator| ≤
        |quotient - (2 ^ (numerator / denominator).log2 : Nat)| := by
      by_cases same : 2 ^ (numerator / denominator).log2 = nearest numerator denominator
      · rw [same]
      · exact (nearest_of_dvd positive multiple same).1
    rw [abs_of_nonneg (sub_nonneg.mpr reached)] at near
    rw [abs_of_nonneg (sub_nonneg.mpr (passed.le.trans reached))]
    have closer : |quotient - nearest numerator denominator| < quotient - other := by linarith
    exact ⟨closer.le, fun tie => absurd tie (ne_of_lt closer)⟩

section

variable {numerator denominator bound : Nat} (positive : 0 < denominator) (grid : OnGrid bound)

include positive grid

/-- Rounding up does not pass a number of the grid. -/
theorem nearest_le_of_grid (below : (numerator / denominator : ℚ) ≤ bound) :
    nearest numerator denominator ≤ bound := by
  by_cases same : bound = nearest numerator denominator
  · exact Nat.le_of_eq same.symm
  · have near := (nearest_of_grid positive grid same).1
    rw [abs_of_nonpos (sub_nonpos.mpr below)] at near
    have up := neg_le_of_abs_le near
    have cast : (nearest numerator denominator : ℚ) ≤ bound := by linarith
    exact Nat.cast_le.mp cast

/-- Rounding down does not pass a number of the grid. -/
theorem le_nearest_of_grid (above : (bound : ℚ) ≤ numerator / denominator) :
    bound ≤ nearest numerator denominator := by
  by_cases same : bound = nearest numerator denominator
  · exact Nat.le_of_eq same
  · have near := (nearest_of_grid positive grid same).1
    rw [abs_of_nonneg (sub_nonneg.mpr above)] at near
    have down := le_of_abs_le near
    have cast : (bound : ℚ) ≤ nearest numerator denominator := by linarith
    exact Nat.cast_le.mp cast

end

/-- No number of the grid lies in the step below a power of two. -/
theorem le_below_top {units shift : Nat} (grid : OnGrid units) (less : units < 2 ^ 53 * 2 ^ shift) :
    units ≤ (2 ^ 53 - 1) * 2 ^ shift := by
  by_cases low : units < 2 ^ 52 * 2 ^ shift
  · exact Nat.le_trans (Nat.le_of_lt low) (Nat.mul_le_mul_right _ (by decide))
  · rw [Nat.not_lt] at low
    have nonzero : units ≠ 0 := by
      rintro rfl
      exact absurd low (Nat.not_le.mpr (Nat.mul_pos (by decide) (Nat.two_pow_pos shift)))
    have top : 52 + shift ≤ units.log2 := by
      rw [Nat.le_log2 nonzero, Nat.pow_add]
      exact low
    have multiple : 2 ^ shift ∣ units :=
      Nat.dvd_trans (Nat.pow_dvd_pow 2 (by omega)) (spacing_dvd grid)
    obtain ⟨steps, rfl⟩ := multiple
    rw [Nat.mul_comm (2 ^ shift)] at less ⊢
    exact Nat.mul_le_mul_right _ (Nat.le_sub_one_of_lt (Nat.lt_of_mul_lt_mul_right less))

theorem cast_top (shift : Nat) : ((2 ^ 53 * 2 ^ shift : Nat) : ℚ) = 2 ^ 53 * 2 ^ shift := by
  push_cast
  rfl

theorem cast_below_top (shift : Nat) :
    (((2 ^ 53 - 1) * 2 ^ shift : Nat) : ℚ) = 2 ^ 53 * 2 ^ shift - 2 ^ shift := by
  push_cast
  ring

/-- A quotient that stays below a power of two lies below halfway. -/
theorem lt_halfway_of_nearest_lt {numerator denominator shift : Nat} (positive : 0 < denominator)
    (less : nearest numerator denominator < 2 ^ 53 * 2 ^ shift) :
    (numerator / denominator : ℚ) < (2 ^ 53 - 1 / 2) * 2 ^ shift := by
  have topGrid : OnGrid (2 ^ 53 * 2 ^ shift) := ⟨2 ^ 52, shift + 1, by decide, two_pow_carried shift⟩
  by_contra far
  rw [not_lt] at far
  have inside : (numerator / denominator : ℚ) < (2 ^ 53 * 2 ^ shift : Nat) := by
    by_contra reached
    exact Nat.not_lt.mpr (le_nearest_of_grid positive topGrid (not_lt.mp reached)) less
  obtain ⟨near, tied⟩ := nearest_of_grid positive topGrid (Nat.ne_of_gt less)
  have even : Even (significand (2 ^ 53 * 2 ^ shift)) :=
    even_significand (by decide) (Nat.le_refl _) (.inr (by decide))
  have closer := lt_of_le_of_ne near fun tie => Nat.not_odd_iff_even.mpr even (tied tie).2
  rw [abs_of_neg (sub_neg.mpr inside), cast_top] at closer
  have down := lt_of_abs_lt closer
  have lower : (nearest numerator denominator : ℚ) ≤ ((2 ^ 53 - 1) * 2 ^ shift : Nat) :=
    Nat.cast_le.mpr (le_below_top (onGrid_nearest _ _) less)
  rw [cast_below_top] at lower
  linarith

/-- Below halfway the number one step below the power is nearer. -/
theorem nearest_lt_of_lt_halfway {numerator denominator shift : Nat} (positive : 0 < denominator)
    (small : (numerator / denominator : ℚ) < (2 ^ 53 - 1 / 2) * 2 ^ shift) :
    nearest numerator denominator < 2 ^ 53 * 2 ^ shift := by
  have belowGrid : OnGrid ((2 ^ 53 - 1) * 2 ^ shift) := ⟨2 ^ 53 - 1, shift, by decide, rfl⟩
  have step : (0 : ℚ) < 2 ^ shift := by positivity
  by_contra reached
  have most : ((2 ^ 53 * 2 ^ shift : Nat) : ℚ) ≤ nearest numerator denominator :=
    Nat.cast_le.mpr (Nat.not_lt.mp reached)
  rw [cast_top] at most
  rcases le_total (numerator / denominator : ℚ) ((2 ^ 53 - 1) * 2 ^ shift : Nat) with inside | above
  · have less : (nearest numerator denominator : ℚ) ≤ ((2 ^ 53 - 1) * 2 ^ shift : Nat) :=
      Nat.cast_le.mpr (nearest_le_of_grid positive belowGrid inside)
    rw [cast_below_top] at less
    linarith
  · have apart : (2 ^ 53 - 1) * 2 ^ shift ≠ nearest numerator denominator := by
      intro same
      rw [← same, cast_below_top] at most
      linarith
    have near := (nearest_of_grid positive belowGrid apart).1
    rw [abs_of_nonneg (sub_nonneg.mpr above), cast_below_top] at near
    have up := neg_le_of_abs_le near
    linarith

/-- Rounding reaches a power of two exactly from halfway below it. -/
theorem nearest_lt_iff {numerator denominator : Nat} (positive : 0 < denominator) (shift : Nat) :
    nearest numerator denominator < 2 ^ 53 * 2 ^ shift ↔
      (numerator / denominator : ℚ) < (2 ^ 53 - 1 / 2) * 2 ^ shift :=
  ⟨lt_halfway_of_nearest_lt positive, nearest_lt_of_lt_halfway positive⟩

theorem limit_eq : limit = 2 ^ 53 * 2 ^ (971 + unitPlaces) := by
  have divided (top low high : Nat) (parts : top = low + high) :
      Nat.pow 2 top * 2 ^ unitPlaces = 2 ^ low * 2 ^ (high + unitPlaces) := by
    rw [parts, Nat.pow_eq, Nat.pow_add, Nat.pow_add, Nat.mul_assoc]
  rw [limit, unitsPerOne_eq]
  generalize parts : (1024 : Nat) = top
  exact divided top 53 971 parts.symm

/-- The finite range ends halfway between its largest number and the next one. -/
theorem nearest_lt_limit_iff {numerator denominator : Nat} (positive : 0 < denominator) :
    nearest numerator denominator < limit ↔
      (numerator / denominator / unitsPerOne : ℚ) < 2 ^ 1024 - 2 ^ 970 := by
  have units : (0 : ℚ) < unitsPerOne := Nat.cast_pos.mpr unitsPerOne_pos
  have halfway : (2 ^ 53 - 1 / 2 : ℚ) * 2 ^ (971 + unitPlaces) =
      (2 ^ 1024 - 2 ^ 970) * unitsPerOne := by
    have next : (2 : ℚ) ^ 971 = 2 * 2 ^ 970 := pow_succ' 2 970
    have top : (2 : ℚ) ^ 1024 = 2 ^ 53 * 2 ^ 971 := pow_add 2 53 971
    rw [unitsPerOne_eq, Nat.cast_pow, Nat.cast_ofNat, pow_add, top, next]
    generalize (2 : ℚ) ^ 970 = half
    ring
  rw [limit_eq, nearest_lt_iff positive, halfway, div_lt_iff₀ units]

end MarineFix.Number
