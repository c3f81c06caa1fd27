import MarineFix.Number.Decimal
import Mathlib.Algebra.Group.Nat.Defs
/-!
Equal quotients round to the same number, however far out they lie.
-/

namespace MarineFix

namespace Number

theorem halfEven_mul_mul (numerator denominator : Nat) {factor : Nat} (positive : 0 < factor) :
    halfEven (numerator * factor) (denominator * factor) = halfEven numerator denominator := by
  simp only [halfEven, Nat.mul_div_mul_right _ _ positive, Nat.mul_mod_mul_right,
    ← Nat.mul_assoc, Nat.mul_lt_mul_right positive]

theorem nearest_mul_mul (numerator denominator : Nat) {factor : Nat} (positive : 0 < factor) :
    nearest (numerator * factor) (denominator * factor) = nearest numerator denominator := by
  simp only [nearest, Nat.mul_div_mul_right _ _ positive]
  rw [Nat.mul_right_comm, halfEven_mul_mul _ _ positive]

/-- The nearest number depends on the value of the quotient only. -/
theorem nearest_congr {numerator denominator otherNumerator otherDenominator : Nat}
    (positive : 0 < denominator) (otherPositive : 0 < otherDenominator)
    (same : numerator * otherDenominator = otherNumerator * denominator) :
    nearest numerator denominator = nearest otherNumerator otherDenominator := by
  rw [← nearest_mul_mul numerator denominator otherPositive, same,
    Nat.mul_comm denominator, nearest_mul_mul _ _ positive]

/-- Less than half a unit is rounded to zero. -/
theorem nearest_of_small {numerator denominator : Nat} (small : 2 * numerator < denominator) :
    nearest numerator denominator = 0 := by
  have none : numerator / denominator = 0 := Nat.div_eq_of_lt (by omega)
  have rest : numerator % denominator = numerator := Nat.mod_eq_of_lt (by omega)
  have unit : spacing 0 = 1 := rfl
  simp [nearest, none, unit, halfEven, rest, small]

/-- Rounding does not go below a power of two. -/
theorem pow_le_nearest {numerator denominator places : Nat}
    (large : 2 ^ places ≤ numerator / denominator) :
    2 ^ places ≤ nearest numerator denominator := by
  have low := le_halfEven numerator (denominator * spacing (numerator / denominator))
  rw [← Nat.div_div_eq_div_mul] at low
  rw [nearest]
  generalize numerator / denominator = whole at *
  have nonzero : whole ≠ 0 := Nat.ne_zero_of_lt (Nat.lt_of_lt_of_le (Nat.two_pow_pos places) large)
  have reached : 2 ^ (whole.log2) ≤ whole := (Nat.le_log2 nonzero).mp (Nat.le_refl _)
  have top : places ≤ whole.log2 := (Nat.le_log2 nonzero).mpr large
  have steps : 2 ^ places ≤ whole / spacing whole * spacing whole := by
    rw [spacing, Nat.pow_eq]
    by_cases narrow : whole.log2 - 52 ≤ places
    · have split : 2 ^ places = 2 ^ (places - (whole.log2 - 52)) * 2 ^ (whole.log2 - 52) := by
        rw [← Nat.pow_add, Nat.sub_add_cancel narrow]
      rw [split]
      apply Nat.mul_le_mul_right
      rw [Nat.le_div_iff_mul_le (Nat.two_pow_pos _), ← split]
      exact large
    · have one : 1 ≤ whole / 2 ^ (whole.log2 - 52) := by
        rw [Nat.le_div_iff_mul_le (Nat.two_pow_pos _), Nat.one_mul]
        exact Nat.le_trans (Nat.pow_le_pow_right (by decide) (by omega)) reached
      calc 2 ^ places ≤ 2 ^ (whole.log2 - 52) := Nat.pow_le_pow_right (by decide) (by omega)
        _ ≤ _ := Nat.le_mul_of_pos_left _ one
  exact Nat.le_trans steps (Nat.mul_le_mul_right _ low)

theorem unitsPerOne_eq : unitsPerOne = 2 ^ unitPlaces := by
  unfold unitsPerOne
  generalize unitPlaces = places
  rfl

/-- The finite range ends at a power of two. -/
theorem exists_limit_eq : ∃ top ≤ 1024, limit = 2 ^ (top + unitPlaces) := by
  refine ⟨1024, Nat.le_refl _, ?_⟩
  rw [limit, unitsPerOne_eq, Nat.pow_add]
  generalize (1024 : Nat) = top
  rfl

end Number

open Number

namespace Decimal

/-- Decimals with the same number of units are read as the same number. -/
theorem toBinary64_congr {first second : Decimal} (same : first.units = second.units)
    (negative : Bool) : first.toBinary64 negative = second.toBinary64 negative := by
  rw [units, units] at same
  simp only [toBinary64, Binary64.ofQuotient, same]

/-- Zeros at the end of the coefficient do not change the number. -/
theorem units_widen (coefficient : Nat) (exponent : Int) (zeros : Nat) :
    units ⟨coefficient * 10 ^ zeros, exponent - zeros⟩ = units ⟨coefficient, exponent⟩ := by
  have places : zeros + (exponent - zeros).toNat + (-exponent).toNat =
      exponent.toNat + (-(exponent - zeros)).toNat := by omega
  apply nearest_congr (denominator_pos _) (denominator_pos _)
  simp only [numerator, denominator, Nat.pow_eq]
  generalize unitsPerOne = one
  calc coefficient * 10 ^ zeros * 10 ^ (exponent - zeros).toNat * one * 10 ^ (-exponent).toNat
      = coefficient * one * 10 ^ (zeros + (exponent - zeros).toNat + (-exponent).toNat) := by
        rw [Nat.pow_add, Nat.pow_add]
        ac_rfl
    _ = coefficient * 10 ^ exponent.toNat * one * 10 ^ (-(exponent - zeros)).toNat := by
        rw [places, Nat.pow_add]
        ac_rfl

theorem units_zero (exponent : Int) : units ⟨0, exponent⟩ = 0 := by
  rw [units, numerator, Nat.zero_mul, Nat.zero_mul]
  exact nearest_of_small (by simpa using denominator_pos _)

theorem two_pow_le_ten_pow (places : Nat) : 2 ^ (3 * places) ≤ 10 ^ places := by
  rw [Nat.pow_mul]
  exact Nat.pow_le_pow_left (by decide) places

/-- From the exponent 400 on a decimal is zero or beyond the finite range. -/
theorem toBinary64_of_large {coefficient : Nat} (nonzero : coefficient ≠ 0) {exponent : Int}
    (large : 400 ≤ exponent) (negative : Bool) :
    toBinary64 negative ⟨coefficient, exponent⟩ = .infinite negative := by
  obtain ⟨top, most, bound⟩ := exists_limit_eq
  have whole : denominator ⟨coefficient, exponent⟩ = 1 := by
    have none : (-exponent).toNat = 0 := by omega
    rw [denominator, none, Nat.pow_eq, Nat.pow_zero]
  have reached : limit ≤ numerator ⟨coefficient, exponent⟩ := by
    have high : 2 ^ top ≤ 10 ^ exponent.toNat :=
      Nat.le_trans (Nat.pow_le_pow_right (by decide) (by omega)) (two_pow_le_ten_pow _)
    have scaled := Nat.le_trans high (Nat.le_mul_of_pos_left _ (Nat.pos_of_ne_zero nonzero))
    rw [bound, Nat.pow_add, ← unitsPerOne_eq]
    exact Nat.mul_le_mul_right _ scaled
  have beyond : limit ≤ nearest (numerator ⟨coefficient, exponent⟩) 1 := by
    rw [bound] at reached ⊢
    exact pow_le_nearest (by rwa [Nat.div_one])
  rw [toBinary64, whole, Binary64.ofQuotient, dif_neg (Nat.not_lt.mpr beyond)]

/-- A small decimal is less than half a unit. -/
theorem units_of_small {coefficient : Nat} {exponent : Int}
    (small : exponent ≤ -400 - (coefficient.log2 : Int)) : units ⟨coefficient, exponent⟩ = 0 := by
  have none : exponent.toNat = 0 := by omega
  have bound : coefficient < 2 ^ (coefficient.log2 + 1) := Nat.lt_log2_self
  have places : unitPlaces ≤ 1074 := Nat.le_refl _
  have one := unitsPerOne_eq
  generalize unitPlaces = unitPlaces at places one
  apply nearest_of_small
  calc 2 * numerator ⟨coefficient, exponent⟩
      = coefficient * 2 ^ (unitPlaces + 1) := by
        rw [numerator, none, one, Nat.pow_eq, Nat.pow_zero, Nat.mul_one, Nat.pow_succ]
        ac_rfl
    _ < 2 ^ (coefficient.log2 + 1) * 2 ^ (unitPlaces + 1) :=
        Nat.mul_lt_mul_of_pos_right bound (Nat.two_pow_pos _)
    _ = 2 ^ (coefficient.log2 + 1 + (unitPlaces + 1)) := (Nat.pow_add ..).symm
    _ ≤ 2 ^ (3 * (-exponent).toNat) := Nat.pow_le_pow_right (by decide) (by omega)
    _ ≤ 10 ^ (-exponent).toNat := two_pow_le_ten_pow _

/-- A decimal out of reach is read as the one that replaces it. -/
theorem toBinary64_withinReach (decimal : Decimal) (negative : Bool) :
    decimal.withinReach.toBinary64 negative = decimal.toBinary64 negative := by
  obtain ⟨coefficient, exponent⟩ := decimal
  simp only [withinReach]
  by_cases zero : coefficient = 0
  · subst zero
    exact toBinary64_congr (by rw [units_zero, units_zero]) negative
  · by_cases large : 400 < exponent
    · have cut : max (min exponent 400) (-400 - (coefficient.log2 : Int)) = 400 := by omega
      rw [cut, toBinary64_of_large zero (Int.le_refl _), toBinary64_of_large zero (by omega)]
    · by_cases small : exponent < -400 - (coefficient.log2 : Int)
      · have cut : max (min exponent 400) (-400 - (coefficient.log2 : Int)) =
            -400 - (coefficient.log2 : Int) := by omega
        rw [cut]
        apply toBinary64_congr
        rw [units_of_small (Int.le_refl _), units_of_small (by omega)]
      · have same : max (min exponent 400) (-400 - (coefficient.log2 : Int)) = exponent := by omega
        rw [same]

/-- A decimal with the units of a finite number is read as that number. -/
theorem toBinary64_of_units {decimal : Decimal} {units : Nat} (same : decimal.units = units)
    (fits : OnGrid units ∧ units < limit) (negative : Bool) :
    decimal.toBinary64 negative = .finite negative units fits := by
  rw [Decimal.units] at same
  subst same
  rw [toBinary64, Binary64.ofQuotient, dif_pos fits.2]

end Decimal

end MarineFix
