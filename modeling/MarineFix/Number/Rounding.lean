/-!
An exact quotient of units is rounded to the nearest number of 53 binary digits.
-/

namespace MarineFix.Number

/-- A half of the quotient goes to the even neighbour. -/
def halfEven (numerator denominator : Nat) : Nat :=
  let whole := numerator / denominator
  let twice := 2 * (numerator % denominator)
  if twice < denominator then whole
  else if denominator < twice then whole + 1
  else if whole % 2 = 0 then whole else whole + 1

theorem le_halfEven (numerator denominator : Nat) :
    numerator / denominator ≤ halfEven numerator denominator := by
  simp only [halfEven]
  repeat' split
  all_goals omega

theorem halfEven_le (numerator denominator : Nat) :
    halfEven numerator denominator ≤ numerator / denominator + 1 := by
  simp only [halfEven]
  repeat' split
  all_goals omega

/-- A whole quotient needs no rounding. -/
theorem halfEven_mul (value : Nat) {denominator : Nat} (positive : 0 < denominator) :
    halfEven (value * denominator) denominator = value := by
  simp [halfEven, Nat.mul_div_cancel _ positive, positive]

/-- A number on the grid has 53 binary digits and a power of two. -/
def OnGrid (units : Nat) : Prop :=
  ∃ significand shift : Nat, significand < Nat.pow 2 53 ∧ units = significand * Nat.pow 2 shift

/-- The spacing leaves 53 binary digits of the whole part. -/
def spacing (whole : Nat) : Nat := Nat.pow 2 (whole.log2 - 52)

/-- The exact quotient is rounded to the nearest number of units on the grid. -/
def nearest (numerator denominator : Nat) : Nat :=
  let step := spacing (numerator / denominator)
  halfEven numerator (denominator * step) * step

theorem spacing_pos (whole : Nat) : 0 < spacing whole := Nat.two_pow_pos _

theorem div_spacing_lt (whole : Nat) : whole / spacing whole < Nat.pow 2 53 := by
  rw [Nat.div_lt_iff_lt_mul (spacing_pos whole), spacing, Nat.pow_eq, Nat.pow_eq, ← Nat.pow_add]
  by_cases zero : whole = 0
  · subst zero
    exact Nat.two_pow_pos _
  · exact Nat.lt_of_lt_of_le ((Nat.log2_lt zero).1 (Nat.lt_succ_self _))
      (Nat.pow_le_pow_right (by decide) (by omega))

/-- Rounding ends on the grid, also when it carries. -/
theorem onGrid_nearest (numerator denominator : Nat) : OnGrid (nearest numerator denominator) := by
  have low : numerator / (denominator * spacing (numerator / denominator)) < Nat.pow 2 53 := by
    rw [← Nat.div_div_eq_div_mul]
    exact div_spacing_lt _
  have high := halfEven_le numerator (denominator * spacing (numerator / denominator))
  by_cases fits : halfEven numerator (denominator * spacing (numerator / denominator)) <
      Nat.pow 2 53
  · exact ⟨_, _, fits, rfl⟩
  · refine ⟨Nat.pow 2 52, (numerator / denominator).log2 - 52 + 1, by decide, ?_⟩
    have carried : halfEven numerator (denominator * spacing (numerator / denominator)) =
        Nat.pow 2 53 := by
      omega
    simp only [nearest]
    rw [carried, spacing]
    simp only [Nat.pow_eq]
    rw [Nat.pow_succ, Nat.mul_assoc, Nat.mul_comm 2, ← Nat.pow_succ]

/-- Numbers of the grid are multiples of the spacing around them. -/
theorem spacing_dvd {units : Nat} (grid : OnGrid units) : spacing units ∣ units := by
  obtain ⟨digits, shift, small, rfl⟩ := grid
  simp only [Nat.pow_eq] at small ⊢
  by_cases zero : digits * 2 ^ shift = 0
  · rw [zero]
    exact Nat.dvd_zero _
  · refine Nat.dvd_trans (Nat.pow_dvd_pow 2 ?_) (Nat.dvd_mul_left _ _)
    have bound : (digits * 2 ^ shift).log2 < 53 + shift := by
      rw [Nat.log2_lt zero, Nat.pow_add]
      exact Nat.mul_lt_mul_of_pos_right small (Nat.two_pow_pos _)
    omega

/-- A number on the grid needs no rounding. -/
theorem nearest_of_onGrid {units : Nat} (grid : OnGrid units) {denominator : Nat}
    (positive : 0 < denominator) : nearest (units * denominator) denominator = units := by
  have whole : units * denominator / denominator = units := Nat.mul_div_cancel _ positive
  obtain ⟨steps, exact⟩ := spacing_dvd grid
  simp only [nearest, whole]
  generalize spaced : spacing units = step at *
  have stepPositive : 0 < step := spaced ▸ spacing_pos units
  have scaled : units * denominator = steps * (denominator * step) := by
    rw [exact, Nat.mul_comm step steps, Nat.mul_assoc, Nat.mul_comm step]
  rw [scaled, halfEven_mul _ (Nat.mul_pos positive stepPositive), exact, Nat.mul_comm]

end MarineFix.Number
