import MarineFix.Number.Binary64
import MarineFix.Text.Basic
/-!
Decimal numbers of any length are read as binary64 numbers and written for them.
-/

namespace MarineFix

open Number

/-- The coefficient is scaled by a power of ten. -/
structure Decimal where
  coefficient : Nat
  exponent : Int
deriving DecidableEq

namespace Decimal

/-- The exact value in units is this quotient. -/
def numerator (decimal : Decimal) : Nat :=
  decimal.coefficient * Nat.pow 10 decimal.exponent.toNat * unitsPerOne

def denominator (decimal : Decimal) : Nat := Nat.pow 10 (-decimal.exponent).toNat

theorem denominator_pos (decimal : Decimal) : 0 < decimal.denominator :=
  Nat.pow_pos (by decide)

/-- The number of units that is nearest to the decimal. -/
def units (decimal : Decimal) : Nat := nearest decimal.numerator decimal.denominator

/-- The binary64 number that is nearest to the signed decimal. -/
def toBinary64 (negative : Bool) (decimal : Decimal) : Binary64 :=
  .ofQuotient negative decimal.numerator decimal.denominator

/-- An exponent out of reach rounds like the nearest one within reach. -/
def withinReach (decimal : Decimal) : Decimal :=
  { decimal with
    exponent := max (min decimal.exponent 400) (-400 - decimal.coefficient.log2) }

/-- The least power of ten above a positive number of units. -/
def magnitude (units : Nat) : Int :=
  ((Text.ofNat (units * Nat.pow 10 324 / unitsPerOne)).length : Int) - 324

/-- The nearer of two neighbours that read back is taken, or the even one. -/
def atPlace? (units : Nat) (exponent : Int) : Option Decimal :=
  let above := units * Nat.pow 10 (-exponent).toNat
  let below := unitsPerOne * Nat.pow 10 exponent.toNat
  let low : Decimal := ⟨above / below, exponent⟩
  let high : Decimal := ⟨above / below + 1, exponent⟩
  if low.units = units then
    if high.units = units then some ⟨halfEven above below, exponent⟩ else some low
  else if high.units = units then some high
  else none

/-- Every number of units is exactly a decimal. -/
def exactly (units : Nat) : Decimal := ⟨units * Nat.pow 5 unitPlaces, -unitPlaces⟩

/-- The fewest digits that read back, of which seventeen are always enough. -/
def shortest (units : Nat) : Decimal :=
  let top := magnitude units
  ((List.range' 1 17).findSome? fun count : Nat => atPlace? units (top - count)).getD
    (exactly units)

theorem units_atPlace? {units : Nat} {exponent : Int} {decimal : Decimal}
    (found : atPlace? units exponent = some decimal) : decimal.units = units := by
  simp only [atPlace?] at found
  generalize units * Nat.pow 10 (-exponent).toNat = above at found
  generalize unitsPerOne * Nat.pow 10 exponent.toNat = below at found
  have between : halfEven above below = above / below ∨ halfEven above below = above / below + 1 := by
    have := le_halfEven above below
    have := halfEven_le above below
    omega
  split at found
  · next lowReads =>
      split at found
      · next highReads =>
          cases found
          rcases between with equal | equal
          · exact equal ▸ lowReads
          · exact equal ▸ highReads
      · cases found
        exact lowReads
  · split at found
    · next highReads =>
        cases found
        exact highReads
    · cases found

theorem units_exactly {units : Nat} (grid : OnGrid units) : (exactly units).units = units := by
  have scaled : (exactly units).numerator = units * (exactly units).denominator := by
    unfold exactly numerator denominator unitsPerOne
    generalize unitPlaces = places
    simp only [Int.neg_neg]
    rw [Int.toNat_of_nonpos (by omega), Int.toNat_natCast]
    simp only [Nat.pow_eq]
    rw [Nat.pow_zero, Nat.mul_one, Nat.mul_assoc, ← Nat.mul_pow]
  rw [Decimal.units, scaled]
  exact nearest_of_onGrid grid (exactly units).denominator_pos

/-- The digits that are written for a number read back to that number. -/
theorem units_shortest {units : Nat} (grid : OnGrid units) : (shortest units).units = units := by
  simp only [shortest]
  cases search : (List.range' 1 17).findSome? fun count : Nat =>
      atPlace? units (magnitude units - count) with
  | none => exact units_exactly grid
  | some decimal =>
      obtain ⟨count, _, found⟩ := List.exists_of_findSome?_eq_some search
      exact units_atPlace? found

end Decimal

end MarineFix
