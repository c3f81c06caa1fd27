import MarineFix.Number.Rounding
/-!
A finite binary floating-point number is a sign and a count of units of 2^-1074.
-/

namespace MarineFix

namespace Number

/-- The unit is two to the power of minus this number. -/
def unitPlaces : Nat := 1074

/-- This many units make the number one. -/
def unitsPerOne : Nat := Nat.pow 2 unitPlaces

/-- Numbers from 2^1024 on lie beyond the finite range. -/
def limit : Nat := Nat.pow 2 1024 * unitsPerOne

theorem unitsPerOne_pos : 0 < unitsPerOne := by
  unfold unitsPerOne
  generalize unitPlaces = places
  exact Nat.two_pow_pos places

end Number

open Number

/-- A binary64 number is finite or one of the two infinities. -/
inductive Binary64 where
  | finite (negative : Bool) (units : Nat) (fits : OnGrid units ∧ units < limit)
  | infinite (negative : Bool)
deriving DecidableEq

namespace Binary64

/-- An exact quotient of units is rounded once. -/
def ofQuotient (negative : Bool) (numerator denominator : Nat) : Binary64 :=
  if inRange : nearest numerator denominator < limit then
    .finite negative (nearest numerator denominator) ⟨onGrid_nearest _ _, inRange⟩
  else .infinite negative

def isFinite : Binary64 → Bool
  | .finite .. => true
  | .infinite _ => false

def isNegative : Binary64 → Bool
  | .finite negative _ _ => negative
  | .infinite negative => negative

/-- The sign changes and the magnitude stays. -/
def negate : Binary64 → Binary64
  | .finite negative units fits => .finite (!negative) units fits
  | .infinite negative => .infinite !negative

/-- The divisor is a positive number of units. -/
def divideBy (divisor : Nat) : Binary64 → Binary64
  | .finite negative units _ => ofQuotient negative (units * unitsPerOne) divisor
  | .infinite negative => .infinite negative

/-- Two numbers are equal as numbers also when they are zeros of different signs. -/
def agrees : Binary64 → Binary64 → Bool
  | .finite firstSign first _, .finite secondSign second _ =>
      first == second && (firstSign == secondSign || first == 0)
  | .infinite first, .infinite second => first == second
  | _, _ => false

@[simp] theorem negate_negate (value : Binary64) : value.negate.negate = value := by
  cases value <;> simp [negate]

@[simp] theorem isFinite_negate (value : Binary64) : value.negate.isFinite = value.isFinite := by
  cases value <;> rfl

@[simp] theorem isNegative_negate (value : Binary64) :
    value.negate.isNegative = !value.isNegative := by
  cases value <;> rfl

@[simp] theorem agrees_self (value : Binary64) : value.agrees value = true := by
  cases value <;> simp [agrees]

/-- A quotient that leaves the range has the sign of its operands. -/
@[simp] theorem isNegative_ofQuotient (negative : Bool) (numerator denominator : Nat) :
    (ofQuotient negative numerator denominator).isNegative = negative := by
  simp only [ofQuotient]
  split <;> rfl

theorem isFinite_ofQuotient_iff (negative : Bool) (numerator denominator : Nat) :
    (ofQuotient negative numerator denominator).isFinite = true ↔
      nearest numerator denominator < limit := by
  simp only [ofQuotient]
  split <;> simp [isFinite, *]

theorem negate_ofQuotient (negative : Bool) (numerator denominator : Nat) :
    (ofQuotient negative numerator denominator).negate =
      ofQuotient (!negative) numerator denominator := by
  simp only [ofQuotient]
  split <;> rfl

end Binary64

end MarineFix
