import Mathlib.Data.List.TakeWhile
import MarineFix.Proofs.DataField.Instant
import MarineFix.Proofs.Decode.Gaps
import MarineFix.Proofs.Number.Nearest
/-!
The texts that are numerals, and the numbers that they denote.
-/

namespace MarineFix

open Number Sentence DataField

namespace Numeral

/-- Only a minus sign makes a number negative. -/
inductive IsSign : Text → Bool → Prop where
  | minus : IsSign ['-'] true
  | plus : IsSign ['+'] false
  | missing : IsSign [] false

/-- Digits stand on at least one side of an optional point. -/
structure IsMagnitude (whole fraction : Text) : Prop where
  isDigits : Text.IsDigits whole
  isFraction : fraction.IsFraction
  present : whole ≠ [] ∨ fraction.tail ≠ []

/-- The number that the digits before and behind the point denote. -/
def magnitude (whole fraction : Text) : ℚ := Text.toNat whole + Text.fractionValue fraction.tail

/-- An integer is written as a sign and up to 4300 digits. -/
def IsInteger (text : Text) (value : Int) : Prop :=
  ∃ sign negative digits, IsSign sign negative ∧ text = sign ++ digits ∧ Text.IsDigits digits ∧
    1 ≤ digits.length ∧ digits.length ≤ 4300 ∧
    value = if negative then -(Text.toNat digits : Int) else Text.toNat digits

/-- A real number is written as a sign and a magnitude. -/
def Denotes (text : Text) (negative : Bool) (number : ℚ) : Prop :=
  ∃ sign whole fraction, IsSign sign negative ∧ text = sign ++ (whole ++ fraction) ∧
    IsMagnitude whole fraction ∧ number = withSign negative (magnitude whole fraction)

/-- The magnitude behind a sign starts with a digit or with a point. -/
def StartsUnsigned (text : Text) : Prop := ∀ character ∈ text.head?, character ≠ '-' ∧ character ≠ '+'

theorem startsUnsigned_of_isDigits {digits : Text} (all : Text.IsDigits digits) :
    StartsUnsigned digits := by
  intro character first
  have isDigit := all character (List.mem_of_mem_head? first)
  exact ⟨Text.ne_of_isDigit isDigit rfl, Text.ne_of_isDigit isDigit rfl⟩

theorem IsMagnitude.startsUnsigned {whole fraction : Text} (written : IsMagnitude whole fraction) :
    StartsUnsigned (whole ++ fraction) := by
  cases whole with
  | cons digit rest =>
      rintro _ ⟨⟩
      have isDigit := written.isDigits digit List.mem_cons_self
      exact ⟨Text.ne_of_isDigit isDigit rfl, Text.ne_of_isDigit isDigit rfl⟩
  | nil =>
      rcases written.isFraction with rfl | ⟨digits, _, rfl⟩
      · exact nofun
      · rintro _ ⟨⟩
        decide

/-- A sign is split off exactly. -/
theorem splitSign_append {sign body : Text} {negative : Bool} (isSign : IsSign sign negative)
    (unsigned : StartsUnsigned body) : splitSign (sign ++ body) = (negative, body) := by
  cases isSign with
  | minus => rfl
  | plus => rfl
  | missing =>
      rw [List.nil_append, splitSign.eq_3]
      · rintro rest rfl
        exact (unsigned '-' rfl).1 rfl
      · rintro rest rfl
        exact (unsigned '+' rfl).2 rfl

theorem exists_sign (text : Text) :
    ∃ sign, IsSign sign (splitSign text).1 ∧ text = sign ++ (splitSign text).2 := by
  rw [splitSign.eq_def]
  split
  · exact ⟨_, .minus, rfl⟩
  · exact ⟨_, .plus, rfl⟩
  · exact ⟨_, .missing, rfl⟩

theorem integer?_eq_some_iff {text : Text} {value : Int} :
    integer? text = some value ↔ IsInteger text value := by
  constructor
  · intro read
    obtain ⟨sign, isSign, whole⟩ := exists_sign text
    simp only [integer?] at read
    split at read
    · rename_i valid
      obtain ⟨all, present, short⟩ := valid
      exact ⟨sign, _, _, isSign, whole, all, List.length_pos_iff.mpr present, short,
        (Option.some.inj read).symm⟩
    · cases read
  · rintro ⟨sign, negative, digits, isSign, rfl, all, present, short, rfl⟩
    simp only [integer?, splitSign_append isSign (startsUnsigned_of_isDigits all)]
    exact if_pos ⟨all, List.length_pos_iff.mp present, short⟩

theorem decimal?_eq_some_iff {text : Text} {decimal : Decimal} :
    decimal? text = some decimal ↔
      ∃ whole fraction, text = whole ++ fraction ∧ IsMagnitude whole fraction ∧
        decimal = ⟨Text.toNat (whole ++ fraction.tail), -fraction.tail.length⟩ := by
  constructor
  · intro read
    have parts : text = text.takeWhile Char.isDigit ++ text.dropWhile Char.isDigit :=
      List.takeWhile_append_dropWhile.symm
    have all : Text.IsDigits (text.takeWhile Char.isDigit) :=
      fun character member => List.mem_takeWhile_imp member
    rw [decimal?] at read
    generalize text.takeWhile Char.isDigit = whole at *
    split at read
    · rename_i ended
      split at read
      · cases read
      · rename_i present
        rw [ended] at parts
        exact ⟨whole, [], parts, ⟨all, .inl rfl, .inl present⟩, by simpa using read.symm⟩
    · rename_i fraction pointed
      split at read
      · rename_i valid
        rw [pointed] at parts
        exact ⟨whole, '.' :: fraction, parts, ⟨all, .inr ⟨fraction, valid.1, rfl⟩, valid.2⟩,
          (Option.some.inj read).symm⟩
      · cases read
    · cases read
  · rintro ⟨whole, fraction, rfl, ⟨all, fractional, present⟩, rfl⟩
    rw [decimal?, Text.takeWhile_isDigit_append all fractional.startsNoDigit,
      Text.dropWhile_isDigit_append all fractional.startsNoDigit]
    rcases fractional with rfl | ⟨digits, allBehind, rfl⟩
    · have nonempty : whole ≠ [] := present.resolve_right fun behind => behind rfl
      simp [nonempty]
    · exact if_pos ⟨allBehind, present⟩

/-- The digits around the point are read as one number with decimal places. -/
theorem value_eq_magnitude (whole fraction : Text) :
    (⟨Text.toNat (whole ++ fraction.tail), -fraction.tail.length⟩ : Decimal).value =
      magnitude whole fraction := by
  have scale : (10 : ℚ) ^ fraction.tail.length ≠ 0 := by positivity
  rw [Decimal.value, magnitude, Text.fractionValue, Text.toNat_append, zpow_neg, zpow_natCast]
  push_cast
  field_simp

theorem magnitude_nonneg (whole fraction : Text) : 0 ≤ magnitude whole fraction :=
  add_nonneg (Nat.cast_nonneg _) (Text.fractionValue_nonneg _)

/-- Zeros before the whole digits and behind the fraction do not change the number. -/
theorem magnitude_zeros (leading trailing : Nat) (whole digits : Text) :
    magnitude (List.replicate leading '0' ++ whole)
        ('.' :: (digits ++ List.replicate trailing '0')) = magnitude whole ('.' :: digits) := by
  have scale : (10 : ℚ) ^ trailing ≠ 0 := by positivity
  rw [magnitude, magnitude, Text.toNat_zeros_append, List.tail_cons, List.tail_cons,
    Text.fractionValue, Text.fractionValue, Text.toNat_append, Text.toNat_replicate_zero,
    List.length_append, List.length_replicate, Nat.add_zero, pow_add]
  push_cast
  rw [mul_div_mul_right _ _ scale]

/-- A text denotes the signed value of the decimal behind its sign. -/
theorem denotes_iff {text : Text} {negative : Bool} {number : ℚ} :
    Denotes text negative number ↔ ∃ decimal, decimal? (splitSign text).2 = some decimal ∧
      negative = (splitSign text).1 ∧ number = withSign negative decimal.value := by
  constructor
  · rintro ⟨sign, whole, fraction, isSign, rfl, written, rfl⟩
    rw [splitSign_append isSign written.startsUnsigned]
    exact ⟨_, decimal?_eq_some_iff.mpr ⟨whole, fraction, rfl, written, rfl⟩, rfl,
      congrArg _ (value_eq_magnitude whole fraction).symm⟩
  · rintro ⟨decimal, read, rfl, rfl⟩
    obtain ⟨sign, isSign, parts⟩ := exists_sign text
    obtain ⟨whole, fraction, body, written, rfl⟩ := decimal?_eq_some_iff.mp read
    exact ⟨sign, whole, fraction, isSign, body ▸ parts, written,
      congrArg _ (value_eq_magnitude whole fraction)⟩

theorem exists_decimal_of_real? {text : Text} {value : Binary64} :
    real? text = some value ↔ ∃ decimal, decimal? (splitSign text).2 = some decimal ∧
      (decimal.toBinary64 (splitSign text).1).isFinite = true ∧
        decimal.toBinary64 (splitSign text).1 = value := by
  simp only [real?, Option.bind_eq_some_iff, Option.ite_none_right_eq_some, Option.some.injEq]

/-- A text is read as the finite number nearest to what it denotes. -/
theorem real?_eq_some_iff {text : Text} {value : Binary64} :
    real? text = some value ↔ ∃ negative number, Denotes text negative number ∧
      |number| < 2 ^ 1024 - 2 ^ 970 ∧ value.isNegative = negative ∧ value.IsNearest number := by
  rw [exists_decimal_of_real?]
  constructor
  · rintro ⟨decimal, read, finite, rfl⟩
    have inRange := (Decimal.isFinite_toBinary64_iff _ _).mp finite
    refine ⟨_, _, denotes_iff.mpr ⟨decimal, read, rfl, rfl⟩, ?_,
      Binary64.isNegative_ofQuotient _ _ _, Decimal.isNearest_toBinary64 inRange _⟩
    rwa [abs_withSign, abs_of_nonneg decimal.value_nonneg]
  · rintro ⟨negative, number, denotes, inRange, sign, nearest⟩
    obtain ⟨decimal, read, rfl, rfl⟩ := denotes_iff.mp denotes
    have small := inRange
    rw [abs_withSign, abs_of_nonneg decimal.value_nonneg] at small
    have rounded := Decimal.isNearest_toBinary64 small (splitSign text).1
    refine ⟨decimal, read, rounded.finite, Binary64.eq_of_toRat_eq rounded.finite nearest.finite ?_
      (rounded.unique inRange nearest)⟩
    rw [sign, Decimal.toBinary64, Binary64.isNegative_ofQuotient]

/-- Every number of the finite range that a text denotes is read. -/
theorem exists_real?_iff (text : Text) :
    (∃ value, real? text = some value) ↔
      ∃ negative number, Denotes text negative number ∧ |number| < 2 ^ 1024 - 2 ^ 970 := by
  constructor
  · rintro ⟨value, read⟩
    obtain ⟨negative, number, denotes, inRange, _⟩ := real?_eq_some_iff.mp read
    exact ⟨negative, number, denotes, inRange⟩
  · rintro ⟨negative, number, denotes, inRange⟩
    obtain ⟨decimal, read, rfl, rfl⟩ := denotes_iff.mp denotes
    rw [abs_withSign, abs_of_nonneg decimal.value_nonneg] at inRange
    exact ⟨_, exists_decimal_of_real?.mpr
      ⟨decimal, read, (Decimal.isFinite_toBinary64_iff _ _).mpr inRange, rfl⟩⟩

/-- A text denotes one number only. -/
theorem Denotes.unique {text : Text} {negative negativeOther : Bool} {number other : ℚ}
    (denotes : Denotes text negative number) (denotesOther : Denotes text negativeOther other) :
    negative = negativeOther ∧ number = other := by
  obtain ⟨sign, whole, fraction, isSign, rfl, written, rfl⟩ := denotes
  obtain ⟨sign', whole', fraction', isSign', same, written', rfl⟩ := denotesOther
  have split := splitSign_append isSign written.startsUnsigned
  rw [same, splitSign_append isSign' written'.startsUnsigned, Prod.mk.injEq] at split
  obtain ⟨rfl, body⟩ := split
  obtain ⟨rfl, rfl⟩ := Text.digits_append_inj written'.isDigits written.isDigits
    written'.isFraction.startsNoDigit written.isFraction.startsNoDigit body
  exact ⟨rfl, rfl⟩

/-- Values of one number agree, and only a zero keeps its sign. -/
theorem agrees_of_denotes {text other : Text} {value valueOther : Binary64}
    {negative negativeOther : Bool} {number : ℚ} (read : real? text = some value)
    (readOther : real? other = some valueOther) (denotes : Denotes text negative number)
    (denotesOther : Denotes other negativeOther number) : value.agrees valueOther = true := by
  obtain ⟨_, first, same, inRange, _, nearest⟩ := real?_eq_some_iff.mp read
  obtain ⟨_, second, sameOther, _, _, nearestOther⟩ := real?_eq_some_iff.mp readOther
  rw [(same.unique denotes).2] at nearest inRange
  rw [(sameOther.unique denotesOther).2] at nearestOther
  exact Binary64.agrees_of_toRat_eq nearest.finite nearestOther.finite
    (nearest.unique inRange nearestOther)

end Numeral

namespace DataField

/-- An optional field is absent, has the value of its text, or fails. -/
structure Settled {α : Type} (outcome : Decoded α) (absent : Prop) (means : α → Prop)
    (failure : FieldFailure) : Prop where
  none_iff : outcome = .ok none ↔ absent
  some_iff : ∀ value, outcome = .ok (some value) ↔ means value
  error_iff : ∀ found, outcome = .error found ↔
    ¬ absent ∧ (∀ value, ¬ means value) ∧ found = failure

/-- A field is settled by what its reader knows. -/
theorem settled_optional {α : Type} {expected : Expectation} {read : Text → Option α}
    {means : α → Prop} {kind : Text} {fields : List Text} {index : Nat} (unread : read [] = none)
    (known : ∀ value, read (pick fields index) = some value ↔ means value) :
    Settled (optional expected read kind fields index) (Absent fields index) means
      ⟨kind, index, pick fields index, expected⟩ := by
  obtain rfl : means = fun value => read (pick fields index) = some value :=
    funext fun value => propext (known value).symm
  rw [← pick_eq_nil_iff]
  by_cases empty : pick fields index = []
  · rw [optional_of_empty empty, empty, unread]
    exact ⟨by simp, by simp, by simp⟩
  · cases outcome : read (pick fields index) with
    | none =>
        rw [optional_of_not_read empty outcome]
        exact ⟨by simp [empty], by simp, by simp [empty, eq_comm]⟩
    | some value =>
        rw [optional_of_read empty outcome]
        exact ⟨by simp [empty], by simp, by simp⟩

/-- A numeral has the value that its text denotes and is malformed otherwise. -/
theorem numbers_exact (kind : Text) (fields : List Text) (index : Nat) :
    let text := pick fields index
    let failure : FieldFailure := ⟨kind, index, text, .numeral⟩
    failure.category = .malformedField ∧
    Settled (integer kind fields index) (Absent fields index) (Numeral.IsInteger text) failure ∧
    Settled (real kind fields index) (Absent fields index) (fun value =>
      ∃ negative number, Numeral.Denotes text negative number ∧ |number| < 2 ^ 1024 - 2 ^ 970 ∧
        value.isNegative = negative ∧ value.IsNearest number) failure ∧
    ((∃ value, real kind fields index = .ok (some value)) ↔
      ∃ negative number, Numeral.Denotes text negative number ∧ |number| < 2 ^ 1024 - 2 ^ 970) ∧
    (∀ (other : Text) (others : List Text) (place : Nat) (value valueOther : Binary64)
      (negative negativeOther : Bool) (number : ℚ),
      real kind fields index = .ok (some value) → real other others place = .ok (some valueOther) →
      Numeral.Denotes text negative number →
      Numeral.Denotes (pick others place) negativeOther number → value.agrees valueOther = true) ∧
    ∀ (leading trailing : Nat) (whole digits : Text),
      Numeral.magnitude (List.replicate leading '0' ++ whole)
        ('.' :: (digits ++ List.replicate trailing '0')) =
          Numeral.magnitude whole ('.' :: digits) := by
  intro text failure
  have read (kind : Text) (fields : List Text) (index : Nat) :
      Settled (real kind fields index) (Absent fields index)
        (fun value => Numeral.real? (pick fields index) = some value)
        ⟨kind, index, pick fields index, .numeral⟩ :=
    settled_optional rfl fun _ => Iff.rfl
  refine ⟨rfl, settled_optional rfl fun _ => Numeral.integer?_eq_some_iff,
    settled_optional rfl fun _ => Numeral.real?_eq_some_iff, ?_, ?_, Numeral.magnitude_zeros⟩
  · simp only [(read kind fields index).some_iff]
    exact Numeral.exists_real?_iff text
  · intro other others place value valueOther negative negativeOther number found foundOther
    rw [(read kind fields index).some_iff] at found
    rw [(read other others place).some_iff] at foundOther
    exact Numeral.agrees_of_denotes found foundOther

/-- Zeros count for the length of an integer and not for its value. -/
example : integer "GGA".toList ["".toList, "007".toList] 1 = .ok (some 7) := by decide

end DataField

end MarineFix
