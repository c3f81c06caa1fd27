import Mathlib.Algebra.Order.Floor.Semifield
import Mathlib.Data.Prod.Lex
import Mathlib.Data.Rat.Floor
import MarineFix.Proofs.DataField.Clock
/-!
A time of day denotes an exact number of seconds, of which the floor is read.
-/

namespace MarineFix

namespace Text

/-- The number that the digits behind a point denote. -/
def fractionValue (digits : Text) : ℚ := (toNat digits : ℚ) / (10 ^ digits.length : Nat)

/-- Six digits of a fraction are its millionths, rounded down. -/
theorem millionths_eq_div {digits : Text} (all : IsDigits digits) :
    millionths digits = toNat digits * 10 ^ 6 / 10 ^ digits.length := by
  rcases Nat.le_total digits.length 6 with short | long
  · have scale : 10 ^ 6 = 10 ^ (6 - digits.length) * 10 ^ digits.length := by
      rw [← Nat.pow_add, Nat.sub_add_cancel short]
    rw [millionths, List.take_of_length_le short, List.rightpad, toNat_append,
      toNat_replicate_zero, List.length_replicate, Nat.add_zero, scale, ← Nat.mul_assoc,
      Nat.mul_div_cancel _ (Nat.pow_pos (by decide))]
  · have width : (digits.take 6).length = 6 := List.length_take_of_le long
    have behind : toNat (digits.drop 6) < 10 ^ (digits.length - 6) := by
      rw [← List.length_drop]
      exact toNat_lt fun character member => all character (List.mem_of_mem_drop member)
    have value : toNat digits =
        toNat (digits.take 6) * 10 ^ (digits.length - 6) + toNat (digits.drop 6) := by
      rw [← List.length_drop, ← toNat_append, List.take_append_drop]
    have scale : 10 ^ digits.length = 10 ^ (digits.length - 6) * 10 ^ 6 := by
      rw [← Nat.pow_add, Nat.sub_add_cancel long]
    rw [millionths, List.rightpad, width, Nat.sub_self, List.replicate_zero, List.append_nil,
      scale, Nat.mul_div_mul_right _ _ (by decide), value, Nat.add_comm,
      Nat.add_mul_div_right _ _ (Nat.pow_pos (by decide)), Nat.div_eq_of_lt behind, Nat.zero_add]

theorem fractionValue_nonneg (digits : Text) : 0 ≤ fractionValue digits :=
  div_nonneg (Nat.cast_nonneg _) (Nat.cast_nonneg _)

theorem fractionValue_lt_one {digits : Text} (all : IsDigits digits) : fractionValue digits < 1 := by
  rw [fractionValue, div_lt_one (Nat.cast_pos.mpr (Nat.pow_pos (by decide))), Nat.cast_lt]
  exact toNat_lt all

/-- The millionths of a fraction are rounded down. -/
theorem floor_fractionValue {digits : Text} (all : IsDigits digits) :
    ⌊10 ^ 6 * fractionValue digits⌋₊ = millionths digits := by
  have scaled : 10 ^ 6 * fractionValue digits =
      ((toNat digits * 10 ^ 6 : Nat) : ℚ) / (10 ^ digits.length : Nat) := by
    rw [fractionValue, Nat.cast_mul, mul_comm, div_mul_eq_mul_div]
    norm_num
  rw [scaled, Nat.floor_div_eq_div, millionths_eq_div all]

/-- A fraction never rounds a number of seconds up. -/
theorem floor_add_fractionValue (whole : Nat) {digits : Text} (all : IsDigits digits) :
    ⌊whole + fractionValue digits⌋₊ = whole := by
  have small : ⌊fractionValue digits⌋₊ = 0 := Nat.floor_eq_zero.mpr (fractionValue_lt_one all)
  rw [add_comm, Nat.floor_add_natCast (fractionValue_nonneg digits), small, Nat.zero_add]

theorem floor_microseconds (whole : Nat) {digits : Text} (all : IsDigits digits) :
    ⌊10 ^ 6 * (whole + fractionValue digits)⌋₊ = 10 ^ 6 * whole + millionths digits := by
  have positive : 0 ≤ 10 ^ 6 * fractionValue digits :=
    mul_nonneg (by norm_num) (fractionValue_nonneg digits)
  have scaled : 10 ^ 6 * (whole + fractionValue digits) =
      10 ^ 6 * fractionValue digits + (10 ^ 6 * whole : Nat) := by
    push_cast
    ring
  rw [scaled, Nat.floor_add_natCast positive, floor_fractionValue all, Nat.add_comm]

end Text

namespace TimeOfDay

/-- The whole seconds since midnight. -/
def seconds (time : TimeOfDay) : Nat := 3600 * time.hour + 60 * time.minute + time.second

/-- The microseconds since midnight. -/
def microseconds (time : TimeOfDay) : Nat := 10 ^ 6 * time.seconds + time.microsecond

/-- A clock reading denotes an exact number of seconds since midnight. -/
def Denotes (text : Text) (moment : ℚ) : Prop :=
  ∃ hour minute second fraction : Text, Spelled text hour minute second fraction ∧
    (Text.toNat hour < 24 ∧ Text.toNat minute < 60 ∧ Text.toNat second < 60) ∧
    moment = (3600 * Text.toNat hour + 60 * Text.toNat minute + Text.toNat second : Nat) +
      Text.fractionValue fraction.tail

theorem microseconds_injective {first second : TimeOfDay}
    (same : first.microseconds = second.microseconds) : first = second := by
  obtain ⟨hour, minute, whole, part⟩ := first
  obtain ⟨hour', minute', whole', part'⟩ := second
  simp only [microseconds, seconds] at same
  rw [mk.injEq]
  refine ⟨Fin.ext ?_, Fin.ext ?_, Fin.ext ?_, Fin.ext ?_⟩ <;> omega

theorem Denotes.isReading {text : Text} {moment : ℚ} (denotes : Denotes text moment) :
    IsReading text := by
  obtain ⟨hour, minute, second, fraction, spelled, ⟨hours, minutes, seconds⟩, _⟩ := denotes
  exact ⟨hour, minute, second, fraction, spelled.whole, ⟨spelled.hour, hours⟩,
    ⟨spelled.minute, minutes⟩, ⟨spelled.second, seconds⟩, spelled.fraction⟩

/-- What is read is the number that is denoted, rounded down. -/
theorem floor_of_ofText? {text : Text} {time : TimeOfDay} (read : ofText? text = some time) :
    ∃ moment, Denotes text moment ∧ time.seconds = ⌊moment⌋₊ ∧
      time.microseconds = ⌊10 ^ 6 * moment⌋₊ := by
  obtain ⟨hour, minute, second, fraction, spelled, hours, minutes, seconds, millionths⟩ :=
    ofText?_eq_some_iff.mp read
  have whole : time.seconds =
      3600 * Text.toNat hour + 60 * Text.toNat minute + Text.toNat second := by
    rw [TimeOfDay.seconds, hours, minutes, seconds]
  refine ⟨time.seconds + Text.fractionValue fraction.tail,
    ⟨hour, minute, second, fraction, spelled,
      ⟨hours ▸ time.hour.isLt, minutes ▸ time.minute.isLt, seconds ▸ time.second.isLt⟩, ?_⟩, ?_, ?_⟩
  · rw [whole]
  · exact (Text.floor_add_fractionValue _ spelled.fraction.isDigits).symm
  · rw [Text.floor_microseconds _ spelled.fraction.isDigits, microseconds, millionths]

/-- A clock reading denotes one number only. -/
theorem Denotes.unique {text : Text} {first second : ℚ} (denotes : Denotes text first)
    (denotesOther : Denotes text second) : first = second := by
  obtain ⟨hour, minute, seconds, fraction, spelled, _, rfl⟩ := denotes
  obtain ⟨hour', minute', seconds', fraction', spelledOther, _, rfl⟩ := denotesOther
  obtain ⟨rfl, rfl, rfl, rfl⟩ := spelled.unique spelledOther
  rfl

/-- A time of day is read exactly from the clock readings that denote it. -/
theorem ofText?_eq_some_iff_denotes {text : Text} {time : TimeOfDay} :
    ofText? text = some time ↔
      ∃ moment, Denotes text moment ∧ time.seconds = ⌊moment⌋₊ ∧
        time.microseconds = ⌊10 ^ 6 * moment⌋₊ := by
  constructor
  · exact floor_of_ofText?
  · rintro ⟨moment, denotes, _, floor⟩
    obtain ⟨other, read⟩ := Option.isSome_iff_exists.mp
      ((isSome_ofText?_iff text).mpr denotes.isReading)
    obtain ⟨same, denotesOther, _, floorOther⟩ := floor_of_ofText? read
    rw [denotes.unique denotesOther, ← floorOther] at floor
    rw [read, microseconds_injective floor]

/-- A later moment is never read as an earlier time of day. -/
theorem microseconds_mono {text other : Text} {time later : TimeOfDay} {moment laterMoment : ℚ}
    (read : ofText? text = some time) (readLater : ofText? other = some later)
    (denotes : Denotes text moment) (denotesLater : Denotes other laterMoment)
    (ordered : moment ≤ laterMoment) : time.microseconds ≤ later.microseconds := by
  obtain ⟨_, same, _, floor⟩ := floor_of_ofText? read
  obtain ⟨_, sameLater, _, floorLater⟩ := floor_of_ofText? readLater
  rw [floor, floorLater, same.unique denotes, sameLater.unique denotesLater]
  exact Nat.floor_mono (mul_le_mul_of_nonneg_left ordered (by norm_num))

end TimeOfDay

namespace Date

/-- Dates are ordered by their years, then by their months, then by their days. -/
def key (date : Date) : ℕ ×ₗ ℕ ×ₗ ℕ := toLex (date.year, toLex (date.month, date.day))

/-- Every fourth year of the century is a leap year. -/
theorem isLeap_century_iff {year : Nat} (small : year < 100) :
    Calendar.IsLeap (century + year) ↔ 4 ∣ year := by
  rw [Calendar.IsLeap, century]
  omega

/-- The 29th of February is a date in every fourth year. -/
theorem isReading_leapDay_iff {year : Text} (isYear : year.IsPair) :
    IsReading (['2', '9', '0', '2'] ++ year) ↔ 4 ∣ Text.toNat year := by
  have spelled : Spelled (['2', '9', '0', '2'] ++ year) ['2', '9'] ['0', '2'] year :=
    ⟨rfl, ⟨'2', '9', rfl, rfl, rfl⟩, ⟨'0', '2', rfl, rfl, rfl⟩, isYear⟩
  have small : Text.toNat year < 10 ^ 2 := isYear.length_eq ▸ Text.toNat_lt isYear.isDigits
  have day : Text.toNat ['2', '9'] = 29 := rfl
  have month : Text.toNat ['0', '2'] = 2 := rfl
  rw [spelled.isReading_iff, day, month, Calendar.IsDate, Calendar.daysInMonth]
  by_cases fourth : 4 ∣ Text.toNat year
  · rw [if_pos ((isLeap_century_iff small).mpr fourth), century]
    omega
  · rw [if_neg (mt (isLeap_century_iff small).mp fourth)]
    omega

end Date

/-- An instant is read exactly from its digits, with microseconds rounded down. -/
theorem Timestamp.reading_exact (date time : Text) :
    ((ofTexts? date time).isSome = true ↔ Date.IsReading date ∧ TimeOfDay.IsReading time) ∧
    ((TimeOfDay.ofText? time).isSome = true ↔ TimeOfDay.IsReading time) ∧
    (∀ year : Text, year.IsPair →
      (Date.IsReading (['2', '9', '0', '2'] ++ year) ↔ 4 ∣ Text.toNat year)) ∧
    (∀ instant : Timestamp, ofTexts? date time = some instant ↔
      Date.Names date instant.date ∧ TimeOfDay.ofText? time = some instant.time) ∧
    (∀ reading : TimeOfDay, TimeOfDay.ofText? time = some reading ↔
      ∃ moment, TimeOfDay.Denotes time moment ∧ reading.seconds = ⌊moment⌋₊ ∧
        reading.microseconds = ⌊10 ^ 6 * moment⌋₊) ∧
    ∀ (laterDate laterTime : Text) (instant later : Timestamp) (moment laterMoment : ℚ),
      ofTexts? date time = some instant → ofTexts? laterDate laterTime = some later →
      TimeOfDay.Denotes time moment → TimeOfDay.Denotes laterTime laterMoment →
      toLex (instant.date.key, moment) ≤ toLex (later.date.key, laterMoment) →
        toLex (instant.date.key, instant.time.microseconds) ≤
          toLex (later.date.key, later.time.microseconds) := by
  refine ⟨?_, TimeOfDay.isSome_ofText?_iff time, fun _ => Date.isReading_leapDay_iff, ?_,
    fun _ => TimeOfDay.ofText?_eq_some_iff_denotes, ?_⟩
  · rw [← Option.ne_none_iff_isSome, Ne, ofTexts?_eq_none_iff]
    tauto
  · intro instant
    rw [ofTexts?_eq_some_iff, Date.ofText?_eq_some_iff]
  · intro laterDate laterTime instant later moment laterMoment read readLater denotes denotesLater
    have reading := (ofTexts?_eq_some_iff.mp read).2
    have readingLater := (ofTexts?_eq_some_iff.mp readLater).2
    rw [Prod.Lex.toLex_le_toLex, Prod.Lex.toLex_le_toLex]
    rintro (earlier | ⟨same, ordered⟩)
    · exact .inl earlier
    · exact .inr ⟨same, TimeOfDay.microseconds_mono reading readingLater denotes denotesLater ordered⟩

/-- The last moment of a day stays in it. -/
example : TimeOfDay.ofText? "235959.9999999".toList = some ⟨23, 59, 59, 999999⟩ := by rfl

end MarineFix
