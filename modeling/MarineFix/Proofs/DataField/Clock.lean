import MarineFix.DataField.Clock
import MarineFix.Proofs.Text.Digits
/-!
The texts that are dates and times of day, and what is read from them.
-/

namespace MarineFix

namespace Text

/-- Two digits, which stand for a number below a hundred. -/
def IsPair (text : Text) : Prop :=
  ∃ tens ones : Char, text = [tens, ones] ∧ tens.isDigit = true ∧ ones.isDigit = true

/-- Nothing, or a point with any number of digits behind it. -/
def IsFraction (text : Text) : Prop := text = [] ∨ ∃ digits, IsDigits digits ∧ text = '.' :: digits

theorem IsPair.isDigits {text : Text} (pair : text.IsPair) : IsDigits text := by
  obtain ⟨tens, ones, rfl, isTens, isOnes⟩ := pair
  simp [isTens, isOnes]

theorem IsPair.length_eq {text : Text} (pair : text.IsPair) : text.length = 2 := by
  obtain ⟨tens, ones, rfl, _, _⟩ := pair
  rfl

/-- Two characters are a pair when they are digits. -/
theorem isPair_of_length_eq {text : Text} (all : IsDigits text) (length : text.length = 2) :
    text.IsPair := by
  match text with
  | [tens, ones] =>
      simp only [isDigits_cons, isDigits_nil, and_true] at all
      exact ⟨tens, ones, rfl, all.1, all.2⟩

theorem IsFraction.startsNoDigit {text : Text} (fraction : text.IsFraction) :
    StartsNoDigit text := by
  rcases fraction with rfl | ⟨digits, _, rfl⟩
  · exact nofun
  · exact startsNoDigit_cons rfl digits

theorem IsFraction.isDigits {text : Text} (fraction : text.IsFraction) : IsDigits text.tail := by
  rcases fraction with rfl | ⟨digits, all, rfl⟩
  · exact isDigits_nil
  · exact all

/-- The digits of a fraction are read behind its point. -/
theorem fraction?_eq_some_iff {text digits : Text} :
    fraction? text = some digits ↔ IsFraction text ∧ digits = text.tail := by
  rw [fraction?.eq_def]
  split
  · simp [IsFraction, eq_comm]
  · rename_i behind
    by_cases all : IsDigits behind <;> simp [IsFraction, all, eq_comm]
  · rename_i empty point
    simp only [reduceCtorEq, false_iff, not_and]
    rintro (rfl | ⟨digits, _, rfl⟩)
    · exact absurd rfl empty
    · exact absurd rfl (point digits)

/-- The first six digits of a fraction, with zeros for missing ones. -/
def sixDigits (digits : Text) : Text := (digits.take 6).rightpad 6 '0'

theorem isDigits_sixDigits {digits : Text} (all : IsDigits digits) : IsDigits (sixDigits digits) :=
  (isDigits_append _ _).mpr
    ⟨fun character member => all character (List.mem_of_mem_take member), isDigits_zeros _⟩

@[simp] theorem length_sixDigits (digits : Text) : (sixDigits digits).length = 6 := by
  rw [sixDigits, List.length_rightpad, List.length_take]
  omega

theorem millionths_lt {digits : Text} (all : IsDigits digits) : millionths digits < 1000000 := by
  have bound := toNat_lt (isDigits_sixDigits all)
  rwa [length_sixDigits] at bound

end Text

/-- Two digits each for the hour, the minute and the second before a fraction. -/
structure TimeOfDay.Spelled (text hour minute second fraction : Text) : Prop where
  whole : text = hour ++ minute ++ second ++ fraction
  hour : hour.IsPair
  minute : minute.IsPair
  second : second.IsPair
  fraction : fraction.IsFraction

/-- Two digits each for the day, the month and the year. -/
structure Date.Spelled (text day month year : Text) : Prop where
  whole : text = day ++ month ++ year
  day : day.IsPair
  month : month.IsPair
  year : year.IsPair

/-- A text determines the parts of its time of day. -/
theorem TimeOfDay.Spelled.unique {text hour minute second fraction : Text}
    {hour' minute' second' fraction' : Text} (spelled : Spelled text hour minute second fraction)
    (other : Spelled text hour' minute' second' fraction') :
    hour = hour' ∧ minute = minute' ∧ second = second' ∧ fraction = fraction' := by
  have same := spelled.whole.symm.trans other.whole
  simp only [List.append_assoc] at same
  obtain ⟨hours, same⟩ :=
    List.append_inj same (spelled.hour.length_eq.trans other.hour.length_eq.symm)
  obtain ⟨minutes, same⟩ :=
    List.append_inj same (spelled.minute.length_eq.trans other.minute.length_eq.symm)
  obtain ⟨seconds, fractions⟩ :=
    List.append_inj same (spelled.second.length_eq.trans other.second.length_eq.symm)
  exact ⟨hours, minutes, seconds, fractions⟩

/-- A text determines the parts of its date. -/
theorem Date.Spelled.unique {text day month year day' month' year' : Text}
    (spelled : Spelled text day month year) (other : Spelled text day' month' year') :
    day = day' ∧ month = month' ∧ year = year' := by
  have same := spelled.whole.symm.trans other.whole
  simp only [List.append_assoc] at same
  obtain ⟨days, same⟩ := List.append_inj same (spelled.day.length_eq.trans other.day.length_eq.symm)
  obtain ⟨months, years⟩ :=
    List.append_inj same (spelled.month.length_eq.trans other.month.length_eq.symm)
  exact ⟨days, months, years⟩

/-- A clock reading is a time of day with an optional fraction. -/
def TimeOfDay.IsReading (text : Text) : Prop :=
  ∃ hour minute second fraction : Text, text = hour ++ minute ++ second ++ fraction ∧
    (hour.IsPair ∧ Text.toNat hour < 24) ∧ (minute.IsPair ∧ Text.toNat minute < 60) ∧
    (second.IsPair ∧ Text.toNat second < 60) ∧ fraction.IsFraction

/-- A date is written with two digits for each of its parts. -/
def Date.IsReading (text : Text) : Prop :=
  ∃ day month year : Text, text = day ++ month ++ year ∧
    day.IsPair ∧ month.IsPair ∧ year.IsPair ∧
    Calendar.IsDate (Date.century + Text.toNat year) (Text.toNat month) (Text.toNat day)

/-- A text names this date, whose year belongs to the century. -/
def Date.Names (text : Text) (date : Date) : Prop :=
  ∃ day month year : Text, Spelled text day month year ∧
    date.year = century + Text.toNat year ∧ date.month = Text.toNat month ∧ date.day = Text.toNat day

/-- The digits of a date are a reading when they make a real one. -/
theorem Date.Spelled.isReading_iff {text day month year : Text}
    (spelled : Spelled text day month year) :
    IsReading text ↔
      Calendar.IsDate (century + Text.toNat year) (Text.toNat month) (Text.toNat day) := by
  constructor
  · rintro ⟨day', month', year', whole, isDay, isMonth, isYear, real⟩
    obtain ⟨rfl, rfl, rfl⟩ := spelled.unique ⟨whole, isDay, isMonth, isYear⟩
    exact real
  · intro real
    exact ⟨day, month, year, spelled.whole, spelled.day, spelled.month, spelled.year, real⟩

theorem TimeOfDay.ofParts?_eq_some_iff {hour minute second microsecond : Nat} {time : TimeOfDay} :
    ofParts? hour minute second microsecond = some time ↔
      time.hour.val = hour ∧ time.minute.val = minute ∧ time.second.val = second ∧
        time.microsecond.val = microsecond := by
  rw [ofParts?]
  constructor
  · intro made
    split at made
    · cases made
      exact ⟨rfl, rfl, rfl, rfl⟩
    · cases made
  · rintro ⟨rfl, rfl, rfl, rfl⟩
    rw [dif_pos ⟨time.hour.isLt, time.minute.isLt, time.second.isLt, time.microsecond.isLt⟩]

theorem Date.ofParts?_eq_some_iff {year month day : Nat} {date : Date} :
    ofParts? year month day = some date ↔
      date.year = year ∧ date.month = month ∧ date.day = day := by
  rw [ofParts?]
  constructor
  · intro made
    split at made
    · cases made
      exact ⟨rfl, rfl, rfl⟩
    · cases made
  · rintro ⟨rfl, rfl, rfl⟩
    rw [dif_pos date.real]

/-- A time of day is read part by part, and its fraction as millionths. -/
theorem TimeOfDay.ofText?_eq_some_iff {text : Text} {time : TimeOfDay} :
    ofText? text = some time ↔ ∃ hour minute second fraction,
      Spelled text hour minute second fraction ∧ time.hour.val = Text.toNat hour ∧
        time.minute.val = Text.toNat minute ∧ time.second.val = Text.toNat second ∧
        time.microsecond.val = Text.millionths fraction.tail := by
  constructor
  · intro read
    rw [ofText?.eq_def] at read
    split at read
    · rename_i h1 h2 m1 m2 s1 s2 rest
      split at read
      · rename_i all
        obtain ⟨digits, fraction, made⟩ := Option.bind_eq_some_iff.mp read
        obtain ⟨fractional, rfl⟩ := Text.fraction?_eq_some_iff.mp fraction
        simp only [Text.isDigits_cons, Text.isDigits_nil, and_true] at all
        obtain ⟨isH1, isH2, isM1, isM2, isS1, isS2⟩ := all
        exact ⟨[h1, h2], [m1, m2], [s1, s2], rest,
          ⟨rfl, ⟨h1, h2, rfl, isH1, isH2⟩, ⟨m1, m2, rfl, isM1, isM2⟩, ⟨s1, s2, rfl, isS1, isS2⟩,
            fractional⟩, ofParts?_eq_some_iff.mp made⟩
      · cases read
    · cases read
  · rintro ⟨_, _, _, fraction, ⟨rfl, ⟨h1, h2, rfl, isH1, isH2⟩, ⟨m1, m2, rfl, isM1, isM2⟩,
      ⟨s1, s2, rfl, isS1, isS2⟩, fractional⟩, values⟩
    have all : Text.IsDigits [h1, h2, m1, m2, s1, s2] := by
      simp [isH1, isH2, isM1, isM2, isS1, isS2]
    show ofText? (h1 :: h2 :: m1 :: m2 :: s1 :: s2 :: fraction) = some time
    rw [ofText?, if_pos all, Text.fraction?_eq_some_iff.mpr ⟨fractional, rfl⟩, Option.bind_some]
    exact ofParts?_eq_some_iff.mpr values

/-- A date is read part by part. -/
theorem Date.ofText?_eq_some_iff {text : Text} {date : Date} :
    ofText? text = some date ↔ Names text date := by
  constructor
  · intro read
    rw [ofText?.eq_def] at read
    split at read
    · rename_i d1 d2 m1 m2 y1 y2
      split at read
      · rename_i all
        simp only [Text.isDigits_cons, Text.isDigits_nil, and_true] at all
        obtain ⟨isD1, isD2, isM1, isM2, isY1, isY2⟩ := all
        exact ⟨[d1, d2], [m1, m2], [y1, y2],
          ⟨rfl, ⟨d1, d2, rfl, isD1, isD2⟩, ⟨m1, m2, rfl, isM1, isM2⟩, ⟨y1, y2, rfl, isY1, isY2⟩⟩,
          ofParts?_eq_some_iff.mp read⟩
      · cases read
    · cases read
  · rintro ⟨_, _, _, ⟨rfl, ⟨d1, d2, rfl, isD1, isD2⟩, ⟨m1, m2, rfl, isM1, isM2⟩,
      ⟨y1, y2, rfl, isY1, isY2⟩⟩, values⟩
    have all : Text.IsDigits [d1, d2, m1, m2, y1, y2] := by
      simp [isD1, isD2, isM1, isM2, isY1, isY2]
    show ofText? [d1, d2, m1, m2, y1, y2] = some date
    rw [ofText?, if_pos all]
    exact ofParts?_eq_some_iff.mpr values

/-- A time of day is read exactly from a clock reading. -/
theorem TimeOfDay.isSome_ofText?_iff (text : Text) :
    (ofText? text).isSome = true ↔ IsReading text := by
  rw [Option.isSome_iff_exists]
  constructor
  · rintro ⟨time, read⟩
    obtain ⟨hour, minute, second, fraction, spelled, hours, minutes, seconds, _⟩ :=
      ofText?_eq_some_iff.mp read
    exact ⟨hour, minute, second, fraction, spelled.whole, ⟨spelled.hour, hours ▸ time.hour.isLt⟩,
      ⟨spelled.minute, minutes ▸ time.minute.isLt⟩, ⟨spelled.second, seconds ▸ time.second.isLt⟩,
      spelled.fraction⟩
  · rintro ⟨hour, minute, second, fraction, whole, ⟨isHour, hours⟩, ⟨isMinute, minutes⟩,
      ⟨isSecond, seconds⟩, isFraction⟩
    have small := Text.millionths_lt isFraction.isDigits
    exact ⟨⟨⟨_, hours⟩, ⟨_, minutes⟩, ⟨_, seconds⟩, ⟨_, small⟩⟩, ofText?_eq_some_iff.mpr
      ⟨hour, minute, second, fraction, ⟨whole, isHour, isMinute, isSecond, isFraction⟩,
        rfl, rfl, rfl, rfl⟩⟩

/-- A date is read exactly from the digits of a real one. -/
theorem Date.isSome_ofText?_iff (text : Text) :
    (ofText? text).isSome = true ↔ IsReading text := by
  rw [Option.isSome_iff_exists]
  constructor
  · rintro ⟨date, read⟩
    obtain ⟨day, month, year, spelled, years, months, days⟩ := ofText?_eq_some_iff.mp read
    exact ⟨day, month, year, spelled.whole, spelled.day, spelled.month, spelled.year,
      years ▸ months ▸ days ▸ date.real⟩
  · rintro ⟨day, month, year, whole, isDay, isMonth, isYear, real⟩
    exact ⟨⟨_, _, _, real⟩, ofText?_eq_some_iff.mpr
      ⟨day, month, year, ⟨whole, isDay, isMonth, isYear⟩, rfl, rfl, rfl⟩⟩

theorem TimeOfDay.ofText?_eq_none_iff (text : Text) : ofText? text = none ↔ ¬ IsReading text := by
  rw [← isSome_ofText?_iff, Option.not_isSome_iff_eq_none]

/-- An instant has the date and the time of day of its texts. -/
theorem Timestamp.ofTexts?_eq_some_iff {date time : Text} {instant : Timestamp} :
    ofTexts? date time = some instant ↔
      Date.ofText? date = some instant.date ∧ TimeOfDay.ofText? time = some instant.time := by
  obtain ⟨day, reading⟩ := instant
  rw [ofTexts?]
  cases Date.ofText? date <;> cases TimeOfDay.ofText? time <;> simp

/-- An instant is missing exactly when its date or its time of day is. -/
theorem Timestamp.ofTexts?_eq_none_iff (date time : Text) :
    ofTexts? date time = none ↔ ¬ Date.IsReading date ∨ ¬ TimeOfDay.IsReading time := by
  rw [← Date.isSome_ofText?_iff, ← TimeOfDay.isSome_ofText?_iff, Option.not_isSome_iff_eq_none,
    Option.not_isSome_iff_eq_none, ofTexts?]
  cases Date.ofText? date <;> cases TimeOfDay.ofText? time <;> simp

end MarineFix
