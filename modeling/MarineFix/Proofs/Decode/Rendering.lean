import MarineFix.Proofs.DataField.Clock
import MarineFix.Proofs.Decode.Inversion
import MarineFix.Proofs.Decode.Positions
import MarineFix.Proofs.Record.Calendar
import MarineFix.Record.Message
/-!
Dates and times are written with the digits that they were read from.
-/

namespace MarineFix

open Sentence DataField

namespace Text

theorem IsPair.padded_toNat {text : Text} (pair : text.IsPair) : padded 2 (toNat text) = text := by
  have present : text ≠ [] := List.ne_nil_of_length_pos (by rw [pair.length_eq]; decide)
  have same := Text.padded_toNat pair.isDigits present
  rwa [pair.length_eq] at same

theorem padded_millionths {digits : Text} (all : IsDigits digits) :
    padded 6 (millionths digits) = sixDigits digits := by
  have present : sixDigits digits ≠ [] :=
    List.ne_nil_of_length_pos (by rw [length_sixDigits]; decide)
  have same := Text.padded_toNat (isDigits_sixDigits all) present
  rwa [length_sixDigits] at same

/-- A fraction is shown with its first six digits, unless they are all zeros. -/
def shownFraction (digits : Text) : Text :=
  if sixDigits digits = List.replicate 6 '0' then [] else '.' :: sixDigits digits

theorem millionths_eq_zero_iff {digits : Text} (all : IsDigits digits) :
    millionths digits = 0 ↔ sixDigits digits = List.replicate 6 '0' := by
  constructor
  · intro zero
    rw [← padded_millionths all, zero]
    rfl
  · intro zeros
    exact (congrArg toNat zeros).trans (toNat_replicate_zero 6)

theorem fractionText_millionths {digits : Text} (all : IsDigits digits) :
    TimeOfDay.fractionText (millionths digits) = shownFraction digits := by
  rw [TimeOfDay.fractionText, shownFraction, padded_millionths all]
  exact if_congr (millionths_eq_zero_iff all) rfl rfl

theorem isFraction_shownFraction {digits : Text} (all : IsDigits digits) :
    IsFraction (shownFraction digits) := by
  rw [shownFraction]
  split
  · exact .inl rfl
  · exact .inr ⟨_, isDigits_sixDigits all, rfl⟩

/-- The digits that are shown give the same fraction again. -/
theorem millionths_shownFraction {digits : Text} (all : IsDigits digits) :
    millionths (shownFraction digits).tail = millionths digits := by
  rw [shownFraction]
  split
  · rename_i zeros
    rw [(millionths_eq_zero_iff all).mpr zeros]
    rfl
  · have width := length_sixDigits digits
    rw [List.tail_cons, millionths, List.take_of_length_le (Nat.le_of_eq width), List.rightpad,
      width, Nat.sub_self, List.replicate_zero, List.append_nil]
    rfl

theorem not_mem_of_isDigits {text : Text} {mark : Char} (all : IsDigits text)
    (noDigit : mark.isDigit = false) : mark ∉ text := by
  intro found
  rw [all mark found] at noDigit
  cases noDigit

end Text

theorem Date.Spelled.not_mem {text day month year : Text} {mark : Char}
    (spelled : Spelled text day month year) (noDigit : mark.isDigit = false) : mark ∉ text := by
  rw [spelled.whole]
  apply Text.not_mem_of_isDigits _ noDigit
  rw [Text.isDigits_append, Text.isDigits_append]
  exact ⟨⟨spelled.day.isDigits, spelled.month.isDigits⟩, spelled.year.isDigits⟩

theorem TimeOfDay.Spelled.not_mem {text hour minute second fraction : Text} {mark : Char}
    (spelled : Spelled text hour minute second fraction) (noDigit : mark.isDigit = false)
    (noPoint : mark ≠ '.') : mark ∉ text := by
  have whole : mark ∉ hour ++ minute ++ second := by
    apply Text.not_mem_of_isDigits _ noDigit
    rw [Text.isDigits_append, Text.isDigits_append]
    exact ⟨⟨spelled.hour.isDigits, spelled.minute.isDigits⟩, spelled.second.isDigits⟩
  rw [spelled.whole, List.mem_append, not_or]
  refine ⟨whole, ?_⟩
  rcases spelled.fraction with rfl | ⟨digits, all, rfl⟩
  · exact List.not_mem_nil
  · rw [List.mem_cons, not_or]
    exact ⟨noPoint, Text.not_mem_of_isDigits all noDigit⟩

/-- A date that can be read is a field of a sentence. -/
theorem Date.field_of_ofText? {text : Text} {date : Date} (read : ofText? text = some date) :
    text ≠ [] ∧ ',' ∉ text ∧ '*' ∉ text := by
  obtain ⟨_, _, _, spelled, _⟩ := ofText?_eq_some_iff.mp read
  refine ⟨?_, spelled.not_mem rfl, spelled.not_mem rfl⟩
  rintro rfl
  cases read

/-- A time of day that can be read is a field of a sentence. -/
theorem TimeOfDay.field_of_ofText? {text : Text} {time : TimeOfDay}
    (read : ofText? text = some time) : text ≠ [] ∧ ',' ∉ text ∧ '*' ∉ text := by
  obtain ⟨_, _, _, _, spelled, _⟩ := ofText?_eq_some_iff.mp read
  refine ⟨?_, spelled.not_mem rfl (by decide), spelled.not_mem rfl (by decide)⟩
  rintro rfl
  cases read

/-- A time of day is written with digits that read back as it. -/
theorem TimeOfDay.text_of_ofText? {text : Text} {time : TimeOfDay}
    (read : ofText? text = some time) :
    ∃ hour minute second fraction : Text, Spelled text hour minute second fraction ∧
      time.text = hour ++ [':'] ++ minute ++ [':'] ++ second ++ Text.shownFraction fraction.tail ∧
      ofText? (hour ++ minute ++ second ++ Text.shownFraction fraction.tail) = some time := by
  obtain ⟨hour, minute, second, fraction, spelled, hours, minutes, seconds, millionths⟩ :=
    ofText?_eq_some_iff.mp read
  have all := spelled.fraction.isDigits
  refine ⟨hour, minute, second, fraction, spelled, ?_, ?_⟩
  · rw [text_eq, hours, minutes, seconds, millionths, spelled.hour.padded_toNat,
      spelled.minute.padded_toNat, spelled.second.padded_toNat, Text.fractionText_millionths all]
    simp only [List.append_assoc, List.cons_append, List.nil_append]
  · exact ofText?_eq_some_iff.mpr ⟨hour, minute, second, Text.shownFraction fraction.tail,
      ⟨rfl, spelled.hour, spelled.minute, spelled.second, Text.isFraction_shownFraction all⟩,
      hours, minutes, seconds, millionths.trans (Text.millionths_shownFraction all).symm⟩

/-- A date is written with its digits behind those of the century. -/
theorem Date.text_of_ofText? {text : Text} {date : Date} (read : ofText? text = some date) :
    ∃ day month year : Text, Spelled text day month year ∧
      date.text = ['2', '0'] ++ year ++ ['-'] ++ month ++ ['-'] ++ day := by
  obtain ⟨day, month, year, spelled, years, months, days⟩ := ofText?_eq_some_iff.mp read
  have four : Text.padded 4 date.year = ['2', '0'] ++ year := by
    have all : Text.IsDigits (['2', '0'] ++ year) :=
      (Text.isDigits_append _ _).mpr ⟨by decide, spelled.year.isDigits⟩
    have width : (['2', '0'] ++ year).length = 4 := by
      rw [List.length_append, spelled.year.length_eq]
      rfl
    have value : Text.toNat (['2', '0'] ++ year) = date.year := by
      rw [Text.toNat_append, spelled.year.length_eq, years]
      rfl
    have same := Text.padded_toNat all (by simp)
    rwa [width, value] at same
  refine ⟨day, month, year, spelled, ?_⟩
  rw [Date.text, four, months, days, spelled.month.padded_toNat, spelled.day.padded_toNat]
  simp only [List.append_assoc, List.singleton_append]

/-- A sentence keeps its record with other texts of the same instant. -/
theorem Rmc.exists_again {source : NavigationSystem} {sentence date time : Text} {fix : Rmc}
    {instant : Timestamp} (decoded : decode source (fields sentence) = .ok fix)
    (stamped : fix.timestamp = some instant) (read : Timestamp.ofTexts? date time = some instant) :
    ∃ again, fields again = ((fields sentence).set 9 date).set 1 time ∧
      decode source (fields again) = .ok fix := by
  have original := (decode_eq_ok_iff.mp decoded).timestamp.symm.trans stamped
  obtain ⟨oldDate, oldTime⟩ := Timestamp.ofTexts?_eq_some_iff.mp original
  obtain ⟨newDate, newTime⟩ := Timestamp.ofTexts?_eq_some_iff.mp read
  obtain ⟨dated, replaced⟩ := exists_fields_set sentence 9 (Date.field_of_ofText? newDate).2
  obtain ⟨again, both⟩ := exists_fields_set dated 1 (TimeOfDay.field_of_ofText? newTime).2
  rw [replaced] at both
  have present : pick ((fields sentence).set 9 date) 1 ≠ [] := by
    rw [pick_set_of_ne (by decide)]
    exact (TimeOfDay.field_of_ofText? oldTime).1
  have others (index : Nat) (noTime : 1 ≠ index) (noDate : 9 ≠ index) :
      pick (fields again) index = pick (fields sentence) index := by
    rw [both, pick_set_of_ne noTime, pick_set_of_ne noDate]
  have apart : ∀ index ∈ [2, 3, 5, 7, 8, 10, 12], 1 ≠ index ∧ 9 ≠ index := by decide
  have behind : ∀ index ∈ [3, 5, 10], 1 ≠ index + 1 ∧ 9 ≠ index + 1 := by decide
  refine ⟨again, both, ?_⟩
  rw [← decoded]
  apply decode_congr
  · exact fun index tested => others index (apart index tested).1 (apart index tested).2
  · exact fun index tested =>
      .inl (others (index + 1) (behind index tested).1 (behind index tested).2)
  · rw [both, pick_set_self present, pick_set_of_ne (by decide),
      pick_set_self (Date.field_of_ofText? oldDate).1, read, original]

/-- A sentence keeps its record with another text of the same time. -/
theorem Gga.exists_again {source : NavigationSystem} {sentence text : Text} {fix : Gga}
    {time : TimeOfDay} (decoded : decode source (fields sentence) = .ok fix)
    (timed : fix.utcTime = some time) (read : TimeOfDay.ofText? text = some time) :
    ∃ again, fields again = (fields sentence).set 1 text ∧
      decode source (fields again) = .ok fix := by
  have original := (decode_eq_ok_iff.mp decoded).utcTime.symm.trans timed
  obtain ⟨again, replaced⟩ := exists_fields_set sentence 1 (TimeOfDay.field_of_ofText? read).2
  have others (index : Nat) (noTime : 1 ≠ index) :
      pick (fields again) index = pick (fields sentence) index := by
    rw [replaced, pick_set_of_ne noTime]
  have apart : ∀ index ∈ [2, 4, 6, 7, 8, 9, 11, 13, 14], 1 ≠ index := by decide
  have behind : ∀ index ∈ [2, 4], 1 ≠ index + 1 := by decide
  refine ⟨again, replaced, ?_⟩
  rw [← decoded]
  apply decode_congr
  · exact fun index tested => others index (apart index tested)
  · exact fun index tested => .inl (others (index + 1) (behind index tested))
  · rw [replaced, pick_set_self (TimeOfDay.field_of_ofText? original).1, read, original]

/-- The digits of the date and the time are shown and decode again. -/
def Rmc.ShowsDigits (source : NavigationSystem) (sentence : Text) (fix : Rmc)
    (instant : Timestamp) : Prop :=
  ∃ day month year hour minute second fraction : Text,
    Date.Spelled (pick (fields sentence) 9) day month year ∧
    TimeOfDay.Spelled (pick (fields sentence) 1) hour minute second fraction ∧
    (Record.rmc fix).members.lookup "timestamp".toList = some (.string
      (['2', '0'] ++ year ++ ['-'] ++ month ++ ['-'] ++ day ++ ['T'] ++ hour ++ [':'] ++ minute ++
        [':'] ++ second ++ Text.shownFraction fraction.tail ++ ['Z'])) ∧
    let date := day ++ month ++ year
    let time := hour ++ minute ++ second ++ Text.shownFraction fraction.tail
    Timestamp.ofTexts? date time = some instant ∧
    ∃ again, fields again = ((fields sentence).set 9 date).set 1 time ∧
      Handler.rmc.decode source again = .ok (.rmc fix)

/-- The digits of the time are shown and decode again. -/
def Gga.ShowsDigits (source : NavigationSystem) (sentence : Text) (fix : Gga)
    (time : TimeOfDay) : Prop :=
  ∃ hour minute second fraction : Text,
    TimeOfDay.Spelled (pick (fields sentence) 1) hour minute second fraction ∧
    (Record.gga fix).members.lookup "utc_time".toList = some (.string
      (hour ++ [':'] ++ minute ++ [':'] ++ second ++ Text.shownFraction fraction.tail ++ ['Z'])) ∧
    let text := hour ++ minute ++ second ++ Text.shownFraction fraction.tail
    TimeOfDay.ofText? text = some time ∧
    ∃ again, fields again = (fields sentence).set 1 text ∧
      Handler.gga.decode source again = .ok (.gga fix)

theorem Rmc.showsDigits {source : NavigationSystem} {sentence : Text} {fix : Rmc}
    {instant : Timestamp} (decoded : decode source (fields sentence) = .ok fix)
    (stamped : fix.timestamp = some instant) : ShowsDigits source sentence fix instant := by
  have original := (decode_eq_ok_iff.mp decoded).timestamp.symm.trans stamped
  obtain ⟨ofDate, ofTime⟩ := Timestamp.ofTexts?_eq_some_iff.mp original
  obtain ⟨day, month, year, dated, dateText⟩ := Date.text_of_ofText? ofDate
  obtain ⟨hour, minute, second, fraction, timed, timeText, back⟩ := TimeOfDay.text_of_ofText? ofTime
  have same := Timestamp.ofTexts?_eq_some_iff.mpr ⟨dated.whole ▸ ofDate, back⟩
  obtain ⟨again, replaced, decodes⟩ := exists_again decoded stamped same
  refine ⟨day, month, year, hour, minute, second, fraction, dated, timed, ?_, same, again, replaced,
    congrArg (Except.map Record.rmc) decodes⟩
  have shown : (Record.rmc fix).members.lookup "timestamp".toList =
      some (Message.nullable (fun instant => Message.utc instant.text) fix.timestamp) := rfl
  rw [shown, stamped, Message.nullable, Message.utc, Timestamp.text, dateText, timeText]
  simp only [List.append_assoc, List.cons_append, List.nil_append]

theorem Gga.showsDigits {source : NavigationSystem} {sentence : Text} {fix : Gga}
    {time : TimeOfDay} (decoded : decode source (fields sentence) = .ok fix)
    (timed : fix.utcTime = some time) : ShowsDigits source sentence fix time := by
  have original := (decode_eq_ok_iff.mp decoded).utcTime.symm.trans timed
  obtain ⟨hour, minute, second, fraction, spelled, text, back⟩ := TimeOfDay.text_of_ofText? original
  obtain ⟨again, replaced, decodes⟩ := exists_again decoded timed back
  refine ⟨hour, minute, second, fraction, spelled, ?_, back, again, replaced,
    congrArg (Except.map Record.gga) decodes⟩
  have shown : (Record.gga fix).members.lookup "utc_time".toList =
      some (Message.nullable (fun time => Message.utc time.text) fix.utcTime) := rfl
  rw [shown, timed, Message.nullable, Message.utc, text]

/-- Dates and times come out with the digits that went in. -/
theorem Handler.digits_shown {handler : Handler} {source : NavigationSystem} {sentence : Text}
    {record : Record} (decoded : handler.decode source sentence = .ok record) :
    (∀ fix instant, record = .rmc fix → fix.timestamp = some instant →
      fix.ShowsDigits source sentence instant) ∧
    ∀ fix time, record = .gga fix → fix.utcTime = some time →
      fix.ShowsDigits source sentence time := by
  cases handler with
  | rmc =>
      obtain ⟨fix, read, rfl⟩ := exists_of_map_eq_ok decoded
      constructor
      · rintro _ instant ⟨⟩ stamped
        exact Rmc.showsDigits read stamped
      · rintro _ _ ⟨⟩
  | gga =>
      obtain ⟨fix, read, rfl⟩ := exists_of_map_eq_ok decoded
      constructor
      · rintro _ _ ⟨⟩
      · rintro _ time ⟨⟩ timed
        exact Gga.showsDigits read timed
  | vtg =>
      obtain ⟨fix, _, rfl⟩ := exists_of_map_eq_ok decoded
      constructor <;> rintro _ _ ⟨⟩
  | awaitParts =>
      cases decoded
      constructor <;> rintro _ _ ⟨⟩

/-- A fraction of one digit is filled to six digits. -/
theorem Handler.digits_shown_half_second :
    let sentence := "$GPRMC,225446.5,A,,,,,,,191120*00".toList
    let instant : Timestamp := ⟨⟨2020, 11, 19, by decide⟩, ⟨22, 54, 46, 500000⟩⟩
    let fix : Rmc := ⟨some .gps, some instant, some true, none, none, none, none, none, none⟩
    Handler.rmc.decode .gps sentence = .ok (.rmc fix) ∧
      (Record.rmc fix).members.lookup "timestamp".toList =
        some (.string "2020-11-19T22:54:46.500000Z".toList) ∧
      ∃ again, fields again =
          ["GPRMC", "225446.500000", "A", "", "", "", "", "", "", "191120"].map String.toList ∧
        Handler.rmc.decode .gps again = .ok (.rmc fix) := by
  intro sentence instant fix
  have decoded : Handler.rmc.decode .gps sentence = .ok (.rmc fix) := by decide
  obtain ⟨day, month, year, hour, minute, second, fraction, dated, timed, shown, _, again, same,
    back⟩ := (digits_shown decoded).1 fix instant rfl rfl
  have date : Date.Spelled "191120".toList "19".toList "11".toList "20".toList :=
    ⟨rfl, ⟨_, _, rfl, rfl, rfl⟩, ⟨_, _, rfl, rfl, rfl⟩, ⟨_, _, rfl, rfl, rfl⟩⟩
  have time : TimeOfDay.Spelled "225446.5".toList "22".toList "54".toList "46".toList ".5".toList :=
    ⟨rfl, ⟨_, _, rfl, rfl, rfl⟩, ⟨_, _, rfl, rfl, rfl⟩, ⟨_, _, rfl, rfl, rfl⟩,
      .inr ⟨['5'], by decide, rfl⟩⟩
  obtain ⟨rfl, rfl, rfl⟩ := dated.unique date
  obtain ⟨rfl, rfl, rfl, rfl⟩ := timed.unique time
  exact ⟨decoded, shown, again, same, back⟩

end MarineFix
