import MarineFix.Record.Calendar
import MarineFix.Sentence.Fields
/-!
A text that is no real date or no clock reading gives no value.
-/

namespace MarineFix

/-- Two digits that stand side by side. -/
def Text.pair (tens ones : Char) : Nat := Text.toNat [tens, ones]

/-- The digits behind the point, which may be missing together with the point. -/
def Text.fraction? : Text → Option Text
  | [] => some []
  | '.' :: digits => if Text.IsDigits digits then some digits else none
  | _ => none

/-- The first six digits of a fraction count millionths, and missing digits are zeros. -/
def Text.millionths (digits : Text) : Nat := Text.toNat ((digits.take 6).rightpad 6 '0')

/-- The time is written HHMMSS with an optional fraction of any length. -/
def TimeOfDay.ofText? : Text → Option TimeOfDay
  | h1 :: h2 :: m1 :: m2 :: s1 :: s2 :: rest =>
      if Text.IsDigits [h1, h2, m1, m2, s1, s2] then
        (Text.fraction? rest).bind fun digits =>
          TimeOfDay.ofParts? (Text.pair h1 h2) (Text.pair m1 m2) (Text.pair s1 s2)
            (Text.millionths digits)
      else none
  | _ => none

/-- The first year of the century that a year of two digits belongs to. -/
def Date.century : Nat := 2000

/-- The date is written DDMMYY. -/
def Date.ofText? : Text → Option Date
  | [d1, d2, m1, m2, y1, y2] =>
      if Text.IsDigits [d1, d2, m1, m2, y1, y2] then
        Date.ofParts? (Date.century + Text.pair y1 y2) (Text.pair m1 m2) (Text.pair d1 d2)
      else none
  | _ => none

/-- An instant needs both a date and a time. -/
def Timestamp.ofTexts? (date time : Text) : Option Timestamp :=
  (Date.ofText? date).bind fun date => (TimeOfDay.ofText? time).map fun time => ⟨date, time⟩

end MarineFix
