import MarineFix.Text.Basic
/-!
Only real dates and real clock readings have a value of their types.
-/

namespace MarineFix

/-- A reading of the clock, which never shows a leap second. -/
structure TimeOfDay where
  hour : Fin 24
  minute : Fin 60
  second : Fin 60
  microsecond : Fin 1000000
deriving DecidableEq

namespace Calendar

/-- Of the full centuries only every fourth is a leap year. -/
def IsLeap (year : Nat) : Prop := year % 4 = 0 ∧ (year % 100 ≠ 0 ∨ year % 400 = 0)

instance (year : Nat) : Decidable (IsLeap year) :=
  inferInstanceAs (Decidable (_ ∧ _))

def daysInMonth (year month : Nat) : Nat :=
  match month with
  | 2 => if IsLeap year then 29 else 28
  | 4 | 6 | 9 | 11 => 30
  | _ => 31

/-- A Gregorian date with a year of at most four digits. -/
def IsDate (year month day : Nat) : Prop :=
  (1 ≤ year ∧ year ≤ 9999) ∧ (1 ≤ month ∧ month ≤ 12) ∧ 1 ≤ day ∧ day ≤ daysInMonth year month

instance (year month day : Nat) : Decidable (IsDate year month day) :=
  inferInstanceAs (Decidable (_ ∧ _))

end Calendar

structure Date where
  year : Nat
  month : Nat
  day : Nat
  real : Calendar.IsDate year month day
deriving DecidableEq

/-- An instant in UTC. -/
structure Timestamp where
  date : Date
  time : TimeOfDay
deriving DecidableEq

namespace TimeOfDay

def ofParts? (hour minute second microsecond : Nat) : Option TimeOfDay :=
  if inRange : hour < 24 ∧ minute < 60 ∧ second < 60 ∧ microsecond < 1000000 then
    some ⟨⟨hour, inRange.1⟩, ⟨minute, inRange.2.1⟩, ⟨second, inRange.2.2.1⟩,
      ⟨microsecond, inRange.2.2.2⟩⟩
  else none

/-- A fraction of a second has six digits and is left out when zero. -/
def text (time : TimeOfDay) : Text :=
  Text.padded 2 time.hour ++ ':' :: Text.padded 2 time.minute ++ ':' :: Text.padded 2 time.second ++
    if time.microsecond = 0 then [] else '.' :: Text.padded 6 time.microsecond

end TimeOfDay

namespace Date

def ofParts? (year month day : Nat) : Option Date :=
  if real : Calendar.IsDate year month day then some ⟨year, month, day, real⟩ else none

def text (date : Date) : Text :=
  Text.padded 4 date.year ++ '-' :: Text.padded 2 date.month ++ '-' :: Text.padded 2 date.day

end Date

def Timestamp.text (instant : Timestamp) : Text :=
  instant.date.text ++ 'T' :: instant.time.text

end MarineFix
