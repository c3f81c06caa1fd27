import MarineFix.Proofs.Text.Digits
import MarineFix.Record.Calendar
/-!
The texts of dates and times of day can be told apart.
-/

namespace MarineFix

open Text (StartsNoDigit padded_append_inj)

namespace TimeOfDay

/-- The fraction of a second as it is written. -/
def fractionText (microsecond : Nat) : Text :=
  if microsecond = 0 then [] else '.' :: Text.padded 6 microsecond

/-- The text of a time of day in its parts. -/
theorem text_eq (time : TimeOfDay) : time.text = Text.padded 2 time.hour ++ ':' ::
    (Text.padded 2 time.minute ++ ':' ::
      (Text.padded 2 time.second ++ fractionText time.microsecond)) := by
  have zero : time.microsecond = 0 ↔ time.microsecond.val = 0 := Fin.ext_iff
  simp only [text, fractionText, zero, List.append_assoc, List.cons_append]

theorem startsNoDigit_fractionText (microsecond : Nat) :
    StartsNoDigit (fractionText microsecond) := by
  rw [fractionText]
  split
  · rintro _ ⟨⟩
  · exact Text.startsNoDigit_cons rfl _

theorem fractionText_inj {first second : Nat} (same : fractionText first = fractionText second) :
    first = second := by
  simp only [fractionText] at same
  split at same <;> split at same
  · rename_i zero zeroOther
    rw [zero, zeroOther]
  · cases same
  · cases same
  · have digits := congrArg Text.toNat (List.cons.inj same).2
    rwa [Text.toNat_padded, Text.toNat_padded] at digits

theorem text_injective {first second : TimeOfDay} (same : first.text = second.text) :
    first = second := by
  have colon (text : Text) : StartsNoDigit (':' :: text) := Text.startsNoDigit_cons rfl text
  rw [text_eq, text_eq] at same
  obtain ⟨hour, same⟩ := padded_append_inj (colon _) (colon _) same
  obtain ⟨minute, same⟩ := padded_append_inj (colon _) (colon _) (List.cons.inj same).2
  obtain ⟨seconds, same⟩ := padded_append_inj (startsNoDigit_fractionText _)
    (startsNoDigit_fractionText _) (List.cons.inj same).2
  have microsecond := fractionText_inj same
  obtain ⟨_, _, _, _⟩ := first
  obtain ⟨_, _, _, _⟩ := second
  rw [mk.injEq]
  exact ⟨Fin.ext hour, Fin.ext minute, Fin.ext seconds, Fin.ext microsecond⟩

end TimeOfDay

/-- The text of a date determines the date and where its text ends. -/
theorem Date.text_append_inj {first second : Date} {rest others : Text} (stops : StartsNoDigit rest)
    (stopsOther : StartsNoDigit others) (same : first.text ++ rest = second.text ++ others) :
    first = second ∧ rest = others := by
  have dash (text : Text) : StartsNoDigit ('-' :: text) := Text.startsNoDigit_cons rfl text
  simp only [text, List.append_assoc, List.cons_append] at same
  obtain ⟨year, same⟩ := padded_append_inj (dash _) (dash _) same
  obtain ⟨month, same⟩ := padded_append_inj (dash _) (dash _) (List.cons.inj same).2
  obtain ⟨day, behind⟩ := padded_append_inj stops stopsOther (List.cons.inj same).2
  obtain ⟨_, _, _, _⟩ := first
  obtain ⟨_, _, _, _⟩ := second
  rw [mk.injEq]
  exact ⟨⟨year, month, day⟩, behind⟩

theorem Timestamp.text_injective {first second : Timestamp} (same : first.text = second.text) :
    first = second := by
  obtain ⟨date, time⟩ := Date.text_append_inj (Text.startsNoDigit_cons rfl _)
    (Text.startsNoDigit_cons rfl _) same
  obtain ⟨_, _⟩ := first
  obtain ⟨_, _⟩ := second
  rw [mk.injEq]
  exact ⟨date, TimeOfDay.text_injective (List.cons.inj time).2⟩

end MarineFix
