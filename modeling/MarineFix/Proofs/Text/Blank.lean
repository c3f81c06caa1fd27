import MarineFix.Text.Blank
import Mathlib.Data.List.Induction
import Mathlib.Data.List.TakeWhile
/-!
A text is its stripped part with blanks on both sides.
-/

namespace MarineFix.Text

/-- Nothing but blanks, as they stand around a sentence. -/
def IsBlanks (text : Text) : Prop := ∀ character ∈ text, isBlank character = true

instance (text : Text) : Decidable (IsBlanks text) := List.decidableBAll _ text

theorem stripLeft_append_of_blanks {blanks : Text} (all : IsBlanks blanks) (text : Text) :
    stripLeft (blanks ++ text) = stripLeft text := List.dropWhile_append_of_pos all

theorem stripRight_append_of_blanks (text : Text) {blanks : Text} (all : IsBlanks blanks) :
    stripRight (text ++ blanks) = stripRight text := by
  have reversed : ∀ character ∈ blanks.reverse, isBlank character = true := fun character found =>
    all character (List.mem_reverse.mp found)
  rw [stripRight, List.reverse_append, List.dropWhile_append_of_pos reversed, ← stripRight]

/-- Stripping on the right goes no further than to a solid character. -/
theorem stripRight_append_cons_of_not_blank (front : Text) {character : Char}
    (solid : isBlank character = false) (rest : Text) :
    stripRight (front ++ character :: rest) = front ++ character :: stripRight rest := by
  induction rest using List.reverseRecOn with
  | nil => exact stripRight_append_of_not_blank front solid
  | append_singleton rest last ih =>
      rw [← List.cons_append, ← List.append_assoc]
      cases blank : isBlank last with
      | false =>
          rw [stripRight_append_of_not_blank _ blank, stripRight_append_of_not_blank _ blank]
          simp
      | true => rw [stripRight_append_of_blank _ blank, stripRight_append_of_blank _ blank, ih]

/-- Blanks around a text are stripped, whatever the text is. -/
theorem strip_between_blanks {before behind : Text} (left : IsBlanks before)
    (right : IsBlanks behind) (text : Text) : strip (before ++ text ++ behind) = strip text := by
  rw [strip, strip, List.append_assoc, stripLeft_append_of_blanks left]
  by_cases blank : stripLeft text = []
  · have all : IsBlanks text := List.dropWhile_eq_nil_iff.mp blank
    have empty : stripLeft behind = [] := List.dropWhile_eq_nil_iff.mpr right
    rw [stripLeft_append_of_blanks all, empty, blank]
  · rw [stripLeft, List.dropWhile_append, if_neg (by simpa [stripLeft] using blank),
      stripRight_append_of_blanks _ right, ← stripLeft]

theorem exists_blanks_around (text : Text) :
    ∃ before behind, IsBlanks before ∧ IsBlanks behind ∧ text = before ++ strip text ++ behind := by
  let before := text.takeWhile isBlank
  let reversed := (stripLeft text).reverse.takeWhile isBlank
  refine ⟨before, reversed.reverse, ?_, ?_, ?_⟩
  · exact List.all_eq_true.mp List.all_takeWhile
  · intro character found
    exact List.all_eq_true.mp List.all_takeWhile character (List.mem_reverse.mp found)
  · have split : stripLeft text = strip text ++ reversed.reverse := by
      rw [strip, stripRight, ← List.reverse_append, List.takeWhile_append_dropWhile,
        List.reverse_reverse]
    calc text
        = before ++ stripLeft text := List.takeWhile_append_dropWhile.symm
      _ = before ++ (strip text ++ reversed.reverse) := congrArg (before ++ ·) split
      _ = before ++ strip text ++ reversed.reverse := (List.append_assoc ..).symm

/-- A text from which nothing is stripped begins with a solid character. -/
theorem isBlank_head_of_strip_eq {text : Text} (whole : strip text = text) {character : Char}
    (first : text.head? = some character) : isBlank character = false := by
  have kept : text <+: stripLeft text := by
    have front := stripRight_prefix (stripLeft text)
    rwa [show stripRight (stripLeft text) = text from whole] at front
  have left : stripLeft text = text :=
    (List.dropWhile_suffix isBlank).eq_of_length_le kept.length_le
  exact isBlank_head_stripLeft (left ▸ first)

/-- A text from which nothing is stripped ends with a solid character. -/
theorem isBlank_getLast_of_strip_eq {text : Text} (whole : strip text = text) {character : Char}
    (last : text.getLast? = some character) : isBlank character = false := by
  rw [← whole, strip, stripRight, List.getLast?_reverse] at last
  exact isBlank_head_stripLeft last

end MarineFix.Text
