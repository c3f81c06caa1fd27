import MarineFix.Number.Numeral
import MarineFix.Sentence.Failure
import MarineFix.Sentence.Fields
/-!
An empty field gives no value, and any other text must be what the field expects.
-/

namespace MarineFix.DataField

open Sentence

/-- A decoded field has a value, has none because it was empty, or fails. -/
abbrev Decoded (α : Type) := Except FieldFailure (Option α)

/-- Only a text that is not empty is read. -/
def optional {α : Type} (expected : Expectation) (read : Text → Option α) (kind : Text)
    (fields : List Text) (index : Nat) : Decoded α :=
  if pick fields index = [] then .ok none
  else match read (pick fields index) with
    | some value => .ok (some value)
    | none => .error ⟨kind, index, pick fields index, expected⟩

def real (kind : Text) (fields : List Text) (index : Nat) : Decoded Binary64 :=
  optional .numeral Numeral.real? kind fields index

def integer (kind : Text) (fields : List Text) (index : Nat) : Decoded Int :=
  optional .numeral Numeral.integer? kind fields index

/-- The alphabet gives the meaning of each letter that is known. -/
def letter {α : Type} (alphabet : List (Text × α)) (description kind : Text) (fields : List Text)
    (index : Nat) : Decoded α :=
  optional (.letter description) (fun text => alphabet.lookup text) kind fields index

section

variable {α : Type} {expected : Expectation} {read : Text → Option α} {kind : Text}
  {fields : List Text} {index : Nat}

theorem optional_of_empty (empty : pick fields index = []) :
    optional expected read kind fields index = .ok none := by
  simp [optional, empty]

theorem optional_of_read {value : α} (present : pick fields index ≠ [])
    (known : read (pick fields index) = some value) :
    optional expected read kind fields index = .ok (some value) := by
  simp [optional, present, known]

theorem optional_of_not_read (present : pick fields index ≠ [])
    (unknown : read (pick fields index) = none) :
    optional expected read kind fields index =
      .error ⟨kind, index, pick fields index, expected⟩ := by
  simp [optional, present, unknown]

/-- A field has no value exactly when it is empty. -/
theorem optional_eq_none_iff :
    optional expected read kind fields index = .ok none ↔ pick fields index = [] := by
  by_cases empty : pick fields index = []
  · simp [optional, empty]
  · cases known : read (pick fields index) <;> simp [optional, empty, known]

/-- The outcome depends on the text of the field alone. -/
theorem optional_congr {others : List Text} (same : pick fields index = pick others index) :
    optional expected read kind fields index = optional expected read kind others index := by
  simp [optional, same]

end

end MarineFix.DataField
