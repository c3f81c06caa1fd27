import MarineFix.Text.Blank
/-!
The content of a sentence is divided into fields by commas.
-/

namespace MarineFix.Sentence

/-- The text is cut at every comma, so there is always a field. -/
def splitCommas : Text → List Text
  | [] => [[]]
  | character :: rest =>
      if character = ',' then [] :: splitCommas rest
      else (character :: (splitCommas rest).headD []) :: (splitCommas rest).tail

/-- One leading mark is not part of the content. -/
def dropLeader : Text → Text
  | '$' :: rest => rest
  | '!' :: rest => rest
  | text => text

/-- The content lies between the leading mark and the first asterisk. -/
def content (sentence : Text) : Text :=
  (dropLeader (Text.strip sentence)).takeWhile (· != '*')

def fields (sentence : Text) : List Text := splitCommas (content sentence)

/-- A position past the last field reads like an empty field. -/
def pick (fields : List Text) (index : Nat) : Text := fields.getD index []

@[simp] theorem splitCommas_nil : splitCommas [] = [[]] := rfl

@[simp] theorem splitCommas_comma (rest : Text) :
    splitCommas (',' :: rest) = [] :: splitCommas rest := by
  simp [splitCommas]

theorem splitCommas_ne_nil (text : Text) : splitCommas text ≠ [] := by
  cases text with
  | nil => simp
  | cons character rest =>
      simp only [splitCommas]
      split <;> simp

/-- Cutting and joining at commas are inverse. -/
theorem intercalate_splitCommas (text : Text) : [','].intercalate (splitCommas text) = text := by
  induction text with
  | nil => rfl
  | cons character rest ih =>
      obtain ⟨first, others, split⟩ := List.exists_cons_of_ne_nil (splitCommas_ne_nil rest)
      rw [split] at ih
      by_cases comma : character = ','
      · subst comma
        rw [splitCommas_comma, split, List.intercalate_cons_cons, ih]
        rfl
      · simp only [splitCommas, comma, if_false, split, List.headD_cons, List.tail_cons]
        cases others with
        | nil => simpa using congrArg (character :: ·) ih
        | cons second others =>
            rw [List.intercalate_cons_cons] at ih ⊢
            simp [← ih]

/-- There is one field more than there are commas. -/
theorem length_splitCommas (text : Text) : (splitCommas text).length = text.count ',' + 1 := by
  induction text with
  | nil => rfl
  | cons character rest ih =>
      obtain ⟨first, others, split⟩ := List.exists_cons_of_ne_nil (splitCommas_ne_nil rest)
      by_cases comma : character = ','
      · subst comma
        simp [ih]
      · rw [split] at ih
        simp only [splitCommas, comma, if_false, split, List.headD_cons, List.tail_cons]
        rw [List.count_cons_of_ne comma, ← ih]
        rfl

@[simp] theorem pick_nil (index : Nat) : pick [] index = [] := rfl

@[simp] theorem pick_cons_zero (first : Text) (rest : List Text) : pick (first :: rest) 0 = first :=
  rfl

@[simp] theorem pick_cons_succ (first : Text) (rest : List Text) (index : Nat) :
    pick (first :: rest) (index + 1) = pick rest index := rfl

theorem pick_of_length_le {fields : List Text} {index : Nat} (short : fields.length ≤ index) :
    pick fields index = [] := by
  simp [pick, List.getElem?_eq_none short]

end MarineFix.Sentence
