import MarineFix.Proofs.Sentence.Frame
import Mathlib.Data.List.Basic
/-!
The fields of sentences that differ in their ends or their talkers.
-/

namespace MarineFix.Sentence

theorem pick_append_of_lt {fields : List Text} {index : Nat} (inside : index < fields.length)
    (others : List Text) : pick (fields ++ others) index = pick fields index := by
  simp [pick, List.getElem?_append_left inside]

/-- Empty fields at the end read like missing ones. -/
theorem pick_append_empty (fields : List Text) (count index : Nat) :
    pick (fields ++ List.replicate count []) index = pick fields index := by
  by_cases inside : index < fields.length
  · exact pick_append_of_lt inside _
  · rw [pick_of_length_le (Nat.le_of_not_lt inside), pick, List.getD_eq_getElem?_getD,
      List.getElem?_append_right (Nat.le_of_not_lt inside), List.getElem?_replicate]
    split <;> rfl

theorem pick_set_self {fields : List Text} {index : Nat} (present : pick fields index ≠ [])
    (text : Text) : pick (fields.set index text) index = text := by
  have inside : index < fields.length := by
    by_contra outside
    exact present (pick_of_length_le (Nat.le_of_not_lt outside))
  rw [pick, List.getD_eq_getElem?_getD, List.getElem?_set_self inside, Option.getD_some]

theorem pick_set_of_ne {fields : List Text} {index other : Nat} (differ : index ≠ other)
    (text : Text) : pick (fields.set index text) other = pick fields other := by
  simp [pick, List.getElem?_set_ne differ]

theorem pick_take (fields : List Text) (count index : Nat) :
    pick (fields.take count) index = if index < count then pick fields index else [] := by
  simp only [pick, List.getD_eq_getElem?_getD, List.getElem?_take]
  split <;> rfl

/-- A character other than a comma belongs to the first field. -/
theorem splitCommas_cons_of_ne {character : Char} (plain : character ≠ ',') (rest : Text) :
    splitCommas (character :: rest) =
      (character :: (splitCommas rest).headD []) :: (splitCommas rest).tail := by
  rw [splitCommas, if_neg plain]

/-- Each comma at the end adds an empty field. -/
theorem splitCommas_append_commas (text : Text) (count : Nat) :
    splitCommas (text ++ List.replicate count ',') =
      splitCommas text ++ List.replicate count [] := by
  induction text with
  | nil =>
      induction count with
      | zero => rfl
      | succ count ih =>
          rw [List.nil_append] at ih
          rw [List.nil_append, List.replicate_succ, splitCommas_comma, ih, List.replicate_succ]
          rfl
  | cons character rest ih =>
      rw [List.cons_append]
      by_cases comma : character = ','
      · subst comma
        rw [splitCommas_comma, splitCommas_comma, ih, List.cons_append]
      · obtain ⟨first, others, split⟩ := List.exists_cons_of_ne_nil (splitCommas_ne_nil rest)
        rw [splitCommas_cons_of_ne comma, splitCommas_cons_of_ne comma, ih, split]
        rfl

theorem isBlank_comma : Text.isBlank ',' = false := by decide

theorem stripLeft_append_commas (text : Text) (count : Nat) :
    Text.stripLeft (text ++ List.replicate count ',') =
      Text.stripLeft text ++ List.replicate count ',' := by
  have kept : (List.replicate count ',').dropWhile Text.isBlank = List.replicate count ',' := by
    cases count with
    | zero => rfl
    | succ count => simp [List.replicate_succ, isBlank_comma]
  rw [Text.stripLeft, Text.stripLeft, List.dropWhile_append, kept]
  split
  · rename_i blank
    rw [List.isEmpty_iff.mp blank, List.nil_append]
  · rfl

/-- Commas behind a text that ends with a solid character stay there. -/
theorem strip_append_commas {text : Text}
    (solid : ∀ character, text.getLast? = some character → Text.isBlank character = false)
    (count : Nat) :
    Text.strip (text ++ List.replicate count ',') =
      Text.strip text ++ List.replicate count ',' := by
  rw [Text.strip_of_getLast, Text.strip_of_getLast solid, stripLeft_append_commas]
  intro character last
  rw [List.getLast?_append] at last
  cases count with
  | zero => exact solid character (by simpa using last)
  | succ count =>
      rw [List.replicate_succ', List.getLast?_concat, Option.some_or, Option.some.injEq] at last
      exact last ▸ isBlank_comma

theorem dropLeader_of_head {text : Text} (dollar : text.head? ≠ some '$')
    (bang : text.head? ≠ some '!') : dropLeader text = text := by
  unfold dropLeader
  split
  · simp at dollar
  · simp at bang
  · rfl

theorem dropLeader_append_commas (text : Text) (count : Nat) :
    dropLeader (text ++ List.replicate count ',') =
      dropLeader text ++ List.replicate count ',' := by
  cases text with
  | nil =>
      apply dropLeader_of_head
      · cases count <;> simp [List.replicate_succ]
      · cases count <;> simp [List.replicate_succ]
  | cons character rest =>
      by_cases leads : character = '$' ∨ character = '!'
      · rcases leads with rfl | rfl
        · rfl
        · rfl
      · rw [not_or] at leads
        rw [dropLeader_of_head (by simpa using leads.1) (by simpa using leads.2),
          dropLeader_of_head (by simpa using leads.1) (by simpa using leads.2)]

/-- Nothing is added to a sentence before it is cut. -/
theorem mem_of_mem_dropLeader_strip {sentence : Text} {character : Char}
    (found : character ∈ dropLeader (Text.strip sentence)) : character ∈ sentence := by
  have stripped : character ∈ Text.strip sentence := by
    unfold dropLeader at found
    split at found
    · rename_i line
      exact line ▸ List.mem_cons_of_mem _ found
    · rename_i line
      exact line ▸ List.mem_cons_of_mem _ found
    · exact found
  exact (List.dropWhile_suffix Text.isBlank).subset
    ((Text.stripRight_prefix (Text.stripLeft sentence)).subset stripped)

/-- Commas at the end of a sentence add empty fields. -/
theorem fields_append_commas {sentence : Text} (unmarked : '*' ∉ sentence)
    (solid : ∀ character, sentence.getLast? = some character → Text.isBlank character = false)
    (count : Nat) :
    fields (sentence ++ List.replicate count ',') =
      fields sentence ++ List.replicate count [] := by
  have absent : '*' ∉ dropLeader (Text.strip sentence) := fun found =>
    unmarked (mem_of_mem_dropLeader_strip found)
  have absentLater : '*' ∉ dropLeader (Text.strip sentence) ++ List.replicate count ',' := by
    simp [absent]
  rw [fields, fields, content, content, strip_append_commas solid, dropLeader_append_commas,
    takeWhile_bne_of_not_mem absent, takeWhile_bne_of_not_mem absentLater,
    splitCommas_append_commas]

/-- The line has a talker, a body and an ending. -/
def HasTalker (sentence talker body : Text) : Prop :=
  talker.length = 2 ∧ '*' ∉ body ∧
    ∃ ending, Text.strip sentence = '$' :: (talker ++ body ++ ending) ∧
      (ending = [] ∨ ∃ digits, ending = '*' :: digits)

theorem holds_of_two_le_takeWhile {test : Char → Bool} {first second : Char} {rest : Text}
    (long : 2 ≤ ((first :: second :: rest).takeWhile test).length) :
    test first = true ∧ test second = true := by
  cases one : test first <;> cases two : test second <;> simp [one, two] at long ⊢

/-- The talker starts the first field, and the body gives the others. -/
theorem fields_of_hasTalker {sentence talker body : Text} (line : HasTalker sentence talker body)
    (long : 5 ≤ (pick (fields sentence) 0).length) :
    fields sentence =
      (talker ++ (splitCommas body).headD []) :: (splitCommas body).tail := by
  obtain ⟨two, unmarked, ending, line, shape⟩ := line
  obtain ⟨first, second, rfl⟩ := List.length_eq_two.mp two
  have inner : (body ++ ending).takeWhile (· != '*') = body := by
    rcases shape with rfl | ⟨digits, rfl⟩
    · rw [List.append_nil, takeWhile_bne_of_not_mem unmarked]
    · exact takeWhile_bne_append unmarked digits
  have cut : content sentence =
      (first :: second :: (body ++ ending)).takeWhile (· != '*') := by
    rw [content, line, dropLeader]
    rfl
  rw [fields, pick_splitCommas_zero, cut, List.takeWhile_takeWhile] at long
  obtain ⟨one, other⟩ := holds_of_two_le_takeWhile (Nat.le_trans (by decide) long)
  simp only [bne_iff_ne, decide_eq_true_eq] at one other
  have whole : content sentence = first :: second :: body := by
    rw [cut, List.takeWhile_cons_of_pos (by simpa using one.2),
      List.takeWhile_cons_of_pos (by simpa using other.2), inner]
  rw [fields, whole, splitCommas_cons_of_ne one.1, splitCommas_cons_of_ne other.1]
  rfl

theorem splitCommas_of_not_mem {text : Text} (plain : ',' ∉ text) : splitCommas text = [text] := by
  induction text with
  | nil => rfl
  | cons character rest ih =>
      rw [List.mem_cons, not_or] at plain
      rw [splitCommas_cons_of_ne (Ne.symm plain.1), ih plain.2]
      rfl

theorem splitCommas_append_comma {text : Text} (plain : ',' ∉ text) (rest : Text) :
    splitCommas (text ++ ',' :: rest) = text :: splitCommas rest := by
  induction text with
  | nil => rw [List.nil_append, splitCommas_comma]
  | cons character text ih =>
      rw [List.mem_cons, not_or] at plain
      rw [List.cons_append, splitCommas_cons_of_ne (Ne.symm plain.1), ih plain.2]
      rfl

/-- Joining and cutting at commas are inverse on fields without commas. -/
theorem splitCommas_intercalate {fields : List Text} (present : fields ≠ [])
    (plain : ∀ field ∈ fields, ',' ∉ field) : splitCommas ([','].intercalate fields) = fields := by
  induction fields with
  | nil => exact absurd rfl present
  | cons first rest ih =>
      have firstPlain := plain first List.mem_cons_self
      cases rest with
      | nil => simpa using splitCommas_of_not_mem firstPlain
      | cons second rest =>
          rw [List.intercalate_cons_cons]
          simp only [List.append_assoc, List.singleton_append]
          rw [splitCommas_append_comma firstPlain,
            ih (by simp) fun field member => plain field (List.mem_cons_of_mem _ member)]

/-- The characters of a field stand in the text and are no commas. -/
theorem mem_of_mem_splitCommas {text field : Text} (member : field ∈ splitCommas text)
    {character : Char} (found : character ∈ field) : character ∈ text ∧ character ≠ ',' := by
  induction text generalizing field with
  | nil =>
      obtain rfl := List.mem_singleton.mp member
      simp at found
  | cons start rest ih =>
      by_cases comma : start = ','
      · subst comma
        rw [splitCommas_comma, List.mem_cons] at member
        rcases member with rfl | later
        · simp at found
        · exact ⟨List.mem_cons_of_mem _ (ih later found).1, (ih later found).2⟩
      · obtain ⟨first, others, split⟩ := List.exists_cons_of_ne_nil (splitCommas_ne_nil rest)
        rw [splitCommas_cons_of_ne comma, split, List.headD_cons, List.tail_cons,
          List.mem_cons] at member
        rw [split] at ih
        rcases member with rfl | later
        · rcases List.mem_cons.mp found with rfl | inFirst
          · exact ⟨List.mem_cons_self, comma⟩
          · have := ih List.mem_cons_self inFirst
            exact ⟨List.mem_cons_of_mem _ this.1, this.2⟩
        · have := ih (List.mem_cons_of_mem _ later) found
          exact ⟨List.mem_cons_of_mem _ this.1, this.2⟩

/-- The sentence with the given fields and an asterisk behind them. -/
def ofFields (fields : List Text) : Text := '$' :: ([','].intercalate fields ++ ['*'])

theorem mem_intercalate {separator : Char} {parts : List Text} {character : Char}
    (found : character ∈ [separator].intercalate parts) :
    character = separator ∨ ∃ part ∈ parts, character ∈ part := by
  induction parts with
  | nil => simp at found
  | cons first rest ih =>
      cases rest with
      | nil => exact .inr ⟨first, List.mem_cons_self, by simpa using found⟩
      | cons second rest =>
          rw [List.intercalate_cons_cons, List.mem_append, List.mem_append,
            List.mem_singleton] at found
          rcases found with (inFirst | mark) | later
          · exact .inr ⟨first, List.mem_cons_self, inFirst⟩
          · exact .inl mark
          · exact (ih later).imp_right fun ⟨part, member, inside⟩ =>
              ⟨part, List.mem_cons_of_mem _ member, inside⟩

theorem fields_ofFields {parts : List Text} (present : parts ≠ [])
    (plain : ∀ part ∈ parts, ',' ∉ part ∧ '*' ∉ part) : fields (ofFields parts) = parts := by
  have unmarked : '*' ∉ [','].intercalate parts := by
    intro found
    rcases mem_intercalate found with mark | ⟨part, member, inside⟩
    · simp at mark
    · exact (plain part member).2 inside
  have solid : Text.isBlank '*' = false := by decide
  have line : Text.strip (ofFields parts) = ofFields parts := by
    rw [ofFields, Text.strip_cons_of_not_blank (by decide), ← List.cons_append,
      Text.stripRight_append_of_not_blank _ solid]
  rw [fields, content, line, ofFields, dropLeader, takeWhile_bne_append unmarked,
    splitCommas_intercalate present fun part member => (plain part member).1]

/-- No field of a sentence holds a comma or an asterisk. -/
theorem plain_of_mem_fields {sentence part : Text} (member : part ∈ fields sentence) :
    ',' ∉ part ∧ '*' ∉ part := by
  refine ⟨fun comma => (mem_of_mem_splitCommas member comma).2 rfl, fun mark => ?_⟩
  exact not_mem_takeWhile_bne '*' _ (mem_of_mem_splitCommas member mark).1

/-- The first fields of a sentence make up another sentence. -/
theorem fields_ofFields_take (sentence : Text) {count : Nat} (positive : 0 < count) :
    fields (ofFields ((fields sentence).take count)) = (fields sentence).take count := by
  apply fields_ofFields
  · have present := splitCommas_ne_nil (content sentence)
    rw [ne_eq, List.take_eq_nil_iff]
    exact not_or.mpr ⟨Nat.ne_of_gt positive, present⟩
  · exact fun part member => plain_of_mem_fields (List.mem_of_mem_take member)

/-- One field of a sentence is replaced by another text. -/
theorem exists_fields_set (sentence : Text) (index : Nat) {text : Text}
    (plain : ',' ∉ text ∧ '*' ∉ text) :
    ∃ again, fields again = (fields sentence).set index text := by
  refine ⟨ofFields ((fields sentence).set index text), fields_ofFields ?_ ?_⟩
  · rw [ne_eq, List.set_eq_nil_iff]
    exact splitCommas_ne_nil (content sentence)
  · intro part member
    rcases List.mem_or_eq_of_mem_set member with old | rfl
    · exact plain_of_mem_fields old
    · exact plain

end MarineFix.Sentence
