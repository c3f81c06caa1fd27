import MarineFix.Proofs.Decode.Framing
import MarineFix.Proofs.Sentence.Fields
import MarineFix.Proofs.Text.Blank
/-!
Handlers do not look at a leading mark, at a checksum or at blanks around a sentence.
-/

namespace MarineFix

open Sentence

namespace Sentence

/-- Nothing, or an asterisk and whatever follows it. -/
def IsEnding (ending : Text) : Prop := ending = [] ∨ ∃ rest, ending = '*' :: rest

/-- Nothing, or one of the two marks that lead a sentence. -/
def IsLeader (leader : Text) : Prop := leader = [] ∨ leader = ['$'] ∨ leader = ['!']

theorem isBlank_of_mem_leader {leader : Text} (mark : IsLeader leader) {character : Char}
    (found : character ∈ leader) : Text.isBlank character = false := by
  rcases mark with rfl | rfl | rfl
  · cases found
  · obtain rfl := List.mem_singleton.mp found
    decide
  · obtain rfl := List.mem_singleton.mp found
    decide

theorem dropLeader_leader_append {leader text : Text} (mark : IsLeader leader)
    (dollar : text.head? ≠ some '$') (bang : text.head? ≠ some '!') :
    dropLeader (leader ++ text) = text := by
  rcases mark with rfl | rfl | rfl
  · exact dropLeader_of_head dollar bang
  · rfl
  · rfl

section

variable {leader body ending : Text}

/-- A body with its ending begins like the body or with an asterisk. -/
theorem head?_append_ending (tail : IsEnding ending) {character : Char}
    (first : (body ++ ending).head? = some character) :
    body.head? = some character ∨ character = '*' := by
  rw [List.head?_append, Option.or_eq_some_iff] at first
  refine first.imp_right fun ⟨_, behind⟩ => ?_
  rcases tail with rfl | ⟨rest, rfl⟩
  · cases behind
  · exact (Option.some.inj behind).symm

theorem takeWhile_append_ending (unmarked : '*' ∉ body) (tail : IsEnding ending) :
    (body ++ ending).takeWhile (· != '*') = body := by
  rcases tail with rfl | ⟨rest, rfl⟩
  · rw [List.append_nil, takeWhile_bne_of_not_mem unmarked]
  · exact takeWhile_bne_append unmarked rest

/-- Stripping may shorten the ending but takes nothing from the body. -/
theorem exists_strip_eq (mark : IsLeader leader) (solid : Text.strip body = body)
    (tail : IsEnding ending) :
    ∃ kept, IsEnding kept ∧ Text.strip (leader ++ (body ++ ending)) = leader ++ (body ++ kept) := by
  have head : ∀ character, (leader ++ (body ++ ending)).head? = some character →
      Text.isBlank character = false := by
    intro character first
    rw [List.head?_append, Option.or_eq_some_iff] at first
    rcases first with inLeader | ⟨_, behind⟩
    · exact isBlank_of_mem_leader mark (List.mem_of_head? inLeader)
    · rcases head?_append_ending tail behind with own | rfl
      · exact Text.isBlank_head_of_strip_eq solid own
      · decide
  rw [Text.strip, Text.stripLeft_of_head head]
  rcases tail with rfl | ⟨rest, rfl⟩
  · refine ⟨[], .inl rfl, Text.stripRight_of_getLast ?_⟩
    intro character last
    rw [List.append_nil, List.getLast?_append, Option.or_eq_some_iff] at last
    rcases last with own | ⟨_, before⟩
    · exact Text.isBlank_getLast_of_strip_eq solid own
    · exact isBlank_of_mem_leader mark (List.mem_of_getLast? before)
  · refine ⟨'*' :: Text.stripRight rest, .inr ⟨_, rfl⟩, ?_⟩
    rw [← List.append_assoc, Text.stripRight_append_cons_of_not_blank _ (by decide),
      List.append_assoc]

/-- The content of a sentence is its body, whatever surrounds it. -/
theorem content_decorated {before behind : Text} (left : Text.IsBlanks before)
    (right : Text.IsBlanks behind) (mark : IsLeader leader) (tail : IsEnding ending)
    (unmarked : '*' ∉ body) (solid : Text.strip body = body) (dollar : body.head? ≠ some '$')
    (bang : body.head? ≠ some '!') :
    content (before ++ leader ++ body ++ ending ++ behind) = body := by
  have line : before ++ leader ++ body ++ ending ++ behind =
      before ++ (leader ++ (body ++ ending)) ++ behind := by simp only [List.append_assoc]
  obtain ⟨kept, keptTail, stripped⟩ := exists_strip_eq mark solid tail
  have bare (character : Char) (differs : character ≠ '*') (own : body.head? ≠ some character) :
      (body ++ kept).head? ≠ some character := fun first =>
    (head?_append_ending keptTail first).elim own differs
  rw [content, line, Text.strip_between_blanks left right, stripped,
    dropLeader_leader_append mark (bare '$' (by decide) dollar) (bare '!' (by decide) bang),
    takeWhile_append_ending unmarked keptTail]

end

end Sentence

/-- A handler looks at the body of a sentence only. -/
theorem Handler.decode_decorated (handler : Handler) (source : NavigationSystem) {body : Text}
    (unmarked : '*' ∉ body) (solid : Text.strip body = body) (dollar : body.head? ≠ some '$')
    (bang : body.head? ≠ some '!') {before leader ending behind : Text}
    (left : Text.IsBlanks before) (mark : IsLeader leader) (tail : IsEnding ending)
    (right : Text.IsBlanks behind) :
    fields (before ++ leader ++ body ++ ending ++ behind) = splitCommas body ∧
      handler.decode source (before ++ leader ++ body ++ ending ++ behind) =
        handler.decode source body := by
  have decorated := content_decorated left right mark tail unmarked solid dollar bang
  have plain : content body = body := by
    have nothing : Text.IsBlanks [] := by decide
    have none := content_decorated nothing nothing (.inl rfl : IsLeader []) (.inl rfl) unmarked
      solid dollar bang
    simpa using none
  have cut : fields (before ++ leader ++ body ++ ending ++ behind) = splitCommas body := by
    rw [fields, decorated]
  refine ⟨cut, ?_⟩
  rw [decode, decode, cut, fields, plain]

/-- A status behind the other mark, with two asterisks and a comma behind it. -/
theorem Handler.decode_decorated_status :
    let body := "GPRMC,,A".toList
    let before := "\t ".toList
    let ending := "*7,*!\r".toList
    let behind := " \n".toList
    ('*' ∉ body ∧ Text.strip body = body ∧ body.head? ≠ some '$' ∧ body.head? ≠ some '!') ∧
      (Text.IsBlanks before ∧ IsLeader ['!'] ∧ IsEnding ending ∧ Text.IsBlanks behind) ∧
      Handler.rmc.decode .gps (before ++ ['!'] ++ body ++ ending ++ behind) =
        .ok (.rmc ⟨some .gps, none, some true, none, none, none, none, none, none⟩) := by
  intro body before ending behind
  have unmarked : '*' ∉ body := by decide
  have solid : Text.strip body = body := by decide
  have dollar : body.head? ≠ some '$' := by decide
  have bang : body.head? ≠ some '!' := by decide
  have left : Text.IsBlanks before := by decide
  have mark : IsLeader ['!'] := .inr (.inr rfl)
  have tail : IsEnding ending := .inr ⟨_, rfl⟩
  have right : Text.IsBlanks behind := by decide
  refine ⟨⟨unmarked, solid, dollar, bang⟩, ⟨left, mark, tail, right⟩, ?_⟩
  rw [(Handler.decode_decorated .rmc .gps unmarked solid dollar bang left mark tail right).2]
  decide

end MarineFix
