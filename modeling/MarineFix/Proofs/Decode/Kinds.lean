import MarineFix.Proofs.Decode.Framing
/-!
A decoder supports the kinds of its table and lists them by their code points.
-/

namespace MarineFix

open Sentence

namespace HandlerTable

theorem mem_kinds_insert {table : HandlerTable} {kind other : Text} (handler : Handler) :
    other ∈ (table.insert kind handler).kinds ↔ other ∈ table.kinds ∨ other = kind := by
  by_cases known : kind ∈ table.kinds
  · rw [kinds_insert_of_mem known]
    constructor
    · exact .inl
    · rintro (found | rfl)
      · exact found
      · exact known
  · rw [kinds_insert_of_not_mem known, List.mem_append, List.mem_singleton]

theorem mem_kinds_foldl_insert {table : HandlerTable} {kind : Text}
    (entries : List (Text × Handler)) :
    kind ∈ (entries.foldl (fun table entry => table.insert entry.1 entry.2) table).kinds ↔
      kind ∈ table.kinds ∨ kind ∈ entries.map Prod.fst := by
  induction entries generalizing table with
  | nil => simp
  | cons entry rest ih =>
      rw [List.foldl_cons, ih, mem_kinds_insert, List.map_cons, List.mem_cons, or_assoc]

/-- A table has the kinds of the entries that it was made from. -/
theorem mem_kinds_ofList {kind : Text} (entries : List (Text × Handler)) :
    kind ∈ (ofList entries).kinds ↔ kind ∈ entries.map Prod.fst := by
  rw [ofList, mem_kinds_foldl_insert]
  simp [kinds, empty]

/-- Every kind is listed once, by code points. -/
theorem pairwise_supported (table : HandlerTable) : table.supported.Pairwise (· < ·) := by
  have sorted : table.supported.Pairwise fun first second => (!second.lex first) = true := by
    refine List.pairwise_mergeSort ?_ ?_ table.kinds
    · simp only [Bool.not_eq_true', List.lex_eq_false_iff_ge]
      exact fun _ _ _ => List.le_trans
    · simp only [Bool.or_eq_true, Bool.not_eq_true', List.lex_eq_false_iff_ge]
      exact List.le_total
  have nodup : table.supported.Nodup :=
    (List.mergeSort_perm table.kinds _).nodup_iff.mpr table.nodup
  refine (sorted.and nodup).imp ?_
  intro first second ordered
  obtain ⟨below, apart⟩ := ordered
  rw [Bool.not_eq_true', List.lex_eq_false_iff_ge, List.le_iff_lt_or_eq] at below
  exact below.resolve_right apart

theorem find?_eq_none_iff {table : HandlerTable} {kind : Text} :
    table.find? kind = none ↔ kind ∉ table.kinds := by
  rw [find?, List.lookup_eq_none_iff, kinds, List.mem_map]
  constructor
  · rintro absent ⟨entry, member, rfl⟩
    simpa using absent entry member
  · intro unknown entry member
    rw [bne_iff_ne]
    rintro rfl
    exact unknown ⟨entry, member, rfl⟩

end HandlerTable

/-- The sentence is rejected for its frame or for its message type. -/
def Failure.IsUnframed (failure : Failure) : Prop :=
  failure.category = .checksum ∨ failure.category = .malformedSentence

theorem Failure.IsUnframed.category_ne {failure : Failure} (unframed : failure.IsUnframed) :
    failure.category ≠ .unsupportedSentence := by
  rcases unframed with category | category <;> simp [category]

/-- A failure at a field is neither of the frame nor of the kind. -/
theorem Failure.category_of_field (failure : FieldFailure) :
    ¬ (Failure.field failure).IsUnframed ∧
      (Failure.field failure).category ≠ .unsupportedSentence := by
  rw [IsUnframed, category, FieldFailure.category]
  split <;> simp

/-- A failure of the frame or of the message type tells no kind. -/
theorem Failure.IsUnframed.sentenceKind?_eq {failure : Failure} (unframed : failure.IsUnframed) :
    failure.sentenceKind? = none := by
  cases failure with
  | field fault => exact absurd unframed (category_of_field fault).1
  | unsupported kind => exact absurd rfl unframed.category_ne
  | _ => rfl

namespace Decoder

/-- A faulty frame is malformed or has a wrong checksum. -/
theorem unframed_of_checkFrame {requireChecksum : Bool} {line : Text} {failure : Failure}
    (rejected : checkFrame requireChecksum line = .error failure) : failure.IsUnframed := by
  rw [checkFrame] at rejected
  split at rejected
  · cases rejected
    exact .inr rfl
  · split at rejected
    · split at rejected
      · cases rejected
      · cases rejected
        exact .inl rfl
    · split at rejected
      · cases rejected
        exact .inl rfl
      · cases rejected

/-- Exactly the framed sentences of an unknown kind are unsupported. -/
theorem decode_unsupported_iff (decoder : Decoder) (sentence : Text) :
    (∃ failure, decoder.decode sentence = .error failure ∧
        failure.category = .unsupportedSentence) ↔
      checkFrame decoder.requireChecksum (Text.strip sentence) = .ok () ∧
        5 ≤ (pick (fields sentence) 0).length ∧
        (pick (fields sentence) 0).drop 2 ∉ decoder.table.kinds := by
  rw [decode_eq]
  cases frame : checkFrame decoder.requireChecksum (Text.strip sentence) with
  | error fault =>
      refine ⟨?_, nofun⟩
      rintro ⟨_, ⟨⟩, category⟩
      exact absurd category (unframed_of_checkFrame frame).category_ne
  | ok _ =>
      rw [← HandlerTable.find?_eq_none_iff]
      dsimp only [Except.bind, HandlerTable.decodeFields]
      by_cases short : (pick (fields sentence) 0).length < 5
      · rw [if_pos short]
        refine ⟨?_, fun inOrder => absurd short (Nat.not_lt.mpr inOrder.2.1)⟩
        rintro ⟨_, ⟨⟩, category⟩
        cases category
      · rw [if_neg short]
        cases decoder.table.find? ((pick (fields sentence) 0).drop 2) with
        | none => exact ⟨fun _ => ⟨rfl, Nat.not_lt.mp short, rfl⟩, fun _ => ⟨_, rfl, rfl⟩⟩
        | some handler =>
            refine ⟨?_, nofun⟩
            rintro ⟨_, rejected, category⟩
            dsimp only at rejected
            cases outcome : handler.decodeFields
                (.ofTalker ((pick (fields sentence) 0).take 2)) (fields sentence) with
            | ok record =>
                rw [outcome] at rejected
                cases rejected
            | error fault =>
                rw [outcome] at rejected
                cases rejected
                exact absurd category (Failure.category_of_field fault).2

end Decoder

end MarineFix
