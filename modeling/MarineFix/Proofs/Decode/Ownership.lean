import Mathlib.Data.List.Induction
import MarineFix.Decode.Session
import MarineFix.Proofs.Decode.Kinds
/-!
The table of a decoder stands at a place that nobody else knows, so no step changes it.
-/

namespace MarineFix.DecoderSession

open Sentence

/-- A decoder is made with or without checksums and with its handlers. -/
abbrev Choices := Bool × Option (List (Text × Handler))

def Step.choices? : Step → Option Choices
  | .make requireChecksum handlers => some (requireChecksum, handlers)
  | _ => none

/-- The decoder with the table that its maker hands over. -/
def built (choices : Choices) : Decoder where
  requireChecksum := choices.1
  table := (choices.2.map .ofList).getD .standard

/-- No maker holds the place of the standard table or of a decoder. -/
structure Separate (session : DecoderSession) : Prop where
  standard : session.store[0]? = some .standard
  stored : ∀ entry ∈ session.members, entry.2.place < session.store.length
  heldStored : ∀ entry ∈ session.held, 0 < entry.2 ∧ entry.2 < session.store.length
  apart : ∀ entry ∈ session.held, ∀ other ∈ session.members, other.2.place ≠ entry.2

theorem separate_start : Separate {} where
  standard := rfl
  stored := by simp
  heldStored := by simp
  apart := by simp

section

variable {session next : DecoderSession}

theorem mem_of_lookup {α : Type} {entries : List (Text × α)} {name : Text} {value : α}
    (found : entries.lookup name = some value) : (name, value) ∈ entries := by
  obtain ⟨front, back, rfl, _⟩ := List.lookup_eq_some_iff.mp found
  simp

/-- A store that grows at its end keeps its tables. -/
theorem table_of_prefix (grown : session.store <+: next.store) {place : Nat}
    (stored : place < session.store.length) : next.table place = session.table place := by
  obtain ⟨added, whole⟩ := grown
  rw [table, table, ← whole, List.getD_append _ _ _ _ stored]

/-- A decoder is the same as long as the table at its place is. -/
theorem find?_congr (members : next.members = session.members)
    (kept : ∀ entry ∈ session.members, next.table entry.2.place = session.table entry.2.place)
    (owner : Text) : next.find? owner = session.find? owner := by
  rw [find?, find?, members]
  cases found : session.members.lookup owner with
  | none => rfl
  | some member => simp [kept _ (mem_of_lookup found)]

theorem Separate.nonempty (separate : Separate session) : 0 < session.store.length :=
  List.length_pos_of_mem (List.mem_of_getElem? separate.standard)

/-- A maker hands over a table at a place that no decoder knows. -/
theorem Separate.handOver (separate : Separate session) (name : Text)
    (handlers : Option (List (Text × Handler))) :
    Separate (session.handOver name handlers).2 := by
  cases handlers with
  | none => exact separate
  | some entries =>
      have nonempty := separate.nonempty
      have longer : (session.store ++ [HandlerTable.ofList entries]).length =
          session.store.length + 1 := List.length_append
      refine ⟨?_, ?_, ?_, ?_⟩
      · rw [← separate.standard]
        exact List.getElem?_append_left nonempty
      · intro entry member
        have := separate.stored entry member
        exact longer ▸ Nat.lt_succ_of_lt this
      · intro entry member
        rcases List.mem_cons.mp member with rfl | older
        · exact ⟨nonempty, longer ▸ Nat.lt_succ_self _⟩
        · have := separate.heldStored entry older
          exact ⟨this.1, longer ▸ Nat.lt_succ_of_lt this.2⟩
      · intro entry member other decoder
        rcases List.mem_cons.mp member with rfl | older
        · exact Nat.ne_of_lt (separate.stored other decoder)
        · exact separate.apart entry older other decoder

/-- The table that is handed over comes to the end of the store. -/
theorem Separate.table_handOver (separate : Separate session) (name : Text)
    (handlers : Option (List (Text × Handler))) :
    (session.handOver name handlers).2.table (session.handOver name handlers).1 =
      (handlers.map .ofList).getD .standard := by
  cases handlers with
  | none => rw [handOver.eq_1, table, List.getD_eq_getElem?_getD, separate.standard]; rfl
  | some entries => simp [DecoderSession.handOver, table]

theorem prefix_handOver (session : DecoderSession) (name : Text)
    (handlers : Option (List (Text × Handler))) :
    session.store <+: (session.handOver name handlers).2.store := by
  cases handlers with
  | none => exact List.prefix_refl _
  | some entries => exact List.prefix_append _ _

theorem members_handOver (session : DecoderSession) (name : Text)
    (handlers : Option (List (Text × Handler))) :
    (session.handOver name handlers).2.members = session.members := by
  cases handlers <;> rfl

/-- The decoder that is made gets a place of its own. -/
theorem Separate.make (separate : Separate session) (name : Text) (requireChecksum : Bool)
    (handlers : Option (List (Text × Handler))) :
    Separate (session.make name requireChecksum handlers) := by
  have given := separate.handOver name handlers
  rw [DecoderSession.make]
  generalize session.handOver name handlers = result at given
  have longer : (result.2.store ++ [result.2.table result.1]).length =
      result.2.store.length + 1 := List.length_append
  refine ⟨?_, ?_, ?_, ?_⟩
  · rw [← given.standard]
    exact List.getElem?_append_left given.nonempty
  · intro entry member
    rcases List.mem_cons.mp member with rfl | older
    · exact longer ▸ Nat.lt_succ_self _
    · exact longer ▸ Nat.lt_succ_of_lt (given.stored entry older)
  · intro entry member
    have := given.heldStored entry member
    exact ⟨this.1, longer ▸ Nat.lt_succ_of_lt this.2⟩
  · intro entry member other decoder
    rcases List.mem_cons.mp decoder with rfl | older
    · exact Nat.ne_of_gt (given.heldStored entry member).2
    · exact given.apart entry member other older

/-- The new decoder has the table that was handed over. -/
theorem Separate.find?_make (separate : Separate session) (name : Text) (requireChecksum : Bool)
    (handlers : Option (List (Text × Handler))) (owner : Text) :
    (session.make name requireChecksum handlers).find? owner =
      if owner = name then some (built (requireChecksum, handlers)) else session.find? owner := by
  have given := separate.table_handOver name handlers
  have grown := prefix_handOver session name handlers
  have members := members_handOver session name handlers
  rw [DecoderSession.make]
  generalize session.handOver name handlers = result at given grown members
  split
  · rename_i same
    simp [find?, table, same, built, ← given]
  · rename_i other
    have unchanged : (owner == name) = false := beq_eq_false_iff_ne.mpr other
    have whole : session.store <+: result.2.store ++ [result.2.table result.1] :=
      grown.trans (List.prefix_append _ _)
    let copied : DecoderSession :=
      { result.2 with store := result.2.store ++ [result.2.table result.1] }
    have older : copied.members = session.members := members
    rw [← find?_congr older fun entry member =>
      table_of_prefix whole (separate.stored entry member)]
    simp only [find?, List.lookup_cons, unchanged]
    rfl

/-- A maker changes only the table that it holds, which is no decoder's. -/
theorem Separate.changeTable (separate : Separate session) (name kind : Text)
    (handler : Handler) :
    Separate (session.changeTable name kind handler) ∧
      ∀ owner, (session.changeTable name kind handler).find? owner = session.find? owner := by
  rw [DecoderSession.changeTable]
  cases holds : session.held.lookup name with
  | none => exact ⟨separate, fun _ => rfl⟩
  | some place =>
      have held := mem_of_lookup holds
      have positive := (separate.heldStored _ held).1
      refine ⟨⟨?_, ?_, ?_, separate.apart⟩, find?_congr rfl ?_⟩
      · rw [List.getElem?_modify, separate.standard]
        simp [Nat.ne_of_gt positive]
      · simpa using separate.stored
      · simpa using separate.heldStored
      · intro entry member
        have apart : place ≠ entry.2.place := (separate.apart _ held entry member).symm
        simp [table, List.getD_eq_getElem?_getD, apart]

/-- Every step keeps the places apart. -/
theorem Separate.update (separate : Separate session) (name : Text) (step : Step) :
    Separate (session.update name step) := by
  cases step with
  | make requireChecksum handlers => exact separate.make name requireChecksum handlers
  | changeTable kind handler => exact (separate.changeTable name kind handler).1
  | _ => exact separate

/-- A step changes the decoder of a name only if it makes it. -/
theorem Separate.find?_update (separate : Separate session) (name : Text) (step : Step)
    (owner : Text) :
    (session.update name step).find? owner =
      ((if owner = name then step.choices? else none).map built).or (session.find? owner) := by
  cases step with
  | make requireChecksum handlers =>
      rw [DecoderSession.update, separate.find?_make]
      split <;> rfl
  | changeTable kind handler =>
      rw [DecoderSession.update, (separate.changeTable name kind handler).2]
      split <;> rfl
  | _ => split <;> rfl

end

/-- The decoder of this name answers the step. -/
def own (name : Text) : Text × Step → Bool
  | (_, .changeTable ..) => false
  | (_, .assign ..) => false
  | (other, _) => other = name

/-- Any other step makes no decoder of this name. -/
theorem choices?_of_not_own {name other : Text} {step : Step}
    (foreign : own name (other, step) = false) :
    (if name = other then step.choices? else none) = none := by
  split
  · rename_i same
    cases step with
    | make requireChecksum handlers => exact absurd same.symm (of_decide_eq_false foreign)
    | _ => rfl
  · rfl

theorem eq_of_own {name other : Text} {step : Step} (owned : own name (other, step) = true) :
    other = name := by
  cases step with
  | changeTable kind handler => cases owned
  | assign kind handler => cases owned
  | _ => exact of_decide_eq_true owned

/-- Sessions with the same decoder give the same answers to its own steps. -/
theorem map_own_transcript {session alone : DecoderSession} {name : Text}
    (separate : Separate session) (separateAlone : Separate alone)
    (same : session.find? name = alone.find? name) (steps : List (Text × Step)) :
    ((steps.zip (session.transcript steps)).filter fun entry => own name entry.1).map Prod.snd =
      alone.transcript (steps.filter (own name)) := by
  induction steps generalizing session alone with
  | nil => rfl
  | cons entry rest ih =>
      obtain ⟨other, step⟩ := entry
      rw [transcript_cons, List.zip_cons_cons, List.filter_cons, List.filter_cons]
      have known := separate.find?_update other step name
      cases owned : own name (other, step) with
      | false =>
          rw [choices?_of_not_own owned, Option.map_none, Option.none_or, same] at known
          exact ih (separate.update other step) separateAlone known
      | true =>
          obtain rfl := eq_of_own owned
          have knownAlone := separateAlone.find?_update other step other
          rw [← same, ← known] at knownAlone
          have later := ih (separate.update other step) (separateAlone.update other step)
            knownAlone.symm
          simp only [if_true, List.map_cons, transcript_cons, DecoderSession.step, knownAlone]
          exact congrArg _ later

theorem after_concat (session : DecoderSession) (steps : List (Text × Step))
    (entry : Text × Step) :
    session.after (steps ++ [entry]) = (session.after steps).update entry.1 entry.2 := by
  rw [after, List.foldl_append]
  rfl

theorem separate_after (steps : List (Text × Step)) : Separate (after {} steps) := by
  induction steps using List.reverseRecOn with
  | nil => exact separate_start
  | append_singleton steps entry ih =>
      rw [after_concat]
      exact ih.update entry.1 entry.2

/-- The choices with which the newest decoder of a name was made. -/
def lastChoices? (name : Text) (steps : List (Text × Step)) : Option Choices :=
  steps.reverse.findSome? fun entry => if name = entry.1 then entry.2.choices? else none

/-- A name has the decoder that was made last, with its first table. -/
theorem find?_after (steps : List (Text × Step)) (name : Text) :
    (after {} steps).find? name = (lastChoices? name steps).map built := by
  induction steps using List.reverseRecOn with
  | nil => rfl
  | append_singleton steps entry ih =>
      rw [after_concat, (separate_after steps).find?_update, ih, lastChoices?, lastChoices?,
        List.reverse_concat, List.findSome?_cons]
      cases if name = entry.1 then entry.2.choices? else none <;> rfl

/-- The kinds that a maker asks for. -/
def givenKinds : Option (List (Text × Handler)) → List Text
  | none => [Gga.kind, Rmc.kind, Vtg.kind]
  | some entries => entries.map Prod.fst

theorem mem_supported_iff (requireChecksum : Bool) (handlers : Option (List (Text × Handler)))
    (kind : Text) :
    kind ∈ (built (requireChecksum, handlers)).table.supported ↔ kind ∈ givenKinds handlers := by
  rw [HandlerTable.mem_supported]
  cases handlers with
  | none => rfl
  | some entries => exact HandlerTable.mem_kinds_ofList entries

/-- No step but its own changes what a decoder answers. -/
theorem tables_owned (steps : List (Text × Step)) (name : Text) :
    ((steps.zip (({} : DecoderSession).transcript steps)).filter fun entry =>
        own name entry.1).map Prod.snd =
      ({} : DecoderSession).transcript (steps.filter (own name)) ∧
    let session := ({} : DecoderSession).after steps
    match lastChoices? name steps with
    | none => session.find? name = none
    | some (requireChecksum, handlers) =>
        ∃ listed, (session.step name .supported).1 = (.names listed, []) ∧
          listed.Pairwise (· < ·) ∧ (∀ kind, kind ∈ listed ↔ kind ∈ givenKinds handlers) ∧
          ∀ sentence,
            (∃ failure reports, failure.category = .unsupportedSentence ∧
                (session.step name (.decode sentence)).1 = (.decoded (.error failure), reports)) ↔
              Decoder.checkFrame requireChecksum (Text.strip sentence) = .ok () ∧
                5 ≤ (pick (fields sentence) 0).length ∧
                (pick (fields sentence) 0).drop 2 ∉ listed := by
  refine ⟨map_own_transcript separate_start separate_start rfl steps, ?_⟩
  intro session
  have found := find?_after steps name
  split
  · rename_i unmade
    rw [unmade] at found
    exact found
  · rename_i requireChecksum handlers made
    rw [made, Option.map_some] at found
    let decoder := built (requireChecksum, handlers)
    have answered (question : Step) (asks : session.update name question = session) :
        (session.step name question).1 = answer decoder question := by
      rw [step, asks, found]
      rfl
    refine ⟨decoder.table.supported, answered .supported rfl, decoder.table.pairwise_supported,
      mem_supported_iff requireChecksum handlers, ?_⟩
    intro sentence
    have unsupported := decoder.decode_unsupported_iff sentence
    rw [HandlerTable.mem_supported, answered (.decode sentence) rfl]
    refine Iff.trans ?_ unsupported
    dsimp only [answer]
    cases decoder.decode sentence with
    | ok record => exact ⟨nofun, nofun⟩
    | error fault =>
        constructor
        · rintro ⟨failure, _, category, same⟩
          cases same
          exact ⟨_, rfl, category⟩
        · rintro ⟨failure, same, category⟩
          cases same
          exact ⟨_, _, category, rfl⟩

end MarineFix.DecoderSession
