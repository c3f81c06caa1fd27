import MarineFix.Proofs.Decode.Positions
/-!
The first group of fields with a fault decides how a sentence fails.
-/

namespace MarineFix

open Sentence DataField

/-- The failure of a computation, if it fails. -/
def failure? {α : Type} : Except FieldFailure α → Option FieldFailure
  | .ok _ => none
  | .error failure => some failure

theorem failure?_eq_some_iff {α : Type} {outcome : Except FieldFailure α} {failure : FieldFailure} :
    failure? outcome = some failure ↔ outcome = .error failure := by
  cases outcome <;> simp [failure?]

theorem failure?_eq_none_iff {α : Type} {outcome : Except FieldFailure α} :
    failure? outcome = none ↔ ∃ value, outcome = .ok value := by
  cases outcome <;> simp [failure?]

theorem failure?_map {α β : Type} (change : α → β) (outcome : Except FieldFailure α) :
    failure? (outcome.map change) = failure? outcome := by
  cases outcome <;> rfl

/-- The group of the fields that one attribute is decoded from. -/
inductive Group where
  | field (index : Nat) (expected : Expectation) (known : Text → Bool)
  | angle (axis : Axis) (index : Nat)
  | variation

namespace Group

def real (index : Nat) : Group := .field index .numeral fun text => (Numeral.real? text).isSome

def integer (index : Nat) : Group := .field index .numeral fun text => (Numeral.integer? text).isSome

def letter {α : Type} (alphabet : List (Text × α)) (description : Text) (index : Nat) : Group :=
  .field index (.letter description) fun text => (alphabet.lookup text).isSome

def first : Group → Nat
  | .field index .. => index
  | .angle _ index => index
  | .variation => 10

def last : Group → Nat
  | .field index .. => index
  | .angle _ index => index + 1
  | .variation => 11

/-- The faults of a group, each at its position. -/
inductive Faulty (fields : List Text) : Group → Nat → Prop where
  | field {index : Nat} {expected : Expectation} {known : Text → Bool} :
      pick fields index ≠ [] → known (pick fields index) = false →
        Faulty fields (.field index expected known) index
  | hemisphere {axis : Axis} {index : Nat} :
      pick fields index ≠ [] → axis.hemispheres.lookup (pick fields (index + 1)) = none →
        Faulty fields (.angle axis index) (index + 1)
  | numeral {axis : Axis} {index : Nat} :
      pick fields index ≠ [] → axis.hemispheres.lookup (pick fields (index + 1)) ≠ none →
        Sexagesimal.ofText? (pick fields index) = none →
          Faulty fields (.angle axis index) index
  | magnitude :
      pick fields 10 ≠ [] → Numeral.real? (pick fields 10) = none → Faulty fields .variation 10
  | side :
      pick fields 10 ≠ [] → Numeral.real? (pick fields 10) ≠ none →
        Rmc.variationSides.lookup (pick fields 11) = none → Faulty fields .variation 11

/-- The failure that a group gives rise to. -/
def fault? (kind : Text) (fields : List Text) : Group → Option FieldFailure
  | .field index expected known =>
      if pick fields index = [] ∨ known (pick fields index) = true then none
      else some ⟨kind, index, pick fields index, expected⟩
  | .angle axis index => failure? (coordinate axis kind fields index)
  | .variation => failure? (Rmc.decodeVariation fields)

theorem first_le_last (group : Group) : group.first ≤ group.last := by
  cases group <;> simp [first, last]

section

variable {kind : Text} {fields : List Text}

theorem failure?_optional {α : Type} (expected : Expectation) (read : Text → Option α) (index : Nat) :
    failure? (optional expected read kind fields index) =
      (Group.field index expected fun text => (read text).isSome).fault? kind fields := by
  rw [DataField.optional, fault?]
  by_cases empty : pick fields index = []
  · simp [empty, failure?]
  · cases read (pick fields index) <;> simp [empty, failure?]

/-- A group whose first field is empty has no fault. -/
theorem fault?_of_empty {group : Group} (empty : pick fields group.first = []) :
    group.fault? kind fields = none := by
  cases group with
  | field index expected known => exact if_pos (.inl empty)
  | angle axis index =>
      have absent : coordinate axis kind fields index = .ok none := if_pos empty
      rw [fault?, absent]
      rfl
  | variation =>
      have absent : DataField.real Rmc.kind fields 10 = .ok none := optional_of_empty empty
      rw [fault?, Rmc.decodeVariation, absent]
      rfl

/-- A group looks at its own fields only. -/
theorem fault?_congr {others : List Text} {group : Group}
    (same : ∀ index, group.first ≤ index → index ≤ group.last →
      pick fields index = pick others index) :
    group.fault? kind fields = group.fault? kind others := by
  cases group with
  | field index expected known =>
      rw [fault?, fault?, same index (Nat.le_refl _) (Nat.le_refl _)]
  | angle axis index =>
      have numeral := same index (Nat.le_refl _) (Nat.le_succ _)
      have letter := same (index + 1) (Nat.le_succ _) (Nat.le_refl _)
      rw [fault?, fault?, coordinate_congr axis kind numeral (.inl letter)]
  | variation =>
      have magnitude := same 10 (by decide) (by decide)
      have side := same 11 (by decide) (by decide)
      rw [fault?, fault?, Rmc.decodeVariation_congr magnitude (.inl side)]

/-- The failure of a group tells the place and the text of a fault. -/
theorem faulty_of_fault? {group : Group} {failure : FieldFailure}
    (own : group = .variation → kind = Rmc.kind)
    (failed : group.fault? kind fields = some failure) :
    failure.kind = kind ∧ failure.value = pick fields failure.index ∧
      group.Faulty fields failure.index := by
  cases group with
  | field index expected known =>
      rw [fault?] at failed
      split at failed
      · cases failed
      · rename_i unknown
        cases failed
        rw [not_or, Bool.not_eq_true] at unknown
        exact ⟨rfl, rfl, .field unknown.1 unknown.2⟩
  | angle axis index =>
      rw [fault?, failure?_eq_some_iff, coordinate] at failed
      split at failed
      · cases failed
      · rename_i present
        split at failed
        · rename_i unknown
          cases failed
          exact ⟨rfl, rfl, .hemisphere present unknown⟩
        · rename_i negative known
          split at failed
          · rename_i unreadable
            cases failed
            exact ⟨rfl, rfl, .numeral present (by simp [known]) unreadable⟩
          · cases failed
  | variation =>
      obtain rfl := own rfl
      rw [fault?, failure?_eq_some_iff, Rmc.decodeVariation] at failed
      by_cases empty : pick fields 10 = []
      · have absent : DataField.real Rmc.kind fields 10 = .ok none := optional_of_empty empty
        rw [absent] at failed
        cases failed
      · cases readable : Numeral.real? (pick fields 10) with
        | none =>
            have rejected : DataField.real Rmc.kind fields 10 =
                .error ⟨Rmc.kind, 10, pick fields 10, .numeral⟩ :=
              optional_of_not_read empty readable
            rw [rejected] at failed
            cases failed
            exact ⟨rfl, rfl, .magnitude empty readable⟩
        | some magnitude =>
            have accepted : DataField.real Rmc.kind fields 10 = .ok (some magnitude) :=
              optional_of_read empty readable
            rw [accepted] at failed
            cases side : Rmc.variationSides.lookup (pick fields 11) with
            | none =>
                simp only [bind, Except.bind, side] at failed
                cases failed
                exact ⟨rfl, rfl, .side empty (by simp [readable]) side⟩
            | some west =>
                simp only [bind, Except.bind, side] at failed
                cases failed

/-- A fault lies inside its group. -/
theorem Faulty.inside {group : Group} {index : Nat} (faulty : group.Faulty fields index) :
    group.first ≤ index ∧ index ≤ group.last := by
  cases faulty <;> simp [first, last]

/-- An empty field is at fault only behind a numeral that is there. -/
theorem Faulty.of_empty {group : Group} {index : Nat} (faulty : group.Faulty fields index)
    (empty : pick fields index = []) : group.first < index := by
  cases faulty with
  | field present => exact absurd empty present
  | hemisphere => exact Nat.lt_succ_self _
  | numeral present => exact absurd empty present
  | magnitude present => exact absurd empty present
  | side => exact Nat.lt_succ_self _

end

end Group

namespace Handler

/-- The kind of the sentences that a handler decodes. -/
def kind : Handler → Text
  | .rmc => Rmc.kind
  | .gga => Gga.kind
  | .vtg => Vtg.kind
  | .awaitParts => []

/-- The groups that a handler tests, from left to right. -/
def groups : Handler → List Group
  | .rmc =>
      [.letter Rmc.statusLetters "navigation receiver status".toList 2, .angle .latitude 3,
        .angle .longitude 5, .real 7, .real 8, .variation,
        .letter FixMode.alphabet "mode indicator".toList 12]
  | .gga =>
      [.angle .latitude 2, .angle .longitude 4, .integer 6, .integer 7, .real 8, .real 9,
        .real 11, .real 13, .integer 14]
  | .vtg =>
      [.real 1, .real 3, .real 5, .real 7, .letter FixMode.alphabet "mode indicator".toList 9]
  | .awaitParts => []

theorem groups_ordered (handler : Handler) :
    handler.groups.Pairwise fun group later => group.last < later.first := by
  cases handler <;> decide

theorem first_pos {handler : Handler} {group : Group} (member : group ∈ handler.groups) :
    0 < group.first := by
  have every : ∀ group ∈ handler.groups, 0 < group.first := by
    cases handler <;> simp [groups, Group.real, Group.integer, Group.letter, Group.first]
  exact every group member

section

variable {source : NavigationSystem} {fields : List Text}

/-- A step that tests one group goes before the steps that test the others. -/
theorem failure?_bind {α β : Type} {kind : Text} {group : Group} {groups : List Group}
    {outcome : Except FieldFailure α} {next : α → Except FieldFailure β}
    (here : failure? outcome = group.fault? kind fields)
    (later : ∀ value, failure? (next value) = groups.findSome? (Group.fault? kind fields)) :
    failure? (outcome >>= next) = (group :: groups).findSome? (Group.fault? kind fields) := by
  rw [List.findSome?_cons, ← here]
  cases outcome with
  | error failure => rfl
  | ok value => exact later value

theorem rmc_failure?_decode :
    failure? (Rmc.decode source fields) =
      (groups .rmc).findSome? (Group.fault? Rmc.kind fields) := by
  refine failure?_bind (Group.failure?_optional _ _ 2) fun _ => ?_
  refine failure?_bind rfl fun _ => ?_
  refine failure?_bind rfl fun _ => ?_
  refine failure?_bind (Group.failure?_optional _ _ 7) fun _ => ?_
  refine failure?_bind (Group.failure?_optional _ _ 8) fun _ => ?_
  refine failure?_bind rfl fun _ => ?_
  refine failure?_bind (Group.failure?_optional _ _ 12) fun _ => ?_
  rfl

theorem gga_failure?_decode :
    failure? (Gga.decode source fields) =
      (groups .gga).findSome? (Group.fault? Gga.kind fields) := by
  refine failure?_bind rfl fun _ => ?_
  refine failure?_bind rfl fun _ => ?_
  refine failure?_bind (Group.failure?_optional _ _ 6) fun _ => ?_
  refine failure?_bind (Group.failure?_optional _ _ 7) fun _ => ?_
  refine failure?_bind (Group.failure?_optional _ _ 8) fun _ => ?_
  refine failure?_bind (Group.failure?_optional _ _ 9) fun _ => ?_
  refine failure?_bind (Group.failure?_optional _ _ 11) fun _ => ?_
  refine failure?_bind (Group.failure?_optional _ _ 13) fun _ => ?_
  refine failure?_bind (Group.failure?_optional _ _ 14) fun _ => ?_
  rfl

theorem vtg_failure?_decode :
    failure? (Vtg.decode source fields) =
      (groups .vtg).findSome? (Group.fault? Vtg.kind fields) := by
  refine failure?_bind (Group.failure?_optional _ _ 1) fun _ => ?_
  refine failure?_bind (Group.failure?_optional _ _ 3) fun _ => ?_
  refine failure?_bind (Group.failure?_optional _ _ 5) fun _ => ?_
  refine failure?_bind (Group.failure?_optional _ _ 7) fun _ => ?_
  refine failure?_bind (Group.failure?_optional _ _ 9) fun _ => ?_
  rfl

/-- A sentence fails as the first of its groups does that has a fault. -/
theorem failure?_decodeFields (handler : Handler) :
    failure? (handler.decodeFields source fields) =
      handler.groups.findSome? (Group.fault? handler.kind fields) := by
  cases handler with
  | rmc => rw [decodeFields, failure?_map]; exact rmc_failure?_decode
  | gga => rw [decodeFields, failure?_map]; exact gga_failure?_decode
  | vtg => rw [decodeFields, failure?_map]; exact vtg_failure?_decode
  | awaitParts => rfl

end

theorem kind_of_variation {handler : Handler} (member : Group.variation ∈ handler.groups) :
    handler.kind = Rmc.kind := by
  cases handler with
  | rmc => rfl
  | gga => simp [groups, Group.real, Group.integer] at member
  | vtg => simp [groups, Group.real, Group.letter] at member
  | awaitParts => simp [groups] at member

section

variable {handler : Handler} {source : NavigationSystem} {fields : List Text}
  {before after : List Group} {group : Group} {failure : FieldFailure}

/-- Fields that agree up to a group have the same faults there. -/
theorem fault?_of_agree {others : List Text} (split : handler.groups = before ++ group :: after)
    (same : ∀ index ≤ group.last, pick others index = pick fields index) (kind : Text) :
    group.fault? kind others = group.fault? kind fields ∧
      ∀ earlier ∈ before, earlier.fault? kind others = earlier.fault? kind fields := by
  have ordered := handler.groups_ordered
  rw [split, List.pairwise_append] at ordered
  refine ⟨Group.fault?_congr fun index _ inside => same index inside, ?_⟩
  intro earlier member
  have apart := ordered.2.2 earlier member group List.mem_cons_self
  have inner := group.first_le_last
  exact Group.fault?_congr fun index _ inside => same index (by omega)

/-- The fields before the first faulty group decode. -/
theorem exists_record_of_take (split : handler.groups = before ++ group :: after)
    (sound : ∀ earlier ∈ before, earlier.fault? handler.kind fields = none) :
    ∃ record, handler.decodeFields source (fields.take group.first) = .ok record := by
  have ordered := handler.groups_ordered
  rw [split, List.pairwise_append, List.pairwise_cons] at ordered
  rw [← failure?_eq_none_iff, failure?_decodeFields, split, List.findSome?_eq_none_iff]
  intro tested member
  rcases List.mem_append.mp member with earlier | later
  · rw [← sound tested earlier]
    have apart := ordered.2.2 tested earlier group List.mem_cons_self
    refine Group.fault?_congr fun index _ inside => ?_
    rw [pick_take, if_pos (by omega)]
  · apply Group.fault?_of_empty
    rw [pick_take, if_neg]
    rcases List.mem_cons.mp later with rfl | behind
    · exact Nat.lt_irrefl _
    · have apart := ordered.2.1.1 tested behind
      have inner := group.first_le_last
      omega

/-- What stands behind the first group with a fault decides nothing. -/
theorem decodeFields_of_agree (system : NavigationSystem) {others : List Text}
    (split : handler.groups = before ++ group :: after)
    (failed : group.fault? handler.kind fields = some failure)
    (sound : ∀ earlier ∈ before, earlier.fault? handler.kind fields = none)
    (same : ∀ index ≤ group.last, pick others index = pick fields index) :
    handler.decodeFields system others = .error failure := by
  obtain ⟨here, earlier⟩ := fault?_of_agree split same handler.kind
  rw [← failure?_eq_some_iff, failure?_decodeFields, List.findSome?_eq_some_iff]
  exact ⟨before, group, after, split, here.trans failed,
    fun tested member => (earlier tested member).trans (sound tested member)⟩

end

/-- A sentence fails at its first faulty group, and later fields do not matter. -/
theorem first_failure {handler : Handler} {source : NavigationSystem} {sentence : Text}
    {failure : FieldFailure} (failed : handler.decode source sentence = .error failure) :
    ∃ group ∈ handler.groups,
      (group.first ≤ failure.index ∧ failure.index ≤ group.last) ∧
      failure.kind = handler.kind ∧ failure.value = pick (fields sentence) failure.index ∧
      group.Faulty (fields sentence) failure.index ∧
      (failure.value = [] → group.first < failure.index) ∧
      (∃ short, fields short = (fields sentence).take group.first) ∧
      (∀ short, fields short = (fields sentence).take group.first →
        ∃ record, handler.decode source short = .ok record) ∧
      ∀ (system : NavigationSystem) (other : Text),
        (∀ index ≤ group.last, pick (fields other) index = pick (fields sentence) index) →
          handler.decode system other = .error failure := by
  rw [decode, ← failure?_eq_some_iff, failure?_decodeFields,
    List.findSome?_eq_some_iff] at failed
  obtain ⟨before, group, after, split, failed, sound⟩ := failed
  have member : group ∈ handler.groups := by
    rw [split]
    exact List.mem_append_right _ List.mem_cons_self
  have own : group = .variation → handler.kind = Rmc.kind := fun variation =>
    kind_of_variation (variation ▸ member)
  obtain ⟨kind, value, faulty⟩ := Group.faulty_of_fault? own failed
  refine ⟨group, member, faulty.inside, kind, value, faulty, ?_, ?_, ?_, ?_⟩
  · intro empty
    exact faulty.of_empty (value.symm.trans empty)
  · exact ⟨_, fields_ofFields_take sentence (first_pos member)⟩
  · intro short cut
    rw [decode, cut]
    exact exists_record_of_take split sound
  · intro system other same
    rw [decode]
    exact decodeFields_of_agree system split failed sound same

/-- An unknown hemisphere is reported before the numeral in front of it. -/
theorem first_failure_hemisphere :
    let sentence := "$GPRMC,225446,A,4x,Z,1,,bad*00".toList
    let failure : FieldFailure := ⟨Rmc.kind, 4, ['Z'], .letter "latitude hemisphere".toList⟩
    Handler.rmc.decode .gps sentence = .error failure ∧
      (∃ record, Handler.rmc.decode .gps "$GPRMC,225446,A".toList = .ok record) ∧
      Handler.rmc.decode .glonass "!GPRMC,225446,A,4x,Z".toList = .error failure := by
  intro sentence failure
  have failed : Handler.rmc.decode .gps sentence = .error failure := by decide
  obtain ⟨group, member, inside, _, _, _, _, _, cut, later⟩ := first_failure failed
  have latitude : group = .angle .latitude 3 := by
    simp only [groups, List.mem_cons, List.not_mem_nil, or_false] at member
    rcases member with rfl | rfl | rfl | rfl | rfl | rfl | rfl
    · exact absurd inside (by decide)
    · rfl
    · exact absurd inside (by decide)
    · exact absurd inside (by decide)
    · exact absurd inside (by decide)
    · exact absurd inside (by decide)
    · exact absurd inside (by decide)
  subst latitude
  exact ⟨failed, cut _ (by decide), later .glonass _ (by decide)⟩

end Handler

end MarineFix
