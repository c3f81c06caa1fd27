import MarineFix.Proofs.Decode.Framing
import MarineFix.Proofs.Sentence.Fields
/-!
Each handler reads the fields at fixed positions, and the talker gives the source alone.
-/

namespace MarineFix

open Sentence DataField

namespace DataField

section

variable {first second : List Text} {index : Nat}

theorem real_congr (same : pick first index = pick second index) (kind : Text) :
    real kind first index = real kind second index := optional_congr same

theorem integer_congr (same : pick first index = pick second index) (kind : Text) :
    integer kind first index = integer kind second index := optional_congr same

theorem letter_congr {α : Type} (same : pick first index = pick second index)
    (alphabet : List (Text × α)) (description kind : Text) :
    letter alphabet description kind first index =
      letter alphabet description kind second index := optional_congr same

/-- A coordinate needs its letter only behind a numeral. -/
theorem coordinate_congr (axis : Axis) (kind : Text)
    (numeral : pick first index = pick second index)
    (letter : pick first (index + 1) = pick second (index + 1) ∨ pick first index = []) :
    coordinate axis kind first index = coordinate axis kind second index := by
  rw [coordinate, coordinate, ← numeral]
  rcases letter with same | empty
  · rw [← same]
  · rw [if_pos empty, if_pos empty]

end

end DataField

theorem Rmc.decodeVariation_congr {first second : List Text}
    (magnitude : pick first 10 = pick second 10)
    (side : pick first 11 = pick second 11 ∨ pick first 10 = []) :
    decodeVariation first = decodeVariation second := by
  rcases side with same | empty
  · rw [decodeVariation, decodeVariation, real_congr magnitude, ← same]
  · have absent : real kind first 10 = .ok none := optional_of_empty empty
    rw [decodeVariation, decodeVariation, ← real_congr magnitude, absent]
    rfl

/-- The value of a computation is changed at its end. -/
theorem Handler.map_bind {α β γ : Type} (change : β → γ) (start : Except FieldFailure α)
    (next : α → Except FieldFailure β) :
    (start >>= next).map change = start >>= fun value => (next value).map change := by
  cases start <;> rfl

/-- The date and the time decide the instant and nothing else. -/
theorem Rmc.decode_retimed {source : NavigationSystem} {first second : List Text}
    (same : ∀ index ∈ [2, 3, 5, 7, 8, 10, 12], pick first index = pick second index)
    (letters : ∀ index ∈ [3, 5, 10],
      pick first (index + 1) = pick second (index + 1) ∨ pick first index = []) :
    decode source second = (decode source first).map fun fix =>
      { fix with timestamp := Timestamp.ofTexts? (pick second 9) (pick second 1) } := by
  have latitude := coordinate_congr .latitude kind (same 3 (by decide)) (letters 3 (by decide))
  have longitude := coordinate_congr .longitude kind (same 5 (by decide)) (letters 5 (by decide))
  have variation := decodeVariation_congr (same 10 (by decide)) (letters 10 (by decide))
  rw [decode, decode, letter_congr (same 2 (by decide)), latitude, longitude,
    real_congr (same 7 (by decide)), real_congr (same 8 (by decide)), variation,
    letter_congr (same 12 (by decide))]
  simp only [Handler.map_bind]
  rfl

theorem Rmc.decode_congr {source : NavigationSystem} {first second : List Text}
    (same : ∀ index ∈ [2, 3, 5, 7, 8, 10, 12], pick first index = pick second index)
    (letters : ∀ index ∈ [3, 5, 10],
      pick first (index + 1) = pick second (index + 1) ∨ pick first index = [])
    (instant : Timestamp.ofTexts? (pick first 9) (pick first 1) =
      Timestamp.ofTexts? (pick second 9) (pick second 1)) :
    decode source first = decode source second := by
  have own : decode source first = (decode source first).map fun fix =>
      { fix with timestamp := Timestamp.ofTexts? (pick first 9) (pick first 1) } :=
    decode_retimed (fun _ _ => rfl) fun _ _ => .inl rfl
  rw [instant] at own
  exact own.trans (decode_retimed same letters).symm

/-- The time decides the time of the record and nothing else. -/
theorem Gga.decode_retimed {source : NavigationSystem} {first second : List Text}
    (same : ∀ index ∈ [2, 4, 6, 7, 8, 9, 11, 13, 14], pick first index = pick second index)
    (letters : ∀ index ∈ [2, 4],
      pick first (index + 1) = pick second (index + 1) ∨ pick first index = []) :
    decode source second = (decode source first).map fun fix =>
      { fix with utcTime := TimeOfDay.ofText? (pick second 1) } := by
  have latitude := coordinate_congr .latitude kind (same 2 (by decide)) (letters 2 (by decide))
  have longitude := coordinate_congr .longitude kind (same 4 (by decide)) (letters 4 (by decide))
  rw [decode, decode, latitude, longitude, integer_congr (same 6 (by decide)),
    integer_congr (same 7 (by decide)), real_congr (same 8 (by decide)),
    real_congr (same 9 (by decide)), real_congr (same 11 (by decide)),
    real_congr (same 13 (by decide)), integer_congr (same 14 (by decide))]
  simp only [Handler.map_bind]
  rfl

theorem Gga.decode_congr {source : NavigationSystem} {first second : List Text}
    (same : ∀ index ∈ [2, 4, 6, 7, 8, 9, 11, 13, 14], pick first index = pick second index)
    (letters : ∀ index ∈ [2, 4],
      pick first (index + 1) = pick second (index + 1) ∨ pick first index = [])
    (time : TimeOfDay.ofText? (pick first 1) = TimeOfDay.ofText? (pick second 1)) :
    decode source first = decode source second := by
  have own : decode source first = (decode source first).map fun fix =>
      { fix with utcTime := TimeOfDay.ofText? (pick first 1) } :=
    decode_retimed (fun _ _ => rfl) fun _ _ => .inl rfl
  rw [time] at own
  exact own.trans (decode_retimed same letters).symm

namespace Handler

/-- The fields that a handler reads. -/
def positions : Handler → List Nat
  | .rmc => [1, 2, 3, 4, 5, 6, 7, 8, 9, 10, 11, 12]
  | .gga => [1, 2, 3, 4, 5, 6, 7, 8, 9, 11, 13, 14]
  | .vtg => [1, 3, 5, 7, 9]
  | .awaitParts => []

/-- The position of the numeral that a letter belongs to. -/
def numeral? : Handler → Nat → Option Nat
  | .rmc, 4 => some 3
  | .rmc, 6 => some 5
  | .rmc, 11 => some 10
  | .gga, 3 => some 2
  | .gga, 5 => some 4
  | _, _ => none

/-- The fields agree where the handler reads them, letters without numerals apart. -/
def Agree (handler : Handler) (first second : List Text) : Prop :=
  ∀ index ∈ handler.positions, pick first index = pick second index ∨
    ∃ numeral ∈ handler.numeral? index, pick first numeral = []

instance (handler : Handler) (first second : List Text) : Decidable (handler.Agree first second) :=
  inferInstanceAs (Decidable (∀ index ∈ handler.positions, _ ∨ ∃ numeral ∈ handler.numeral? index, _))

section

variable {handler : Handler} {first second : List Text} {index numeral : Nat}

theorem Agree.pick_eq (agree : handler.Agree first second) (read : index ∈ handler.positions)
    (own : handler.numeral? index = none) : pick first index = pick second index := by
  rcases agree index read with same | ⟨numeral, dependent, _⟩
  · exact same
  · simp [own] at dependent

theorem Agree.letter (agree : handler.Agree first second) (read : index ∈ handler.positions)
    (dependent : handler.numeral? index = some numeral) :
    pick first index = pick second index ∨ pick first numeral = [] := by
  rcases agree index read with same | ⟨other, found, empty⟩
  · exact .inl same
  · rw [dependent, Option.mem_some] at found
    exact .inr (found ▸ empty)

theorem agree_of_pick_eq (same : ∀ index ∈ handler.positions, pick first index = pick second index) :
    handler.Agree first second := fun index read => .inl (same index read)

theorem Agree.rmc_decode (agree : Handler.rmc.Agree first second) (source : NavigationSystem) :
    Rmc.decode source first = Rmc.decode source second := by
  have own : ∀ index ∈ [2, 3, 5, 7, 8, 10, 12],
      index ∈ positions .rmc ∧ numeral? .rmc index = none := by decide
  have dependent : ∀ index ∈ [3, 5, 10],
      index + 1 ∈ positions .rmc ∧ numeral? .rmc (index + 1) = some index := by decide
  have date : pick first 9 = pick second 9 := agree.pick_eq (by decide) rfl
  have time : pick first 1 = pick second 1 := agree.pick_eq (by decide) rfl
  apply Rmc.decode_congr
  · exact fun index tested => agree.pick_eq (own index tested).1 (own index tested).2
  · exact fun index tested => agree.letter (dependent index tested).1 (dependent index tested).2
  · rw [date, time]

theorem Agree.gga_decode (agree : Handler.gga.Agree first second) (source : NavigationSystem) :
    Gga.decode source first = Gga.decode source second := by
  have own : ∀ index ∈ [2, 4, 6, 7, 8, 9, 11, 13, 14],
      index ∈ positions .gga ∧ numeral? .gga index = none := by decide
  have dependent : ∀ index ∈ [2, 4],
      index + 1 ∈ positions .gga ∧ numeral? .gga (index + 1) = some index := by decide
  have time : pick first 1 = pick second 1 := agree.pick_eq (by decide) rfl
  apply Gga.decode_congr
  · exact fun index tested => agree.pick_eq (own index tested).1 (own index tested).2
  · exact fun index tested => agree.letter (dependent index tested).1 (dependent index tested).2
  · rw [time]

theorem Agree.vtg_decode (agree : Handler.vtg.Agree first second) (source : NavigationSystem) :
    Vtg.decode source first = Vtg.decode source second := by
  have same (index : Nat) (read : index ∈ positions .vtg) : pick first index = pick second index :=
    agree.pick_eq read rfl
  rw [Vtg.decode, Vtg.decode, real_congr (same 1 (by decide)), real_congr (same 3 (by decide)),
    real_congr (same 5 (by decide)), real_congr (same 7 (by decide)),
    letter_congr (same 9 (by decide))]

/-- A handler reads no other fields than those at its positions. -/
theorem Agree.decodeFields_eq (agree : handler.Agree first second) (source : NavigationSystem) :
    handler.decodeFields source first = handler.decodeFields source second := by
  cases handler with
  | rmc => rw [decodeFields, decodeFields, agree.rmc_decode source]
  | gga => rw [decodeFields, decodeFields, agree.gga_decode source]
  | vtg => rw [decodeFields, decodeFields, agree.vtg_decode source]
  | awaitParts => rfl

end

end Handler

/-- What a record tells beside its source. -/
def Record.withoutSource : Record → Record
  | .rmc fix => .rmc { fix with source := none }
  | .gga fix => .gga { fix with source := none }
  | .vtg fix => .vtg { fix with source := none }
  | .incomplete => .incomplete

namespace Handler

theorem map_mapError (change : Record → Record) (outcome : Except FieldFailure Record) :
    (outcome.mapError Failure.field).map change = (outcome.map change).mapError .field := by
  cases outcome <;> rfl

/-- The source of a record decides nothing else of it. -/
theorem decodeFields_withoutSource (handler : Handler) (first second : NavigationSystem)
    (fields : List Text) :
    (handler.decodeFields first fields).map Record.withoutSource =
      (handler.decodeFields second fields).map Record.withoutSource := by
  cases handler with
  | rmc =>
      simp only [decodeFields, Rmc.decode, map_bind]
      rfl
  | gga =>
      simp only [decodeFields, Gga.decode, map_bind]
      rfl
  | vtg =>
      simp only [decodeFields, Vtg.decode, map_bind]
      rfl
  | awaitParts => rfl

theorem zero_not_mem_positions (handler : Handler) : 0 ∉ handler.positions := by
  cases handler <;> decide

section

variable (handler : Handler) (source : NavigationSystem)

theorem decode_of_agree {first second : Text} (agree : handler.Agree (fields first) (fields second)) :
    handler.decode source first = handler.decode source second := by
  rw [decode, decode, agree.decodeFields_eq source]

theorem decode_of_pick_eq {first second : Text}
    (same : ∀ index ∈ handler.positions, pick (fields first) index = pick (fields second) index) :
    handler.decode source first = handler.decode source second :=
  handler.decode_of_agree source (agree_of_pick_eq same)

/-- Fields at the end that are missing read like empty ones. -/
theorem decode_append_commas {sentence : Text} (count : Nat) (unmarked : '*' ∉ sentence)
    (solid : ∀ character, sentence.getLast? = some character → Text.isBlank character = false) :
    handler.decode source (sentence ++ List.replicate count ',') =
      handler.decode source sentence := by
  apply decode_of_pick_eq
  intro index _
  rw [fields_append_commas unmarked solid, pick_append_empty]

theorem decode_of_set {first second : Text} {index : Nat} (unread : index ∉ handler.positions)
    (text : Text) (replaced : fields second = (fields first).set index text) :
    handler.decode source first = handler.decode source second := by
  apply decode_of_pick_eq
  intro other read
  have differ : index ≠ other := fun same => unread (same ▸ read)
  rw [replaced, pick_set_of_ne differ]

theorem decode_of_surplus {first second : Text} (surplus : List Text)
    (complete : ∀ index ∈ handler.positions, index < (fields first).length)
    (longer : fields second = fields first ++ surplus) :
    handler.decode source first = handler.decode source second := by
  apply decode_of_pick_eq
  intro index read
  rw [longer, pick_append_of_lt (complete index read)]

end

end Handler

/-- Another talker gives another source and changes nothing else. -/
theorem HandlerTable.decodeFields_talker (table : HandlerTable) {firstTalker secondTalker : Text}
    (firstTwo : firstTalker.length = 2) (secondTwo : secondTalker.length = 2) {kind : Text}
    (long : 3 ≤ kind.length) (rest : List Text) :
    (table.decodeFields ((firstTalker ++ kind) :: rest)).map Record.withoutSource =
      (table.decodeFields ((secondTalker ++ kind) :: rest)).map Record.withoutSource := by
  have kept {talker : Text} (two : talker.length = 2) : ¬ (talker ++ kind).length < 5 := by
    rw [List.length_append]
    omega
  simp only [decodeFields, pick_cons_zero, kept firstTwo, kept secondTwo, if_false,
    List.drop_left' firstTwo, List.drop_left' secondTwo]
  cases table.find? kind with
  | none => rfl
  | some handler =>
      have agree : handler.Agree ((firstTalker ++ kind) :: rest) ((secondTalker ++ kind) :: rest) := by
        apply Handler.agree_of_pick_eq
        intro index read
        cases index with
        | zero => exact absurd read handler.zero_not_mem_positions
        | succ index => rfl
      rw [Handler.map_mapError, Handler.map_mapError, agree.decodeFields_eq,
        handler.decodeFields_withoutSource]

/-- The talker decides at most the source of a record. -/
theorem Decoder.decode_talker (decoder : Decoder) {first second firstTalker secondTalker body : Text}
    (firstLine : HasTalker first firstTalker body) (secondLine : HasTalker second secondTalker body)
    (firstFrame : checkFrame decoder.requireChecksum (Text.strip first) = .ok ())
    (secondFrame : checkFrame decoder.requireChecksum (Text.strip second) = .ok ())
    (firstLong : 5 ≤ (pick (fields first) 0).length)
    (secondLong : 5 ≤ (pick (fields second) 0).length) :
    (decoder.decode first).map Record.withoutSource =
      (decoder.decode second).map Record.withoutSource := by
  have firstFields := fields_of_hasTalker firstLine firstLong
  have secondFields := fields_of_hasTalker secondLine secondLong
  have long : 3 ≤ ((splitCommas body).headD []).length := by
    rw [firstFields, pick_cons_zero, List.length_append, firstLine.1] at firstLong
    omega
  rw [decode_eq, decode_eq, firstFrame, secondFrame, firstFields, secondFields]
  exact decoder.table.decodeFields_talker firstLine.1 secondLine.1 long _

/-- A handler reads the fields at its positions and nothing else. -/
theorem Handler.decode_reads_positions (handler : Handler) (source : NavigationSystem) :
    (∀ first second : Text, handler.Agree (fields first) (fields second) →
      handler.decode source first = handler.decode source second) ∧
    (∀ (sentence : Text) (count : Nat), '*' ∉ sentence →
      (∀ character, sentence.getLast? = some character → Text.isBlank character = false) →
        handler.decode source (sentence ++ List.replicate count ',') =
          handler.decode source sentence) ∧
    (∀ (first second : Text) (index : Nat) (text : Text), index ∉ handler.positions →
      fields second = (fields first).set index text →
        handler.decode source first = handler.decode source second) ∧
    (∀ (first second : Text) (surplus : List Text),
      (∀ index ∈ handler.positions, index < (fields first).length) →
        fields second = fields first ++ surplus →
          handler.decode source first = handler.decode source second) ∧
    ∀ (decoder : Decoder) (first second firstTalker secondTalker body : Text),
      HasTalker first firstTalker body → HasTalker second secondTalker body →
        Decoder.checkFrame decoder.requireChecksum (Text.strip first) = .ok () →
        Decoder.checkFrame decoder.requireChecksum (Text.strip second) = .ok () →
          5 ≤ (pick (fields first) 0).length → 5 ≤ (pick (fields second) 0).length →
            (decoder.decode first).map Record.withoutSource =
              (decoder.decode second).map Record.withoutSource := by
  refine ⟨?_, ?_, ?_, ?_, ?_⟩
  · intro first second agree
    exact handler.decode_of_agree source agree
  · intro sentence count unmarked solid
    exact handler.decode_append_commas source count unmarked solid
  · intro first second index text unread replaced
    exact handler.decode_of_set source unread text replaced
  · intro first second surplus complete longer
    exact handler.decode_of_surplus source surplus complete longer
  · intro decoder first second firstTalker secondTalker body firstLine secondLine firstFrame
      secondFrame firstLong secondLong
    exact decoder.decode_talker firstLine secondLine firstFrame secondFrame firstLong secondLong

/-- Tracks under two talkers and without their last fields. -/
theorem Handler.decode_reads_positions_track :
    let first := "$GPVTG,54.7,T,34.4,M,5.5,N,10.2,K,A*15".toList
    let second := "$QQVTG,54.7,T,34.4,M,5.5,N,10.2,K,A*02".toList
    let short := "$GPVTG,54.7".toList
    let north := "$GPRMC,,A,,N".toList
    let south := "$GPRMC,,A,,S".toList
    (Decoder.decode {} first).map Record.withoutSource =
        (Decoder.decode {} second).map Record.withoutSource ∧
      Handler.vtg.decode .gps (short ++ List.replicate 8 ',') = Handler.vtg.decode .gps short ∧
      Handler.rmc.decode .gps north = Handler.rmc.decode .gps south := by
  intro first second short north south
  obtain ⟨_, truncated, _, _, talkers⟩ := decode_reads_positions .vtg .gps
  obtain ⟨agreeing, _⟩ := decode_reads_positions .rmc .gps
  refine ⟨?_, ?_, ?_⟩
  · have firstLine : HasTalker first ['G', 'P'] "VTG,54.7,T,34.4,M,5.5,N,10.2,K,A".toList :=
      ⟨rfl, by decide, "*15".toList, by decide, .inr ⟨_, rfl⟩⟩
    have secondLine : HasTalker second ['Q', 'Q'] "VTG,54.7,T,34.4,M,5.5,N,10.2,K,A".toList :=
      ⟨rfl, by decide, "*02".toList, by decide, .inr ⟨_, rfl⟩⟩
    exact talkers {} first second _ _ _ firstLine secondLine (by decide) (by decide) (by decide)
      (by decide)
  · have last : short.getLast? = some '7' := by decide
    refine truncated short 8 (by decide) ?_
    intro character found
    obtain rfl := Option.some.inj (last.symm.trans found)
    decide
  · exact agreeing north south (by decide)

end MarineFix
