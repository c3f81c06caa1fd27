import MarineFix.Proofs.Decode.Framing
import MarineFix.Proofs.Decode.Inversion
import MarineFix.Proofs.Record.Message
/-!
The message of a decoded record is written and can be read again.
-/

namespace MarineFix

open Sentence

namespace Numeral

/-- An integer is written with no more digits than it was read from. -/
theorem length_of_integer? {text : Text} {value : Int} (read : integer? text = some value) :
    (Text.ofNat value.natAbs).length ≤ maxDigits := by
  simp only [integer?] at read
  generalize splitSign text = split at read
  obtain ⟨negative, digits⟩ := split
  dsimp only at read
  split at read
  · rename_i valid
    obtain ⟨all, present, short⟩ := valid
    have magnitude : value.natAbs = Text.toNat digits := by
      rw [← Option.some.inj read]
      cases negative <;> simp
    rw [magnitude]
    exact Nat.le_trans (Text.length_ofNat_toNat_le all present) short
  · cases read

end Numeral

namespace DataField

variable {α : Type} {expected : Expectation} {read : Text → Option α} {kind : Text}
  {fields : List Text} {index : Nat}

/-- A value of a field is what its text is read as. -/
theorem read_of_optional {value : α}
    (decoded : optional expected read kind fields index = .ok (some value)) :
    read (pick fields index) = some value := by
  rw [optional] at decoded
  split at decoded
  · cases decoded
  · split at decoded
    · rename_i known
      cases decoded
      exact known
    · cases decoded

end DataField

/-- The integers of a decoded record are short enough to be written. -/
theorem Handler.short_of_decodeFields {handler : Handler} {source : NavigationSystem}
    {fields : List Text} {record : Record}
    (decoded : handler.decodeFields source fields = .ok record) :
    ∀ value, some value ∈ record.integers → (Text.ofNat value.natAbs).length ≤ 4300 := by
  have short {index : Nat} {value : Int}
      (found : DataField.integer Gga.kind fields index = .ok (some value)) :
      (Text.ofNat value.natAbs).length ≤ 4300 :=
    Numeral.length_of_integer? (DataField.read_of_optional found)
  cases handler with
  | gga =>
      obtain ⟨fix, found, rfl⟩ := exists_of_map_eq_ok decoded
      have decodes := Gga.decode_eq_ok_iff.mp found
      intro value held
      simp only [Record.integers, List.mem_cons, List.not_mem_nil, or_false] at held
      rcases held with quality | satellites | station
      · exact short (quality ▸ decodes.fixQuality)
      · exact short (satellites ▸ decodes.satellites)
      · exact short (station ▸ decodes.stationId)
  | rmc =>
      obtain ⟨fix, _, rfl⟩ := exists_of_map_eq_ok decoded
      exact fun _ held => absurd held List.not_mem_nil
  | vtg =>
      obtain ⟨fix, _, rfl⟩ := exists_of_map_eq_ok decoded
      exact fun _ held => absurd held List.not_mem_nil
  | awaitParts =>
      cases decoded
      exact fun _ held => absurd held List.not_mem_nil

/-- Only the handler that waits for further parts gives no record of its own. -/
theorem Handler.ne_incomplete_of_decodeFields {handler : Handler} {source : NavigationSystem}
    {fields : List Text} {record : Record} (complete : handler ≠ .awaitParts)
    (decoded : handler.decodeFields source fields = .ok record) : record ≠ .incomplete := by
  cases handler with
  | awaitParts => exact absurd rfl complete
  | rmc =>
      obtain ⟨fix, _, rfl⟩ := exists_of_map_eq_ok decoded
      exact nofun
  | gga =>
      obtain ⟨fix, _, rfl⟩ := exists_of_map_eq_ok decoded
      exact nofun
  | vtg =>
      obtain ⟨fix, _, rfl⟩ := exists_of_map_eq_ok decoded
      exact nofun

namespace Decoder

/-- A record comes from a handler of the table. -/
theorem exists_handler_of_decode {decoder : Decoder} {sentence : Text} {record : Record}
    (decoded : decoder.decode sentence = .ok record) :
    ∃ entry ∈ decoder.table.entries, ∃ source,
      entry.2.decodeFields source (fields sentence) = .ok record := by
  rw [decode_eq] at decoded
  cases frame : checkFrame decoder.requireChecksum (Text.strip sentence) with
  | error failure => rw [frame] at decoded; cases decoded
  | ok _ =>
      rw [frame] at decoded
      change decoder.table.decodeFields (fields sentence) = .ok record at decoded
      simp only [HandlerTable.decodeFields] at decoded
      split at decoded
      · cases decoded
      · split at decoded
        · cases decoded
        · rename_i handler found
          obtain ⟨front, back, entries, _⟩ := List.lookup_eq_some_iff.mp found
          generalize NavigationSystem.ofTalker ((pick (fields sentence) 0).take 2) = source
            at decoded
          refine ⟨((pick (fields sentence) 0).drop 2, handler), by simp [entries], source, ?_⟩
          cases outcome : handler.decodeFields source (fields sentence) with
          | error failure => rw [outcome] at decoded; cases decoded
          | ok result => rw [outcome] at decoded; cases decoded; rfl

/-- Every value of a decoded record can be read from its text. -/
theorem readable_members {decoder : Decoder} {sentence : Text} {record : Record}
    (decoded : decoder.decode sentence = .ok record) :
    ∀ member ∈ record.members, member.2.Readable := by
  obtain ⟨entry, _, source, found⟩ := exists_handler_of_decode decoded
  exact record.readable_members_iff.mpr (Handler.short_of_decodeFields found)

/-- A decoded record has a message. -/
theorem message?_of_decode {decoder : Decoder} {sentence : Text} {record : Record}
    (decoded : decoder.decode sentence = .ok record) : record.message? = some record.message :=
  Json.objectText?_eq_some_iff.mpr ⟨readable_members decoded, rfl⟩

/-- The message of a decoded record is read as the object of its members. -/
theorem ofText_message {decoder : Decoder} {sentence : Text} {record : Record}
    (decoded : decoder.decode sentence = .ok record) :
    Json.ofText record.message =
      .ok (.object (record.members.map fun member => (member.1, .scalar member.2))) :=
  Json.ofText_of_objectText? (message?_of_decode decoded)

/-- The standard table waits for no further parts. -/
theorem ne_incomplete_of_standard {decoder : Decoder} {sentence : Text} {record : Record}
    (standard : decoder.table = .standard) (decoded : decoder.decode sentence = .ok record) :
    record ≠ .incomplete := by
  obtain ⟨entry, inside, source, found⟩ := exists_handler_of_decode decoded
  have complete : ∀ entry ∈ HandlerTable.standard.entries, entry.2 ≠ .awaitParts := by decide
  rw [standard] at inside
  exact Handler.ne_incomplete_of_decodeFields (complete entry inside) found

end Decoder

end MarineFix
