import MarineFix.Proofs.Decode.Inversion
import MarineFix.Proofs.Decode.Positions
/-!
The date and the time of a sentence decide the time of its record and nothing else.
-/

namespace MarineFix

open Sentence

namespace Sentence

/-- The fields are the same but for those at some positions. -/
def AgreeExcept (positions : List Nat) (first second : List Text) : Prop :=
  ∀ index, index ∉ positions → pick first index = pick second index

theorem agreeExcept_set (fields : List Text) (index : Nat) (text : Text) :
    AgreeExcept [index] fields (fields.set index text) := by
  intro other apart
  have differ : index ≠ other := fun same => apart (by simp [same])
  rw [pick_set_of_ne differ]

theorem AgreeExcept.trans {positions others : List Nat} {first second third : List Text}
    (agree : AgreeExcept positions first second) (next : AgreeExcept others second third) :
    AgreeExcept (positions ++ others) first third := by
  intro index apart
  rw [List.mem_append, not_or] at apart
  exact (agree index apart.1).trans (next index apart.2)

/-- The fields that are read agree when none of them may differ. -/
theorem AgreeExcept.pick_eq {positions read : List Nat} {first second : List Text}
    (agree : AgreeExcept positions first second) (apart : ∀ index ∈ read, index ∉ positions) :
    ∀ index ∈ read, pick first index = pick second index :=
  fun index tested => agree index (apart index tested)

end Sentence

section

variable {source secondSource : NavigationSystem} {first second : List Text}

/-- Another date or time changes the instant of a record only. -/
theorem Rmc.decode_of_agreeExcept (agree : AgreeExcept [1, 9] first second) :
    decode source second = (decode source first).map fun fix =>
      { fix with timestamp := Timestamp.ofTexts? (pick second 9) (pick second 1) } := by
  have letters : ∀ index ∈ [3, 5, 10], pick first (index + 1) = pick second (index + 1) := by
    have apart : ∀ index ∈ [3, 5, 10], index + 1 ∉ [1, 9] := by decide
    exact fun index tested => agree (index + 1) (apart index tested)
  exact decode_retimed (agree.pick_eq (by decide)) fun index tested => .inl (letters index tested)

/-- Another time changes the time of day of a record only. -/
theorem Gga.decode_of_agreeExcept (agree : AgreeExcept [1] first second) :
    decode source second = (decode source first).map fun fix =>
      { fix with utcTime := TimeOfDay.ofText? (pick second 1) } := by
  have letters : ∀ index ∈ [2, 4], pick first (index + 1) = pick second (index + 1) := by
    have apart : ∀ index ∈ [2, 4], index + 1 ∉ [1] := by decide
    exact fun index tested => agree (index + 1) (apart index tested)
  exact decode_retimed (agree.pick_eq (by decide)) fun index tested => .inl (letters index tested)

theorem Rmc.timestamp_eq {fix found : Rmc} (date : pick first 9 = pick second 9)
    (time : pick first 1 = pick second 1) (decoded : decode source first = .ok fix)
    (secondDecoded : decode secondSource second = .ok found) : fix.timestamp = found.timestamp := by
  rw [(decode_eq_ok_iff.mp decoded).timestamp, (decode_eq_ok_iff.mp secondDecoded).timestamp, date,
    time]

theorem Gga.utcTime_eq {fix found : Gga} (time : pick first 1 = pick second 1)
    (decoded : decode source first = .ok fix) (secondDecoded : decode secondSource second = .ok found) :
    fix.utcTime = found.utcTime := by
  rw [(decode_eq_ok_iff.mp decoded).utcTime, (decode_eq_ok_iff.mp secondDecoded).utcTime, time]

end

/-- The date and the time of a sentence decide the time of its record alone. -/
theorem Handler.clocks_apart (source : NavigationSystem) :
    (∀ first second : List Text, AgreeExcept [1, 9] first second →
      Rmc.decode source second = (Rmc.decode source first).map fun fix =>
        { fix with timestamp := Timestamp.ofTexts? (pick second 9) (pick second 1) }) ∧
    (∀ first second : List Text, AgreeExcept [1] first second →
      Gga.decode source second = (Gga.decode source first).map fun fix =>
        { fix with utcTime := TimeOfDay.ofText? (pick second 1) }) ∧
    (∀ (secondSource : NavigationSystem) (first second : List Text) (fix found : Rmc),
      pick first 9 = pick second 9 → pick first 1 = pick second 1 →
        Rmc.decode source first = .ok fix → Rmc.decode secondSource second = .ok found →
          fix.timestamp = found.timestamp) ∧
    ∀ (secondSource : NavigationSystem) (first second : List Text) (fix found : Gga),
      pick first 1 = pick second 1 → Gga.decode source first = .ok fix →
        Gga.decode secondSource second = .ok found → fix.utcTime = found.utcTime := by
  refine ⟨?_, ?_, ?_, ?_⟩
  · exact fun _ _ agree => Rmc.decode_of_agreeExcept agree
  · exact fun _ _ agree => Gga.decode_of_agreeExcept agree
  · exact fun _ _ _ _ _ date time decoded => Rmc.timestamp_eq date time decoded
  · exact fun _ _ _ _ _ time decoded => Gga.utcTime_eq time decoded

/-- An impossible date and an impossible minute leave the status as it is. -/
theorem Handler.clocks_apart_impossible :
    let sentence := "$GPRMC,225446,A,,,,,,,280209".toList
    let faulty := "$GPRMC,225446,X,,,,,,,280209".toList
    let replace (fields : List Text) := (fields.set 1 "225461".toList).set 9 "290209".toList
    AgreeExcept [1, 9] (fields sentence) (replace (fields sentence)) ∧
      AgreeExcept [1, 9] (fields faulty) (replace (fields faulty)) ∧
      Rmc.decode .gps (replace (fields sentence)) =
        .ok ⟨some .gps, none, some true, none, none, none, none, none, none⟩ ∧
      Rmc.decode .gps (replace (fields faulty)) = Rmc.decode .gps (fields faulty) := by
  intro sentence faulty replace
  obtain ⟨retimed, _⟩ := clocks_apart .gps
  have replaced (parts : List Text) : AgreeExcept [1, 9] parts (replace parts) :=
    (agreeExcept_set parts 1 _).trans (agreeExcept_set _ 9 _)
  refine ⟨replaced _, replaced _, ?_, ?_⟩
  · rw [retimed _ _ (replaced (fields sentence))]
    decide
  · rw [retimed _ _ (replaced (fields faulty))]
    decide

end MarineFix
