import MarineFix.Proofs.Decode.Message
import MarineFix.Proofs.Relay
import MarineFix.Service.Request
/-!
A delivered line and a requested one give the same record or both give none.
-/

namespace MarineFix

namespace Feed

/-- The bytes of a line of ASCII text. -/
def lineBytes (line : Text) : List UInt8 := line.map fun character => UInt8.ofNat character.toNat

theorem asciiText_lineBytes {line : Text} (ascii : ∀ character ∈ line, character.toNat < 128) :
    asciiText (lineBytes line) = line := by
  induction line with
  | nil => rfl
  | cons character rest ih =>
      have small := ascii character List.mem_cons_self
      have byte : (UInt8.ofNat character.toNat).toNat = character.toNat :=
        UInt8.toNat_ofNat_of_lt' (Nat.lt_trans small (by decide))
      have kept : UInt8.ofNat character.toNat < 128 := by
        rw [UInt8.lt_iff_toNat_lt, byte]
        exact small
      have later := ih fun other inside => ascii other (List.mem_cons_of_mem _ inside)
      simp only [asciiText, lineBytes] at later
      simp only [asciiText, lineBytes, List.map_cons]
      rw [List.filter_cons_of_pos (by simpa using kept), List.map_cons, byte, Char.ofNat_toNat,
        later]

/-- The record and the count of a delivered line. -/
theorem delivery_of_line {line : Text} (ascii : ∀ character ∈ line, character.toNat < 128) :
    let delivery : Delivery := .bytes (lineBytes line)
    match Decoder.decode {} line with
    | .ok record => delivery.record? {} = some record ∧ delivery.isRejected {} = false
    | .error _ => delivery.record? {} = none ∧
        delivery.isRejected {} = decide ((Text.strip line).head? = some '$') := by
  simp only [Delivery.record?, Delivery.isRejected, Delivery.sentence?, asciiText_lineBytes ascii]
  by_cases leader : (Text.strip line).head? = some '$'
  · rw [if_pos leader, Option.map_some, Decoder.decode_strip]
    cases decoded : Decoder.decode {} line with
    | error failure => simp [leader]
    | ok record =>
        have complete := Decoder.ne_incomplete_of_standard rfl decoded
        cases record <;> first | exact absurd rfl complete | exact ⟨rfl, rfl⟩
  · obtain ⟨failure, rejected⟩ := Decoder.decode_of_no_leader {} leader
    rw [rejected]
    simp [leader]

end Feed

namespace Service

/-- A body that carries a sentence. -/
def Carries (body sentence : Text) : Prop :=
  ∃ json, (bodyText body).bind Json.ofText = .ok json ∧ sentence? json = some sentence

/-- A request that asks for a sentence to be decoded. -/
def decodeRequest (body : Text) : Request := ⟨"POST".toList, "/decode".toList, body⟩

/-- The body that has the sentence as its only member. -/
def sentenceBody (sentence : Text) : Text :=
  Json.objectText [("sentence".toList, .string sentence)]

theorem carries_sentenceBody (sentence : Text) : Carries (sentenceBody sentence) sentence := by
  obtain ⟨rest, written⟩ : ∃ rest, sentenceBody sentence = '\x7b' :: '"' :: 's' :: 'e' :: rest :=
    ⟨_, rfl⟩
  have text : bodyText (sentenceBody sentence) = .ok (sentenceBody sentence) := by
    rw [written]
    rfl
  have readable : ∀ member ∈ [("sentence".toList, Json.Scalar.string sentence)],
      member.2.Readable := by
    simp
  refine ⟨.object [("sentence".toList, .scalar (.string sentence))], ?_, ?_⟩
  · rw [text]
    exact Json.ofText_objectText readable
  · rfl

/-- The answer depends on the sentence of the body only. -/
theorem respond_of_carries (decoder : Decoder) {body sentence : Text}
    (carries : Carries body sentence) :
    respond decoder (decodeRequest body) = match decoder.decode sentence with
      | .ok record => .record record
      | .error failure => .rejected failure := by
  obtain ⟨json, read, found⟩ := carries
  show decodeBody decoder body = _
  cases outcome : decoder.decode sentence with
  | ok record => simp only [decodeBody, read, found, outcome]
  | error failure => simp only [decodeBody, read, found, outcome]

/-- A line is published exactly when the request for it succeeds. -/
theorem delivery_agrees (line : Text) (ascii : ∀ character ∈ line, character.toNat < 128)
    (capacities : List Int) (key : Fin capacities.length) :
    let item : Feed.ScriptItem := ⟨false, .bytes (Feed.lineBytes line)⟩
    let relayed := Relay.run { script := [item] } (Hub.ofCapacities capacities)
    let published := relayed.2.2.1.held key
    let skipped := relayed.2.1.skipped
    Carries (sentenceBody line) line ∧
      ∀ body, Carries body line →
        let reply := respond {} (decodeRequest body)
        (published ≠ [] ↔ reply.status = 200) ∧
          (reply.status = 200 → skipped = 0 ∧ ∃ text json, published = [text] ∧
            reply.body? = some json ∧ Json.ofText text = .ok json) ∧
          (reply.status ≠ 200 → published = [] ∧ ∃ failure, reply = .rejected failure ∧
            skipped = if (Text.strip line).head? = some '$' then 1 else 0) := by
  intro item
  have alone : Feed.heard [item] = [item] := by
    rw [Feed.heard]
    split <;> rfl
  obtain ⟨effects, relayed, _⟩ := Relay.run_of_calm { script := [item] } rfl rfl
    (by simp [item]) rfl (Hub.ofCapacities capacities)
  have place : capacities[key.val]? = some capacities[key] := List.getElem?_eq_getElem key.isLt
  have outcome := Feed.delivery_of_line ascii
  rw [relayed]
  dsimp only
  rw [Hub.held_broadcast_ofCapacities place, Feed.offered, alone]
  refine ⟨carries_sentenceBody line, fun body carries => ?_⟩
  rw [respond_of_carries {} carries]
  cases decoded : Decoder.decode {} line with
  | ok record =>
      rw [decoded] at outcome
      obtain ⟨given, counted⟩ := outcome
      have records : [item].filterMap (fun item => item.delivery.record? {}) = [record] := by
        simp [item, given]
      have none : [item].countP (fun item => item.delivery.isRejected {}) = 0 := by
        simp [item, counted]
      rw [records, List.map_singleton, Mailbox.newest_singleton, none]
      exact ⟨⟨fun _ => rfl, fun _ => List.cons_ne_nil _ _⟩,
        fun _ => ⟨rfl, _, _, rfl, rfl, Decoder.ofText_message decoded⟩,
        fun failed => absurd rfl failed⟩
  | error failure =>
      rw [decoded] at outcome
      obtain ⟨nothing, counted⟩ := outcome
      have records : [item].filterMap (fun item => item.delivery.record? {}) = [] := by
        simp [item, nothing]
      have count : [item].countP (fun item => item.delivery.isRejected {}) =
          if (Text.strip line).head? = some '$' then 1 else 0 := by
        by_cases leader : (Text.strip line).head? = some '$' <;> simp [item, counted, leader]
      have refused : (Reply.rejected failure).status ≠ 200 := by
        show 422 ≠ 200
        decide
      rw [records, List.map_nil, Mailbox.newest_nil, count]
      exact ⟨⟨fun some => absurd rfl some, fun accepted => absurd accepted refused⟩,
        fun accepted => absurd accepted refused, fun _ => ⟨rfl, failure, rfl, rfl⟩⟩

/-- A track sentence is published to all subscribers, as the request for it succeeds. -/
theorem delivery_agrees_track :
    let line := "$GPVTG,,,,,,,,,*7E".toList
    (∀ character ∈ line, character.toNat < 128) ∧ Carries (sentenceBody line) line ∧
      ∀ key : Fin 2, (Relay.run { script := [⟨false, .bytes (Feed.lineBytes line)⟩] }
        (Hub.ofCapacities [10, 0])).2.2.1.held key ≠ [] := by
  intro line
  have ascii : ∀ character ∈ line, character.toNat < 128 := by
    have all : line.all (fun character => decide (character.toNat < 128)) = true := by decide
    exact fun character member => of_decide_eq_true (List.all_eq_true.mp all character member)
  have decoded : Decoder.decode {} line = .ok (.vtg ⟨some .gps, none, none, none, none, none⟩) := by
    decide
  have carries := carries_sentenceBody line
  refine ⟨ascii, carries, fun key => ?_⟩
  obtain ⟨_, every⟩ := delivery_agrees line ascii [10, 0] key
  apply (every _ carries).1.mpr
  rw [respond_of_carries {} carries, decoded]
  rfl

end Service

end MarineFix
