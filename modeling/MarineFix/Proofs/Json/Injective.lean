import MarineFix.Proofs.Json.Objects
/-!
The text of a flat object determines its members.
-/

namespace MarineFix.Json

open Decimal (IsWhole fractionText powerText)

section

variable {first second : Bool} {rest others : Text}

/-- A number does not start with a letter. -/
theorem signed_ne_of_letter {digit letter : Char} (isDigit : digit.isDigit = true)
    (noDigit : letter.isDigit = false) (noSign : letter ≠ '-') :
    Binary64.signed first (digit :: rest) ≠ Binary64.signed second (letter :: others) := by
  have apart : digit ≠ letter := Text.ne_of_isDigit isDigit noDigit
  have unsigned : digit ≠ '-' := Text.ne_of_isDigit isDigit rfl
  cases first <;> cases second <;> simp [Binary64.signed, apart, unsigned, noSign.symm]

/-- The text of a number determines its sign and its whole part. -/
theorem signed_append_inj {whole other : Text} (isWhole : IsWhole whole) (isOther : IsWhole other)
    (stops : Text.StartsNoDigit rest) (stopsOther : Text.StartsNoDigit others)
    (same : Binary64.signed first (whole ++ rest) = Binary64.signed second (other ++ others)) :
    first = second ∧ whole = other ∧ rest = others := by
  have signs : first = second ∧ whole ++ rest = other ++ others := by
    obtain ⟨digit, digits, rfl, isDigit⟩ := isWhole.exists_cons
    obtain ⟨digitOther, digitsOther, rfl, isDigitOther⟩ := isOther.exists_cons
    have unsigned : digit ≠ '-' := Text.ne_of_isDigit isDigit rfl
    have unsignedOther : digitOther ≠ '-' := Text.ne_of_isDigit isDigitOther rfl
    cases first with
    | true =>
        cases second with
        | true => exact ⟨rfl, (List.cons.inj same).2⟩
        | false => exact absurd (List.cons.inj same).1.symm unsignedOther
    | false =>
        cases second with
        | true => exact absurd (List.cons.inj same).1 unsigned
        | false => exact ⟨rfl, same⟩
  exact ⟨signs.1,
    Text.digits_append_inj isWhole.isDigits isOther.isDigits stops stopsOther signs.2⟩

end

/-- A fraction or a power continues a number. -/
theorem not_endsNumber_tail (parts : Decimal.Parts) (rest : Text) :
    ¬ EndsNumber (fractionText parts.fraction ++ (powerText parts.power ++ rest)) := by
  obtain ⟨whole, fraction, power, _, _, marked⟩ := parts
  rintro ⟨_, ends⟩
  cases fraction with
  | cons digit digits => exact ends '.' rfl (by decide)
  | nil =>
      cases power with
      | none => exact marked.elim (· rfl) (· rfl)
      | some power => exact ends 'e' rfl (by decide)

/-- No other scalar has the text of an integer, of however many digits. -/
theorem integer_append_inj {value : Int} {scalar : Scalar} {rest others : Text}
    (ends : EndsNumber rest) (endsOther : EndsNumber others)
    (same : Text.ofInt value ++ rest = scalar.text ++ others) :
    scalar = .integer value ∧ rest = others := by
  have isWhole := Decimal.isWhole_ofNat value.natAbs
  rw [ofInt_append] at same
  have noLetter (negative : Bool) (letter : Char) (behind : Text)
      (written : scalar.text = Binary64.signed negative (letter :: behind))
      (noDigit : letter.isDigit = false) (noSign : letter ≠ '-') : False := by
    obtain ⟨digit, digits, whole, isDigit⟩ := isWhole.exists_cons
    have split : scalar.text ++ others =
        Binary64.signed negative (letter :: (behind ++ others)) := by
      rw [written]
      cases negative <;> rfl
    rw [split, whole, List.cons_append] at same
    exact signed_ne_of_letter isDigit noDigit noSign same
  cases scalar with
  | integer other =>
      rw [Scalar.text, ofInt_append] at same
      obtain ⟨signs, digits, rfl⟩ := signed_append_inj isWhole
        (Decimal.isWhole_ofNat other.natAbs) ends.1 endsOther.1 same
      have magnitude : value.natAbs = other.natAbs := by
        rw [← Text.toNat_ofNat value.natAbs, digits, Text.toNat_ofNat]
      have sign : value < 0 ↔ other < 0 := by simpa using signs
      have equal : other = value := by omega
      exact ⟨by rw [equal], rfl⟩
  | real other =>
      cases other with
      | infinite negative =>
          exact (noLetter negative 'I' "nfinity".toList rfl rfl (by decide)).elim
      | finite negative units fits =>
          obtain ⟨parts, _, written⟩ := exists_realText negative fits
          rw [Scalar.text, written] at same
          have stops := fractionText_append parts.fraction
            (powerText_append parts.power endsOther).1
          obtain ⟨_, _, tail⟩ := signed_append_inj isWhole parts.isWhole ends.1 stops same
          rw [tail] at ends
          exact absurd ends (not_endsNumber_tail parts others)
  | null => exact (noLetter false 'n' "ull".toList rfl rfl (by decide)).elim
  | bool value =>
      cases value with
      | false => exact (noLetter false 'f' "alse".toList rfl rfl (by decide)).elim
      | true => exact (noLetter false 't' "rue".toList rfl rfl (by decide)).elim
  | string value => exact (noLetter false '"' _ rfl rfl (by decide)).elim

/-- The text of a scalar determines the scalar and where its text ends. -/
theorem Scalar.text_append_inj {scalar other : Scalar} {rest others : Text}
    (ends : EndsNumber rest) (endsOther : EndsNumber others)
    (same : scalar.text ++ rest = other.text ++ others) : scalar = other ∧ rest = others := by
  by_cases whole : ∃ value, scalar = .integer value
  · obtain ⟨value, rfl⟩ := whole
    obtain ⟨found, behind⟩ := integer_append_inj ends endsOther same
    exact ⟨found.symm, behind⟩
  by_cases wholeOther : ∃ value, other = .integer value
  · obtain ⟨value, rfl⟩ := wholeOther
    obtain ⟨found, behind⟩ := integer_append_inj endsOther ends same.symm
    exact ⟨found, behind.symm⟩
  have readable : scalar.Readable := by
    cases scalar <;> first | trivial | exact absurd ⟨_, rfl⟩ whole
  have readableOther : other.Readable := by
    cases other <;> first | trivial | exact absurd ⟨_, rfl⟩ wholeOther
  have read := readValue_text readable 0 0 ends
  have readOther := readValue_text readableOther 0 0 endsOther
  rw [same, readOther] at read
  obtain ⟨value, behind⟩ := Prod.mk.inj (Except.ok.inj read)
  exact ⟨(Json.scalar.inj value).symm, behind.symm⟩

theorem memberText_append_inj {member other : Text × Scalar} {rest others : Text}
    (ends : EndsNumber rest) (endsOther : EndsNumber others)
    (same : memberText member ++ rest = memberText other ++ others) :
    member = other ∧ rest = others := by
  rw [memberText_append, memberText_append] at same
  have keys := congrArg readString (List.cons.inj same).2
  rw [readString_stringText, readString_stringText] at keys
  obtain ⟨key, behind⟩ := Prod.mk.inj (Except.ok.inj keys)
  have values := (List.cons.inj (List.cons.inj behind).2).2
  obtain ⟨value, tail⟩ := Scalar.text_append_inj ends endsOther values
  exact ⟨Prod.ext (Option.some.inj key) value, tail⟩

/-- What follows the first of several members. -/
def behindMember (members : List (Text × Scalar)) : Text :=
  if members = [] then ['\x7d'] else ',' :: ' ' :: (membersText members ++ ['\x7d'])

theorem membersText_cons_append (member : Text × Scalar) (members : List (Text × Scalar)) :
    membersText (member :: members) ++ ['\x7d'] = memberText member ++ behindMember members := by
  cases members with
  | nil => rw [membersText_singleton, behindMember, if_pos rfl]
  | cons second others => simp [membersText_cons_cons, behindMember]

theorem endsNumber_behindMember (members : List (Text × Scalar)) :
    EndsNumber (behindMember members) := by
  rw [behindMember]
  split
  · exact endsNumber_cons (by decide) _
  · exact endsNumber_cons (by decide) _

theorem membersText_append_inj {first second : List (Text × Scalar)}
    (same : membersText first ++ ['\x7d'] = membersText second ++ ['\x7d']) : first = second := by
  induction first generalizing second with
  | nil =>
      cases second with
      | nil => rfl
      | cons member others =>
          rw [membersText_cons_append, memberText_append] at same
          cases same
  | cons member others ih =>
      cases second with
      | nil =>
          rw [membersText_cons_append, memberText_append] at same
          cases same
      | cons memberOther rest =>
          rw [membersText_cons_append, membersText_cons_append] at same
          obtain ⟨rfl, behind⟩ := memberText_append_inj (endsNumber_behindMember others)
            (endsNumber_behindMember rest) same
          cases others with
          | nil =>
              cases rest with
              | nil => rfl
              | cons => cases behind
          | cons =>
              cases rest with
              | nil => cases behind
              | cons =>
                  have later := (List.cons.inj (List.cons.inj behind).2).2
                  rw [ih later]

/-- Objects with the same text have the same members in the same order. -/
theorem objectText_injective {first second : List (Text × Scalar)}
    (same : objectText first = objectText second) : first = second :=
  membersText_append_inj (List.cons.inj same).2

theorem objectText?_injective {first second : List (Text × Scalar)} {text : Text}
    (once : objectText? first = some text) (again : objectText? second = some text) :
    first = second := by
  obtain ⟨_, found⟩ := objectText?_eq_some_iff.mp once
  obtain ⟨_, same⟩ := objectText?_eq_some_iff.mp again
  exact objectText_injective (found.trans same.symm)

end MarineFix.Json
