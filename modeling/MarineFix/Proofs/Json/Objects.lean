import MarineFix.Proofs.Json.Numbers
import MarineFix.Proofs.Json.Strings
/-!
A flat object that is written as JSON is read back with its members in order.
-/

namespace MarineFix.Json

/-- The reader refuses an integer with too many digits only. -/
def Scalar.Readable : Scalar → Prop
  | .integer value => (Text.ofNat value.natAbs).length ≤ Numeral.maxDigits
  | _ => True

@[simp] theorem Scalar.readable_null : null.Readable := trivial

@[simp] theorem Scalar.readable_bool (value : Bool) : (bool value).Readable := trivial

@[simp] theorem Scalar.readable_real (value : Binary64) : (real value).Readable := trivial

@[simp] theorem Scalar.readable_string (value : Text) : (string value).Readable := trivial

@[simp] theorem Scalar.readable_integer (value : Int) :
    (integer value).Readable ↔ (Text.ofNat value.natAbs).length ≤ Numeral.maxDigits := Iff.rfl

/-- The first character of a scalar that is no string. -/
def isPlainStart (character : Char) : Bool :=
  character.isDigit || ['-', 'n', 't', 'f', 'I'].contains character

/-- A value that starts in this way is neither a string nor a container. -/
theorem readValue_of_plain {first : Char} (plain : isPlainStart first = true) (fuel depth : Nat)
    (rest : Text) : readValue (fuel + 1) depth (first :: rest) = readPlain (first :: rest) := by
  rw [readValue.eq_def]
  dsimp only
  split
  · rename_i same
    rw [(List.cons.inj same).1] at plain
    cases plain
  · rename_i same
    rw [(List.cons.inj same).1] at plain
    cases plain
  · rename_i same
    rw [(List.cons.inj same).1] at plain
    cases plain
  · rfl

theorem exists_signed {whole : Text} (isWhole : Decimal.IsWhole whole) (negative : Bool)
    (rest : Text) : ∃ first others, Binary64.signed negative (whole ++ rest) = first :: others ∧
      isPlainStart first = true := by
  cases negative with
  | true => exact ⟨'-', _, rfl, rfl⟩
  | false =>
      obtain ⟨digit, others, rfl, isDigit⟩ := isWhole.exists_cons
      exact ⟨digit, _, rfl, by rw [isPlainStart, isDigit, Bool.true_or]⟩

/-- Only strings start with a quotation mark. -/
theorem Scalar.exists_text (scalar : Scalar) :
    (∃ value, scalar = .string value) ∨
      ∃ first rest, scalar.text = first :: rest ∧ isPlainStart first = true := by
  cases scalar with
  | null => exact .inr ⟨'n', _, rfl, rfl⟩
  | bool value => cases value <;> exact .inr ⟨_, _, rfl, rfl⟩
  | string value => exact .inl ⟨value, rfl⟩
  | integer value =>
      have start := exists_signed (Decimal.isWhole_ofNat value.natAbs) (decide (value < 0)) []
      rw [List.append_nil] at start
      rw [Scalar.text, Text.ofInt]
      by_cases negative : value < 0 <;> simpa [negative, Binary64.signed] using start
  | real value =>
      cases value with
      | infinite negative => cases negative <;> exact .inr ⟨_, _, rfl, rfl⟩
      | finite negative units fits =>
          obtain ⟨parts, _, written⟩ := exists_realText negative fits
          rw [Scalar.text, ← List.append_nil (realText _), written]
          exact .inr (exists_signed parts.isWhole negative _)

theorem stringText_append (value rest : Text) :
    stringText value ++ rest = '"' :: (value.flatMap escaped ++ '"' :: rest) := by
  simp [stringText]

/-- A scalar is read up to the text behind it. -/
theorem readValue_text {scalar : Scalar} (readable : scalar.Readable) (fuel depth : Nat)
    {rest : Text} (ends : EndsNumber rest) :
    readValue (fuel + 1) depth (scalar.text ++ rest) = .ok (.scalar scalar, rest) := by
  obtain ⟨value, rfl⟩ | ⟨first, others, written, plain⟩ := scalar.exists_text
  · rw [Scalar.text, stringText_append, readValue, readString_stringText]
    rfl
  · have asPlain : readValue (fuel + 1) depth (scalar.text ++ rest) =
        readPlain (scalar.text ++ rest) := by
      rw [written, List.cons_append, readValue_of_plain plain]
    rw [asPlain]
    cases scalar with
    | null => rfl
    | bool value => cases value <;> rfl
    | integer value => exact readPlain_ofInt readable ends
    | real value => exact readPlain_realText value ends
    | string value =>
        rw [(List.cons.inj written).1.symm] at plain
        cases plain

/-- No space stands before a scalar. -/
theorem skipSpace_text (scalar : Scalar) (rest : Text) :
    skipSpace (scalar.text ++ rest) = scalar.text ++ rest := by
  obtain ⟨value, rfl⟩ | ⟨first, others, written, plain⟩ := scalar.exists_text
  · rfl
  · have noSpace : isSpace first = false := by
      cases space : isSpace first with
      | false => rfl
      | true =>
          simp only [isSpace, Bool.or_eq_true, beq_iff_eq] at space
          rcases space with ((rfl | rfl) | rfl) | rfl <;> cases plain
    rw [written, List.cons_append, skipSpace, List.dropWhile_cons_of_neg (by simp [noSpace])]

/-- The texts of several members behind one another. -/
def membersText (members : List (Text × Scalar)) : Text :=
  [',', ' '].intercalate (members.map memberText)

theorem membersText_singleton (member : Text × Scalar) :
    membersText [member] = memberText member := by
  simp [membersText]

theorem membersText_cons_cons (first second : Text × Scalar) (rest : List (Text × Scalar)) :
    membersText (first :: second :: rest) =
      memberText first ++ ',' :: ' ' :: membersText (second :: rest) := by
  simp [membersText]

theorem memberText_append (member : Text × Scalar) (rest : Text) :
    memberText member ++ rest = '"' :: (member.1.flatMap escaped ++
      '"' :: ':' :: ' ' :: (member.2.text ++ rest)) := by
  rw [memberText, List.append_assoc, stringText_append]
  rfl

theorem endsNumber_cons {mark : Char} (among : mark = ',' ∨ mark = '\x7d') (rest : Text) :
    EndsNumber (mark :: rest) := by
  constructor
  · rintro _ ⟨⟩
    rcases among with rfl | rfl <;> rfl
  · rintro _ ⟨⟩
    rcases among with rfl | rfl <;> decide

/-- Members start with the quotation mark of a key. -/
theorem exists_membersText {members : List (Text × Scalar)} (present : members ≠ []) (rest : Text) :
    ∃ others, membersText members ++ rest = '"' :: others := by
  match members with
  | [member] =>
      rw [membersText_singleton, memberText_append]
      exact ⟨_, rfl⟩
  | first :: second :: others =>
      rw [membersText_cons_cons, List.append_assoc, memberText_append]
      exact ⟨_, rfl⟩

/-- A member is read, and what stands behind it decides whether another one follows. -/
theorem readMembers_memberText {member : Text × Scalar} (readable : member.2.Readable)
    (fuel depth : Nat) {rest : Text} (ends : EndsNumber rest) :
    readMembers (fuel + 2) depth (memberText member ++ rest) =
      match skipSpace rest with
      | '\x7d' :: rest => .ok ([(member.1, .scalar member.2)], rest)
      | ',' :: rest =>
          (readMembers (fuel + 1) depth (skipSpace rest)).map fun result =>
            ((member.1, .scalar member.2) :: result.1, result.2)
      | _ => .error .malformed := by
  have colon (text : Text) : skipSpace (':' :: text) = ':' :: text := rfl
  have space (text : Text) : skipSpace (' ' :: text) = skipSpace text := rfl
  rw [memberText_append, readMembers]
  simp only [readString_stringText, colon, space, skipSpace_text, readValue_text readable _ _ ends,
    bind, Except.bind]
  generalize skipSpace rest = behind
  split
  · rfl
  · rename_i others _
    cases readMembers (fuel + 1) depth (skipSpace others) <;> rfl
  · rename_i noBrace noComma
    simp only [throw, throwThe, MonadExceptOf.throw]

/-- The members of an object are read up to its closing brace. -/
theorem readMembers_membersText {members : List (Text × Scalar)} (present : members ≠ [])
    (readable : ∀ member ∈ members, member.2.Readable) {fuel : Nat} (enough : members.length < fuel)
    (depth : Nat) (rest : Text) :
    readMembers fuel depth (membersText members ++ '\x7d' :: rest) =
      .ok (members.map fun member => (member.1, .scalar member.2), rest) := by
  induction members generalizing fuel with
  | nil => exact absurd rfl present
  | cons member others ih =>
      rw [List.length_cons] at enough
      obtain ⟨fuel, rfl⟩ : ∃ less, fuel = less + 2 := ⟨fuel - 2, by omega⟩
      have here := readable member List.mem_cons_self
      cases others with
      | nil =>
          rw [membersText_singleton,
            readMembers_memberText here _ _ (endsNumber_cons (by decide) _)]
          rfl
      | cons second others =>
          have shorter : (second :: others).length < fuel + 1 := by omega
          have later := ih (List.cons_ne_nil _ _)
            (fun other inside => readable other (List.mem_cons_of_mem _ inside)) shorter
          have comma (text : Text) : skipSpace (',' :: text) = ',' :: text := rfl
          rw [membersText_cons_cons, List.append_assoc, List.cons_append, List.cons_append,
            readMembers_memberText here _ _ (endsNumber_cons (by decide) _), comma]
          obtain ⟨behind, first⟩ :=
            exists_membersText (List.cons_ne_nil second others) ('\x7d' :: rest)
          rw [first] at later ⊢
          show Except.map _ (readMembers (fuel + 1) depth ('"' :: behind)) = _
          rw [later]
          rfl

theorem length_le_membersText (members : List (Text × Scalar)) :
    members.length ≤ (membersText members).length := by
  have own (member : Text × Scalar) : 0 < (memberText member).length := by
    simp [memberText, stringText]
  induction members with
  | nil => exact Nat.zero_le _
  | cons member others ih =>
      cases others with
      | nil =>
          rw [membersText_singleton]
          exact own member
      | cons second others =>
          rw [membersText_cons_cons, List.length_append]
          simp only [List.length_cons] at ih ⊢
          omega

/-- An object is read up to the text behind its closing brace. -/
theorem readValue_object {members : List (Text × Scalar)}
    (readable : ∀ member ∈ members, member.2.Readable) {fuel : Nat} (enough : members.length < fuel)
    (depth : Nat) (rest : Text) :
    readValue (fuel + 1) (depth + 1) ('\x7b' :: (membersText members ++ '\x7d' :: rest)) =
      .ok (.object (members.map fun member => (member.1, .scalar member.2)), rest) := by
  cases members with
  | nil => rfl
  | cons member others =>
      have present := List.cons_ne_nil member others
      have read := readMembers_membersText present readable enough depth rest
      obtain ⟨behind, first⟩ := exists_membersText present ('\x7d' :: rest)
      rw [first] at read ⊢
      show Except.map _ (readMembers fuel depth ('"' :: behind)) = _
      rw [read]
      rfl

/-- A flat object is read back from its text. -/
theorem ofText_objectText {members : List (Text × Scalar)}
    (readable : ∀ member ∈ members, member.2.Readable) :
    ofText (objectText members) =
      .ok (.object (members.map fun member => (member.1, .scalar member.2))) := by
  have written : objectText members = '\x7b' :: (membersText members ++ ['\x7d']) := by
    simp [objectText, membersText]
  have leading (text : Text) : skipSpace ('\x7b' :: text) = '\x7b' :: text := rfl
  have enough : members.length < (objectText members).length := by
    have length := length_le_membersText members
    rw [written, List.length_cons, List.length_append]
    omega
  have read := readValue_object readable enough (maxDepth - 1) []
  rw [← written] at read
  rw [ofText, written, leading, ← written, show maxDepth = maxDepth - 1 + 1 from rfl, read]
  rfl

theorem Scalar.isWritable_iff (scalar : Scalar) : scalar.isWritable = true ↔ scalar.Readable := by
  cases scalar <;> simp [isWritable]

/-- The writer refuses the scalars that the reader refuses. -/
theorem objectText?_eq_some_iff {members : List (Text × Scalar)} {text : Text} :
    objectText? members = some text ↔
      (∀ member ∈ members, member.2.Readable) ∧ objectText members = text := by
  simp only [objectText?, Option.ite_none_right_eq_some, List.all_eq_true, Scalar.isWritable_iff,
    Option.some.injEq]

/-- The reader takes every text of the writer. -/
theorem ofText_of_objectText? {members : List (Text × Scalar)} {text : Text}
    (written : objectText? members = some text) :
    ofText text = .ok (.object (members.map fun member => (member.1, .scalar member.2))) := by
  obtain ⟨readable, rfl⟩ := objectText?_eq_some_iff.mp written
  exact ofText_objectText readable

end MarineFix.Json
