import MarineFix.Proofs.Json.Injective
/-!
The grammar of standard JSON for a flat object has no names for infinities.
-/

namespace MarineFix.Json

/-- Real numbers are finite, and all other scalars are what they are. -/
def Scalar.IsFinite : Scalar → Prop
  | .real value => value.isFinite = true
  | _ => True

namespace Standard

/-- The digits behind the point of a number. -/
inductive IsFraction : Text → Prop where
  | missing : IsFraction []
  | digits {digits : Text} (all : Text.IsDigits digits) (present : digits ≠ []) :
      IsFraction ('.' :: digits)

/-- The digits of a power may have a sign of either kind. -/
inductive IsPower : Text → Prop where
  | missing : IsPower []
  | digits {mark : Char} {sign digits : Text} (isMark : mark ∈ ['e', 'E'])
      (isSign : sign ∈ [[], ['+'], ['-']]) (all : Text.IsDigits digits) (present : digits ≠ []) :
      IsPower (mark :: (sign ++ digits))

/-- A number has no leading zeros and at most a minus sign. -/
inductive IsNumber : Text → Prop where
  | parts {sign whole fraction power : Text} (isSign : sign ∈ [[], ['-']])
      (isWhole : Decimal.IsWhole whole) (isFraction : IsFraction fraction) (isPower : IsPower power) :
      IsNumber (sign ++ (whole ++ (fraction ++ power)))

/-- The characters between the quotation marks of a string. -/
inductive IsContent : Text → Prop where
  | nil : IsContent []
  | plain {character : Char} {rest : Text} (printable : 0x20 ≤ character.toNat)
      (quote : character ≠ '"') (slash : character ≠ '\\') (behind : IsContent rest) :
      IsContent (character :: rest)
  | letter {letter : Char} {rest : Text} (known : letter ∈ ['"', '\\', '/', 'b', 'f', 'n', 'r', 't'])
      (behind : IsContent rest) : IsContent ('\\' :: letter :: rest)
  | unit {digits rest : Text} (four : digits.length = 4)
      (hexadecimal : ∀ digit ∈ digits, (Text.hexDigit? digit).isSome = true)
      (behind : IsContent rest) : IsContent ('\\' :: 'u' :: (digits ++ rest))

def IsString (text : Text) : Prop := ∃ content, IsContent content ∧ text = '"' :: content ++ ['"']

/-- The three words, the numbers and the strings. -/
inductive IsScalar : Text → Prop where
  | null : IsScalar "null".toList
  | yes : IsScalar "true".toList
  | no : IsScalar "false".toList
  | number {text : Text} (isNumber : IsNumber text) : IsScalar text
  | string {text : Text} (isString : IsString text) : IsScalar text

/-- A flat object with a space behind every colon and every comma. -/
def IsObject (text : Text) : Prop :=
  ∃ members : List (Text × Text), (∀ member ∈ members, IsString member.1 ∧ IsScalar member.2) ∧
    text = '\x7b' ::
      [',', ' '].intercalate (members.map fun member => member.1 ++ ':' :: ' ' :: member.2) ++
        ['\x7d']

theorem isNumber_signed {text whole fraction power : Text} (negative : Bool)
    (parts : text = whole ++ (fraction ++ power)) (isWhole : Decimal.IsWhole whole)
    (isFraction : IsFraction fraction) (isPower : IsPower power) :
    IsNumber (Binary64.signed negative text) := by
  subst parts
  cases negative with
  | true =>
      have minus : ['-'] ∈ [[], ['-']] := by decide
      exact .parts minus isWhole isFraction isPower
  | false =>
      have unsigned : [] ∈ [[], ['-']] := by decide
      exact .parts unsigned isWhole isFraction isPower

theorem isNumber_ofInt (value : Int) : IsNumber (Text.ofInt value) := by
  have written := ofInt_append value []
  rw [List.append_nil, List.append_nil] at written
  rw [written]
  exact isNumber_signed _ (List.append_nil _).symm (Decimal.isWhole_ofNat _) .missing .missing

theorem isFraction_fractionText {fraction : Text} (all : Text.IsDigits fraction) :
    IsFraction (Decimal.fractionText fraction) := by
  cases fraction with
  | nil => exact .missing
  | cons digit digits => exact .digits all (List.cons_ne_nil digit digits)

theorem isPower_powerText (power : Option Int) : IsPower (Decimal.powerText power) := by
  cases power with
  | none => exact .missing
  | some power =>
      have present : Text.padded 2 power.natAbs ≠ [] :=
        List.append_ne_nil_of_right_ne_nil _ (Text.ofNat_ne_nil _)
      have minus : ['-'] ∈ [[], ['+'], ['-']] := by decide
      have plus : ['+'] ∈ [[], ['+'], ['-']] := by decide
      rw [Decimal.powerText]
      split
      · exact .digits (by decide) minus (Text.isDigits_padded _ _) present
      · exact .digits (by decide) plus (Text.isDigits_padded _ _) present

theorem isNumber_realText {value : Binary64} (finite : value.isFinite = true) :
    IsNumber (realText value) := by
  cases value with
  | infinite => cases finite
  | finite negative units fits =>
      obtain ⟨parts, _, written⟩ := exists_realText negative fits
      have whole := written []
      rw [List.append_nil, List.append_nil] at whole
      rw [whole]
      exact isNumber_signed negative rfl parts.isWhole (isFraction_fractionText parts.isFraction)
        (isPower_powerText parts.power)

/-- The escape of a unit is content of a string. -/
theorem isContent_unitEscape {unit : Nat} (small : unit < 0x10000) {rest : Text}
    (behind : IsContent rest) : IsContent (unitEscape unit ++ rest) := by
  have isHex (digit : Nat) (single : digit < 16) :
      (Text.hexDigit? digit.digitChar).isSome = true := by
    rw [Text.hexDigit?_digitChar digit single]
    rfl
  rw [unitEscape, Text.hexadecimal_four small]
  refine .unit rfl ?_ behind
  simp only [List.mem_cons, List.not_mem_nil, or_false, forall_eq_or_imp, forall_eq]
  exact ⟨isHex _ (by omega), isHex _ (by omega), isHex _ (by omega), isHex _ (by omega)⟩

theorem isContent_escaped (character : Char) {rest : Text} (behind : IsContent rest) :
    IsContent (escaped character ++ rest) := by
  rw [escaped]
  split
  · rename_i quoted
    rcases quoted with rfl | rfl
    · exact .letter (by decide) behind
    · exact .letter (by decide) behind
  · rename_i plain
    rw [not_or] at plain
    iterate 5
      split
      · exact .letter (by decide) behind
    repeat' split
    · rename_i printable
      exact .plain printable.1 plain.1 plain.2 behind
    · rename_i narrow
      exact isContent_unitEscape narrow behind
    · have range := toNat_range character
      rw [List.append_assoc]
      exact isContent_unitEscape (by omega) (isContent_unitEscape (by omega) behind)

theorem isString_stringText (value : Text) : IsString (stringText value) := by
  refine ⟨value.flatMap escaped, ?_, rfl⟩
  induction value with
  | nil => exact .nil
  | cons character rest ih => exact isContent_escaped character ih

/-- A number has a digit at its front or behind its minus sign. -/
theorem IsNumber.exists_digit {text : Text} (isNumber : IsNumber text) :
    ∃ negative digit rest, text = Binary64.signed negative (digit :: rest) ∧
      digit.isDigit = true := by
  obtain ⟨isSign, isWhole, _, _⟩ := isNumber
  obtain ⟨digit, rest, rfl, isDigit⟩ := isWhole.exists_cons
  simp only [List.mem_cons, List.not_mem_nil, or_false] at isSign
  rcases isSign with rfl | rfl
  · exact ⟨false, digit, _, rfl, isDigit⟩
  · exact ⟨true, digit, _, rfl, isDigit⟩

theorem not_isScalar_infinite (negative : Bool) : ¬ IsScalar (realText (.infinite negative)) := by
  generalize written : realText (.infinite negative) = text
  intro isScalar
  cases isScalar with
  | null => cases negative <;> cases written
  | yes => cases negative <;> cases written
  | no => cases negative <;> cases written
  | number isNumber =>
      obtain ⟨negativeOther, digit, rest, same, isDigit⟩ := isNumber.exists_digit
      have noDigit : 'I'.isDigit = false := rfl
      exact signed_ne_of_letter isDigit noDigit (by decide) (same.symm.trans written.symm)
  | string isString =>
      obtain ⟨content, _, same⟩ := isString
      cases negative <;> cases written.trans same

/-- A scalar is written as the grammar has it exactly when it is finite. -/
theorem isScalar_text_iff (scalar : Scalar) : IsScalar scalar.text ↔ scalar.IsFinite := by
  cases scalar with
  | null => exact ⟨fun _ => trivial, fun _ => .null⟩
  | bool value =>
      cases value with
      | true => exact ⟨fun _ => trivial, fun _ => .yes⟩
      | false => exact ⟨fun _ => trivial, fun _ => .no⟩
  | integer value => exact ⟨fun _ => trivial, fun _ => .number (isNumber_ofInt value)⟩
  | string value => exact ⟨fun _ => trivial, fun _ => .string (isString_stringText value)⟩
  | real value =>
      refine ⟨fun isScalar => ?_, fun finite => .number (isNumber_realText finite)⟩
      cases value with
      | finite => rfl
      | infinite negative => exact absurd isScalar (not_isScalar_infinite negative)

/-- An object of finite scalars is written as the grammar has it. -/
theorem isObject_objectText {members : List (Text × Scalar)}
    (finite : ∀ member ∈ members, member.2.IsFinite) : IsObject (objectText members) := by
  refine ⟨members.map fun member => (stringText member.1, member.2.text), ?_, ?_⟩
  · intro written inside
    obtain ⟨member, found, rfl⟩ := List.mem_map.mp inside
    exact ⟨isString_stringText member.1, (isScalar_text_iff member.2).mpr (finite member found)⟩
  · rw [objectText, List.map_map]
    rfl

end Standard

end MarineFix.Json
