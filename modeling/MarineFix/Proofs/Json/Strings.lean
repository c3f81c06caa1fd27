import MarineFix.Json.Reader
import MarineFix.Proofs.Text.Digits
/-!
A string that is written as JSON is read back.
-/

namespace MarineFix.Json

/-- The units of sixteen bits that stand for a character. -/
def units (character : Char) : List Nat :=
  if character.toNat < 0x10000 then [character.toNat]
  else [0xD800 + (character.toNat - 0x10000) / 0x400, 0xDC00 + (character.toNat - 0x10000) % 0x400]

/-- No character is one half of a surrogate pair. -/
theorem toNat_range (character : Char) :
    character.toNat < 0xD800 ∨ 0xDFFF < character.toNat ∧ character.toNat < 0x110000 :=
  character.valid

theorem readPoints_unitEscape {unit : Nat} (small : unit < 0x10000) (rest : Text) :
    readPoints (unitEscape unit ++ rest) =
      (readPoints rest).map fun result => (unit :: result.1, result.2) := by
  have first := Text.hexDigit?_digitChar (unit / 0x1000) (by omega)
  have second := Text.hexDigit?_digitChar (unit / 0x100 % 16) (by omega)
  have third := Text.hexDigit?_digitChar (unit / 0x10 % 16) (by omega)
  have fourth := Text.hexDigit?_digitChar (unit % 16) (by omega)
  have whole : ((unit / 0x1000 * 16 + unit / 0x100 % 16) * 16 + unit / 0x10 % 16) * 16 +
      unit % 16 = unit := by omega
  have weight : 16 * (unit / 0x1000) = unit / 0x1000 * 16 := Nat.mul_comm ..
  rw [unitEscape, Text.hexadecimal_four small]
  simp only [List.cons_append, List.nil_append, readPoints, first, second, third, fourth, weight,
    whole]

/-- A printable character other than the quotation mark and the backslash stands for itself. -/
theorem readPoints_plain {character : Char} (quote : character ≠ '"') (slash : character ≠ '\\')
    (printable : 0x20 ≤ character.toNat) (rest : Text) :
    readPoints (character :: rest) =
      (readPoints rest).map fun result => (character.toNat :: result.1, result.2) := by
  rw [readPoints.eq_5 _ _ quote (fun _ _ _ _ _ same _ => slash same) (fun _ _ same _ => slash same),
    if_neg (Nat.not_lt.mpr printable)]

/-- The units of a character are read from its escape. -/
theorem readPoints_escaped (character : Char) (rest : Text) :
    readPoints (escaped character ++ rest) =
      (readPoints rest).map fun result => (units character ++ result.1, result.2) := by
  rw [escaped]
  split
  · rename_i quoted
    rcases quoted with rfl | rfl <;> rfl
  · rename_i plain
    rw [not_or] at plain
    iterate 5
      split
      · rename_i same
        subst same
        rfl
    repeat' split
    · rename_i printable
      have narrow : character.toNat < 0x10000 := by omega
      rw [units, if_pos narrow]
      exact readPoints_plain plain.1 plain.2 printable.1 rest
    · rename_i narrow
      rw [units, if_pos narrow]
      exact readPoints_unitEscape narrow rest
    · rename_i wide
      have range := toNat_range character
      rw [units, if_neg wide, List.append_assoc, readPoints_unitEscape (by omega),
        readPoints_unitEscape (by omega), Option.map_map]
      rfl

/-- The units of a text are read up to the quotation mark. -/
theorem readPoints_flatMap_escaped (value rest : Text) :
    readPoints (value.flatMap escaped ++ '"' :: rest) = some (value.flatMap units, rest) := by
  induction value with
  | nil => rfl
  | cons character value ih =>
      rw [List.flatMap_cons, List.append_assoc, readPoints_escaped, ih]
      rfl

/-- A unit outside the surrogates is a character of its own. -/
theorem textOfPoints?_cons {point : Nat} (high : isHighSurrogate point = false)
    (low : isLowSurrogate point = false) (points : List Nat) :
    textOfPoints? (point :: points) = (textOfPoints? points).map (Char.ofNat point :: ·) := by
  cases points with
  | nil => simp [textOfPoints?, high, low]
  | cons next points => simp [textOfPoints?, high, low]

/-- The units of a text stand for the text. -/
theorem textOfPoints?_flatMap_units (value : Text) :
    textOfPoints? (value.flatMap units) = some value := by
  induction value with
  | nil => rfl
  | cons character value ih =>
      have range := toNat_range character
      rw [List.flatMap_cons, units]
      split
      · have high : isHighSurrogate character.toNat = false := by
          simp only [isHighSurrogate, Bool.and_eq_false_iff, decide_eq_false_iff_not]
          omega
        have low : isLowSurrogate character.toNat = false := by
          simp only [isLowSurrogate, Bool.and_eq_false_iff, decide_eq_false_iff_not]
          omega
        rw [List.singleton_append, textOfPoints?_cons high low, ih, Char.ofNat_toNat]
        rfl
      · generalize first : 0xD800 + (character.toNat - 0x10000) / 0x400 = high
        generalize second : 0xDC00 + (character.toNat - 0x10000) % 0x400 = low
        have leads : isHighSurrogate high = true := by
          simp only [isHighSurrogate, Bool.and_eq_true, decide_eq_true_eq]
          omega
        have follows : isLowSurrogate low = true := by
          simp only [isLowSurrogate, Bool.and_eq_true, decide_eq_true_eq]
          omega
        have joined : 0x10000 + (high - 0xD800) * 0x400 + (low - 0xDC00) = character.toNat := by
          omega
        rw [List.cons_append, List.cons_append, List.nil_append, textOfPoints?, if_pos leads,
          if_pos follows, ih, joined, Char.ofNat_toNat]
        rfl

/-- A text is read back from its string. -/
theorem readString_stringText (value rest : Text) :
    readString (value.flatMap escaped ++ '"' :: rest) = .ok (some value, rest) := by
  rw [readString, readPoints_flatMap_escaped]
  dsimp only
  rw [textOfPoints?_flatMap_units]

end MarineFix.Json
