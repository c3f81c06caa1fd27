import MarineFix.Json.Value
import MarineFix.Number.Numeral
/-!
The reader of JSON text stops at the first fault and knows the names NaN and Infinity.
-/

namespace MarineFix.Json

/-- A number that is too long and a value that is nested too deeply are refused. -/
inductive Fault where
  | malformed
  | refused
deriving DecidableEq

/-- Arrays and objects are nested at most this deep. -/
def maxDepth : Nat := 950

def isSpace (character : Char) : Bool :=
  character == ' ' || character == '\t' || character == '\n' || character == '\r'

def skipSpace (text : Text) : Text := text.dropWhile isSpace

/-- The characters that a backslash and one letter stand for. -/
def unescape? : Char → Option Char
  | '"' => some '"'
  | '\\' => some '\\'
  | '/' => some '/'
  | 'b' => some '\x08'
  | 'f' => some '\x0c'
  | 'n' => some '\n'
  | 'r' => some '\r'
  | 't' => some '\t'
  | _ => none

/-- An escape may leave half of a surrogate pair. -/
def readPoints : Text → Option (List Nat × Text)
  | [] => none
  | '"' :: rest => some ([], rest)
  | '\\' :: 'u' :: a :: b :: c :: d :: rest =>
      match Text.hexDigit? a, Text.hexDigit? b, Text.hexDigit? c, Text.hexDigit? d with
      | some a, some b, some c, some d =>
          (readPoints rest).map fun result =>
            ((((16 * a + b) * 16 + c) * 16 + d) :: result.1, result.2)
      | _, _, _, _ => none
  | '\\' :: letter :: rest =>
      (unescape? letter).bind fun character =>
        (readPoints rest).map fun result => (character.toNat :: result.1, result.2)
  | character :: rest =>
      if character.toNat < 0x20 then none
      else (readPoints rest).map fun result => (character.toNat :: result.1, result.2)

def isHighSurrogate (point : Nat) : Bool := 0xD800 ≤ point && point < 0xDC00

def isLowSurrogate (point : Nat) : Bool := 0xDC00 ≤ point && point < 0xE000

/-- A high and a low surrogate make one character. -/
def textOfPoints? : List Nat → Option Text
  | [] => some []
  | [point] =>
      if isHighSurrogate point || isLowSurrogate point then none else some [Char.ofNat point]
  | point :: next :: rest =>
      if isHighSurrogate point then
        if isLowSurrogate next then
          (textOfPoints? rest).map
            (Char.ofNat (0x10000 + (point - 0xD800) * 0x400 + (next - 0xDC00)) :: ·)
        else none
      else if isLowSurrogate point then none
      else (textOfPoints? (next :: rest)).map (Char.ofNat point :: ·)

/-- The text of a string, if it has one, and what follows the string. -/
def readString (text : Text) : Except Fault (Option Text × Text) :=
  match readPoints text with
  | none => .error .malformed
  | some (points, rest) => .ok (textOfPoints? points, rest)

/-- A leading zero of the whole part stands alone. -/
def splitWhole : Text → Text × Text
  | '0' :: rest => (['0'], rest)
  | text => (text.takeWhile Char.isDigit, text.dropWhile Char.isDigit)

/-- A point without digits is not part of the number. -/
def splitFraction : Text → Text × Text
  | '.' :: rest =>
      if rest.takeWhile Char.isDigit = [] then ([], '.' :: rest)
      else (rest.takeWhile Char.isDigit, rest.dropWhile Char.isDigit)
  | text => ([], text)

/-- A mark without digits is not part of the number. -/
def splitPower (text : Text) : Option Int × Text :=
  match text with
  | mark :: rest =>
      if mark = 'e' ∨ mark = 'E' then
        let (negative, digits) := Numeral.splitSign rest
        if digits.takeWhile Char.isDigit = [] then (none, text)
        else
          let power : Int := Text.toNat (digits.takeWhile Char.isDigit)
          (some (if negative then -power else power), digits.dropWhile Char.isDigit)
      else (none, text)
  | [] => (none, [])

/-- A number without fraction and power is an integer, and its digits are limited. -/
def readNumber (negative : Bool) (text : Text) : Except Fault (Json × Text) :=
  let (whole, afterWhole) := splitWhole text
  let (fraction, afterFraction) := splitFraction afterWhole
  let (power, rest) := splitPower afterFraction
  if whole = [] then .error .malformed
  else if fraction = [] ∧ power = none then
    if Numeral.maxDigits < whole.length then .error .refused
    else
      let value : Int := Text.toNat whole
      .ok (.scalar (.integer (if negative then -value else value)), rest)
  else
    let decimal : Decimal :=
      ⟨Text.toNat (whole ++ fraction), power.getD 0 - fraction.length⟩
    .ok (.scalar (.real (decimal.withinReach.toBinary64 negative)), rest)

/-- The rest of a text that starts with a word. -/
def after? (word text : Text) : Option Text :=
  if word.isPrefixOf text then some (text.drop word.length) else none

/-- The values that are written as words. -/
def words : List (Text × Json) :=
  [("null".toList, .scalar .null), ("true".toList, .scalar (.bool true)),
    ("false".toList, .scalar (.bool false)), ("NaN".toList, .foreign),
    ("Infinity".toList, .scalar (.real (.infinite false))),
    ("-Infinity".toList, .scalar (.real (.infinite true)))]

def readWord (text : Text) : Option (Json × Text) :=
  words.findSome? fun word => (after? word.1 text).map (word.2, ·)

/-- Words are tried before numbers, because one of them starts with a minus sign. -/
def readPlain (text : Text) : Except Fault (Json × Text) :=
  match readWord text with
  | some result => .ok result
  | none =>
      match text with
      | '-' :: rest => readNumber true rest
      | _ => readNumber false text

/-- A string without a text is a foreign value. -/
def ofString : Option Text → Json
  | some value => .scalar (.string value)
  | none => .foreign

mutual

/-- Every call reads a character, so the length of the text is enough fuel. -/
def readValue (fuel depth : Nat) (text : Text) : Except Fault (Json × Text) :=
  match fuel with
  | 0 => .error .malformed
  | fuel + 1 =>
      match text with
      | '"' :: rest => (readString rest).map fun result => (ofString result.1, result.2)
      | '[' :: rest =>
          if depth = 0 then .error .refused
          else match skipSpace rest with
            | ']' :: rest => .ok (.array [], rest)
            | rest =>
                (readItems fuel (depth - 1) rest).map fun result => (.array result.1, result.2)
      | '\x7b' :: rest =>
          if depth = 0 then .error .refused
          else match skipSpace rest with
            | '\x7d' :: rest => .ok (.object [], rest)
            | rest =>
                (readMembers fuel (depth - 1) rest).map fun result =>
                  (.object result.1, result.2)
      | _ => readPlain text

/-- The items of an array up to its closing bracket. -/
def readItems (fuel depth : Nat) (text : Text) : Except Fault (List Json × Text) :=
  match fuel with
  | 0 => .error .malformed
  | fuel + 1 => do
      let (item, rest) ← readValue fuel depth text
      match skipSpace rest with
      | ']' :: rest => return ([item], rest)
      | ',' :: rest =>
          let (items, rest) ← readItems fuel depth (skipSpace rest)
          return (item :: items, rest)
      | _ => throw .malformed

/-- A member whose key is no text is left out. -/
def readMembers (fuel depth : Nat) (text : Text) : Except Fault (List (Text × Json) × Text) :=
  match fuel with
  | 0 => .error .malformed
  | fuel + 1 =>
      match text with
      | '"' :: rest => do
          let (key, rest) ← readString rest
          let ':' :: rest := skipSpace rest | throw .malformed
          let (value, rest) ← readValue fuel depth (skipSpace rest)
          let member := (key.map (·, value)).toList
          match skipSpace rest with
          | '\x7d' :: rest => return (member, rest)
          | ',' :: rest =>
              let (members, rest) ← readMembers fuel depth (skipSpace rest)
              return (member ++ members, rest)
          | _ => throw .malformed
      | _ => .error .malformed

end

/-- The whole text is one value between spaces. -/
def ofText (text : Text) : Except Fault Json := do
  let (value, rest) ← readValue (text.length + 1) maxDepth (skipSpace text)
  if skipSpace rest = [] then return value else throw .malformed

end MarineFix.Json
