import MarineFix.Number.Layout
import MarineFix.Number.Numeral
/-!
JSON values and the plain ASCII text of a flat object.
-/

namespace MarineFix

namespace Json

/-- A scalar is a value without parts. -/
inductive Scalar where
  | null
  | bool (value : Bool)
  | integer (value : Int)
  | real (value : Binary64)
  | string (value : Text)
deriving DecidableEq

/-- An infinity has a name of its own. -/
def realText (value : Binary64) : Text :=
  match value with
  | .finite .. => value.text
  | .infinite negative => Binary64.signed negative "Infinity".toList

/-- Four hexadecimal digits name a unit of sixteen bits. -/
def unitEscape (unit : Nat) : Text := '\\' :: 'u' :: Text.hexadecimal 4 unit

/-- A character outside the printable ASCII range is escaped in units. -/
def escaped (character : Char) : Text :=
  if character = '"' ∨ character = '\\' then ['\\', character]
  else if character = '\n' then ['\\', 'n']
  else if character = '\r' then ['\\', 'r']
  else if character = '\t' then ['\\', 't']
  else if character = '\x08' then ['\\', 'b']
  else if character = '\x0c' then ['\\', 'f']
  else if 0x20 ≤ character.toNat ∧ character.toNat < 0x7F then [character]
  else if character.toNat < 0x10000 then unitEscape character.toNat
  else
    unitEscape (0xD800 + (character.toNat - 0x10000) / 0x400) ++
      unitEscape (0xDC00 + (character.toNat - 0x10000) % 0x400)

def stringText (value : Text) : Text := '"' :: value.flatMap escaped ++ ['"']

def Scalar.text : Scalar → Text
  | .null => "null".toList
  | .bool true => "true".toList
  | .bool false => "false".toList
  | .integer value => Text.ofInt value
  | .real value => realText value
  | .string value => stringText value

/-- An integer with too many digits is not written. -/
def Scalar.isWritable : Scalar → Bool
  | .integer value => (Text.ofNat value.natAbs).length ≤ Numeral.maxDigits
  | _ => true

/-- A key and its value are divided by a colon and a space. -/
def memberText (member : Text × Scalar) : Text :=
  stringText member.1 ++ ':' :: ' ' :: member.2.text

/-- The members keep their order, and a comma and a space divide them. -/
def objectText (members : List (Text × Scalar)) : Text :=
  '\x7b' :: [',', ' '].intercalate (members.map memberText) ++ ['\x7d']

/-- An object has a text only when each of its values can be written. -/
def objectText? (members : List (Text × Scalar)) : Option Text :=
  if members.all fun member => member.2.isWritable then some (objectText members) else none

end Json

/-- A value that is neither a number nor a text may be foreign. -/
inductive Json where
  | scalar (value : Json.Scalar)
  | array (items : List Json)
  | object (members : List (Text × Json))
  | foreign

/-- The last of several members with one key counts. -/
def Json.member? (key : Text) : Json → Option Json
  | .object members => members.reverse.lookup key
  | _ => none

end MarineFix
