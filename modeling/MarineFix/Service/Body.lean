import MarineFix.Json.Reader
/-!
The zero bytes among the first four of a body tell its encoding.
-/

namespace MarineFix.Service

/-- A text is encoded in units of eight, sixteen or thirty-two bits. -/
inductive Encoding where
  | utf8
  | utf16 (bigEndian : Bool)
  | utf32 (bigEndian : Bool)
deriving DecidableEq

/-- One to four bytes encode a character. -/
def utf8Bytes (character : Char) : List Nat :=
  let point := character.toNat
  if point < 0x80 then [point]
  else if point < 0x800 then [0xC0 + point / 0x40, 0x80 + point % 0x40]
  else if point < 0x10000 then
    [0xE0 + point / 0x1000, 0x80 + point / 0x40 % 0x40, 0x80 + point % 0x40]
  else
    [0xF0 + point / 0x40000, 0x80 + point / 0x1000 % 0x40, 0x80 + point / 0x40 % 0x40,
      0x80 + point % 0x40]

/-- A body of two bytes with a zero is one unit of sixteen bits. -/
def Encoding.detect : List Nat → Encoding
  | [0, _] => .utf16 true
  | [_, 0] => .utf16 false
  | 0 :: 0 :: _ :: _ :: _ => .utf32 true
  | 0 :: _ :: _ :: _ :: _ => .utf16 true
  | _ :: 0 :: 0 :: 0 :: _ => .utf32 false
  | _ :: 0 :: _ :: _ :: _ => .utf16 false
  | _ => .utf8

/-- Two units make one of twice the size, and none is left over. -/
def joinUnits? (base : Nat) (bigEndian : Bool) : List Nat → Option (List Nat)
  | [] => some []
  | [_] => none
  | first :: second :: rest =>
      (joinUnits? base bigEndian rest).map
        ((if bigEndian then base * first + second else base * second + first) :: ·)

/-- Units without a character are refused, and half a pair is malformed. -/
def textOfUnits (units : Option (List Nat)) : Except Json.Fault Text :=
  match units with
  | none => .error .refused
  | some units =>
      if units.all (· < 0x110000) then
        match Json.textOfPoints? units with
        | some text => .ok text
        | none => .error .malformed
      else .error .refused

/-- The mark that names the byte order may lead the text. -/
def dropOrderMark : Text → Text
  | '\ufeff' :: rest => rest
  | text => text

/-- The text that the bytes of a body stand for. -/
def bodyText (body : Text) : Except Json.Fault Text :=
  let bytes := body.flatMap utf8Bytes
  match Encoding.detect bytes with
  | .utf8 => .ok (dropOrderMark body)
  | .utf16 bigEndian => textOfUnits (joinUnits? 0x100 bigEndian bytes)
  | .utf32 bigEndian =>
      textOfUnits ((joinUnits? 0x100 bigEndian bytes).bind (joinUnits? 0x10000 bigEndian))

end MarineFix.Service
