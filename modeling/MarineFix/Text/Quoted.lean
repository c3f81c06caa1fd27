import MarineFix.Text.Printable
/-!
Messages quote the text that they reject and show all of its characters.
-/

namespace MarineFix.Text

/-- Only a text with a single quote alone stands in double quotes. -/
def quoteMark (text : Text) : Char :=
  if text.contains '\x27' && !text.contains '"' then '"' else '\x27'

/-- A character that cannot be printed is named by its code point. -/
def codePoint (character : Char) : Text :=
  if character.toNat < 0x100 then '\\' :: 'x' :: hexadecimal 2 character.toNat
  else if character.toNat < 0x10000 then '\\' :: 'u' :: hexadecimal 4 character.toNat
  else '\\' :: 'U' :: hexadecimal 8 character.toNat

/-- The written form of one character between two marks. -/
def escaped (mark character : Char) : Text :=
  if character = mark ∨ character = '\\' then ['\\', character]
  else if character = '\n' then ['\\', 'n']
  else if character = '\r' then ['\\', 'r']
  else if character = '\t' then ['\\', 't']
  else if isPrintable character then [character]
  else codePoint character

/-- The text between its quotation marks. -/
def quoted (text : Text) : Text :=
  quoteMark text :: text.flatMap (escaped (quoteMark text)) ++ [quoteMark text]

end MarineFix.Text
