import MarineFix.Decode.Handler
import MarineFix.Sentence.Checksum
/-!
A decoder tests the frame of a line and its message type and calls the handler of its kind.
-/

namespace MarineFix

open Sentence

/-- A checksum that is there is validated, and one may be required. -/
structure Decoder where
  requireChecksum : Bool := true
  table : HandlerTable := .standard

namespace Decoder

/-- A line has a leader and a valid checksum, or none when it may. -/
def checkFrame (requireChecksum : Bool) (line : Text) : Except Failure Unit :=
  if line.head? ≠ some '$' then .error (.noLeader line)
  else if hasChecksum line then
    if validChecksum line then .ok () else .error (.checksumMismatch line)
  else if requireChecksum then .error (.checksumMissing line)
  else .ok ()

/-- A message type is a talker of two characters and a longer kind. -/
def messageType (line : Text) : Except Failure (Text × Text) :=
  let type := pick (fields line) 0
  if type.length < 5 then .error (.shortType type) else .ok (type.take 2, type.drop 2)

/-- The kind selects the handler, and the talker gives the source of the record. -/
def dispatch (table : HandlerTable) (line talker kind : Text) : Except Failure Record :=
  match table.find? kind with
  | none => .error (.unsupported kind)
  | some handler => (handler.decode (.ofTalker talker) line).mapError .field

/-- Blanks around the sentence are not part of the line. -/
def decode (decoder : Decoder) (sentence : Text) : Except Failure Record := do
  let line := Text.strip sentence
  checkFrame decoder.requireChecksum line
  let (talker, kind) ← messageType line
  dispatch decoder.table line talker kind

end Decoder

end MarineFix
