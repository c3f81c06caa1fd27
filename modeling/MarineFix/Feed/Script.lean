import MarineFix.Decode.Decoder
import MarineFix.Log
/-!
The source of a feed answers every read with a line, a timeout or a fault.
-/

namespace MarineFix

namespace Feed

/-- A read gives bytes, of which none mean the end, or it fails. -/
inductive Delivery where
  | bytes (bytes : List UInt8)
  | timeout
  | dropped
deriving DecidableEq

/-- A cancellation may arrive while the read is under way. -/
structure ScriptItem where
  cancels : Bool
  delivery : Delivery
deriving DecidableEq

/-- How the source behaves when a feed connects to it. -/
structure Link where
  cancelsWhileConnecting : Bool := false
  connectFault : Option Text := none
  sendFault : Option Text := none
deriving DecidableEq

/-- The settings hold the address of the source and how its lines decode. -/
structure Settings where
  host : Text := "localhost".toList
  port : Int := 2947
  watch : Bool := true
  decoder : Decoder := {}

/-- What a feed asks of the connection below it. -/
inductive Call where
  | connect (host : Text) (port : Int)
  | send (text : Text)
  | openStream
  | shutdown
  | closeStream
  | closeSocket
deriving DecidableEq

/-- Connecting and reading wait at most this many seconds. -/
def timeoutSeconds : Binary64 := (Decimal.mk 2 0).toBinary64 false

/-- This command turns on the relay of sentences. -/
def watchCommand : Text := "?WATCH=\x7b\"enable\":true,\"nmea\":true\x7d\n".toList

/-- Sentences are ASCII text, and every other byte is line noise. -/
def asciiText (bytes : List UInt8) : Text :=
  (bytes.filter (· < 128)).map fun byte => Char.ofNat byte.toNat

/-- The effects of a step are its calls, its reports and its reads. -/
structure Effects where
  calls : List Call := []
  logs : List LogLine := []
  reads : Nat := 0
deriving DecidableEq

instance : Append Effects where
  append first second :=
    ⟨first.calls ++ second.calls, first.logs ++ second.logs, first.reads + second.reads⟩

@[simp] theorem Effects.calls_append (first second : Effects) :
    (first ++ second).calls = first.calls ++ second.calls := rfl

@[simp] theorem Effects.logs_append (first second : Effects) :
    (first ++ second).logs = first.logs ++ second.logs := rfl

@[simp] theorem Effects.reads_append (first second : Effects) :
    (first ++ second).reads = first.reads + second.reads := rfl

@[simp] theorem Effects.append_empty (effects : Effects) : effects ++ {} = effects := by
  show Effects.mk (effects.calls ++ []) (effects.logs ++ []) (effects.reads + 0) = effects
  simp

theorem Effects.append_assoc (first second third : Effects) :
    first ++ second ++ third = first ++ (second ++ third) := by
  show Effects.mk _ _ _ = Effects.mk _ _ _
  simp [Nat.add_assoc]

end Feed

end MarineFix
