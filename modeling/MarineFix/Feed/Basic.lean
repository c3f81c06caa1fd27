import MarineFix.Feed.Script
/-!
A feed reads lines from a connected source and passes on the records that decode.
-/

namespace MarineFix

open Feed

/-- A feed holds what is left of the script of its source. -/
structure Feed where
  settings : Settings := {}
  link : Link := {}
  script : List ScriptItem := []
  isOpen : Bool := false
  cancelled : Bool := false
  skipped : Nat := 0

namespace Feed

/-- Why no further record comes. -/
inductive Stop where
  | cancelled
  | closed
  | ended
deriving DecidableEq

def Stop.message : Stop → Text
  | .cancelled => "NMEA read cancelled.".toList
  | .closed => "NMEA connection closed.".toList
  | .ended => "NMEA stream ended.".toList

/-- What one line contributes. -/
inductive Reading where
  | record (record : Record)
  | nothing
  | stopped (stop : Stop)
deriving DecidableEq

/-- A cancelled feed stays so, and its open connection is shut down. -/
def cancel (feed : Feed) : Feed × Effects :=
  ({ feed with cancelled := true }, { calls := if feed.isOpen then [.shutdown] else [] })

/-- The feed is cancelled at this moment, or nothing happens. -/
def cancelIf (condition : Bool) (feed : Feed) : Feed × Effects :=
  if condition then feed.cancel else (feed, {})

def skipReport (line : Text) (failure : Failure) : LogLine where
  level := .warning
  text := "Skipping sentence ".toList ++ Text.quoted line ++ ": ".toList ++ failure.message

/-- Lines without a leader and parts of longer messages give no record. -/
def decodeLine (feed : Feed) (line : Text) : Reading × Feed × Effects :=
  if line.head? ≠ some '$' then (.nothing, feed, {})
  else match feed.settings.decoder.decode line with
    | .ok .incomplete => (.nothing, feed, {})
    | .ok record => (.record record, feed, {})
    | .error failure =>
        (.nothing, { feed with skipped := feed.skipped + 1 }, { logs := [skipReport line failure] })

/-- A timeout ends the reading only after a cancellation. -/
def receive (feed : Feed) : Delivery → Reading × Feed × Effects
  | .timeout => (if feed.cancelled then .stopped .cancelled else .nothing, feed, {})
  | .dropped => (.stopped .closed, feed, {})
  | .bytes [] => (.stopped .ended, feed, {})
  | .bytes bytes => feed.decodeLine (Text.strip (asciiText bytes))

/-- A cancellation under way comes before what the read gives. -/
def readItem (feed : Feed) (item : ScriptItem) : Reading × Feed × Effects :=
  let (feed, cancelling) := feed.cancelIf item.cancels
  let (reading, feed, received) := feed.receive item.delivery
  (reading, feed, { reads := 1 } ++ cancelling ++ received)

/-- Items are read until one gives a record or stops the reading. -/
def readScript (feed : Feed) (script : List ScriptItem) : Except Stop Record × Feed × Effects :=
  if feed.cancelled then (.error .cancelled, { feed with script }, {})
  else match script with
    | [] => (.error .ended, { feed with script := [] }, { reads := 1 })
    | item :: rest =>
        match feed.readItem item with
        | (.record record, feed, effects) => (.ok record, { feed with script := rest }, effects)
        | (.stopped stop, feed, effects) => (.error stop, { feed with script := rest }, effects)
        | (.nothing, feed, effects) =>
            let (outcome, feed, later) := feed.readScript rest
            (outcome, feed, effects ++ later)

/-- All records up to the first stop. -/
def collectScript (feed : Feed) (script : List ScriptItem) : List Record × Feed × Effects :=
  if feed.cancelled then ([], { feed with script }, {})
  else match script with
    | [] => ([], { feed with script := [] }, { reads := 1 })
    | item :: rest =>
        match feed.readItem item with
        | (.stopped _, feed, effects) => ([], { feed with script := rest }, effects)
        | (.record record, feed, effects) =>
            let (records, feed, later) := feed.collectScript rest
            (record :: records, feed, effects ++ later)
        | (.nothing, feed, effects) =>
            let (records, feed, later) := feed.collectScript rest
            (records, feed, effects ++ later)

/-- The next record, or the reason why there is none. -/
def read (feed : Feed) : Except Stop Record × Feed × Effects := feed.readScript feed.script

/-- The records that follow until the source ends or the feed is cancelled. -/
def collect (feed : Feed) : List Record × Feed × Effects := feed.collectScript feed.script

def connectReport (settings : Settings) : LogLine where
  level := .info
  text := "Connected to NMEA source ".toList ++ settings.host ++ ":".toList ++
    Text.ofInt settings.port

/-- The command is sent only if the source has to be told. -/
def sendWatch (feed : Feed) : Except Text Unit × Effects :=
  if feed.settings.watch then
    ((feed.link.sendFault.map .error).getD (.ok ()), { calls := [.send watchCommand] })
  else (.ok (), {})

/-- The feed counts anew unless a fault leaves it as it was. -/
def enter (feed : Feed) : Except Text Unit × Feed × Effects :=
  let dialled : Effects := { calls := [.connect feed.settings.host feed.settings.port] }
  let (feed, cancelling) := feed.cancelIf feed.link.cancelsWhileConnecting
  match feed.link.connectFault with
  | some fault => (.error fault, feed, dialled ++ cancelling)
  | none =>
      match feed.sendWatch with
      | (.error fault, sent) => (.error fault, feed, dialled ++ cancelling ++ sent)
      | (.ok (), sent) =>
          (.ok (), { feed with isOpen := true, skipped := 0 },
            dialled ++ cancelling ++ sent ++
              { calls := [.openStream], logs := [connectReport feed.settings] })

/-- An open feed closes its stream and then its socket. -/
def exit (feed : Feed) : Feed × Effects :=
  ({ feed with isOpen := false },
    { calls := if feed.isOpen then [.closeStream, .closeSocket] else [] })

end Feed

end MarineFix
