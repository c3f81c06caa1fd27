import MarineFix.Broadcast.Hub
import MarineFix.Feed.Basic
import MarineFix.Record.Message
/-!
A relay opens a feed, publishes the message of every record and closes the feed at its end.
-/

namespace MarineFix.Relay

variable {Key : Type} [DecidableEq Key]

/-- Every message is published and the deliveries are made. -/
def broadcast (hub : Hub Key) (messages : List Text) : Hub Key :=
  (messages.foldl Hub.publish hub).tick

/-- The number of published messages, or the fault that kept the feed from opening. -/
def run (feed : Feed) (hub : Hub Key) : Except Text Nat × Feed × Hub Key × Feed.Effects :=
  match feed.enter with
  | (.error fault, feed, effects) => (.error fault, feed, hub, effects)
  | (.ok (), feed, entered) =>
      let (records, feed, collected) := feed.collect
      let (feed, left) := feed.exit
      (.ok records.length, feed, broadcast hub (records.map Record.message),
        entered ++ collected ++ left)

/-- Only a feed that cannot be opened is reported as an error. -/
def report : Except Text Nat → LogLine
  | .ok count =>
      { level := .info
        text := "NMEA stream finished after ".toList ++ Text.ofNat count ++ " messages".toList }
  | .error fault => { level := .error, text := "NMEA source unavailable: ".toList ++ fault }

/-- Every end of a relay is reported in one line. -/
def serve (feed : Feed) (hub : Hub Key) : List LogLine × Feed × Hub Key × Feed.Effects :=
  let (outcome, feed, hub, effects) := run feed hub
  ([report outcome], feed, hub, effects)

end MarineFix.Relay
