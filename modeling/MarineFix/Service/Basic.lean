import MarineFix.Relay
import MarineFix.Service.Request
/-!
The clients of a running service subscribe before its source starts to deliver.
-/

namespace MarineFix.Service

/-- A client may go away after a number of messages. -/
structure Client where
  dropsAfter : Option Nat := none

inductive Event where
  | accepted
  | message (message : Text)
  | closed (code : Nat)
deriving DecidableEq

/-- The mailbox of a client keeps so many messages. -/
def mailboxCapacity : Int := 10

/-- The server goes away when no further message comes. -/
def goingAway : Nat := 1001

/-- Every client has a key of its own, which is its position. -/
def attach (hub : Hub Nat) (key : Nat) : Hub Nat :=
  (hub.create key mailboxCapacity).subscribe key

def detach (hub : Hub Nat) (key : Nat) : Hub Nat := (hub.unsubscribe? key).getD hub

/-- A connection keeps what its client saw and how long it stays. -/
structure Connection where
  patience : Option Nat
  events : List Event := [.accepted]
  isOpen : Bool := true

/-- A connection ends without a close when its client is gone. -/
def Connection.turn (connection : Connection) (key : Nat) (hub : Hub Nat) :
    Connection × Hub Nat :=
  match hub.take? key with
  | none =>
      ({ connection with events := connection.events ++ [.closed goingAway], isOpen := false },
        detach hub key)
  | some (message, hub) =>
      if connection.patience = some 0 then ({ connection with isOpen := false }, detach hub key)
      else
        ({ connection with
            patience := connection.patience.map (· - 1)
            events := connection.events ++ [.message message] }, hub)

/-- The connections of all clients, each of them at the position of its key. -/
structure Audience where
  connections : List Connection
  hub : Hub Nat

namespace Audience

/-- One connection goes on, and nothing happens once it has ended. -/
def turn (audience : Audience) (key : Nat) : Audience :=
  match audience.connections[key]? with
  | none => audience
  | some connection =>
      if connection.isOpen then
        let (connection, hub) := connection.turn key audience.hub
        { connections := audience.connections.set key connection, hub }
      else audience

/-- The connections take their turns in this order. -/
def attend (audience : Audience) (order : List Nat) : Audience := order.foldl turn audience

/-- One connection after the other, each with enough turns. -/
def order (audience : Audience) : List Nat :=
  (List.range audience.connections.length).flatMap fun key =>
    List.replicate ((audience.hub.held key).length + 1) key

end Audience

structure Outcome where
  replies : List Reply
  clients : List (List Event)
  subscribersAfter : Nat
  logs : List LogLine

/-- The clients as they are accepted, with what was delivered to their mailboxes before. -/
def audience (clients : List Client) (hub : Hub Nat) : Audience where
  connections := clients.map fun client => { patience := client.dropsAfter }
  hub := hub

/-- The requests are answered before the source delivers its script. -/
def run (feed : Feed) (requests : List Request) (clients : List Client) : Outcome :=
  let attached := (List.range clients.length).foldl attach {}
  let (logs, _, delivered, _) := Relay.serve feed attached
  let waiting := audience clients delivered
  let ended := waiting.attend waiting.order
  { replies := requests.map (respond feed.settings.decoder)
    clients := ended.connections.map Connection.events
    subscribersAfter := ended.hub.subscribers.length
    logs }

end MarineFix.Service
