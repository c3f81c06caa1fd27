import MarineFix.Broadcast.Mailbox
/-!
A hub sends every message to the mailboxes that are subscribed when it is published.
-/

namespace MarineFix

/-- A key that is subscribed twice receives every message twice. -/
structure Hub (Key : Type) where
  mailboxes : List (Key × Mailbox) := []
  subscribers : List Key := []
  pending : List (Key × Text) := []

namespace Hub

variable {Key : Type} [DecidableEq Key]

def find? (hub : Hub Key) (key : Key) : Option Mailbox := hub.mailboxes.lookup key

/-- The mailbox of a key changes and all others stay. -/
def modify (key : Key) (change : Mailbox → Mailbox) (mailboxes : List (Key × Mailbox)) :
    List (Key × Mailbox) :=
  mailboxes.map fun entry => if entry.1 = key then (entry.1, change entry.2) else entry

def create (hub : Hub Key) (key : Key) (capacity : Int) : Hub Key :=
  { hub with mailboxes := hub.mailboxes ++ [(key, { capacity })] }

def subscribe (hub : Hub Key) (key : Key) : Hub Key :=
  { hub with subscribers := hub.subscribers ++ [key] }

/-- One subscription of the key ends, if there is one. -/
def unsubscribe? (hub : Hub Key) (key : Key) : Option (Hub Key) :=
  if key ∈ hub.subscribers then some { hub with subscribers := hub.subscribers.erase key } else none

/-- Only the subscribers of this moment will receive the message. -/
def publish (hub : Hub Key) (message : Text) : Hub Key :=
  { hub with pending := hub.pending ++ hub.subscribers.map (·, message) }

/-- The deliveries that wait are made, the first published first. -/
def tick (hub : Hub Key) : Hub Key :=
  { hub with
    mailboxes := hub.pending.foldl (fun mailboxes delivery =>
      modify delivery.1 (·.deliver delivery.2) mailboxes) hub.mailboxes
    pending := [] }

/-- The oldest message of a mailbox is handed out. -/
def take? (hub : Hub Key) (key : Key) : Option (Text × Hub Key) :=
  ((hub.find? key).bind Mailbox.take?).map fun result =>
    (result.1, { hub with mailboxes := modify key (fun _ => result.2) hub.mailboxes })

def held (hub : Hub Key) (key : Key) : List Text := ((hub.find? key).map Mailbox.held).getD []

def drain (hub : Hub Key) (key : Key) : List Text × Hub Key :=
  (hub.held key, { hub with mailboxes := modify key (·.drain.2) hub.mailboxes })

/-- A mailbox changes in its own place only. -/
theorem lookup_modify (key other : Key) (change : Mailbox → Mailbox)
    (mailboxes : List (Key × Mailbox)) :
    (modify key change mailboxes).lookup other =
      if other = key then (mailboxes.lookup other).map change else mailboxes.lookup other := by
  induction mailboxes with
  | nil => simp [modify]
  | cons entry rest ih =>
      obtain ⟨name, mailbox⟩ := entry
      simp only [modify, List.map_cons] at ih ⊢
      by_cases here : other = name
      · subst here
        by_cases changed : other = key <;> simp [changed]
      · have apart : (other == name) = false := beq_eq_false_iff_ne.2 here
        split <;> simp [List.lookup_cons, apart, ih]

end Hub

end MarineFix
