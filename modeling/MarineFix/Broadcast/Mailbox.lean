import MarineFix.Text.Basic
/-!
A mailbox keeps the newest messages for one subscriber.
-/

namespace MarineFix

/-- A capacity of zero or less stands for no limit. -/
structure Mailbox where
  capacity : Int
  held : List Text := []
deriving DecidableEq

namespace Mailbox

def isFull (mailbox : Mailbox) : Bool :=
  0 < mailbox.capacity && mailbox.capacity ≤ mailbox.held.length

/-- The new message goes to the end. -/
def deliver (mailbox : Mailbox) (message : Text) : Mailbox :=
  { mailbox with
    held := (if mailbox.isFull then mailbox.held.drop 1 else mailbox.held) ++ [message] }

/-- The oldest message leaves the mailbox. -/
def take? (mailbox : Mailbox) : Option (Text × Mailbox) :=
  match mailbox.held with
  | [] => none
  | message :: rest => some (message, { mailbox with held := rest })

def drain (mailbox : Mailbox) : List Text × Mailbox := (mailbox.held, { mailbox with held := [] })

@[simp] theorem capacity_deliver (mailbox : Mailbox) (message : Text) :
    (mailbox.deliver message).capacity = mailbox.capacity := rfl

theorem held_deliver_of_full {mailbox : Mailbox} (full : mailbox.isFull = true) (message : Text) :
    (mailbox.deliver message).held = mailbox.held.drop 1 ++ [message] := by
  simp [deliver, full]

theorem held_deliver_of_not_full {mailbox : Mailbox} (room : mailbox.isFull = false)
    (message : Text) : (mailbox.deliver message).held = mailbox.held ++ [message] := by
  simp [deliver, room]

/-- A mailbox never holds more than its capacity. -/
theorem length_held_deliver_le {mailbox : Mailbox} (positive : 0 < mailbox.capacity)
    (within : (mailbox.held.length : Int) ≤ mailbox.capacity) (message : Text) :
    ((mailbox.deliver message).held.length : Int) ≤ mailbox.capacity := by
  cases full : mailbox.isFull with
  | true =>
      rw [held_deliver_of_full full, List.length_append, List.length_drop]
      simp only [List.length_singleton]
      simp only [isFull, Bool.and_eq_true, decide_eq_true_eq] at full
      omega
  | false =>
      rw [held_deliver_of_not_full full, List.length_append]
      simp only [List.length_singleton]
      simp only [isFull, Bool.and_eq_false_iff, decide_eq_false_iff_not] at full
      omega

end Mailbox

end MarineFix
