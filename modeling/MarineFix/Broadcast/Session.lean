import MarineFix.Broadcast.Hub
/-!
A hub is used step by step, and a name that is used again denotes the new mailbox.
-/

namespace MarineFix

/-- A name and how many mailboxes had it before. -/
structure MailboxId where
  name : Text
  generation : Nat
deriving DecidableEq

/-- The names are listed once for every mailbox that was made. -/
structure HubSession where
  hub : Hub MailboxId := {}
  names : List Text := []

namespace HubSession

inductive Step where
  | create (name : Text) (capacity : Int)
  | subscribe (name : Text)
  | unsubscribe (name : Text)
  | publish (message : Text)
  | tick
  | take (name : Text)
  | drain (name : Text)

inductive Answer where
  | done
  | message (message : Text)
  | messages (messages : List Text)
  | empty
  | notSubscribed
deriving DecidableEq

/-- The newest mailbox of a name. -/
def current (session : HubSession) (name : Text) : MailboxId := ⟨name, session.names.count name⟩

def step (session : HubSession) : Step → Answer × HubSession
  | .create name capacity =>
      let names := session.names ++ [name]
      (.done, { names, hub := session.hub.create ⟨name, names.count name⟩ capacity })
  | .subscribe name =>
      (.done, { session with hub := session.hub.subscribe (session.current name) })
  | .unsubscribe name =>
      match session.hub.unsubscribe? (session.current name) with
      | some hub => (.done, { session with hub })
      | none => (.notSubscribed, session)
  | .publish message => (.done, { session with hub := session.hub.publish message })
  | .tick => (.done, { session with hub := session.hub.tick })
  | .take name =>
      match session.hub.take? (session.current name) with
      | some (message, hub) => (.message message, { session with hub })
      | none => (.empty, session)
  | .drain name =>
      let (messages, hub) := session.hub.drain (session.current name)
      (.messages messages, { session with hub })

/-- The answers of all steps with the state after each of them. -/
def transcript (session : HubSession) : List Step → List (Answer × HubSession)
  | [] => []
  | step :: rest => session.step step :: (session.step step).2.transcript rest

/-- The state after all steps. -/
def after (session : HubSession) (steps : List Step) : HubSession :=
  steps.foldl (fun session step => (session.step step).2) session

/-- The number of messages in the newest mailbox of each name. -/
def sizes (session : HubSession) : List (Text × Nat) :=
  session.names.eraseDups.map fun name => (name, (session.hub.held (session.current name)).length)

@[simp] theorem transcript_cons (session : HubSession) (step : Step) (rest : List Step) :
    session.transcript (step :: rest) =
      session.step step :: (session.step step).2.transcript rest := rfl

@[simp] theorem after_cons (session : HubSession) (step : Step) (rest : List Step) :
    session.after (step :: rest) = (session.step step).2.after rest := rfl

end HubSession

end MarineFix
