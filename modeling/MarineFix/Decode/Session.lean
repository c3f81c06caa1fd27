import MarineFix.Decode.Decoder
import MarineFix.Log
/-!
Named decoders work side by side, and each copies the table that it is given.
-/

namespace MarineFix

/-- A rejected sentence is reported together with the category of its failure. -/
def Failure.report (failure : Failure) (sentence : Text) : LogLine where
  level := .debug
  text := "Parse error (".toList ++ failure.category.name ++ ") for ".toList ++
    Text.quoted (Text.strip sentence) ++ ": ".toList ++ failure.message

/-- A decoder of a session knows the place of its table. -/
structure DecoderSession.Member where
  requireChecksum : Bool
  place : Nat

/-- The store of tables starts with the standard one. -/
structure DecoderSession where
  store : List HandlerTable := [.standard]
  members : List (Text × DecoderSession.Member) := []
  held : List (Text × Nat) := []

namespace DecoderSession

inductive Step where
  | make (requireChecksum : Bool) (handlers : Option (List (Text × Handler)))
  | changeTable (kind : Text) (handler : Handler)
  | assign (kind : Text) (handler : Handler)
  | supported
  | kinds
  | decode (sentence : Text)

/-- An assignment to the table of a decoder is refused. -/
inductive Answer where
  | names (names : List Text)
  | decoded (outcome : Except Failure Record)
  | readOnly
  | unknown

def table (session : DecoderSession) (place : Nat) : HandlerTable :=
  session.store.getD place .empty

/-- The newest decoder of a name reads its table from the store. -/
def find? (session : DecoderSession) (name : Text) : Option Decoder :=
  (session.members.lookup name).map fun member =>
    { requireChecksum := member.requireChecksum, table := session.table member.place }

/-- The answer of a decoder, and what it reports. -/
def answer (decoder : Decoder) : Step → Answer × List LogLine
  | .assign .. => (.readOnly, [])
  | .kinds => (.names decoder.table.kinds, [])
  | .decode sentence =>
      match decoder.decode sentence with
      | .ok record => (.decoded (.ok record), [])
      | .error failure => (.decoded (.error failure), [failure.report sentence])
  | _ => (.names decoder.table.supported, [])

/-- A maker that hands over a table goes on holding it. -/
def handOver (session : DecoderSession) (name : Text) :
    Option (List (Text × Handler)) → Nat × DecoderSession
  | none => (0, session)
  | some entries =>
      (session.store.length,
        { session with
          store := session.store ++ [.ofList entries]
          held := (name, session.store.length) :: session.held })

/-- A decoder gets a copy of its table at a new place. -/
def make (session : DecoderSession) (name : Text) (requireChecksum : Bool)
    (handlers : Option (List (Text × Handler))) : DecoderSession :=
  let given := session.handOver name handlers
  let place := given.2.store.length
  { given.2 with
    store := given.2.store ++ [given.2.table given.1]
    members := (name, { requireChecksum, place }) :: given.2.members }

/-- A maker changes the table that it handed over in its place. -/
def changeTable (session : DecoderSession) (name kind : Text) (handler : Handler) :
    DecoderSession :=
  match session.held.lookup name with
  | none => session
  | some place => { session with store := session.store.modify place (·.insert kind handler) }

/-- The session makes a decoder, or changes a table that a maker still holds. -/
def update (session : DecoderSession) (name : Text) : Step → DecoderSession
  | .make requireChecksum handlers => session.make name requireChecksum handlers
  | .changeTable kind handler => session.changeTable name kind handler
  | _ => session

/-- The step is carried out and then answered by the decoder of that name. -/
def step (session : DecoderSession) (name : Text) (step : Step) :
    (Answer × List LogLine) × DecoderSession :=
  let next := session.update name step
  (((next.find? name).map (answer · step)).getD (.unknown, []), next)

/-- The answers and reports of all steps. -/
def transcript (session : DecoderSession) :
    List (Text × Step) → List (Answer × List LogLine)
  | [] => []
  | (name, step) :: rest =>
      (session.step name step).1 :: (session.step name step).2.transcript rest

/-- The session after all steps. -/
def after (session : DecoderSession) (steps : List (Text × Step)) : DecoderSession :=
  steps.foldl (fun session entry => (session.step entry.1 entry.2).2) session

@[simp] theorem transcript_cons (session : DecoderSession) (name : Text) (step : Step)
    (rest : List (Text × Step)) :
    session.transcript ((name, step) :: rest) =
      (session.step name step).1 :: (session.step name step).2.transcript rest := rfl

end DecoderSession

end MarineFix
