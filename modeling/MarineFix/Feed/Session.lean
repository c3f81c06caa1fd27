import MarineFix.Feed.Basic
/-!
A feed is used step by step, and its iterator is finished once it has ended or failed.
-/

namespace MarineFix

/-- A feed with an iterator over its records. -/
structure FeedSession where
  feed : Feed
  finished : Bool := false

namespace FeedSession

open Feed

/-- The source of a feed may change how it takes connections. -/
inductive Step where
  | enter
  | exit
  | read
  | list
  | cancel
  | next
  | renewIterator
  | relink (link : Link)
deriving DecidableEq

inductive Answer where
  | opened
  | done
  | record (record : Record)
  | records (records : List Record)
  | stopped (stop : Stop)
  | notOpen
  | unavailable (fault : Text)
  | finished

/-- The feed can be read only between entering and leaving it. -/
def notOpenMessage : Text := "SentenceReader must be used as a context manager.".toList

def enter (session : FeedSession) : Answer × FeedSession × Effects :=
  match session.feed.enter with
  | (.ok (), feed, effects) => (.opened, { session with feed }, effects)
  | (.error fault, feed, effects) => (.unavailable fault, { session with feed }, effects)

def exit (session : FeedSession) : Answer × FeedSession × Effects :=
  let (feed, effects) := session.feed.exit
  (.done, { session with feed }, effects)

def cancel (session : FeedSession) : Answer × FeedSession × Effects :=
  let (feed, effects) := session.feed.cancel
  (.done, { session with feed }, effects)

def read (session : FeedSession) : Answer × FeedSession × Effects :=
  if session.feed.isOpen then
    match session.feed.read with
    | (.ok record, feed, effects) => (.record record, { session with feed }, effects)
    | (.error stop, feed, effects) => (.stopped stop, { session with feed }, effects)
  else (.notOpen, session, {})

def list (session : FeedSession) : Answer × FeedSession × Effects :=
  if session.feed.isOpen then
    let (records, feed, effects) := session.feed.collect
    (.records records, { session with feed }, effects)
  else (.notOpen, session, {})

/-- The iterator reads the next record, and whatever else happens finishes it. -/
def next (session : FeedSession) : Answer × FeedSession × Effects :=
  if session.finished then (.finished, session, {})
  else if session.feed.isOpen then
    match session.feed.read with
    | (.ok record, feed, effects) => (.record record, { session with feed }, effects)
    | (.error _, feed, effects) => (.finished, { feed, finished := true }, effects)
  else (.notOpen, { session with finished := true }, {})

def step (session : FeedSession) : Step → Answer × FeedSession × Effects
  | .enter => session.enter
  | .exit => session.exit
  | .read => session.read
  | .list => session.list
  | .cancel => session.cancel
  | .next => session.next
  | .renewIterator => (.done, { session with finished := false }, {})
  | .relink link => (.done, { session with feed := { session.feed with link } }, {})

/-- What one step gives: its answer, the state after it, and its effects. -/
abbrev Entry := Answer × FeedSession × Effects

/-- The entries of all steps, in their order. -/
def transcript (session : FeedSession) : List Step → List Entry
  | [] => []
  | step :: rest => session.step step :: (session.step step).2.1.transcript rest

/-- The state after all steps. -/
def after (session : FeedSession) (steps : List Step) : FeedSession :=
  steps.foldl (fun session step => (session.step step).2.1) session

@[simp] theorem transcript_nil (session : FeedSession) : session.transcript [] = [] := rfl

@[simp] theorem transcript_cons (session : FeedSession) (step : Step) (rest : List Step) :
    session.transcript (step :: rest) =
      session.step step :: (session.step step).2.1.transcript rest := rfl

@[simp] theorem after_nil (session : FeedSession) : session.after [] = session := rfl

@[simp] theorem after_cons (session : FeedSession) (step : Step) (rest : List Step) :
    session.after (step :: rest) = (session.step step).2.1.after rest := rfl

theorem after_append (session : FeedSession) (first second : List Step) :
    session.after (first ++ second) = (session.after first).after second := by
  simp [after]

/-- Two runs in a row have the transcripts of both. -/
theorem transcript_append (session : FeedSession) (first second : List Step) :
    session.transcript (first ++ second) =
      session.transcript first ++ (session.after first).transcript second := by
  induction first generalizing session with
  | nil => rfl
  | cons step rest ih => simp [ih]

theorem length_transcript (session : FeedSession) (steps : List Step) :
    (session.transcript steps).length = steps.length := by
  induction steps generalizing session with
  | nil => rfl
  | cons step rest ih => simp [ih]

end FeedSession

end MarineFix
