import Mathlib.Data.List.Forall2
import MarineFix.Proofs.Feed.Ending
/-!
A feed that is entered only while it is closed releases the sockets that it opens on.
-/

namespace MarineFix

namespace Feed

/-- The calls that concern one socket, from the one that made it. -/
abbrev Socket := List Call

/-- The sockets of a run, and the calls that concerned none of them. -/
structure Sockets where
  arriving : Option Socket := none
  held : Option Socket := none
  dropped : List Socket := []
  stray : List Call := []

/-- The calls that make a stream, close it, or close a socket. -/
def Call.handles : Call → Bool
  | .openStream => true
  | .closeStream => true
  | .closeSocket => true
  | _ => false

/-- One stream was made and closed before the socket was closed. -/
def Socket.Released (socket : Socket) : Prop :=
  socket.filter Call.handles = [.openStream, .closeStream, .closeSocket]

/-- The socket was closed once, after every stream made of it. -/
def Socket.ClosedOnce (socket : Socket) : Prop :=
  ∃ before, socket.filter Call.handles = before ++ [.closeSocket] ∧ .closeSocket ∉ before ∧
    before.count .openStream = before.count .closeStream

/-- No stream was made of the socket, and it was not closed. -/
def Socket.Leaked (socket : Socket) : Prop := socket.filter Call.handles = []

theorem Socket.Released.closedOnce {socket : Socket} (released : socket.Released) :
    socket.ClosedOnce :=
  ⟨[.openStream, .closeStream], released, by decide, by decide⟩

theorem Socket.Leaked.not_closedOnce {socket : Socket} (leaked : socket.Leaked) :
    ¬ socket.ClosedOnce := by
  rintro ⟨before, closed, _⟩
  rw [leaked] at closed
  exact List.append_ne_nil_of_right_ne_nil before (List.cons_ne_nil _ _) closed.symm

namespace Sockets

/-- A call concerns the new socket, the held one, or none. -/
def record (accepts : Bool) (sockets : Sockets) (call : Call) : Sockets :=
  match call, sockets.arriving, sockets.held with
  | .connect _ _, arriving, _ =>
      if accepts then
        { sockets with
          arriving := some [call]
          dropped := sockets.dropped ++ arriving.toList }
      else sockets
  | .send _, some socket, _ => { sockets with arriving := some (socket ++ [call]) }
  | .openStream, some socket, held =>
      { sockets with
        arriving := none
        held := some (socket ++ [call])
        dropped := sockets.dropped ++ held.toList }
  | .shutdown, _, some socket => { sockets with held := some (socket ++ [call]) }
  | .closeStream, _, some socket => { sockets with held := some (socket ++ [call]) }
  | .closeSocket, _, some socket =>
      { sockets with
        held := none
        dropped := sockets.dropped ++ [socket ++ [call]] }
  | _, _, _ => { sockets with stray := sockets.stray ++ [call] }

/-- A socket that is still on the way is dropped. -/
def settle (sockets : Sockets) : Sockets :=
  { sockets with
    arriving := none
    dropped := sockets.dropped ++ sockets.arriving.toList }

end Sockets

end Feed

namespace FeedSession

open Feed

/-- The sockets after one step. -/
def recorded (session : FeedSession) (step : Step) (sockets : Sockets) : Sockets :=
  ((session.step step).2.2.calls.foldl
    (Sockets.record session.feed.link.connectFault.isNone) sockets).settle

/-- The sockets after all steps. -/
def sockets (session : FeedSession) (before : Sockets) : List Step → Sockets
  | [] => before
  | step :: rest => (session.step step).2.1.sockets (session.recorded step before) rest

/-- Whether the feed opens on the socket that a step is given. -/
def dialled (session : FeedSession) : Step → Option Bool
  | .enter =>
      if session.feed.link.connectFault.isNone then
        some (openingFault? session.feed.settings session.feed.link).isNone
      else none
  | _ => none

/-- One entry for each socket that the source has given, in their order. -/
def dials (session : FeedSession) : List Step → List Bool
  | [] => []
  | step :: rest => (session.dialled step).toList ++ (session.step step).2.1.dials rest

/-- The feed is entered only while it is closed. -/
def Managed (session : FeedSession) : List Step → Prop
  | [] => True
  | step :: rest =>
      (step = .enter → session.feed.isOpen = false) ∧ (session.step step).2.1.Managed rest

/-- What has become of a dropped socket, given whether it came into the feed. -/
def Settled (socket : Socket) (opened : Bool) : Prop :=
  if opened then socket.Released else socket.Leaked

/-- An open feed holds its socket, and all other sockets are settled. -/
inductive Tracks : Bool → Sockets → List Bool → Prop where
  | closed {dropped : List Socket} {dials : List Bool}
      (settled : List.Forall₂ Settled dropped dials) : Tracks false { dropped } dials
  | opened {socket : Socket} {dropped : List Socket} {dials : List Bool}
      (streams : socket.filter Call.handles = [.openStream])
      (settled : List.Forall₂ Settled dropped dials) :
      Tracks true { held := some socket, dropped } (dials ++ [true])

end FeedSession

namespace Feed

theorem foldl_record_shutdowns {calls : List Call} (only : ∀ call ∈ calls, call = .shutdown)
    (accepts : Bool) (socket : Socket) (dropped : List Socket) :
    calls.foldl (Sockets.record accepts) { held := some socket, dropped } =
      { held := some (socket ++ calls), dropped } := by
  induction calls generalizing socket with
  | nil => simp
  | cons call rest ih =>
      obtain rfl := only call List.mem_cons_self
      have later : ∀ call ∈ rest, call = .shutdown := fun call member =>
        only call (List.mem_cons_of_mem _ member)
      show rest.foldl (Sockets.record accepts) { held := some (socket ++ [.shutdown]), dropped } = _
      rw [ih later, List.append_assoc, List.singleton_append]

theorem filter_handles_shutdowns {calls : List Call} (only : ∀ call ∈ calls, call = .shutdown) :
    calls.filter Call.handles = [] := by
  rw [List.filter_eq_nil_iff]
  intro call member
  rw [only call member]
  simp [Call.handles]

/-- A cancellation asks for a shutdown or, if the feed is closed, for nothing. -/
theorem calls_cancelIf (condition : Bool) (feed : Feed) :
    (feed.cancelIf condition).2.calls = if condition && feed.isOpen then [.shutdown] else [] := by
  cases condition with
  | false => rfl
  | true => rfl

/-- A read asks for nothing but shutdowns. -/
theorem shutdown_of_readItem {feed : Feed} {item : ScriptItem} {call : Call}
    (asked : call ∈ (feed.readItem item).2.2.calls) : call = .shutdown := by
  have received := quiet_receive (feed.cancelIf item.cancels).1 item.delivery
  change call ∈ [] ++ (feed.cancelIf item.cancels).2.calls ++
    ((feed.cancelIf item.cancels).1.receive item.delivery).2.2.calls at asked
  rw [received.calls, calls_cancelIf, List.nil_append, List.append_nil] at asked
  split at asked
  · exact List.mem_singleton.mp asked
  · simp at asked

theorem Reads.shutdown {feed after : Feed} {items : List ScriptItem} {records : List Record}
    {effects : Effects} (chain : Reads feed items records after effects) :
    ∀ call ∈ effects.calls, call = .shutdown := by
  induction chain with
  | idle feed => simp
  | ended active empty => simp
  | item active script later ih =>
      intro call asked
      rw [Effects.calls_append, List.mem_append] at asked
      exact asked.elim shutdown_of_readItem (ih call)

/-- A closed feed that is entered is open if nothing has failed. -/
theorem isOpen_enter {feed : Feed} (closed : feed.isOpen = false) :
    feed.enter.2.1.isOpen = (openingFault? feed.settings feed.link).isNone := by
  obtain ⟨state, _⟩ := enter_spec feed
  have outcome := enter_outcome feed
  cases opening : openingFault? feed.settings feed.link with
  | some fault =>
      rw [opening] at outcome
      rw [state, outcome.1]
      exact closed
  | none =>
      rw [opening] at outcome
      rw [state, outcome]
      rfl

/-- Entering connects, sends its command and makes the stream until a fault. -/
theorem calls_enter {feed : Feed}
    (undisturbed : (feed.link.cancelsWhileConnecting && feed.isOpen) = false) :
    feed.enter.2.2.calls = .connect feed.settings.host feed.settings.port ::
      if feed.link.connectFault.isNone then
        (if feed.settings.watch then [.send watchCommand] else []) ++
          if (openingFault? feed.settings feed.link).isNone then [.openStream] else []
      else [] := by
  obtain ⟨state, _⟩ := cancelIf_spec feed.link.cancelsWhileConnecting feed
  have silent := calls_cancelIf feed.link.cancelsWhileConnecting feed
  rw [undisturbed, if_neg Bool.false_ne_true] at silent
  rcases cancelling : feed.cancelIf feed.link.cancelsWhileConnecting with ⟨reached, effects⟩
  rw [cancelling] at state silent
  dsimp only at state silent
  subst state
  cases refused : feed.link.connectFault with
  | some fault => simp [enter, cancelling, refused, silent]
  | none =>
      cases watch : feed.settings.watch with
      | false => simp [enter, cancelling, refused, openingFault?, sendWatch, watch, silent]
      | true =>
          cases sent : feed.link.sendFault <;>
            simp [enter, cancelling, refused, openingFault?, sendWatch, watch, sent, silent]

end Feed

namespace FeedSession

open Feed

/-- Entering a session does what entering its feed does. -/
theorem step_enter (session : FeedSession) :
    (session.step .enter).2.1.feed = session.feed.enter.2.1 ∧
      (session.step .enter).2.2 = session.feed.enter.2.2 := by
  rcases result : session.feed.enter with ⟨outcome, after, effects⟩
  cases outcome with
  | error fault => simp [step, enter, result]
  | ok _ => simp [step, enter, result]

/-- What concerns a new socket before the feed takes it in. -/
def arrival (settings : Settings) : Socket :=
  .connect settings.host settings.port :: if settings.watch then [.send watchCommand] else []

theorem filter_handles_arrival (settings : Settings) :
    (arrival settings).filter Call.handles = [] := by
  rw [arrival]
  cases settings.watch <;> simp [Call.handles]

/-- A new socket is held by a feed that opens and dropped otherwise. -/
theorem recorded_enter {session : FeedSession}
    (undisturbed : (session.feed.link.cancelsWhileConnecting && session.feed.isOpen) = false)
    (held : Option Socket) (dropped : List Socket) (stray : List Call) :
    session.recorded .enter { held, dropped, stray } = match session.dialled .enter with
      | some true =>
          { held := some (arrival session.feed.settings ++ [.openStream])
            dropped := dropped ++ held.toList
            stray }
      | some false => { held, dropped := dropped ++ [arrival session.feed.settings], stray }
      | none => { held, dropped, stray } := by
  simp only [recorded, dialled, (step_enter session).2, calls_enter undisturbed, arrival]
  cases session.feed.link.connectFault.isNone <;> cases session.feed.settings.watch <;>
    cases (openingFault? session.feed.settings session.feed.link).isNone <;>
    simp [Sockets.record, Sockets.settle]

/-- A closed session holds the socket that it is given or leaks it. -/
theorem Tracks.enter {session : FeedSession} {sockets : Sockets} {dials : List Bool}
    (tracks : Tracks session.feed.isOpen sockets dials) (closed : session.feed.isOpen = false) :
    Tracks (session.step .enter).2.1.feed.isOpen (session.recorded .enter sockets)
      (dials ++ (session.dialled .enter).toList) := by
  have opens := isOpen_enter closed
  have undisturbed : (session.feed.link.cancelsWhileConnecting && session.feed.isOpen) = false := by
    rw [closed, Bool.and_false]
  rw [closed] at tracks
  obtain ⟨settled⟩ | _ := tracks
  rw [(step_enter session).1, opens, recorded_enter undisturbed, dialled]
  simp only [Option.toList_none, List.append_nil]
  cases refused : session.feed.link.connectFault with
  | some fault =>
      rw [openingFault?, refused, Option.some_or]
      simpa using Tracks.closed settled
  | none =>
      cases (openingFault? session.feed.settings session.feed.link).isNone with
      | true =>
          refine Tracks.opened ?_ settled
          rw [List.filter_append, filter_handles_arrival]
          rfl
      | false =>
          exact Tracks.closed (List.rel_append settled
            (.cons (filter_handles_arrival session.feed.settings) .nil))

/-- A held socket is released when the feed is closed. -/
theorem Tracks.exit {session : FeedSession} {sockets : Sockets} {dials : List Bool}
    (tracks : Tracks session.feed.isOpen sockets dials) :
    Tracks (session.step .exit).2.1.feed.isOpen (session.recorded .exit sockets) dials := by
  simp only [recorded, step, FeedSession.exit, Feed.exit]
  generalize session.feed.isOpen = isOpen at tracks
  cases tracks with
  | closed settled => simpa [Sockets.settle] using Tracks.closed settled
  | opened streams settled =>
      simp only [if_true, List.foldl_cons, List.foldl_nil, Sockets.record, Sockets.settle,
        Option.toList_none, List.append_nil]
      refine Tracks.closed (List.rel_append settled (.cons ?_ .nil))
      simp [Settled, Socket.Released, List.filter_append, streams, Call.handles]

/-- Any other step asks for nothing but shutdowns. -/
theorem shutdown_of_step (session : FeedSession) {step : Step} (stays : step ≠ .enter)
    (keeps : step ≠ .exit) :
    (session.step step).2.1.feed.isOpen = session.feed.isOpen ∧
      ∀ call ∈ (session.step step).2.2.calls, call = .shutdown := by
  cases step with
  | enter => exact absurd rfl stays
  | exit => exact absurd rfl keeps
  | read =>
      obtain ⟨items, chain, _⟩ := read_reads session
      exact ⟨chain.isOpen_eq, chain.shutdown⟩
  | list =>
      obtain ⟨items, chain⟩ := list_reads session
      exact ⟨chain.isOpen_eq, chain.shutdown⟩
  | next =>
      obtain ⟨items, chain, _⟩ := next_reads session
      exact ⟨chain.isOpen_eq, chain.shutdown⟩
  | cancel =>
      refine ⟨rfl, fun call asked => ?_⟩
      change call ∈ (session.feed.cancelIf true).2.calls at asked
      rw [calls_cancelIf] at asked
      split at asked
      · exact List.mem_singleton.mp asked
      · cases asked
  | renewIterator => exact ⟨rfl, nofun⟩
  | relink link => exact ⟨rfl, nofun⟩

/-- A closed feed asks for nothing until it is entered. -/
theorem calls_of_closed {session : FeedSession} (closed : session.feed.isOpen = false) {step : Step}
    (stays : step ≠ .enter) : (session.step step).2.2.calls = [] := by
  cases step with
  | enter => exact absurd rfl stays
  | exit => simp [step, FeedSession.exit, Feed.exit, closed]
  | read => simp [step, read, closed]
  | list => simp [step, list, closed]
  | cancel => simp [step, cancel, Feed.cancel, closed]
  | next =>
      simp only [step, next, closed]
      split <;> rfl
  | renewIterator => rfl
  | relink link => rfl

/-- Apart from entering and leaving, a step leaves every socket where it is. -/
theorem Tracks.stay {session : FeedSession} {sockets : Sockets} {dials : List Bool}
    (tracks : Tracks session.feed.isOpen sockets dials) {step : Step} (stays : step ≠ .enter)
    (keeps : step ≠ .exit) :
    Tracks (session.step step).2.1.feed.isOpen (session.recorded step sockets) dials := by
  obtain ⟨same, only⟩ := session.shutdown_of_step stays keeps
  have silent := fun closed : session.feed.isOpen = false => calls_of_closed closed stays
  rw [same, recorded]
  generalize session.feed.isOpen = isOpen at tracks silent
  cases tracks with
  | closed settled =>
      rw [silent rfl]
      simpa [Sockets.settle] using Tracks.closed settled
  | opened streams settled =>
      rw [foldl_record_shutdowns only, Sockets.settle, Option.toList_none, List.append_nil]
      refine Tracks.opened ?_ settled
      rw [List.filter_append, streams, filter_handles_shutdowns only, List.append_nil]

/-- Every step keeps the sockets and the dials in agreement. -/
theorem Tracks.step {session : FeedSession} {sockets : Sockets} {dials : List Bool}
    (tracks : Tracks session.feed.isOpen sockets dials) {step : Step}
    (managed : step = .enter → session.feed.isOpen = false) :
    Tracks (session.step step).2.1.feed.isOpen (session.recorded step sockets)
      (dials ++ (session.dialled step).toList) := by
  by_cases enters : step = .enter
  · subst enters
    exact tracks.enter (managed rfl)
  · have undialled : session.dialled step = none := by
      cases step <;> first | rfl | exact absurd rfl enters
    rw [undialled, Option.toList_none, List.append_nil]
    by_cases leaves : step = .exit
    · subst leaves
      exact tracks.exit
    · exact tracks.stay enters leaves

/-- Every managed run keeps the sockets and the dials in agreement. -/
theorem Tracks.run {session : FeedSession} {sockets : Sockets} {dials : List Bool}
    (tracks : Tracks session.feed.isOpen sockets dials) {steps : List Step}
    (managed : session.Managed steps) :
    Tracks (session.after steps).feed.isOpen (session.sockets sockets steps)
      (dials ++ session.dials steps) := by
  induction steps generalizing session sockets dials with
  | nil => simpa [FeedSession.sockets, FeedSession.dials] using tracks
  | cons step rest ih =>
      rw [after_cons, FeedSession.sockets, FeedSession.dials, ← List.append_assoc]
      exact ih (tracks.step managed.1) managed.2

theorem Settled.iff {socket : Socket} {opened : Bool} (settled : Settled socket opened) :
    (socket.Released ↔ opened = true) ∧ (socket.ClosedOnce ↔ opened = true) ∧
      (socket.Leaked ↔ opened = false) := by
  cases opened with
  | true =>
      have released : socket.Released := settled
      have kept : ¬ socket.Leaked := fun leaked => leaked.not_closedOnce released.closedOnce
      simp [released, released.closedOnce, kept]
  | false =>
      have leaked : socket.Leaked := settled
      have unreleased : ¬ socket.Released := fun released =>
        leaked.not_closedOnce released.closedOnce
      simp [leaked, leaked.not_closedOnce, unreleased]

/-- Exactly the sockets on which a managed feed opens are released. -/
theorem released_iff_of_managed (settings : Settings) (link : Link) (script : List ScriptItem)
    (steps : List Step) (managed : (start settings link script).Managed steps)
    (left : ((start settings link script).after steps).feed.isOpen = false) :
    let session := start settings link script
    let sockets := session.sockets {} steps
    sockets.arriving = none ∧ sockets.held = none ∧ sockets.stray = [] ∧
      List.Forall₂ (fun socket opened =>
        (socket.Released ↔ opened = true) ∧ (socket.ClosedOnce ↔ opened = true) ∧
          (socket.Leaked ↔ opened = false))
        sockets.dropped (session.dials steps) := by
  intro session sockets
  have initial : Tracks session.feed.isOpen {} [] := .closed .nil
  have tracks : Tracks (session.after steps).feed.isOpen sockets (session.dials steps) :=
    initial.run managed
  rw [left] at tracks
  generalize sockets = reached at tracks
  obtain ⟨settled⟩ | _ := tracks
  exact ⟨rfl, rfl, rfl, settled.imp fun _ _ => Settled.iff⟩

/-- The first socket is leaked, and the second one is released. -/
theorem released_iff_of_managed_relinked :
    let session := start {} { sendFault := some "broken pipe".toList } []
    let steps : List Step := [.enter, .relink {}, .enter, .cancel, .read, .exit]
    session.Managed steps ∧ (session.after steps).feed.isOpen = false ∧
      (session.sockets {} steps).stray = [] ∧
      List.Forall₂ (fun socket opened =>
        (socket.Released ↔ opened = true) ∧ (socket.ClosedOnce ↔ opened = true) ∧
          (socket.Leaked ↔ opened = false))
        (session.sockets {} steps).dropped [false, true] := by
  intro session steps
  have managed : session.Managed steps :=
    ⟨fun _ => rfl, nofun, fun _ => rfl, nofun, nofun, nofun, trivial⟩
  have left : (session.after steps).feed.isOpen = false := rfl
  exact ⟨managed, left, (released_iff_of_managed _ _ _ steps managed left).2.2⟩

/-- A socket that takes no command is never closed. -/
theorem left_socket_unreleased :
    ¬ ∀ (settings : Settings) (link : Link) (script : List ScriptItem) (steps : List Step),
      (start settings link script).Managed steps →
        ((start settings link script).after steps).feed.isOpen = false →
          ∀ socket ∈ ((start settings link script).sockets {} steps).dropped,
            socket.ClosedOnce := by
  intro every
  have closed : (arrival {}).ClosedOnce :=
    every {} { sendFault := some "broken pipe".toList } [] [.enter] ⟨fun _ => rfl, trivial⟩ rfl _
      (List.mem_singleton_self _)
  exact Socket.Leaked.not_closedOnce (filter_handles_arrival {}) closed

end FeedSession

end MarineFix
