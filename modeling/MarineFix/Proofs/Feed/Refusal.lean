import MarineFix.Proofs.Feed.Sockets
/-!
A session that fails to be entered goes on as if nobody had tried.
-/

namespace MarineFix

namespace Feed

/-- The same sockets are in use, whatever was dropped. -/
structure Sockets.Alike (first second : Sockets) : Prop where
  arriving : first.arriving = second.arriving
  held : first.held = second.held

theorem Sockets.Alike.record {first second : Sockets} (alike : Alike first second) (accepts : Bool)
    (call : Call) : Alike (first.record accepts call) (second.record accepts call) := by
  obtain ⟨arriving, held, dropped, stray⟩ := first
  obtain ⟨_, _, others, lost⟩ := second
  obtain ⟨rfl, rfl⟩ := alike
  cases call with
  | connect host port => cases accepts <;> exact ⟨rfl, rfl⟩
  | send text => cases arriving <;> exact ⟨rfl, rfl⟩
  | openStream => cases arriving <;> exact ⟨rfl, rfl⟩
  | shutdown => cases held <;> exact ⟨rfl, rfl⟩
  | closeStream => cases held <;> exact ⟨rfl, rfl⟩
  | closeSocket => cases held <;> exact ⟨rfl, rfl⟩

/-- What was dropped has no influence on the sockets that are still in use. -/
theorem Sockets.Alike.foldl_record {first second : Sockets} (alike : Alike first second)
    (accepts : Bool) (calls : List Call) :
    Alike (calls.foldl (Sockets.record accepts) first)
      (calls.foldl (Sockets.record accepts) second) := by
  induction calls generalizing first second with
  | nil => exact alike
  | cons call rest ih => exact ih (alike.record accepts call)

end Feed

namespace FeedSession

open Feed

theorem alike_sockets (session : FeedSession) {first second : Sockets}
    (alike : first.Alike second) (steps : List Step) :
    (session.sockets first steps).Alike (session.sockets second steps) := by
  induction steps generalizing session first second with
  | nil => exact alike
  | cons step rest ih =>
      have recorded := alike.foldl_record session.feed.link.connectFault.isNone
        (session.step step).2.2.calls
      exact ih (session.step step).2.1 ⟨rfl, recorded.held⟩

/-- Two runs in a row record the sockets of both. -/
theorem sockets_append (session : FeedSession) (before : Sockets) (first second : List Step) :
    session.sockets before (first ++ second) =
      (session.after first).sockets (session.sockets before first) second := by
  induction first generalizing session before with
  | nil => rfl
  | cons step rest ih => exact ih (session.step step).2.1 (session.recorded step before)

/-- Between two steps no socket is on the way. -/
theorem arriving_sockets (session : FeedSession) {before : Sockets} (settled : before.arriving = none)
    (steps : List Step) : (session.sockets before steps).arriving = none := by
  induction steps generalizing session before with
  | nil => exact settled
  | cons step rest ih => exact ih (session.step step).2.1 rfl

/-- Entering that fails leaves at most a cancellation behind. -/
theorem step_enter_of_fault {session : FeedSession} {fault : Text}
    (fails : openingFault? session.feed.settings session.feed.link = some fault) :
    (session.step .enter).1 = .unavailable fault ∧
      (session.step .enter).2.1 = (if session.feed.link.cancelsWhileConnecting then
        (session.step .cancel).2.1 else session) ∧
      (session.step .enter).2.2.logs = [] ∧ (session.step .enter).2.2.reads = 0 := by
  have outcome := enter_outcome session.feed
  rw [fails] at outcome
  obtain ⟨refused, silent⟩ := outcome
  obtain ⟨state, _, unread, _⟩ := enter_spec session.feed
  rcases result : session.feed.enter with ⟨answer, after, effects⟩
  rw [result] at refused silent state unread
  dsimp only at refused silent state unread
  subst refused
  dsimp only at state
  simp only [step, enter, result, state, cancel, Feed.cancel]
  refine ⟨trivial, ?_, silent, unread⟩
  cases session.feed.link.cancelsWhileConnecting <;> simp

/-- Entering that fails keeps the held socket. -/
theorem alike_recorded_of_fault {session : FeedSession} {fault : Text}
    (calm : session.feed.link.cancelsWhileConnecting = false)
    (fails : openingFault? session.feed.settings session.feed.link = some fault) {sockets : Sockets}
    (settled : sockets.arriving = none) : (session.recorded .enter sockets).Alike sockets := by
  obtain ⟨arriving, held, dropped, stray⟩ := sockets
  obtain rfl : arriving = none := settled
  rw [recorded_enter (by rw [calm, Bool.false_and]), dialled, fails]
  cases session.feed.link.connectFault.isNone <;> exact ⟨rfl, rfl⟩

/-- A failed attempt to enter a session changes nothing. -/
theorem failed_enter_forgotten (session : FeedSession) (earlier later : List Step) (fault : Text)
    (calm : (session.after earlier).feed.link.cancelsWhileConnecting = false)
    (fails : openingFault? (session.after earlier).feed.settings (session.after earlier).feed.link =
      some fault) :
    let failed := (session.after earlier).step .enter
    let attempted := earlier ++ .enter :: later
    let avoided := earlier ++ later
    failed.1 = .unavailable fault ∧ failed.2.1 = session.after earlier ∧ failed.2.2.logs = [] ∧
      failed.2.2.reads = 0 ∧
      session.transcript avoided = (session.transcript attempted).eraseIdx earlier.length ∧
      session.after avoided = session.after attempted ∧
      ∀ sockets, sockets.arriving = none →
        (session.sockets sockets avoided).held = (session.sockets sockets attempted).held := by
  intro failed attempted avoided
  obtain ⟨refused, state, silent, unread⟩ := step_enter_of_fault fails
  rw [calm, if_neg Bool.false_ne_true] at state
  have same : failed.2.1 = session.after earlier := state
  refine ⟨refused, same, silent, unread, ?_, ?_, ?_⟩
  · rw [transcript_append, transcript_append, transcript_cons, same,
      ← session.length_transcript earlier, List.eraseIdx_append_of_length_le (Nat.le_refl _),
      Nat.sub_self, List.eraseIdx_zero, List.tail_cons]
  · rw [after_append, after_append, after_cons, same]
  · intro sockets settled
    have kept := alike_recorded_of_fault calm fails (session.arriving_sockets settled earlier)
    rw [sockets_append, sockets_append, FeedSession.sockets, same]
    exact (alike_sockets _ kept later).held.symm

/-- A session that is open reads on after a failed attempt. -/
theorem failed_enter_forgotten_open :
    let script : List ScriptItem :=
      ["$GPVTG", "$GPVTG,,,,,,,,,*7E", "$GPVTG,,,,,,,,,*7E"].map fun line =>
        ⟨false, .bytes (line.toList.map fun char => UInt8.ofNat char.toNat)⟩
    let session := start {} {} script
    let earlier : List Step := [.enter, .read, .relink { sendFault := some "broken pipe".toList }]
    let reached := session.after earlier
    let later : List Step := [.read, .exit]
    reached.feed.isOpen = true ∧ reached.feed.skipped = 1 ∧
      reached.feed.link.cancelsWhileConnecting = false ∧
      openingFault? reached.feed.settings reached.feed.link = some "broken pipe".toList ∧
      (reached.step .enter).1 = .unavailable "broken pipe".toList ∧
      (reached.step .enter).2.1 = reached ∧
      session.transcript (earlier ++ later) =
        (session.transcript (earlier ++ .enter :: later)).eraseIdx 3 ∧
      (reached.step .read).1 = .record (.vtg ⟨some .gps, none, none, none, none, none⟩) := by
  intro script session earlier reached later
  have calm : reached.feed.link.cancelsWhileConnecting = false := rfl
  have fails : openingFault? reached.feed.settings reached.feed.link =
      some "broken pipe".toList := rfl
  obtain ⟨refused, same, _, _, forgotten, _⟩ :=
    session.failed_enter_forgotten earlier later _ calm fails
  exact ⟨rfl, rfl, calm, fails, refused, same, forgotten, rfl⟩

end FeedSession

end MarineFix
