import MarineFix.Proofs.Broadcast.Window
import MarineFix.Proofs.Decode.Message
import MarineFix.Proofs.Feed.Ending
/-!
A relay publishes the records of its source and reports one end.
-/

namespace MarineFix.Relay

open Feed

section

variable {Key : Type} [DecidableEq Key]

/-- A feed that cannot be opened publishes nothing and reports nothing itself. -/
theorem run_of_fault (feed : Feed) {fault : Text}
    (fails : openingFault? feed.settings feed.link = some fault) (hub : Hub Key) :
    ∃ effects, run feed hub = (.error fault, { feed with
        cancelled := feed.cancelled || feed.link.cancelsWhileConnecting }, hub, effects) ∧
      effects.logs = [] := by
  have outcome := enter_outcome feed
  obtain ⟨state, _⟩ := enter_spec feed
  rcases entering : feed.enter with ⟨result, entered, effects⟩
  rw [entering, fails] at outcome
  rw [entering] at state
  dsimp only at outcome state
  obtain ⟨rfl, silent⟩ := outcome
  have reached : entered = _ := state
  exact ⟨effects, by simp only [run, entering, reached], silent⟩

/-- The feed as it has opened. -/
def opened (feed : Feed) : Feed :=
  { feed with
    cancelled := feed.cancelled || feed.link.cancelsWhileConnecting
    isOpen := true
    skipped := 0 }

/-- A feed that opens relays all that it collects and is closed again. -/
theorem run_of_opens (feed : Feed) (opens : openingFault? feed.settings feed.link = none)
    (hub : Hub Key) :
    let collected := (opened feed).collect
    run feed hub = (.ok collected.1.length, collected.2.1.exit.1,
      broadcast hub (collected.1.map Record.message),
      feed.enter.2.2 ++ collected.2.2 ++ collected.2.1.exit.2) := by
  have outcome := enter_outcome feed
  obtain ⟨state, _⟩ := enter_spec feed
  rcases entering : feed.enter with ⟨result, entered, effects⟩
  rw [entering, opens] at outcome
  rw [entering] at state
  dsimp only at outcome state
  subst outcome
  have reached : entered = opened feed := state
  simp only [run, entering, reached]

/-- A feed that nobody cancels relays what its source offers. -/
theorem run_of_calm (feed : Feed) (active : feed.cancelled = false)
    (calm : feed.link.cancelsWhileConnecting = false)
    (steady : ∀ item ∈ feed.script, item.cancels = false)
    (opens : openingFault? feed.settings feed.link = none) (hub : Hub Key) :
    let items := heard feed.script
    let records := offered feed.settings.decoder feed.script
    ∃ effects, run feed hub = (.ok records.length, { feed with
        script := feed.script.drop items.length
        isOpen := false
        skipped := items.countP (·.delivery.isRejected feed.settings.decoder) },
        broadcast hub (records.map Record.message), effects) ∧
      effects.calls = openingCalls feed.settings ++ [.closeStream, .closeSocket] ∧
      effects.logs.map (·.level) = .info :: List.replicate
        (items.countP (·.delivery.isRejected feed.settings.decoder)) .warning := by
  have uncancelled : (opened feed).cancelled = false := by simp [opened, active, calm]
  have quiet : ∀ item ∈ heard feed.script, item.cancels = false := fun item member =>
    steady item ((heard_prefix_script feed.script).subset member)
  have unmarked : (heard feed.script).any (·.cancels) = false := by
    rw [List.any_eq_false]
    exact fun item member => by simp [quiet item member]
  obtain ⟨given, state, warnings, silent⟩ := collect_spec uncancelled
  obtain ⟨calls, logs⟩ := enter_effects calm opens
  refine ⟨feed.enter.2.2 ++ (opened feed).collect.2.2 ++ (opened feed).collect.2.1.exit.2,
    ?_, ?_, ?_⟩
  · rw [run_of_opens feed opens hub, given, state]
    simp only [exit, opened, active, unmarked, Nat.zero_add]
  · rw [Effects.calls_append, Effects.calls_append, calls, (silent quiet).calls, state,
      List.append_nil]
    rfl
  · rw [Effects.logs_append, Effects.logs_append, logs, exit, List.append_nil, List.map_append,
      (silent quiet).levels, warnings]
    rfl

end

/-- A relay that is cancelled while it connects publishes nothing. -/
def published (settings : Settings) (link : Link) (script : List ScriptItem) : List Text :=
  if (openingFault? settings link).isSome || link.cancelsWhileConnecting then []
  else (offered settings.decoder script).map Record.message

/-- A relay leaves its hub as a broadcast of the published messages does. -/
theorem delivered_run {Key : Type} [DecidableEq Key] (settings : Settings) (link : Link)
    (script : List ScriptItem) {hub : Hub Key} (idle : hub.pending = []) :
    (run { settings, link, script } hub).2.2.1 =
      broadcast hub (published settings link script) := by
  have silent : broadcast hub [] = hub := by
    rw [broadcast, List.foldl_nil, Hub.tick, idle, List.foldl_nil, ← idle]
  let feed : Feed := { settings, link, script }
  cases opening : openingFault? settings link with
  | some fault =>
      obtain ⟨effects, relayed, _⟩ := run_of_fault feed opening hub
      rw [relayed, published, opening]
      exact silent.symm
  | none =>
      rw [run_of_opens feed opening hub, published, opening]
      cases calm : link.cancelsWhileConnecting with
      | true =>
          have stopped : (opened feed).cancelled = true := by simp [opened, feed, calm]
          rw [collect, collectScript_of_cancelled stopped]
          rfl
      | false =>
          have active : (opened feed).cancelled = false := by simp [opened, feed, calm]
          rw [(collect_spec active).1]
          rfl

/-- Every record that a source gives has a message. -/
theorem message?_of_offered {decoder : Decoder} {script : List ScriptItem} {record : Record}
    (given : record ∈ offered decoder script) : record.message? = some record.message := by
  obtain ⟨item, _, found⟩ := List.mem_filterMap.mp given
  obtain ⟨sentence, decoded⟩ := Delivery.exists_decode found
  exact Decoder.message?_of_decode decoded

/-- A relay delivers the newest records of its source or reports why it cannot. -/
theorem serve_accounted (settings : Settings) (link : Link) (script : List ScriptItem)
    (capacities : List Int) (calm : link.cancelsWhileConnecting = false)
    (steady : ∀ item ∈ script, item.cancels = false) :
    let feed : Feed := { settings, link, script }
    let hub := Hub.ofCapacities capacities
    let (outcome, after, delivered, effects) := run feed hub
    let (logs, served) := serve feed hub
    served = (after, delivered, effects) ∧
      match openingFault? settings link with
      | some fault =>
          outcome = .error fault ∧ after = feed ∧ delivered = hub ∧
            (∀ key, delivered.held key = []) ∧ effects.logs = [] ∧
            logs = [{ level := .error
                      text := "NMEA source unavailable: ".toList ++ fault }]
      | none =>
          let items := heard script
          let records := offered settings.decoder script
          outcome = .ok records.length ∧
            (∀ record ∈ records, record.message? = some record.message) ∧
            (∀ (key : Nat) (capacity : Int), capacities[key]? = some capacity →
              delivered.held key = Mailbox.newest capacity (records.map Record.message)) ∧
            after = { feed with
              script := script.drop items.length
              skipped := items.countP (·.delivery.isRejected settings.decoder) } ∧
            effects.calls = openingCalls settings ++ [.closeStream, .closeSocket] ∧
            effects.logs.map (·.level) = .info :: List.replicate after.skipped .warning ∧
            logs = [{ level := .info
                      text := "NMEA stream finished after ".toList ++
                        Text.ofNat records.length ++ " messages".toList }] := by
  intro feed hub
  dsimp only [serve]
  refine ⟨rfl, ?_⟩
  cases opening : openingFault? settings link with
  | some fault =>
      obtain ⟨effects, relayed, silent⟩ := run_of_fault feed opening hub
      rw [relayed]
      dsimp only [feed]
      rw [calm]
      exact ⟨rfl, rfl, rfl, Hub.held_ofCapacities capacities, silent, rfl⟩
  | none =>
      obtain ⟨effects, relayed, calls, levels⟩ :=
        run_of_calm feed rfl calm steady opening hub
      rw [relayed]
      exact ⟨rfl, fun record => message?_of_offered,
        fun key capacity place => Hub.held_broadcast_ofCapacities place _, rfl, calls, levels, rfl⟩

/-- A connection that drops is not reported as an error. -/
theorem serve_accounted_dropped :
    let sentence : ScriptItem :=
      ⟨false, .bytes ("$GPVTG,,,,,,,,,*7E".toList.map fun char => UInt8.ofNat char.toNat)⟩
    let script := [sentence, ⟨false, .dropped⟩, sentence]
    (∀ item ∈ script, item.cancels = false) ∧
      (serve { script } (Hub.ofCapacities [2])).1 =
        [{ level := .info, text := "NMEA stream finished after 1 messages".toList }] := by
  intro sentence script
  have steady : ∀ item ∈ script, item.cancels = false := by decide
  obtain ⟨_, _, _, _, _, _, _, logs⟩ := serve_accounted {} {} script [2] rfl steady
  have given : (offered {} script).length = 1 := by decide
  refine ⟨steady, logs.trans ?_⟩
  rw [given]
  rfl

end MarineFix.Relay
