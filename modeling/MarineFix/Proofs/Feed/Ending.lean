import MarineFix.Proofs.Feed.Cancellation
/-!
A feed that collects its records reads up to the item that ends the reading.
-/

namespace MarineFix.Feed

/-- A source ends when it has no more bytes or when its connection drops. -/
def Delivery.ends : Delivery → Bool
  | .bytes [] => true
  | .dropped => true
  | _ => false

/-- No item is read after this one. -/
def ScriptItem.isLast (item : ScriptItem) : Bool := item.cancels || item.delivery.ends

/-- The items up to the one that ends the reading. -/
def heard : List ScriptItem → List ScriptItem
  | [] => []
  | item :: rest => if item.isLast then [item] else item :: heard rest

/-- The records that the source gives before it ends, in their order. -/
def offered (decoder : Decoder) (script : List ScriptItem) : List Record :=
  (heard script).filterMap (·.delivery.record? decoder)

/-- The fault that keeps a feed from opening. -/
def openingFault? (settings : Settings) (link : Link) : Option Text :=
  link.connectFault.or (if settings.watch then link.sendFault else none)

/-- What opening asks of the connection. -/
def openingCalls (settings : Settings) : List Call :=
  .connect settings.host settings.port ::
    (if settings.watch then [.send watchCommand] else []) ++ [.openStream]

theorem decodeLine_ne_stopped (feed : Feed) (line : Text) (stop : Stop) :
    (feed.decodeLine line).1 ≠ .stopped stop := by
  rw [decodeLine]
  split
  · simp
  · split <;> simp

/-- An end of the source stops the reading. -/
theorem receive_of_ends (feed : Feed) {delivery : Delivery} (ends : delivery.ends = true) :
    ∃ stop, (feed.receive delivery).1 = .stopped stop := by
  cases delivery with
  | timeout => simp [Delivery.ends] at ends
  | dropped => exact ⟨.closed, rfl⟩
  | bytes received =>
      cases received with
      | nil => exact ⟨.ended, rfl⟩
      | cons byte rest => simp [Delivery.ends] at ends

/-- Only an end of the source stops a feed that is not cancelled. -/
theorem receive_of_not_ends {feed : Feed} (active : feed.cancelled = false) {delivery : Delivery}
    (goesOn : delivery.ends = false) (stop : Stop) :
    (feed.receive delivery).1 ≠ .stopped stop := by
  cases delivery with
  | timeout => simp [receive, active]
  | dropped => simp [Delivery.ends] at goesOn
  | bytes received =>
      cases received with
      | nil => simp [Delivery.ends] at goesOn
      | cons byte rest => exact decodeLine_ne_stopped feed _ stop

/-- Nothing is asked of the connection, and only skipped sentences are reported. -/
structure Effects.Quiet (effects : Effects) : Prop where
  calls : effects.calls = []
  warns : ∀ line ∈ effects.logs, line.level = .warning

theorem Effects.Quiet.empty (reads : Nat) : Effects.Quiet { reads } :=
  ⟨rfl, fun _ member => absurd member List.not_mem_nil⟩

theorem Effects.Quiet.append {first second : Effects} (before : first.Quiet)
    (behind : second.Quiet) : (first ++ second).Quiet where
  calls := by rw [Effects.calls_append, before.calls, behind.calls, List.append_nil]
  warns line member := by
    rw [Effects.logs_append, List.mem_append] at member
    exact member.elim (before.warns line) (behind.warns line)

/-- Every report is a warning. -/
theorem Effects.Quiet.levels {effects : Effects} (quiet : effects.Quiet) :
    effects.logs.map (·.level) = List.replicate effects.warnings .warning := by
  have all : effects.warnings = effects.logs.length :=
    List.countP_eq_length.mpr fun line member => decide_eq_true (quiet.warns line member)
  rw [all, List.eq_replicate_iff, List.length_map]
  refine ⟨rfl, fun level member => ?_⟩
  obtain ⟨line, inside, rfl⟩ := List.mem_map.mp member
  exact quiet.warns line inside

theorem quiet_receive (feed : Feed) (delivery : Delivery) : (feed.receive delivery).2.2.Quiet := by
  cases delivery with
  | timeout => exact .empty 0
  | dropped => exact .empty 0
  | bytes received =>
      cases received with
      | nil => exact .empty 0
      | cons byte rest =>
          simp only [receive, decodeLine]
          split
          · exact .empty 0
          · split
            · exact .empty 0
            · exact .empty 0
            · exact ⟨rfl, by simp [skipReport]⟩

/-- Reading without a cancellation asks nothing of the connection. -/
theorem Reads.quiet {feed after : Feed} {items : List ScriptItem} {records : List Record}
    {effects : Effects} (chain : Reads feed items records after effects)
    (steady : ∀ item ∈ items, item.cancels = false) : effects.Quiet := by
  induction chain with
  | idle feed => exact .empty 0
  | ended active empty => exact .empty 1
  | @item feed after item rest items records effects active script later ih =>
      have first : (feed.readItem item).2.2.Quiet := by
        rw [readItem, cancelIf, steady item List.mem_cons_self, if_neg Bool.false_ne_true]
        exact ((Effects.Quiet.empty 1).append (.empty 0)).append (quiet_receive feed item.delivery)
      exact first.append (ih fun other member => steady other (List.mem_cons_of_mem _ member))

/-- The items that are read stand at the front of the script. -/
theorem heard_prefix_script (script : List ScriptItem) : heard script <+: script := by
  induction script with
  | nil => exact List.prefix_rfl
  | cons item rest ih =>
      rw [heard]
      split
      · exact ⟨rest, rfl⟩
      · exact List.cons_prefix_cons.mpr ⟨rfl, ih⟩

/-- An item that is not the last one leaves the feed reading. -/
theorem readItem_of_not_last {feed : Feed} (active : feed.cancelled = false) (item : ScriptItem)
    (goesOn : item.isLast = false) :
    (∀ stop, (feed.readItem item).1 ≠ .stopped stop) ∧
      (feed.readItem item).2.1.cancelled = false := by
  rw [ScriptItem.isLast, Bool.or_eq_false_iff] at goesOn
  obtain ⟨steady, more⟩ := goesOn
  obtain ⟨_, state, _, _⟩ := readItem_spec feed item
  refine ⟨fun stop => ?_, by rw [state, active, steady]; rfl⟩
  simp only [readItem, cancelIf, steady, if_false, Bool.false_eq_true]
  exact receive_of_not_ends active more stop

/-- The last item stops the reading or leaves the feed cancelled. -/
theorem readItem_of_last (feed : Feed) (item : ScriptItem) (last : item.isLast = true) :
    (∃ stop, (feed.readItem item).1 = .stopped stop) ∨
      (feed.readItem item).2.1.cancelled = true := by
  rw [ScriptItem.isLast, Bool.or_eq_true] at last
  rcases last with cancels | ends
  · obtain ⟨_, state, _, _⟩ := readItem_spec feed item
    exact .inr (by rw [state, cancels, Bool.or_true])
  · obtain ⟨stop, stopped⟩ := receive_of_ends (feed.cancelIf item.cancels).1 ends
    exact .inl ⟨stop, stopped⟩

/-- Collecting takes the items up to the one that ends the reading. -/
theorem collectScript_heard {feed : Feed} (active : feed.cancelled = false)
    (script : List ScriptItem) :
    let result := feed.collectScript script
    Reads { feed with script } (heard script) result.1 result.2.1 result.2.2 := by
  induction script generalizing feed with
  | nil =>
      rw [collectScript, if_neg (by simp [active])]
      exact .ended active rfl
  | cons item rest ih =>
      rw [collectScript, if_neg (by simp [active]), heard]
      have goesOn := readItem_of_not_last active item
      have ends := readItem_of_last feed item
      rcases result : feed.readItem item with ⟨reading, next, effects⟩
      rw [result] at goesOn ends
      dsimp only at goesOn ends
      cases last : item.isLast with
      | false =>
          obtain ⟨unstopped, stays⟩ := goesOn last
          rw [if_neg Bool.false_ne_true]
          cases reading with
          | stopped stop => exact absurd rfl (unstopped stop)
          | record record => exact Reads.of_readItem active result (ih stays)
          | nothing => exact Reads.of_readItem active result (ih stays)
      | true =>
          rw [if_pos rfl]
          cases reading with
          | stopped stop => exact Reads.single active result
          | record record =>
              obtain ⟨_, stopped⟩ | cancelled := ends last
              · cases stopped
              · simp only [collectScript_of_cancelled cancelled, Effects.append_empty]
                exact Reads.single active result
          | nothing =>
              obtain ⟨_, stopped⟩ | cancelled := ends last
              · cases stopped
              · simp only [collectScript_of_cancelled cancelled, Effects.append_empty]
                exact Reads.single active result

/-- Collecting gives the records of the items that are read. -/
theorem collect_spec {feed : Feed} (active : feed.cancelled = false) :
    let items := heard feed.script
    let result := feed.collect
    result.1 = offered feed.settings.decoder feed.script ∧
      result.2.1 = { feed with
        script := feed.script.drop items.length
        cancelled := items.any (·.cancels)
        skipped := feed.skipped + items.countP (·.delivery.isRejected feed.settings.decoder) } ∧
      result.2.2.warnings = items.countP (·.delivery.isRejected feed.settings.decoder) ∧
      ((∀ item ∈ items, item.cancels = false) → result.2.2.Quiet) := by
  intro items result
  have chain : Reads feed items result.1 result.2.1 result.2.2 :=
    collectScript_heard active feed.script
  have state := chain.after_eq
  rw [active, Bool.false_or] at state
  have unread : result.2.1.script = feed.script.drop items.length := by
    have taken := chain.script_eq
    rw [taken, List.drop_left]
  rw [unread] at state
  exact ⟨chain.records_eq, state, chain.warnings_eq, chain.quiet⟩

/-- Opening fails silently and for a fault of the source only. -/
theorem enter_outcome (feed : Feed) :
    match openingFault? feed.settings feed.link with
    | some fault => feed.enter.1 = .error fault ∧ feed.enter.2.2.logs = []
    | none => feed.enter.1 = .ok () := by
  obtain ⟨state, _, _⟩ := cancelIf_spec feed.link.cancelsWhileConnecting feed
  have silent : (feed.cancelIf feed.link.cancelsWhileConnecting).2.logs = [] := by
    rw [cancelIf]
    split <;> rfl
  rcases cancelling : feed.cancelIf feed.link.cancelsWhileConnecting with ⟨reached, effects⟩
  rw [cancelling] at state silent
  dsimp only at state silent
  subst state
  simp only [enter, cancelling, openingFault?]
  cases feed.link.connectFault with
  | some fault => simp [silent]
  | none =>
      cases watch : feed.settings.watch with
      | false => simp [sendWatch, watch]
      | true => cases sent : feed.link.sendFault <;> simp [sendWatch, watch, sent, silent]

/-- A feed that opens undisturbed makes these calls and announces itself. -/
theorem enter_effects {feed : Feed} (calm : feed.link.cancelsWhileConnecting = false)
    (opens : openingFault? feed.settings feed.link = none) :
    feed.enter.2.2.calls = openingCalls feed.settings ∧
      feed.enter.2.2.logs = [connectReport feed.settings] := by
  obtain ⟨connects, sends⟩ := Option.or_eq_none_iff.mp opens
  simp only [enter, cancelIf, calm, Bool.false_eq_true, if_false, connects, openingCalls]
  cases watch : feed.settings.watch with
  | false => simp [sendWatch, watch]
  | true =>
      rw [watch, if_pos rfl] at sends
      simp [sendWatch, watch, sends]

end MarineFix.Feed
