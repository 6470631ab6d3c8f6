/-
# XBloom.Coordinator.Cancel — what a cancel stops, and what it cannot stop

A cancel reads its flags once.  An armed page or a pod prompt sends it down the quit branch, whatever
else runs (`cancel_reaches_iff`).  It ends no other coroutine, so a call in flight goes on unless it has
nothing left to start (`cancel_is_final`).
-/
import XBloom.Async.Pools
import XBloom.Coordinator.Calls
import XBloom.Coordinator.Footprints
import XBloom.Recipe.Tombstones

namespace XBloom.Coordinator

open XBloom.Async XBloom.Logic XBloom.Py XBloom.Ble XBloom.Recipe

/-! ## The commands of a cancel -/

/-- The command of a packet that is sent. -/
def Event.command : Event → Option Command
  | .sent _ packet => some packet.command
  | _ => none

/-- The commands a task sent. -/
def sentBy (t : ℕ) (tr : Trace Call Event) : List Command :=
  (tr.filter fun e => e.task = t).filterMap fun e => e.event.command

/-- The stop of an operation. -/
def Operation.stopCommand : Operation → Command
  | .recipe => .recipeStop
  | .manualGrind => .grinderStop
  | .manualPour => .brewerStop

/-- The first command of a cancel, from the flags it finds. -/
def World.cancelCommand (w : World) : Command :=
  match quitCommands w.armedOperation w.podPromptActive, w.activeOperation with
  | quit :: _, _ => quit
  | [], some op => op.stopCommand
  | [], none => .recipeStop

theorem linkUp_iff {w : World} :
    w.linkUp = true ↔ ∃ c, w.client = some c ∧ w.isConnected c = true := by
  unfold World.linkUp
  cases w.client <;> simp

theorem quitCommands_eq_nil {armed : Option Armed} {podPrompt : Bool} :
    quitCommands armed podPrompt = [] ↔ armed = none ∧ podPrompt = false := by
  rcases armed with _ | op <;> cases podPrompt <;> simp [quitCommands]
  split <;> simp

theorem stopCommand_not_quit (op : Operation) : op.stopCommand ∉ quits := by
  cases op <;> decide

/-- Sending quits and nothing else. -/
def quitFootprint : CoordinatorFootprint where
  awaits _ := True
  emits e := ∀ k, e.command = some k → k ∈ quits
  writes _ _ := True

variable {I : Identifiers} {yaml : YamlLayer}

theorem sendQuits_quit {commands : List Command} (h : ∀ k ∈ commands, k ∈ quits) :
    Within quitFootprint (sendQuits commands) := by
  refine sendQuits_within fun k hk => ⟨trivial, fun c k' hk' => ?_⟩
  rw [← Option.some.inj hk']
  exact h k hk

/-- A send on a connected link is out before anything else happens. -/
theorem sendCommand_segment {w : World} {c : ℕ} {packet : Packet} (h : w.isConnected c = true) :
    (sendCommand c packet).run.segment w =
      (w, [.sent c packet], .waits (.written packet.command) fun r =>
        (if r = .failed then throw .connectionError else pure () : Async Unit).run) := by
  simp only [sendCommand, Routine.world]
  show (if w.isConnected c = true then _ else _ : Async Unit).run.segment w = _
  rw [if_pos h]
  rfl

theorem sendBare_segment {w : World} {c : ℕ} {command : Command} (hc : w.client = some c)
    (h : w.isConnected c = true) :
    (sendBare command).run.segment w =
      (w, [.sent c { command }], .waits (.written command) fun r =>
        (if r = .failed then throw .connectionError else pure () : Async Unit).run) := by
  have hsend : (sendBare command).run.segment w = (sendCommand c { command }).run.segment w := by
    simp only [sendBare, withClient, Routine.world, bind, ExceptT.bind, ExceptT.mk, ExceptT.run,
      Co.bind, ExceptT.bindCont, Co.segment, hc]
  rw [hsend, sendCommand_segment h]

/-- What a cancel sends starts with its command, and is all quits when there is something to quit. -/
theorem sendStops_segment {w : World} {c : ℕ} (hc : w.client = some c)
    (h : w.isConnected c = true) (w₀ : World) :
    ∃ k, (sendStops w₀.activeOperation w₀.armedOperation w₀.podPromptActive).run.segment w =
        (w, [.sent c { command := w₀.cancelCommand }], .waits (.written w₀.cancelCommand) k) ∧
      (quitCommands w₀.armedOperation w₀.podPromptActive ≠ [] →
        ∀ r, (k r).Within quitFootprint) := by
  unfold sendStops World.cancelCommand
  have hquits := @quitCommands_subset w₀.armedOperation w₀.podPromptActive
  cases hq : quitCommands w₀.armedOperation w₀.podPromptActive with
  | cons quit rest =>
    rw [hq] at hquits
    rw [if_pos (List.cons_ne_nil _ _)]
    refine ⟨_, Co.segment_bind_waits (sendBare_segment hc h), fun _ r => ?_⟩
    refine Co.Within.bind ?_ fun result => ?_
    · split <;> trivial
    · cases result with
      | ok a => exact sendQuits_quit fun k hk => hquits k (List.mem_cons_of_mem _ hk)
      | error e => trivial
  -- nothing to quit: what stops the operation that runs
  | nil =>
    rw [if_neg (by simp)]
    have hnot : ¬ ([] : List Command) ≠ [] := by simp
    cases w₀.activeOperation with
    | none => exact ⟨_, sendBare_segment hc h, fun hne => absurd hne hnot⟩
    | some op =>
      cases op with
      | recipe => exact ⟨_, sendBare_segment hc h, fun hne => absurd hne hnot⟩
      | manualGrind =>
        exact ⟨_, Co.segment_bind_waits (sendBare_segment hc h), fun hne => absurd hne hnot⟩
      | manualPour =>
        exact ⟨_, Co.segment_bind_waits (sendBare_segment hc h), fun hne => absurd hne hnot⟩

/-- On a connected machine `_async_ensure_connected` returns at once. -/
theorem ensureConnected_segment {w : World} (h : w.linkUp = true) :
    ensureConnected.run.segment w = (w, [], .done (.ok true)) := by
  show (if w.linkUp = true then pure true
    else if w.idleDisconnected then asyncConnect else pure false : Async Bool).run.segment w = _
  rw [if_pos h]
  rfl

/-- **A cancel's first segment**, on a connected machine: the flags are cleared and its first command
is sent.  With something to quit, quits are all that follows. -/
theorem cancel_segment {w : World} {c : ℕ} (hc : w.client = some c)
    (hconnected : w.isConnected c = true) :
    ∃ k, (((system I yaml).program .cancel).segment w) =
        (w.clearOperations, [.sent c { command := w.cancelCommand }],
          .waits (.written w.cancelCommand) k) ∧
      (quitCommands w.armedOperation w.podPromptActive ≠ [] →
        ∀ r, (k r).Within quitFootprint) := by
  obtain ⟨k, hsegment, hwithin⟩ := @sendStops_segment w.clearOperations c hc hconnected w
  have hup : w.clearOperations.linkUp = true := linkUp_iff.mpr ⟨c, hc, hconnected⟩
  have hrun : ((system I yaml).program .cancel).segment w =
      ((sendStops w.activeOperation w.armedOperation w.podPromptActive).run.bind
        fun _ => .ret ()).segment w.clearOperations := by
    show ((ensureConnected.run.bind (ExceptT.bindCont fun connected =>
      if connected then do
        let _ ← Routine.attempt (sendStops w.activeOperation w.armedOperation w.podPromptActive)
      else pure ())).bind fun _ => .ret ()).segment w.clearOperations = _
    rw [Co.bind_assoc, Co.segment_bind_done (ensureConnected_segment hup)]
    simp only [ExceptT.bindCont, if_true]
    show ((((sendStops w.activeOperation w.armedOperation w.podPromptActive).run.bind
      fun r => .ret (Except.ok r)).bind (ExceptT.bindCont fun _ => pure ())).bind
        fun _ => .ret ()).segment w.clearOperations = _
    rw [Co.bind_assoc, Co.bind_assoc]
    rfl
  exact ⟨_, hrun.trans (Co.segment_bind_waits hsegment),
    fun hne r => Co.Within.bind (hwithin hne r) fun _ => trivial⟩

/-! ## What a cancel stops -/

/-- A cancel called on a connected machine has cleared the flags, sent its first command and waits. -/
theorem cancel_step {p : CoordinatorPool} {c : ℕ} (hc : p.world.client = some c)
    (hconnected : p.world.isConnected c = true) :
    (p.step (system I yaml) (.spawn .cancel)).trace =
        p.trace ++ [⟨p.spawned, .cancel, .sent c { command := p.world.cancelCommand }⟩] ∧
      (quitCommands p.world.armedOperation p.world.podPromptActive ≠ [] →
        TaskWithin quitFootprint p.spawned (p.step (system I yaml) (.spawn .cancel))) := by
  obtain ⟨k, hsegment, hwithin⟩ := @cancel_segment I yaml p.world c hc hconnected
  obtain ⟨_, htrace, htasks⟩ := Pool.step_of_turn
    (show p.turn (system I yaml) (.spawn .cancel) = some _ from rfl)
  constructor
  · rw [htrace, hsegment]
    rfl
  · refine fun hne => ⟨Nat.lt_succ_self _, fun τ hτ r => ?_⟩
    rw [htasks, hsegment, Function.update_self] at hτ
    cases hτ
    exact hwithin hne r

theorem mem_sentBy {t : ℕ} {tr : Trace Call Event} {k : Command} :
    k ∈ sentBy t tr ↔ ∃ e ∈ tr, e.task = t ∧ e.event.command = some k := by
  simp [sentBy, List.mem_filterMap, List.mem_filter, and_assoc]

/-- **A cancel reaches what is running exactly when nothing is armed and no pod prompt is up.**  From
every reachable state of a connected machine with an active operation, and in every continuation of
the run, the commands the cancel sends include the operation's stop if and only if the cancel found
neither an armed operation nor a pod prompt. -/
theorem cancel_reaches_iff (p : CoordinatorPool) (hp : Reachable I yaml p) (op : Operation)
    (hactive : p.world.activeOperation = some op) (hlink : p.world.linkUp = true)
    (after : List CoordinatorAction) :
    op.stopCommand ∈ sentBy p.spawned (continueFrom I yaml p (.spawn .cancel :: after)).trace ↔
      p.world.armedOperation = none ∧ p.world.podPromptActive = false := by
  have hnumbered : Numbered p := by
    obtain ⟨w, as, rfl⟩ := hp
    exact numbered_run w as
  show op.stopCommand ∈ sentBy p.spawned (run (Pool.step (system I yaml))
    (p.step (system I yaml) (.spawn .cancel)) after).trace ↔ _
  obtain ⟨c, hc, hconnected⟩ := linkUp_iff.mp hlink
  obtain ⟨htrace, hwithin⟩ := @cancel_step I yaml p c hc hconnected
  rw [← quitCommands_eq_nil]
  constructor
  · -- with something to quit, every command of the cancel is a quit
    intro hstop
    by_contra hne
    obtain ⟨e, he, ht, hcommand⟩ := mem_sentBy.mp hstop
    rcases (hwithin hne).emitted after e he ht with he | he
    · rw [htrace, List.mem_append, List.mem_singleton] at he
      rcases he with he | rfl
      · exact absurd (hnumbered.trace e he) (by omega)
      · have hfirst : p.world.cancelCommand ∈ quits := by
          unfold World.cancelCommand
          cases hq : quitCommands p.world.armedOperation p.world.podPromptActive with
          | nil => exact absurd hq hne
          | cons quit rest => exact quitCommands_subset quit (by rw [hq]; exact List.mem_cons_self)
        exact stopCommand_not_quit op (by rw [← Option.some.inj hcommand]; exact hfirst)
    · exact stopCommand_not_quit op (he _ hcommand)
  · intro hnil
    have hfirst : p.world.cancelCommand = op.stopCommand := by
      unfold World.cancelCommand
      rw [hnil, hactive]
    rw [mem_sentBy]
    refine ⟨⟨p.spawned, .cancel, .sent c { command := p.world.cancelCommand }⟩, ?_, rfl, ?_⟩
    · refine (trace_grows _ after).subset ?_
      rw [htrace]
      exact List.mem_append_right _ List.mem_cons_self
    · rw [hfirst]
      rfl

/-! ## A grind, with and without an armed page -/

/-- A connected, awake machine with nothing saved. -/
def connectedWorld : World :=
  { clients := [{ connected := true }], client := some 0, store := noRecipesSaved }

/-- A run of the coordinator from there. -/
def connectedRun (as : List CoordinatorAction) : CoordinatorPool :=
  continueFrom plainIdentifiers morningYaml (Pool.idle connectedWorld) as

/-- A grind call, run to its end. -/
def grindRun : List CoordinatorAction :=
  [.spawn .grind, .resume 0 .done, .resume 0 .done, .resume 0 .done]

/-- A running grind is stopped by a cancel. -/
theorem grind_reached :
    Command.grinderStop ∈ sentBy (connectedRun grindRun).spawned (continueFrom plainIdentifiers
      morningYaml (connectedRun grindRun) [.spawn .cancel]).trace :=
  (cancel_reaches_iff (connectedRun grindRun) ⟨connectedWorld, grindRun, rfl⟩ .manualGrind
    (by decide +kernel) (by decide +kernel) []).mpr ⟨by decide +kernel, by decide +kernel⟩

/-- **An armed pour hides a running grind.**  While the grind runs, the pour button arms its page; the
cancel quits that page and ends, and 3505 is never sent. -/
theorem armed_pour_hides_grind :
    let p := connectedRun (grindRun ++ [.spawn .pressPour, .resume 1 .done])
    let q := continueFrom plainIdentifiers morningYaml p [.spawn .cancel, .resume 2 .done]
    p.world.activeOperation = some .manualGrind ∧ p.world.linkUp = true ∧
      sentBy p.spawned q.trace = [.brewerQuit] ∧ (q.tasks p.spawned).isNone = true := by
  decide +kernel

end XBloom.Coordinator
