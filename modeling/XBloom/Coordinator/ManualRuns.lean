/-
# XBloom.Coordinator.ManualRuns — manual runs in every interleaving

The calls of `XBloom.Coordinator.Calls` with the pause, beside notes of the past: a start, a pause and a
resume note what they do at the assignment that does it, a poll and a machine-side start note theirs, and
every other call runs without looking at the notes.  Without the notes it is the coordinator
(`noting_run`).

In every run of it, every assignment and every move keeps what the flags tell (`Manual.Backed`), so each
poll does what it should exactly when it is not misled by a flag left over (`manualRuns_tracked_iff`).
-/
import XBloom.Async.Observers
import XBloom.Coordinator.Cancel
import XBloom.Coordinator.Manual

namespace XBloom.Coordinator

open XBloom.Async XBloom.Logic XBloom.Py XBloom.Ble XBloom.Recipe

/-! ## The coordinator with its pause -/

/-- The calls, and the pause button shown some state. -/
inductive ManualCall where
  | call (c : Call)
  | pauseResume (shown : ShownState)
  deriving DecidableEq, Repr

section
variable (I : Identifiers) (yaml : YamlLayer)

/-- What it runs. -/
def ManualCall.routine : ManualCall → Async Unit
  | .call c => c.routine I yaml
  | .pauseResume shown => asyncPauseResume shown

/-- **The coordinator.** -/
def manualSystem : System World Event Await Response ManualCall Move where
  program call := (call.routine I yaml).run.bind fun _ => .ret ()
  enabled := enabled
  move := World.move I yaml

end

/-! ## With notes -/

/-- The world, with notes of the past beside it. -/
abbrev WithNotes := World × Notes

/-- A coroutine that may take notes. -/
abbrev Noting (α : Type) := Routine WithNotes Event Await Response PyErr α

/-- A coroutine that takes none. -/
def noting {α : Type} (x : Async α) : Noting α :=
  Routine.zoom (observing World Event Await Response Notes) x

/-- `self._active_operation = ...`: a run begins. -/
def beginRun (op : Operation) : Noting Unit :=
  Routine.assign fun v => ({ v.1 with activeOperation := some op }, v.2.started v.1.manual)

/-- `async_pour` and `async_grind`. -/
def notingStart (op : Operation) (commands : Async Unit) : Noting Unit := do
  let connected ← noting ensureConnected
  if connected then do
    let _ ← Routine.attempt do
      beginRun op
      noting (retryWhileSleeping commands)
  else pure ()

/-- `async_confirm_pour` and `async_confirm_grind`. -/
def notingConfirm (op : Operation) (commands : Async Unit) : Noting Bool := do
  noting beginConfirm
  let connected ← noting ensureConnected
  if connected then do
    let started ← Routine.attempt do
      beginRun op
      noting (retryWhileSleeping commands)
    noting (Routine.assign fun w => { w with armedOperation := none })
    pure started.toBool
  else pure false

/-- The two confirms. -/
def notingConfirmPour : Noting Bool := notingConfirm .manualPour brewerStart
def notingConfirmGrind : Noting Bool := notingConfirm .manualGrind (withGrinder grinderConfirmStart)

/-- A confirm with its result dropped. -/
def notingDrop (x : Noting Bool) : Noting Unit := do
  let _ ← x

/-- A two-stage button. -/
def notingPress (op : Armed) (confirm : Noting Unit) (arm : Async Unit) : Noting Unit := do
  let v ← Routine.world
  if v.1.armedOperation = some op then confirm else noting arm

/-- The pause and the resume of a manual run. -/
def notingPauseManual (shown : ShownState) (pause restart : Command) : Noting Unit := do
  if shown = .paused then do
    noting (sendBare restart)
    Routine.assign fun v => ({ v.1 with manualPauseSeen := true }, v.2.resumed)
  else do
    noting (sendBare pause)
    Routine.assign fun v =>
      ({ v.1 with manualPaused := true, manualPauseSeen := false }, v.2.paused)

/-- `async_pause_resume`. -/
def notingPauseResume (shown : ShownState) : Noting Unit := do
  let connected ← noting ensureConnected
  if connected then do
    let v ← Routine.world
    if v.1.armedOperation.isSome then pure ()
    else do
      let _ ← Routine.attempt do
        match v.1.activeOperation with
        | some .manualGrind => notingPauseManual shown .grinderPause .grinderRestart
        | some .manualPour => notingPauseManual shown .brewerPause .brewerRestart
        | _ => noting (pauseResumeRecipe shown)
  else pure ()

/-- A machine-side start of an armed pour or grind. -/
def World.startsRun (w : World) : BleEvent → Bool
  | .grindingStarted => decide (w.armedOperation = some .grind)
  | .brewingStarted => decide (w.armedOperation = some .pour)
  | _ => false

/-- What is noted of a move. -/
def Notes.moved (n : Notes) (w w' : World) : Move → Notes
  | .event e => if w.startsRun e then n.started w.manual else n
  | .poll _ =>
    match w.polled with
    | some s => n.polled s w.manual w'.manual
    | none => n
  | _ => n

section
variable (I : Identifiers) (yaml : YamlLayer)

/-- A call with notes. -/
def ManualCall.withNotes : ManualCall → Noting Unit
  | .call .pour => notingStart .manualPour brewerStart
  | .call .grind => notingStart .manualGrind (withGrinder grinderStart)
  | .call .confirmPour => notingDrop notingConfirmPour
  | .call .confirmGrind => notingDrop notingConfirmGrind
  | .call .pressPour => notingPress .pour (notingDrop notingConfirmPour) (drop asyncArmPour)
  | .call .pressGrind => notingPress .grind (notingDrop notingConfirmGrind) (drop asyncArmGrind)
  | .call c => noting (c.routine I yaml)
  | .pauseResume shown => notingPauseResume shown

/-- The coordinator, with notes. -/
def notingSystem : System WithNotes Event Await Response ManualCall Move where
  program call := (call.withNotes I yaml).run.bind fun _ => .ret ()
  enabled l v := enabled l v.1
  move v m := (v.1.move I yaml m, v.2.moved v.1 (v.1.move I yaml m) m)

end

/-- A coordinator that begins; its flags are taken at their word. -/
def WithNotes.start (w : World) : WithNotes :=
  (w, { running := w.manualRunSeen, resumable := w.manualPauseSeen })

/-- Its pools and its steps. -/
abbrev NotingPool := Pool WithNotes Event Await Response ManualCall
abbrev ManualAction := Action Response ManualCall Move

/-! ## Without the notes it is the coordinator -/

section
variable {I : Identifiers} {yaml : YamlLayer}

theorem notingStart_shadows (op : Operation) (commands : Async Unit) :
    Shadows (notingStart op commands) (do
      let connected ← ensureConnected
      if connected then do
        let _ ← Routine.attempt do
          Routine.assign fun w => { w with activeOperation := some op }
          retryWhileSleeping commands
      else pure ()) := by
  refine .bind (.zoom _) fun connected => .ite (fun _ => ?_) fun _ => .pure _
  exact .bind (.attempt (.bind (.assign fun _ => rfl) fun _ => .zoom _)) fun _ => .pure _

theorem notingConfirm_shadows (op : Operation) (commands : Async Unit) :
    Shadows (notingConfirm op commands) (do
      beginConfirm
      let connected ← ensureConnected
      if connected then do
        let started ← Routine.attempt do
          Routine.assign fun w => { w with activeOperation := some op }
          retryWhileSleeping commands
        Routine.assign fun w => { w with armedOperation := none }
        pure started.toBool
      else pure false) := by
  refine .bind (.zoom _) fun _ => .bind (.zoom _) fun connected => .ite (fun _ => ?_) fun _ => .pure _
  exact .bind (.attempt (.bind (.assign fun _ => rfl) fun _ => .zoom _)) fun started =>
    .bind (.zoom _) fun _ => .pure _

theorem notingDrop_shadows {x : Noting Bool} {y : Async Bool} (h : Shadows x y) :
    Shadows (notingDrop x) (drop y) := .bind h fun _ => .pure _

theorem notingPress_shadows {op : Armed} {confirm : Noting Unit} {confirm' arm : Async Unit}
    (h : Shadows confirm confirm') : Shadows (notingPress op confirm arm) (press op confirm' arm) :=
  .world fun _ => .ite (fun _ => h) fun _ => .zoom _

theorem notingPauseManual_shadows (shown : ShownState) (pause restart : Command) :
    Shadows (notingPauseManual shown pause restart) (pauseResumeManual shown pause restart) :=
  .ite (fun _ => .bind (.zoom _) fun _ => .assign fun _ => rfl) fun _ =>
    .bind (.zoom _) fun _ => .assign fun _ => rfl

theorem notingPauseResume_shadows (shown : ShownState) :
    Shadows (notingPauseResume shown) (asyncPauseResume shown) := by
  refine .bind (.zoom _) fun connected => .ite (fun _ => ?_) fun _ => .pure _
  refine .world fun v => .ite (fun _ => .pure _) fun _ => .bind (.attempt ?_) fun _ => .pure _
  cases v.1.activeOperation with
  | none => exact .zoom _
  | some op =>
    cases op with
    | recipe => exact .zoom _
    | manualGrind => exact notingPauseManual_shadows shown _ _
    | manualPour => exact notingPauseManual_shadows shown _ _

theorem ManualCall.withNotes_shadows (call : ManualCall) :
    Shadows (call.withNotes I yaml) (call.routine I yaml) := by
  cases call with
  | pauseResume shown => exact notingPauseResume_shadows shown
  | call c =>
    cases c with
    | pour => exact notingStart_shadows .manualPour brewerStart
    | grind => exact notingStart_shadows .manualGrind (withGrinder grinderStart)
    | confirmPour => exact notingDrop_shadows (notingConfirm_shadows _ _)
    | confirmGrind => exact notingDrop_shadows (notingConfirm_shadows _ _)
    | pressPour => exact notingPress_shadows (notingDrop_shadows (notingConfirm_shadows _ _))
    | pressGrind => exact notingPress_shadows (notingDrop_shadows (notingConfirm_shadows _ _))
    | _ => exact .zoom _

theorem noting_shadowing : Shadowing (notingSystem I yaml) (manualSystem I yaml) where
  program call := Co.Shadows.bind call.withNotes_shadows fun _ => .ret ()
  enabled _ _ := rfl
  move _ _ := rfl

/-- **Without its notes a run is the coordinator's.** -/
theorem noting_run (w : World) (as : List ManualAction) :
    (run (Pool.step (notingSystem I yaml)) (Pool.idle (WithNotes.start w)) as).world.1 =
      (run (Pool.step (manualSystem I yaml)) (Pool.idle w) as).world :=
  (noting_shadowing.run (Pool.shadows_idle (WithNotes.start w)) as).world

/-! ## What everything but a start, a pause and a resume leaves -/

/-- No manual run begins. -/
def World.EndsRuns (w w' : World) : Prop := w.manual.Ends w'.manual

theorem endsRuns_allow : AllowsCalls World.EndsRuns where
  same w w' h := ⟨Or.inl ⟨h.active, h.manualRunSeen⟩, h.manualPauseSeen.symm.trans⟩
  noteBrew _ _ := ⟨Or.inr rfl, id⟩
  noteConfirm _ := ⟨Or.inr rfl, id⟩
  dropBrew _ := ⟨Or.inr rfl, id⟩
  disarmRecipe _ := Manual.Ends.refl _
  dropConfirm _ := ⟨Or.inr rfl, id⟩
  setArmed _ _ := Manual.Ends.refl _
  noteArm _ _ _ := Manual.Ends.refl _
  dropArm _ := Manual.Ends.refl _
  clearOperations _ := ⟨Or.inr rfl, fun hseen => by cases hseen⟩

theorem selectRecipe_manual (w : World) (name : Option String) :
    (w.selectRecipe yaml name).manual = w.manual := by
  obtain ⟨_, _, hwrites⟩ := w.selectRecipe_writes yaml name
  rw [hwrites]
  rfl

theorem selectForTool_manual (w : World) (args : ToolArgs) (name : String) (recipe : RecipeDict) :
    (w.selectForTool yaml args name recipe).manual = w.manual := by
  obtain ⟨_, _, hwrites⟩ := w.selectForTool_writes yaml args name recipe
  rw [hwrites]
  rfl

/-- **An event that starts no armed run starts none.** -/
theorem dispatchEvent_ends {w : World} {e : BleEvent} (h : w.startsRun e = false) :
    w.EndsRuns (w.dispatchEvent e) := by
  have hfinished : ∀ w' : World, w.manual.Ends w'.finishRun.manual :=
    fun w' => ⟨Or.inr rfl, fun hseen => by cases hseen⟩
  cases e with
  | easySlotStarted => exact ⟨Or.inr rfl, id⟩
  | grindingStarted =>
    show w.manual.Ends (World.noteStart { w with podPromptActive := false } .grindingStarted).manual
    unfold World.noteStart
    dsimp only
    split
    · exact ⟨Or.inr rfl, id⟩
    · rename_i hgrind
      simp [World.startsRun, hgrind] at h
    · exact Manual.Ends.refl _
  | brewingStarted =>
    show w.manual.Ends (World.noteStart { w with waterShortage := false, podPromptActive := false }
      .brewingStarted).manual
    unfold World.noteStart
    dsimp only
    split
    · exact ⟨Or.inr rfl, id⟩
    · rename_i hpour
      simp [World.startsRun, hpour] at h
    · exact Manual.Ends.refl _
  | bloom idx =>
    show w.manual.Ends (w.noteProgress (.bloom idx)).manual
    unfold World.noteProgress
    dsimp only
    split
    · split
      · exact Manual.Ends.refl _
      · exact Manual.Ends.refl _
    · exact Manual.Ends.refl _
  | grindingComplete =>
    show w.manual.Ends (w.noteProgress .grindingComplete).manual
    unfold World.noteProgress
    dsimp only
    split
    · exact ⟨Or.inr rfl, id⟩
    · exact Manual.Ends.refl _
  | pourComplete => exact hfinished _
  | recipeComplete => exact hfinished _
  | noBeans => exact hfinished _
  | abnormalDoseOrWater => exact hfinished _
  | abnormalGearPosition => exact hfinished _
  | waterShortage => exact Manual.Ends.refl _
  | waterRefilled => exact Manual.Ends.refl _
  | podDetected => exact Manual.Ends.refl _
  | other => exact Manual.Ends.refl _

/-- A machine-side start makes the armed run active, whatever flags stand. -/
theorem dispatchEvent_starts {w : World} {e : BleEvent} (h : w.startsRun e = true) :
    ∃ op, (w.dispatchEvent e).manual = { w.manual with active := some op } := by
  unfold World.startsRun at h
  split at h
  · have harmed : w.armedOperation = some .grind := of_decide_eq_true h
    refine ⟨.manualGrind, ?_⟩
    show (World.noteStart { w with podPromptActive := false } .grindingStarted).manual = _
    unfold World.noteStart
    dsimp only
    rw [harmed]
    rfl
  · have harmed : w.armedOperation = some .pour := of_decide_eq_true h
    refine ⟨.manualPour, ?_⟩
    show (World.noteStart { w with waterShortage := false, podPromptActive := false }
      .brewingStarted).manual = _
    unfold World.noteStart
    dsimp only
    rw [harmed]
    rfl
  · cases h

/-! ## The invariant -/

/-- What the flags of a world tell of the notes. -/
def WithNotes.Backed (v : WithNotes) : Prop := Manual.Backed v.1.manual v.2

/-- What begins no run keeps it. -/
theorem ends_covers : (observing World Event Await Response Notes).Covers (anywhere World.EndsRuns)
    (keeping WithNotes.Backed) where
  writes _ _ hends hbacked := Manual.Backed.ends hbacked hends
  emits _ _ := trivial
  awaits _ _ := trivial

theorem noting_keeps {α : Type} {x : Async α} (h : Within (anywhere World.EndsRuns) x) :
    Within (keeping WithNotes.Backed) (noting x) := Within.zoom ends_covers h

theorem ensureConnected_keeps : Within (keeping WithNotes.Backed) (noting ensureConnected) :=
  noting_keeps endsRuns_allow.ensureConnected

/-- A start. -/
theorem beginRun_keeps (op : Operation) : Within (keeping WithNotes.Backed) (beginRun op) :=
  .assign fun _ hbacked => Manual.Backed.begins hbacked op

theorem retry_keeps {commands : Async Unit} (h : Within (anywhere World.EndsRuns) commands) :
    Within (keeping WithNotes.Backed) (noting (retryWhileSleeping commands)) :=
  noting_keeps (retry_within endsRuns_allow.same h)

theorem notingStart_keeps {op : Operation} {commands : Async Unit}
    (h : Within (anywhere World.EndsRuns) commands) :
    Within (keeping WithNotes.Backed) (notingStart op commands) := by
  refine .bind ensureConnected_keeps fun connected => ?_
  split
  · exact .bind (.attempt (.bind (beginRun_keeps op) fun _ => retry_keeps h)) fun _ => .pure _
  · exact .pure _

theorem notingConfirm_keeps {op : Operation} {commands : Async Unit}
    (h : Within (anywhere World.EndsRuns) commands) :
    Within (keeping WithNotes.Backed) (notingDrop (notingConfirm op commands)) := by
  refine .bind (.bind (noting_keeps (.world fun _ => .emit trivial)) fun _ =>
    .bind ensureConnected_keeps fun connected => ?_) fun _ => .pure _
  split
  · exact .bind (.attempt (.bind (beginRun_keeps op) fun _ => retry_keeps h)) fun _ =>
      .bind (noting_keeps (.assign fun _ => Manual.Ends.refl _)) fun _ => .pure _
  · exact .pure _

theorem notingPress_keeps {op : Armed} {confirm : Noting Unit} {arm : Async Bool}
    (hconfirm : Within (keeping WithNotes.Backed) confirm) (harm : Within (anywhere World.EndsRuns) arm) :
    Within (keeping WithNotes.Backed) (notingPress op confirm (drop arm)) := by
  refine .world fun v => ?_
  split
  · exact hconfirm
  · exact noting_keeps (.bind harm fun _ => .pure _)

theorem sendBare_ends {command : Command} : Within (anywhere World.EndsRuns) (sendBare command) :=
  sendBare_within trivial fun _ => trivial

/-- The pause takes the paused-seen flag back, and the resume sets it. -/
theorem notingPauseManual_keeps {shown : ShownState} {pause restart : Command} :
    Within (keeping WithNotes.Backed) (notingPauseManual shown pause restart) := by
  unfold notingPauseManual
  split
  · exact .bind (noting_keeps sendBare_ends) fun _ =>
      .assign fun _ hbacked => Manual.Backed.resumes hbacked
  · exact .bind (noting_keeps sendBare_ends) fun _ =>
      .assign fun _ hbacked => Manual.Backed.pauses hbacked

theorem notingPauseResume_keeps (shown : ShownState) :
    Within (keeping WithNotes.Backed) (notingPauseResume shown) := by
  have hrecipe : Within (anywhere World.EndsRuns) (pauseResumeRecipe shown) := by
    unfold pauseResumeRecipe
    split
    · exact sendBare_ends
    · exact sendBare_ends
    · exact .pure _
  refine .bind ensureConnected_keeps fun connected => ?_
  split
  · refine .world fun v => ?_
    split
    · exact .pure _
    · refine .bind (.attempt ?_) fun _ => .pure _
      split
      · exact notingPauseManual_keeps
      · exact notingPauseManual_keeps
      · exact noting_keeps hrecipe
  · exact .pure _

theorem grinderConfirmStart_ends :
    Within (anywhere World.EndsRuns) (withGrinder grinderConfirmStart) :=
  withGrinder_within fun _ _ _ => sendCommand_within trivial trivial

/-- **Every call keeps it.** -/
theorem ManualCall.withNotes_keeps (call : ManualCall) :
    Within (keeping WithNotes.Backed) (call.withNotes I yaml) := by
  have hallow := endsRuns_allow
  have hdrop : ∀ {x : Async Bool}, Within (anywhere World.EndsRuns) x →
      Within (keeping WithNotes.Backed) (noting (drop x)) :=
    fun h => noting_keeps (.bind h fun _ => .pure _)
  have hlink : linkFootprint ≤ anywhere World.EndsRuns := sends_anywhere hallow.same
  have hquiet : quietFootprint ≤ anywhere World.EndsRuns := sends_anywhere hallow.same
  cases call with
  | pauseResume shown => exact notingPauseResume_keeps shown
  | call c =>
    cases c with
    | pour => exact notingStart_keeps brewerStart_within
    | grind => exact notingStart_keeps (withGrinder_within fun _ _ _ => grinderStart_within)
    | confirmPour => exact notingConfirm_keeps brewerStart_within
    | confirmGrind => exact notingConfirm_keeps grinderConfirmStart_ends
    | pressPour => exact notingPress_keeps (notingConfirm_keeps brewerStart_within) hallow.asyncArmPour
    | pressGrind =>
      exact notingPress_keeps (notingConfirm_keeps grinderConfirmStart_ends) hallow.asyncArmGrind
    | armPour => exact hdrop hallow.asyncArmPour
    | armGrind => exact hdrop hallow.asyncArmGrind
    | executeRecipe args => exact noting_keeps hallow.asyncExecuteRecipe
    | armRecipe args => exact noting_keeps hallow.asyncArmRecipe
    | confirmRecipe => exact hdrop hallow.asyncConfirmRecipe
    | cancel => exact noting_keeps hallow.asyncCancel
    | connect => exact hdrop (asyncConnect_within.mono hlink)
    | disconnect => exact noting_keeps (asyncDisconnect_within.mono hquiet)
    | dropStaleLink => exact noting_keeps (asyncDropStaleLink_within.mono hquiet)
    | enterIdleStandby => exact noting_keeps (asyncEnterIdleStandby_within.mono hquiet)
    | pressRecipe =>
      refine noting_keeps (.world fun w => ?_)
      split
      · exact .bind hallow.asyncConfirmRecipe fun _ => .pure _
      · exact hallow.asyncArmRecipe
    | executeRecipeTool args =>
      refine noting_keeps (hallow.executeRecipeTool fun w name recipe => ?_)
      show w.manual.Ends (w.selectForTool yaml args name recipe).manual
      rw [selectForTool_manual]
      exact Manual.Ends.refl _

/-- **Every move keeps it.** -/
theorem move_keeps {v : WithNotes} (m : Move) (h : v.Backed) :
    WithNotes.Backed ((notingSystem I yaml).move v m) := by
  have hends : ∀ w' : World, v.1.EndsRuns w' → WithNotes.Backed (w', v.2) :=
    fun w' hends => Manual.Backed.ends h hends
  cases m with
  -- only a machine-side start begins a run; the others end runs at most
  | event e =>
    show Manual.Backed (v.1.dispatchEvent e).manual
      (if v.1.startsRun e then v.2.started v.1.manual else v.2)
    cases hstarts : v.1.startsRun e with
    | true =>
      obtain ⟨op, hop⟩ := dispatchEvent_starts hstarts
      rw [hop, if_pos rfl]
      exact Manual.Backed.begins h op
    | false =>
      rw [if_neg Bool.false_ne_true]
      exact hends _ (dispatchEvent_ends hstarts)
  | poll version =>
    show Manual.Backed (v.1.poll version).manual (v.2.moved v.1 (v.1.poll version) (.poll version))
    unfold Notes.moved
    cases hpolled : v.1.polled with
    | none =>
      rw [World.poll_manual version hpolled]
      exact h
    | some s => exact Manual.Backed.polled h (World.poll_polls version hpolled)
  | select name =>
    refine hends _ ?_
    show v.1.manual.Ends (v.1.selectRecipe yaml name).manual
    rw [selectRecipe_manual]
    exact Manual.Ends.refl _
  | unexpectedDisconnect =>
    refine hends _ ?_
    show v.1.manual.Ends v.1.handleUnexpectedDisconnect.manual
    unfold World.handleUnexpectedDisconnect
    split
    · exact Manual.Ends.refl _
    · exact Manual.Ends.refl _
  | notification c s => exact hends _ (Manual.Ends.refl _)
  | linkLost c => exact hends _ (Manual.Ends.refl _)
  | setpoints _ _ _ _ _ _ _ => exact hends _ (Manual.Ends.refl _)
  | units _ _ _ _ _ => exact hends _ (Manual.Ends.refl _)
  | store op => exact hends _ (Manual.Ends.refl _)

end

/-! ## Every run -/

section
variable (I : Identifiers) (yaml : YamlLayer)

/-- A condition on what a poll finds and what it makes of the manual run. -/
def AtPolls (P : Notes → DeviceStatus → Manual → Manual → Prop) (p : NotingPool) (a : ManualAction) :
    Prop :=
  ∀ version s, a = .move (.poll version) → p.world.1.polled = some s →
    P p.world.2 s p.world.1.manual (p.step (notingSystem I yaml) a).world.1.manual

/-- **When manual runs are tracked to their end.**  From any world, in every interleaving of calls, events,
status frames and polls, which without the notes is one of the coordinator: every poll ends what is left
off its page, clears a run on its page only once it was seen and keeps a paused one, exactly when none of
them takes a flag left over from an earlier run for one of the run it finds. -/
theorem manualRuns_tracked_iff (w : World) (as : List ManualAction) :
    (run (Pool.step (notingSystem I yaml)) (Pool.idle (WithNotes.start w)) as).world.1 =
        (run (Pool.step (manualSystem I yaml)) (Pool.idle w) as).world ∧
      (AllSteps (Pool.step (notingSystem I yaml)) (AtPolls I yaml TracksRun)
          (Pool.idle (WithNotes.start w)) as ↔
        AllSteps (Pool.step (notingSystem I yaml)) (AtPolls I yaml fun n s m _ => NoLeftover n s m)
          (Pool.idle (WithNotes.start w)) as) := by
  refine ⟨noting_run w as, ?_⟩
  have hstart : PoolKeeps WithNotes.Backed (Pool.idle (WithNotes.start w) : NotingPool) :=
    poolKeeps_idle (Manual.Backed.start w.manual)
  have hprogram : ∀ call, ((notingSystem I yaml).program call).Within (keeping WithNotes.Backed) :=
    fun call => Co.Within.bind call.withNotes_keeps fun _ => trivial
  refine AllSteps.iff_of_kept (fun p a h => ⟨h.step hprogram (fun v m => move_keeps m) a, ?_⟩) as hstart
  refine forall_congr' fun version => forall_congr' fun s => forall_congr' fun ha =>
    forall_congr' fun hpolled => ?_
  subst ha
  exact Manual.Polls.tracksRun_iff (World.poll_polls version hpolled) h.world

end

/-! ## A run mistaken for the one before -/

/-- Such a pool after some steps, from a connected machine. -/
def notingRun (as : List ManualAction) : NotingPool :=
  run (Pool.step (notingSystem plainIdentifiers morningYaml)) (Pool.idle (WithNotes.start connectedWorld)) as

/-- A grind call, run to its end, is polled as running; it completes, and the next one is called. -/
def twoGrinds : List ManualAction :=
  [.spawn (.call .grind), .resume 0 .done, .resume 0 .done, .resume 0 .done,
    .move (.notification 0 { lastPage := some .grind, grinderRunning := true }), .move (.poll ""),
    .move (.event .grindingComplete),
    .move (.notification 0 { screen := some .grind, lastPage := some .grind }), .spawn (.call .grind)]

/-- A run whose next poll clears a run on its page that was not seen. -/
theorem not_tracked {as : List ManualAction} {s : DeviceStatus}
    (hpolled : (notingRun as).world.1.polled = some s) (hon : (notingRun as).world.1.manual.OnPage s)
    (hcleared : ((notingRun as).world.1.poll "").manual.active = none)
    (hunseen : (notingRun as).world.2.running = false) :
    ¬ AllSteps (Pool.step (notingSystem plainIdentifiers morningYaml))
      (AtPolls plainIdentifiers morningYaml TracksRun) (Pool.idle (WithNotes.start connectedWorld))
      (as ++ [.move (.poll "")]) := by
  intro hall
  obtain ⟨-, hclears, -⟩ := (AllSteps.append_iff.mp hall).2.1 "" s rfl hpolled
  have hseen := hclears hon hcleared
  have hrunning : (notingRun as).world.2.running = true := hseen
  rw [hunseen] at hrunning
  cases hrunning

/-- **A grind cleared before it begins.**  Its burrs adjust on the grind page; the poll takes the run-seen
flag of the grind before it, which the end event of that grind left standing, for its own. -/
theorem second_grind_cleared :
    ¬ AllSteps (Pool.step (notingSystem plainIdentifiers morningYaml))
      (AtPolls plainIdentifiers morningYaml TracksRun) (Pool.idle (WithNotes.start connectedWorld))
      (twoGrinds ++ [.move (.poll "")]) :=
  @not_tracked twoGrinds { screen := some .grind, lastPage := some .grind } (by decide +kernel)
    (by decide +kernel) (by decide +kernel) (by decide +kernel)

end XBloom.Coordinator
