/-
# XBloom.Coordinator.Failures — what a failed start leaves in the books

Seven calls start a run or arm one: each notes it in the books first, then hands its commands to the
wake-up retry inside a `try`.  The three recipe calls take their notes back in the `except`; the four
manual ones do not, so a pour or grind whose command failed stays the active operation until a poll
finds the machine on another page.
-/
import XBloom.Async.Solo
import XBloom.Coordinator.Budget
import XBloom.Coordinator.Footprints

namespace XBloom.Coordinator

open XBloom.Async XBloom.Py XBloom.Ble XBloom.Recipe XBloom.Brewing XBloom.Logic

/-! ## The starts -/

/-- The calls that start a run or arm a recipe. -/
inductive StartCall where
  | pour
  | confirmPour
  | grind
  | confirmGrind
  | executeRecipe (args : BrewArgs)
  | armRecipe (args : BrewArgs)
  | confirmRecipe
  deriving DecidableEq, Repr

namespace StartCall

/-- Among the calls. -/
def call : StartCall → Call
  | pour => .pour
  | confirmPour => .confirmPour
  | grind => .grind
  | confirmGrind => .confirmGrind
  | executeRecipe args => .executeRecipe args
  | armRecipe args => .armRecipe args
  | confirmRecipe => .confirmRecipe

/-- Those whose `except` takes back what they noted: the recipe calls. -/
def takesBack : StartCall → Bool
  | executeRecipe _ => true
  | armRecipe _ => true
  | confirmRecipe => true
  | _ => false

end StartCall

/-- A `try` and what follows it, with what it caught. -/
def settling (body : Async Unit) (settle : Except PyErr Unit → Async Unit) :
    Async (Except PyErr Unit) := do
  let started ← Routine.attempt body
  settle started
  pure started

/-- Behind the connection check. -/
def whenConnected (x : Async (Except PyErr Unit)) : Async (Option (Except PyErr Unit)) := do
  let connected ← ensureConnected
  if connected then do
    let started ← x
    pure (some started)
  else pure none

/-- The operation is noted, then its commands go out. -/
def startManual (op : Operation) (commands : Async Unit) : Async Unit := do
  Routine.assign fun w => { w with activeOperation := some op }
  retryWhileSleeping commands

/-- What a manual confirm does at its end, either way. -/
def endConfirm (_ : Except PyErr Unit) : Async Unit :=
  Routine.assign fun w => { w with armedOperation := none }

section
variable (I : Identifiers) (yaml : YamlLayer)

/-- The selected recipe is prepared, and a `try` with it is entered. -/
def whenPrepared (args : BrewArgs) (f : Prepared → Async (Except PyErr Unit)) :
    Async (Option (Except PyErr Unit)) := do
  let connected ← ensureConnected
  if connected then do
    let w ← Routine.world
    let prepared ← Routine.lift (prepareRecipeExecution I yaml w args)
    match prepared with
    | some prepared => do
      let started ← f prepared
      pure (some started)
    | none => pure none
  else pure none

/-- The `try` of `async_execute_recipe`. -/
def executeBody (prepared : Prepared) : Async Unit := do
  Routine.assign fun w => w.noteBrew prepared.recipe.pours
  retryWhileSleeping (withClient fun c => brewRecipe c prepared)

/-- The `try` of `async_arm_recipe`. -/
def armBody (prepared : Prepared) : Async Unit := do
  let payload ← retryWhileSleeping (withClient fun c => armRecipe c prepared)
  setArmed .recipe
  Routine.assign fun w => w.noteArm prepared payload

/-- The `try` of `async_confirm_recipe`. -/
def confirmBody : Async Unit := do
  Routine.assign World.noteConfirm
  retryWhileSleeping sendConfirm

/-- What an `except` does and a `try` that ends well does not. -/
def onError (f : World → World) : Except PyErr Unit → Async Unit
  | .ok _ => pure ()
  | .error _ => Routine.assign f

/-- The end of a confirmed recipe: the `except`, and the `finally`. -/
def settleConfirm : Except PyErr Unit → Async Unit
  | .ok _ => Routine.assign World.disarmRecipe
  | .error _ => Routine.assign fun w => w.dropBrew.disarmRecipe

/-- **A call, with what its `try` caught**; `none` when it did not come to its `try`. -/
def StartCall.reports : StartCall → Async (Option (Except PyErr Unit))
  | pour => whenConnected (settling (startManual .manualPour brewerStart) fun _ => pure ())
  | confirmPour => do
    beginConfirm
    whenConnected (settling (startManual .manualPour brewerStart) endConfirm)
  | grind => whenConnected
      (settling (startManual .manualGrind (withGrinder grinderStart)) fun _ => pure ())
  | confirmGrind => do
    beginConfirm
    whenConnected (settling (startManual .manualGrind (withGrinder grinderConfirmStart)) endConfirm)
  | executeRecipe args => whenPrepared I yaml args fun prepared => do
    beginChain prepared
    settling (executeBody prepared) (onError World.dropBrew)
  | armRecipe args => whenPrepared I yaml args fun prepared => do
    beginChain prepared
    settling (armBody prepared) (onError fun w => { w with activeRecipePours := none })
  | confirmRecipe => do
    beginConfirm
    whenConnected (settling confirmBody settleConfirm)

/-! ## They are the calls -/

/-- A routine without a result, and nothing after it. -/
theorem bind_unit (x : Async Unit) : (x >>= fun _ => (pure () : Async Unit)) = x := by
  have hco : ∀ y : Co World Event Await Response (Except PyErr Unit),
      y.bind (ExceptT.bindCont fun _ => (pure () : Async Unit)) = y := by
    intro y
    induction y with
    | ret r => cases r <;> rfl
    | read k ih => exact congrArg Co.read (funext ih)
    | write f k ih => exact congrArg (Co.write f) ih
    | emit e k ih => exact congrArg (Co.emit e) ih
    | await l k ih => exact congrArg (Co.await l) (funext ih)
  exact congrArg ExceptT.mk (hco x.run)

/-- A connection check with and without the report. -/
theorem whenConnected_drop {α : Type} {x : Async (Except PyErr Unit)} {y : Async α} {a : α}
    (h : (x >>= fun _ => (pure () : Async Unit)) = (y >>= fun _ => pure ())) :
    (whenConnected x >>= fun _ => (pure () : Async Unit)) =
      ((ensureConnected >>= fun connected => if connected then y else pure a) >>= fun _ => pure ()) := by
  unfold whenConnected
  rw [bind_bind, bind_bind]
  refine congrArg (ensureConnected >>= ·) (funext fun connected => ?_)
  cases connected with
  | true =>
    show (x >>= fun started => pure (some started)) >>= _ = y >>= _
    rw [bind_bind]
    exact h
  | false => rfl

/-- A `try` without its report. -/
theorem settling_drop {body : Async Unit} {settle : Except PyErr Unit → Async Unit} :
    (settling body settle >>= fun _ => (pure () : Async Unit)) = Routine.attempt body >>= settle := by
  unfold settling
  rw [bind_bind]
  refine congrArg (Routine.attempt body >>= ·) (funext fun started => ?_)
  show (settle started >>= fun _ => pure started) >>= _ = _
  rw [bind_bind]
  exact bind_unit (settle started)

theorem whenPrepared_drop {args : BrewArgs} {f : Prepared → Async (Except PyErr Unit)}
    {g : Prepared → Async Unit} (h : ∀ prepared, (f prepared >>= fun _ => pure ()) = g prepared) :
    (whenPrepared I yaml args f >>= fun _ => pure ()) = withPrepared I yaml args g := by
  unfold whenPrepared withPrepared
  rw [bind_bind]
  refine congrArg (ensureConnected >>= ·) (funext fun connected => ?_)
  cases connected with
  | true =>
    show (Routine.world >>= _) >>= _ = Routine.world >>= _
    rw [bind_bind]
    refine congrArg (Routine.world >>= ·) (funext fun w => ?_)
    rw [bind_bind]
    refine congrArg (Routine.lift _ >>= ·) (funext fun prepared => ?_)
    cases prepared with
    | some prepared =>
      show (f prepared >>= fun started => pure (some started)) >>= _ = _
      rw [bind_bind]
      exact h prepared
    | none => rfl
  | false => rfl

/-- **The calls report what their `try` caught.** -/
theorem reports_call (c : StartCall) :
    (c.reports I yaml >>= fun _ => pure ()) = c.call.routine I yaml := by
  -- up to the `try` the guards are the call's own, and its result decides what follows
  cases c with
  | pour =>
    refine (whenConnected_drop (a := ()) ?_).trans (bind_unit asyncPour)
    rw [settling_drop]
    exact (bind_unit _).symm
  | confirmPour =>
    show (beginConfirm >>= _) >>= _ = (beginConfirm >>= _) >>= _
    rw [bind_bind, bind_bind]
    refine congrArg (beginConfirm >>= ·) (funext fun _ => whenConnected_drop (a := false) ?_)
    rw [settling_drop, bind_bind]
    refine congrArg (Routine.attempt _ >>= ·) (funext fun started => ?_)
    rw [bind_bind]
    rfl
  | grind =>
    refine (whenConnected_drop (a := ()) ?_).trans (bind_unit asyncGrind)
    rw [settling_drop]
    exact (bind_unit _).symm
  | confirmGrind =>
    show (beginConfirm >>= _) >>= _ = (beginConfirm >>= _) >>= _
    rw [bind_bind, bind_bind]
    refine congrArg (beginConfirm >>= ·) (funext fun _ => whenConnected_drop (a := false) ?_)
    rw [settling_drop, bind_bind]
    refine congrArg (Routine.attempt _ >>= ·) (funext fun started => ?_)
    rw [bind_bind]
    rfl
  | executeRecipe args =>
    refine whenPrepared_drop I yaml fun prepared => ?_
    rw [bind_bind]
    refine congrArg (beginChain prepared >>= ·) (funext fun _ => ?_)
    rw [settling_drop]
    refine congrArg (Routine.attempt _ >>= ·) (funext fun brewed => ?_)
    cases brewed <;> rfl
  | armRecipe args =>
    refine whenPrepared_drop I yaml fun prepared => ?_
    rw [bind_bind]
    refine congrArg (beginChain prepared >>= ·) (funext fun _ => ?_)
    rw [settling_drop]
    refine congrArg (Routine.attempt _ >>= ·) (funext fun armed => ?_)
    cases armed <;> rfl
  | confirmRecipe =>
    show (beginConfirm >>= _) >>= _ = (beginConfirm >>= _) >>= _
    rw [bind_bind, bind_bind]
    refine congrArg (beginConfirm >>= ·) (funext fun _ => whenConnected_drop (a := false) ?_)
    rw [settling_drop, bind_bind]
    refine congrArg (Routine.attempt _ >>= ·) (funext fun started => ?_)
    cases started <;> rfl

end

/-! ## What happens meanwhile -/

/-- The machine says nothing: neither a notification nor an event arrives. -/
def Move.quiet : Move → Bool
  | .notification _ _ => false
  | .event _ => false
  | _ => true

/-- A status that shows a manual run. -/
def DeviceStatus.showsRun (s : DeviceStatus) : Bool :=
  (s.lastPage.bind World.pageOperations).any (World.manualRunning s)

namespace World

/-- No client's status shows a manual run. -/
def ShowsNoRun (w : World) : Prop := ∀ c ∈ w.clients, c.status.showsRun = false

/-- **No run is active**, in the books or on the machine. -/
structure NoRun (w : World) : Prop where
  active : w.activeOperation = none
  executing : w.executingRecipe = false
  shown : w.ShowsNoRun

/-- **The books show no run.** -/
structure BooksClear (w : World) : Prop where
  active : w.activeOperation = none
  executing : w.executingRecipe = false
  pours : w.activeRecipePours = none

/-- A status that ends the manual run in the books: another page than the operation's is shown, or its
own after the run was seen. -/
def endsRun (w : World) (s : DeviceStatus) : Bool :=
  (w.activeOperation.bind operationPages).any fun own =>
    (s.screen != none && s.screen != some own) ||
      (s.screen == some own && !w.manualPaused && w.manualRunSeen)

/-- **A poll that finds the manual run over.** -/
def findsOver (w : World) : Move → Bool
  | .poll _ => w.client.any fun c => w.isConnected c && w.endsRun (w.status c)
  | _ => false

/-- What quiet surroundings do to the books: a poll that finds the manual run over ends it there. -/
structure QuietStep (w w' : World) (found : Bool) : Prop where
  active : w'.activeOperation = if found then none else w.activeOperation
  executing : w'.executingRecipe = w.executingRecipe
  pours : w'.activeRecipePours = w.activeRecipePours
  shown : w'.ShowsNoRun

variable {w : World} {s : DeviceStatus}

theorem reconcileArmedWithScreen_eq : ∃ armed, w.reconcileArmedWithScreen s =
    { w with lastReconcileScreen := s.screen, armedOperation := armed } := by
  unfold reconcileArmedWithScreen
  dsimp only
  split
  · split
    · exact ⟨none, rfl⟩
    · exact ⟨w.armedOperation, rfl⟩
  · exact ⟨w.armedOperation, rfl⟩

/-- The end of a manual run in the books. -/
theorem endManualRun_quiet (h : w.ShowsNoRun) : w.QuietStep (w.endManualRun s) (w.endsRun s) := by
  unfold endManualRun endsRun
  cases hpage : w.activeOperation.bind operationPages with
  | none => exact ⟨rfl, rfl, rfl, h⟩
  | some own =>
    dsimp only
    by_cases haway : s.screen ≠ none ∧ s.screen ≠ some own
    · rw [if_pos haway]
      refine ⟨?_, rfl, rfl, h⟩
      simp [haway, clearManualRun]
    · rw [if_neg haway]
      by_cases hpaused : s.screen = some own ∧ w.manualPaused
      · rw [if_pos hpaused]
        refine ⟨?_, rfl, rfl, h⟩
        simp [hpaused.1, hpaused.2]
      · rw [if_neg hpaused]
        by_cases hseen : s.screen = some own ∧ w.manualRunSeen
        · rw [if_pos hseen]
          refine ⟨?_, rfl, rfl, h⟩
          have hrunning : w.manualPaused = false := by simpa [hseen.1] using hpaused
          simp [hseen.1, hseen.2, hrunning, clearManualRun]
        · rw [if_neg hseen]
          refine ⟨?_, rfl, rfl, h⟩
          have hover : ¬ (((s.screen != none && s.screen != some own) ||
              (s.screen == some own && !w.manualPaused && w.manualRunSeen)) = true) := by
            simp only [Bool.or_eq_true, Bool.and_eq_true, bne_iff_ne, beq_iff_eq]
            rintro (h' | h')
            · exact haway h'
            · exact hseen ⟨h'.1.1, h'.2⟩
          simp [hover]

/-- A status without a manual run is reconciled as the end of one. -/
theorem reconcileManualOperation_of_noRun (h : s.showsRun = false) :
    w.reconcileManualOperation s = w.endManualRun s := by
  unfold DeviceStatus.showsRun at h
  unfold reconcileManualOperation
  cases hlast : s.lastPage with
  | none => rfl
  | some page =>
    dsimp only
    cases hop : pageOperations page with
    | none => rfl
    | some op =>
      have hrunning : manualRunning s op = false := by simpa [hlast, hop] using h
      simp [hrunning]

/-- A client's status is one of those that show no run. -/
theorem ShowsNoRun.status (h : w.ShowsNoRun) (c : ℕ) : (w.status c).showsRun = false := by
  unfold World.status
  cases hc : w.clients[c]? with
  | none => rfl
  | some client => exact h client (List.mem_of_getElem? hc)

theorem SameOperations.showsNoRun {w' : World} (hsame : w.SameOperations w') (h : w.ShowsNoRun) :
    w'.ShowsNoRun := by
  intro c' hc'
  rcases hsame.statuses c' hc' with hnew | ⟨c, hc, hstatus⟩
  · rw [hnew]
    rfl
  · rw [hstatus]
    exact h c hc

theorem poll_quiet (h : w.ShowsNoRun) (version : String) :
    w.QuietStep (w.poll version) (w.findsOver (.poll version)) := by
  unfold poll findsOver
  cases w.client with
  | none => exact ⟨rfl, rfl, rfl, h⟩
  | some c =>
    dsimp only
    by_cases hconnected : w.isConnected c = true
    · rw [if_pos hconnected]
      obtain ⟨armed, harmed⟩ := @reconcileArmedWithScreen_eq w (w.status c)
      rw [reconcileManualOperation_of_noRun (h.status c), harmed]
      have hends := @endManualRun_quiet
        { w with lastReconcileScreen := (w.status c).screen, armedOperation := armed } (w.status c) h
      simp only [Option.any_some, hconnected, Bool.true_and]
      exact ⟨hends.active, hends.executing, hends.pours, hends.shown⟩
    · rw [if_neg hconnected]
      simp only [Option.any_some, hconnected, Bool.false_and]
      exact ⟨rfl, rfl, rfl, h⟩

/-- **Quiet surroundings** end a manual run in the books, or leave them as they are. -/
theorem move_quiet {I : Identifiers} {yaml : YamlLayer} (h : w.ShowsNoRun) {m : Move}
    (hquiet : m.quiet = true) : w.QuietStep (w.move I yaml m) (w.findsOver m) := by
  cases m with
  | notification c s => cases hquiet
  | event e => cases hquiet
  | linkLost c => exact ⟨rfl, rfl, rfl, same_linked.showsNoRun h⟩
  | unexpectedDisconnect =>
    show w.QuietStep w.handleUnexpectedDisconnect false
    unfold handleUnexpectedDisconnect
    split <;> exact ⟨rfl, rfl, rfl, h⟩
  | poll version => exact poll_quiet h version
  | select name =>
    show w.QuietStep (w.selectRecipe yaml name) false
    obtain ⟨_, _, hwrites⟩ := w.selectRecipe_writes yaml name
    rw [hwrites]
    exact ⟨rfl, rfl, rfl, h⟩
  | setpoints => exact ⟨rfl, rfl, rfl, h⟩
  | units => exact ⟨rfl, rfl, rfl, h⟩
  | store op => exact ⟨rfl, rfl, rfl, h⟩

end World

/-! ## The books of a start -/

/-- A move of quiet surroundings. -/
abbrev QuietMove := { m : Move // m.quiet = true }

/-- The coordinator, and whether a poll so far has found the manual run over. -/
abbrev Watched := World × Bool

section
variable (I : Identifiers) (yaml : YamlLayer)

/-- Quiet surroundings, watched. -/
def watch (v : Watched) (m : QuietMove) : Watched := (v.1.move I yaml m.1, v.2 || v.1.findsOver m.1)

/-- **A call from its beginning to its end**, in quiet surroundings that are watched. -/
def StartCall.told (c : StartCall) (w : World) (replies : ℕ → Reply Response QuietMove) :
    Except PyErr (Option (Except PyErr Unit)) × Story Watched Event Await Response QuietMove :=
  (Routine.zoom (observing World Event Await Response Bool) (c.reports I yaml)).run.play
    (watch I yaml) (.start (w, false)) replies

end

/-- The books while an operation is noted, and no poll has found it over. -/
structure Noted (op : Option Operation) (pours : Option (List PourStep)) (v : Watched) : Prop where
  active : v.1.activeOperation = if v.2 then none else op
  executing : v.1.executingRecipe = false
  pours : v.1.activeRecipePours = pours
  shown : v.1.ShowsNoRun
  unnoted : op = none → v.2 = false

variable {I : Identifiers} {yaml : YamlLayer} {op : Option Operation} {pours : Option (List PourStep)}
  {v : Watched}

theorem noted_of_noRun {w : World} (h : w.NoRun) : Noted none w.activeRecipePours (w, false) :=
  ⟨h.active, h.executing, rfl, h.shown, fun _ => rfl⟩

/-- Nothing noted is found over. -/
theorem findsOver_of_none {w : World} (h : w.activeOperation = none) (m : Move) :
    w.findsOver m = false := by
  unfold World.findsOver
  split
  · rw [Option.any_eq_false]
    intro c _
    simp [World.endsRun, h]
  · rfl

/-- **Quiet surroundings keep the books.** -/
theorem Noted.watch (h : Noted op pours v) (m : QuietMove) : Noted op pours (watch I yaml v m) := by
  obtain ⟨w, found⟩ := v
  have hstep : w.QuietStep (w.move I yaml m.1) (w.findsOver m.1) := World.move_quiet h.shown m.2
  refine ⟨?_, hstep.executing.trans h.executing, hstep.pours.trans h.pours, hstep.shown, ?_⟩
  · show (w.move I yaml m.1).activeOperation = if found || w.findsOver m.1 then none else op
    have hactive : w.activeOperation = if found then none else op := h.active
    rw [hstep.active, hactive]
    cases found with
    | true => simp
    | false => simp
  · intro hop
    have hfound : found = false := h.unnoted hop
    have hnone : w.activeOperation = none := by
      have hactive : w.activeOperation = if found then none else op := h.active
      rw [hactive, hop, ite_self]
    show (found || w.findsOver m.1) = false
    rw [hfound, findsOver_of_none hnone, Bool.false_or]

/-- **What writes no flag keeps the books.** -/
theorem noted_keeps : XBloom.Async.Keeps (watch I yaml) ((anywhere World.SameOperations).beside Bool)
    fun σ : Story Watched Event Await Response QuietMove => Noted op pours σ.world where
  write f σ hwrite h := by
    obtain ⟨hsame, hghost⟩ := hwrite
    refine ⟨?_, hsame.executing.trans h.executing, hsame.pours.trans h.pours,
      hsame.showsNoRun h.shown, fun hop => hghost.trans (h.unnoted hop)⟩
    show (f σ.world).1.activeOperation = if (f σ.world).2 then none else op
    rw [hghost, hsame.active]
    exact h.active
  emit e _ σ h := h
  answer l _ σ reply h := run_preserves (fun _ m hv => hv.watch m) h reply.moves

/-! ## The triples of a start -/

/-- Watched triples of the coordinator. -/
abbrev Starts (I : Identifiers) (yaml : YamlLayer) {α : Type}
    (A : Story Watched Event Await Response QuietMove → Prop) (x : Async α)
    (Q : α → Story Watched Event Await Response QuietMove → Prop)
    (X : PyErr → Story Watched Event Await Response QuietMove → Prop) : Prop :=
  Zooms (observing World Event Await Response Bool) (watch I yaml) A x Q X

/-- A routine that writes no flag. -/
theorem keeps_noted {α : Type} {x : Async α} (h : Within (anywhere World.SameOperations) x) :
    Starts I yaml (fun σ => Noted op pours σ.world) x (fun _ σ => Noted op pours σ.world)
      fun _ σ => Noted op pours σ.world :=
  Zooms.of_within (observing_covers _) noted_keeps h

theorem settling_starts {A : Story Watched Event Await Response QuietMove → Prop}
    {B Q : Except PyErr Unit → Story Watched Event Await Response QuietMove → Prop}
    {X : PyErr → Story Watched Event Await Response QuietMove → Prop} {body : Async Unit}
    {settle : Except PyErr Unit → Async Unit}
    (hbody : Starts I yaml A body (fun u => B (.ok u)) fun e => B (.error e))
    (hsettle : ∀ r, Starts I yaml (B r) (settle r) (fun _ => Q r) X) :
    Starts I yaml A (settling body settle) Q X :=
  .bind (Q := B) (.attempt hbody) fun r => .bind (hsettle r) fun _ => .pure fun _ h => h

/-- What is claimed of a call that reports a failure. -/
def OnFailure (P : Story Watched Event Await Response QuietMove → Prop)
    (r : Option (Except PyErr Unit)) (σ : Story Watched Event Await Response QuietMove) : Prop :=
  ∀ e, r = some (.error e) → P σ

theorem whenConnected_starts {P : Story Watched Event Await Response QuietMove → Prop}
    {x : Async (Except PyErr Unit)}
    (hx : Starts I yaml (fun σ => Noted none pours σ.world) x (fun r => OnFailure P (some r))
      fun _ _ => True) :
    Starts I yaml (fun σ => Noted none pours σ.world) (whenConnected x) (OnFailure P)
      fun _ _ => True := by
  refine .bind (Q := fun _ σ => Noted none pours σ.world)
    ((keeps_noted (ensureConnected_within.mono (sends_anywhere fun _ _ h => h))).weaken
      (fun _ h => h) (fun _ _ h => h) fun _ _ _ => trivial) fun connected => ?_
  cases connected with
  | true => exact .bind hx fun r => .pure fun _ h => h
  | false => exact .pure fun _ _ e he => by cases he

theorem whenPrepared_starts {args : BrewArgs}
    {P : Story Watched Event Await Response QuietMove → Prop}
    {f : Prepared → Async (Except PyErr Unit)}
    (hf : ∀ prepared, Starts I yaml (fun σ => Noted none pours σ.world) (f prepared)
      (fun r => OnFailure P (some r)) fun _ _ => True) :
    Starts I yaml (fun σ => Noted none pours σ.world) (whenPrepared I yaml args f) (OnFailure P)
      fun _ _ => True := by
  refine .bind (Q := fun _ σ => Noted none pours σ.world)
    ((keeps_noted (ensureConnected_within.mono (sends_anywhere fun _ _ h => h))).weaken
      (fun _ h => h) (fun _ _ h => h) fun _ _ _ => trivial) fun connected => ?_
  cases connected with
  | true =>
    refine .world fun w => .bind (Q := fun _ σ => Noted none pours σ.world)
      (.lift (fun _ _ _ h => h.1) fun _ _ _ _ => trivial) fun prepared => ?_
    cases prepared with
    | some prepared => exact .bind (hf prepared) fun r => .pure fun _ h => h
    | none => exact .pure fun _ _ e he => by cases he
  | false => exact .pure fun _ _ e he => by cases he

/-- A manual start: the operation stays noted, whatever its commands do. -/
theorem manual_starts {op : Operation} {commands : Async Unit}
    {settle : Except PyErr Unit → Async Unit}
    (hcommands : Within (anywhere World.SameOperations) commands)
    (hsettle : ∀ r, Starts I yaml (fun σ => Noted (some op) pours σ.world) (settle r)
      (fun _ σ => Noted (some op) pours σ.world) fun _ _ => True) :
    Starts I yaml (fun σ => Noted none pours σ.world) (settling (startManual op commands) settle)
      (fun r => OnFailure (fun σ => Noted (some op) pours σ.world) (some r)) fun _ _ => True := by
  refine settling_starts (B := fun _ σ => Noted (some op) pours σ.world)
    (.bind (Q := fun _ σ => Noted (some op) pours σ.world) (.assign fun σ h => ?_)
      fun _ => keeps_noted (retry_within (fun _ _ h => h) hcommands))
    fun r => (hsettle r).weaken (fun _ h => h) (fun _ _ h _ _ => h) fun _ _ h => h
  have hghost : σ.world.2 = false := h.unnoted rfl
  refine ⟨?_, h.executing, h.pours, h.shown, fun hop => by cases hop⟩
  show some op = if σ.world.2 then none else some op
  rw [hghost]
  rfl

theorem endConfirm_starts {op : Operation} (r : Except PyErr Unit) :
    Starts I yaml (fun σ => Noted (some op) pours σ.world) (endConfirm r)
      (fun _ σ => Noted (some op) pours σ.world) fun _ _ => True :=
  .assign fun _ h => ⟨h.active, h.executing, h.pours, h.shown, h.unnoted⟩

/-- A manual call that confirms. -/
theorem confirming_starts {P : Story Watched Event Await Response QuietMove → Prop}
    {x : Async (Option (Except PyErr Unit))}
    (hx : Starts I yaml (fun σ => Noted none pours σ.world) x (OnFailure P) fun _ _ => True) :
    Starts I yaml (fun σ => Noted none pours σ.world) (beginConfirm >>= fun _ => x) (OnFailure P)
      fun _ _ => True := by
  have hbegin : Within (anywhere World.SameOperations) beginConfirm := .world fun _ => .emit trivial
  exact .bind ((keeps_noted hbegin).weaken (fun _ h => h) (fun _ _ h => h) fun _ _ _ => trivial)
    fun _ => hx

/-- The operation a manual start notes. -/
def StartCall.notes : StartCall → Option Operation
  | pour => some .manualPour
  | confirmPour => some .manualPour
  | grind => some .manualGrind
  | confirmGrind => some .manualGrind
  | _ => none

/-- **The manual starts leave their operation noted.** -/
theorem manual_reports {c : StartCall} {op : Operation} (hc : c.notes = some op) :
    Starts I yaml (fun σ => Noted none pours σ.world) (c.reports I yaml)
      (OnFailure fun σ => Noted (some op) pours σ.world) fun _ _ => True := by
  have hkept : ∀ r : Except PyErr Unit, Starts I yaml (fun σ => Noted (some op) pours σ.world)
      (pure () : Async Unit) (fun _ σ => Noted (some op) pours σ.world) fun _ _ => True :=
    fun _ => .pure fun _ h => h
  have hconfirm : ∀ client size speed, Within (anywhere World.SameOperations)
      (grinderConfirmStart client size speed) := fun _ _ _ => sendCommand_within trivial trivial
  cases c with
  | pour =>
    obtain rfl := Option.some.inj hc
    exact whenConnected_starts (manual_starts brewerStart_within hkept)
  | confirmPour =>
    obtain rfl := Option.some.inj hc
    exact confirming_starts (whenConnected_starts (manual_starts brewerStart_within endConfirm_starts))
  | grind =>
    obtain rfl := Option.some.inj hc
    exact whenConnected_starts (manual_starts (withGrinder_within fun _ _ _ => grinderStart_within) hkept)
  | confirmGrind =>
    obtain rfl := Option.some.inj hc
    exact confirming_starts (whenConnected_starts
      (manual_starts (withGrinder_within hconfirm) endConfirm_starts))
  | executeRecipe args => cases hc
  | armRecipe args => cases hc
  | confirmRecipe => cases hc

/-- A `try` whose `except` leaves the books clear, whatever it finds. -/
theorem recipe_starts {A B : Story Watched Event Await Response QuietMove → Prop}
    {body : Async Unit} {settle : Except PyErr Unit → Async Unit}
    (hbody : Starts I yaml A body (fun _ _ => True) fun _ => B)
    (hok : ∀ u, Starts I yaml (fun _ => True) (settle (.ok u)) (fun _ _ => True) fun _ _ => True)
    (herror : ∀ e, Starts I yaml B (settle (.error e)) (fun _ σ => σ.world.1.BooksClear)
      fun _ _ => True) :
    Starts I yaml A (settling body settle)
      (fun r => OnFailure (fun σ => σ.world.1.BooksClear) (some r)) fun _ _ => True := by
  refine settling_starts (B := fun r σ => ∀ e, r = .error e → B σ)
    (hbody.weaken (fun _ h => h) (fun _ _ _ e he => by cases he) fun _ _ h _ _ => h) fun r => ?_
  cases r with
  | ok u => exact (hok u).weaken (fun _ _ => trivial) (fun _ _ _ e he => by cases he) fun _ _ h => h
  | error e =>
    exact (herror e).weaken (fun _ h => h e rfl) (fun _ _ h _ _ => h) fun _ _ h => h

/-- **The recipe calls take back what they noted.** -/
theorem recipe_reports {c : StartCall} (hc : c.takesBack = true) :
    Starts I yaml (fun σ => Noted none pours σ.world) (c.reports I yaml)
      (OnFailure fun σ => σ.world.1.BooksClear) fun _ _ => True := by
  have hany : ∀ {α : Type} {x : Async α}, Within (anywhere fun _ _ => True) x →
      Starts I yaml (fun _ => True) x (fun _ _ => True) fun _ _ => True :=
    fun hx => Zooms.of_within (observing_covers _) ⟨fun _ _ _ _ => trivial,
      fun _ _ _ _ => trivial, fun _ _ _ _ _ => trivial⟩ hx
  have hchain : ∀ prepared, Within (anywhere World.SameOperations) (beginChain prepared) :=
    fun _ => .world fun _ => .emit trivial
  cases c with
  | executeRecipe args =>
    refine whenPrepared_starts fun prepared => .bind (Q := fun _ _ => True)
      ((keeps_noted (hchain prepared)).weaken (fun _ h => h) (fun _ _ _ => trivial)
        fun _ _ _ => trivial) fun _ => recipe_starts (B := fun _ => True) (hany (.bind
          (.assign fun _ => trivial) fun _ => retry_within (fun _ _ _ => trivial)
            (withBrew_within fun _ _ _ => trivial))) (fun _ => .pure fun _ h => h) fun e =>
              .assign fun σ _ => ⟨rfl, rfl, rfl⟩
  | armRecipe args =>
    -- an arm notes nothing before its commands are out, so only the pours are to be taken back
    refine whenPrepared_starts fun prepared => .bind (Q := fun _ σ => Noted none pours σ.world)
      ((keeps_noted (hchain prepared)).weaken (fun _ h => h) (fun _ _ h => h) fun _ _ _ => trivial)
        fun _ => recipe_starts (B := fun σ => Noted none pours σ.world) (.bind
          (Q := fun _ _ => True) ((keeps_noted (retry_within (fun _ _ h => h)
            (withArm_within fun _ _ h => h))).weaken (fun _ h => h) (fun _ _ _ => trivial)
              fun _ _ h => h) fun payload => ?_) (fun _ => .pure fun _ h => h) fun e =>
                .assign fun σ h => ⟨?_, h.executing, rfl⟩
    · exact .bind (Q := fun _ _ => True) (.bind (Q := fun _ _ => True) (.emit fun _ _ => trivial)
        fun _ => .assign fun _ _ => trivial) fun _ => .assign fun _ _ => trivial
    · have hactive := h.active
      rw [ite_self] at hactive
      exact hactive
  | confirmRecipe =>
    refine confirming_starts (whenConnected_starts (recipe_starts (B := fun _ => True)
      ((hany (.bind (.assign fun _ => trivial) fun _ => retry_within (fun _ _ _ => trivial)
        (sendConfirm_within fun _ _ _ => trivial))).weaken (fun _ _ => trivial) (fun _ _ h => h)
          fun _ _ h => h) (fun _ => .assign fun _ _ => trivial) fun e =>
            .assign fun σ _ => ⟨rfl, rfl, rfl⟩))
  | pour => cases hc
  | confirmPour => cases hc
  | grind => cases hc
  | confirmGrind => cases hc

/-- **When a failed start leaves the books clear.**  From any state without a run, in quiet surroundings,
whatever its `try` caught: exactly if the call is one of the recipes', or no armed recipe's pours were
there and a poll has found the manual run over. -/
theorem failed_start_iff (c : StartCall) {w : World} (hw : w.NoRun)
    {replies : ℕ → Reply Response QuietMove} {e : PyErr}
    (hfailed : (c.told I yaml w replies).1 = .ok (some (.error e))) :
    (c.told I yaml w replies).2.world.1.BooksClear ↔
      c.takesBack = true ∨
        (w.activeRecipePours = none ∧ (c.told I yaml w replies).2.world.2 = true) := by
  have hstart := noted_of_noRun hw
  have hends : ∀ {P : Story Watched Event Await Response QuietMove → Prop},
      Starts I yaml (fun σ => Noted none w.activeRecipePours σ.world) (c.reports I yaml) (OnFailure P)
        (fun _ _ => True) → P (c.told I yaml w replies).2 := by
    intro P hplays
    have hend : conclude (OnFailure P) (fun _ _ => True) (c.told I yaml w replies).1
        (c.told I yaml w replies).2 := Plays.play hplays hstart replies
    rw [hfailed] at hend
    exact hend e rfl
  cases htakes : c.takesBack with
  | true => exact iff_of_true (hends (recipe_reports htakes)) (Or.inl rfl)
  | false =>
    obtain ⟨op, hop⟩ : ∃ op, c.notes = some op := by
      cases c <;> first | exact ⟨_, rfl⟩ | cases htakes
    -- a manual call notes its run before the first write, and takes nothing back
    have hnoted := hends (manual_reports hop)
    simp only [Bool.false_eq_true, false_or]
    constructor
    · intro hclear
      refine ⟨hnoted.pours.symm.trans hclear.pours, ?_⟩
      have hactive := hnoted.active.symm.trans hclear.active
      by_contra hghost
      rw [if_neg hghost] at hactive
      cases hactive
    · rintro ⟨hpours, hghost⟩
      refine ⟨?_, hnoted.executing, hnoted.pours.trans hpours⟩
      rw [hnoted.active, if_pos hghost]

/-! ## A recipe and a pour whose first write fails -/

/-- A machine that is connected, with a coffee selected. -/
def readyToBrew : World :=
  { selecting bypassCoffee with clients := [{ connected := true }], client := some 0 }

/-- Every write fails, and nothing happens meanwhile. -/
def allFail (_ : ℕ) : Reply Response QuietMove where
  moves := []
  response := .failed

theorem readyToBrew_noRun : readyToBrew.NoRun where
  active := rfl
  executing := rfl
  shown := by
    intro c hc
    rw [List.mem_singleton.mp hc]
    rfl

/-- The call of an example. -/
def toldFailing (c : StartCall) :
    Except PyErr (Option (Except PyErr Unit)) × Story Watched Event Await Response QuietMove :=
  c.told plainIdentifiers morningYaml readyToBrew allFail

/-- What a call's `try` caught. -/
def caught : Except PyErr (Option (Except PyErr Unit)) → Option PyErr
  | .ok (some (.error e)) => some e
  | _ => none

theorem eq_of_caught {r : Except PyErr (Option (Except PyErr Unit))} {e : PyErr}
    (h : caught r = some e) : r = .ok (some (.error e)) := by
  unfold caught at h
  split at h
  · rw [Option.some.inj h]
  · cases h

/-- An execution whose first write fails leaves the books clear. -/
theorem failed_execution_clear : (toldFailing (.executeRecipe {})).2.world.1.BooksClear := by
  have hcaught : (toldFailing (.executeRecipe {})).1 = .ok (some (.error .connectionError)) :=
    eq_of_caught (by decide +kernel)
  exact (failed_start_iff (.executeRecipe {}) readyToBrew_noRun hcaught).mpr (Or.inl rfl)

/-- **A pour that never began stays the active operation**: its first write fails, and the call returns
with `manual_pour` in the books. -/
theorem failed_pour_stays : readyToBrew.NoRun ∧ readyToBrew.activeRecipePours = none ∧
    (toldFailing .pour).1 = .ok (some (.error .connectionError)) ∧
    ¬ (toldFailing .pour).2.world.1.BooksClear := by
  refine ⟨readyToBrew_noRun, rfl, eq_of_caught (by decide +kernel), fun hclear => ?_⟩
  have hactive : (toldFailing .pour).2.world.1.activeOperation = some .manualPour := by decide +kernel
  exact absurd (hactive.symm.trans hclear.active) (by decide)

end XBloom.Coordinator
