/-
# XBloom.Llm.Armings — every start has a cause

The armed flag is set by an arm only, and an arm says so.  So in a run that begins with nothing armed, a call
that finds an arm standing finds one that some call of the run has made, and with `two_phase_calls` every
start command of a run comes from a call that starts things directly, or from a call of two phases that was
told to start, found its arm standing, and did not make it itself (`starts_have_causes`).
-/
import XBloom.Async.Parts
import XBloom.Llm.TwoPhase

namespace XBloom.Llm

open XBloom.Async XBloom.Logic XBloom.Py XBloom.Ble XBloom.Recipe XBloom.Brewing XBloom.Coordinator

/-! ## The contract -/

/-- What arms stand was said. -/
def Foretold (s : State World HomeEvent HomeCall) : Prop :=
  ∀ op, s.1.armedOperation = some op → ∃ e ∈ s.2, e.event = .coordinator (.armed op)

/-- **The contract of arms at home**: every flag was said to be set, and a confirm that finds one finds
it said. -/
def foretelling : Contract World HomeEvent Await Response HomeCall where
  inv := Foretold
  rely _ _ s s' := s.2 <+: s'.2
  guarantee _ _ s s' := s.2 <+: s'.2
  stop _ _ _ := True
  assume _ _ := True
  ensure tr e := ∀ op, e.event = .coordinator (.confirming (some op)) →
    ∃ e' ∈ tr, e'.event = .coordinator (.armed op)
  rely_refl _ _ _ := List.prefix_rfl
  rely_trans _ _ _ _ _ h h' := h.trans h'
  guarantee_refl _ _ _ := List.prefix_rfl
  guarantee_trans _ _ _ _ _ h h' := h.trans h'

/-- The same, wherever the segment began. -/
def foretold : Assertion World HomeEvent Await Response HomeCall := fun _ s => Foretold s

/-- A flag that is cleared needs no arm. -/
theorem Foretold.clears {s : State World HomeEvent HomeCall} {w' : World} (h : Foretold s)
    (hclears : s.1.ClearsArmed w') : Foretold (w', s.2) :=
  fun op hop => h op (hclears.armed hop)

/-- What was said stays said. -/
theorem Foretold.talks {s : State World HomeEvent HomeCall} (h : Foretold s)
    (e : Entry HomeCall HomeEvent) : Foretold (s.1, s.2 ++ [e]) := by
  intro op hop
  obtain ⟨e', he', harmed⟩ := h op hop
  exact ⟨e', List.mem_append_left _ he', harmed⟩

/-- Setting no flag, and finding none. -/
def unarming : CoordinatorFootprint where
  awaits _ := True
  emits e := ∀ op, e ≠ .confirming (some op)
  writes := World.ClearsArmed

/-- The same at home. -/
def homeUnarming : Footprint World HomeEvent Await where
  awaits _ := True
  emits e := ∀ op, e ≠ .coordinator (.confirming (some op))
  writes := World.ClearsArmed

/-- At home a coroutine of the coordinator sets no flag if it sets none by itself. -/
theorem unarming_covers : hearing.Covers unarming homeUnarming where
  writes _ _ h := h
  emits e h op := by
    intro heq
    exact h op (HomeEvent.coordinator.inj heq)
  awaits _ h := h

variable {c : HomeCall} {t : ℕ}

/-- What neither sets a flag nor confirms one keeps the contract. -/
theorem foretold_stable : Stable foretelling c t homeUnarming foretold where
  write _ _ _ h hclears := ⟨List.prefix_rfl, Foretold.clears h hclears⟩
  emit _ _ _ h he _ :=
    ⟨fun op hop => absurd hop (he op), List.prefix_append _ _, Foretold.talks h _⟩
  await _ _ _ h _ := ⟨⟨h, trivial⟩, fun _ _ _ hinv => hinv⟩

/-! ## Coroutines that keep it -/

/-- A coroutine of the coordinator that keeps the contract, as any task of any call. -/
def Foretells {α : Type} (x : Coordinator.Async α) : Prop :=
  ∀ c t, MeetsIn hearing foretelling c t foretold x (fun _ => foretold) fun _ => foretold

namespace Foretells

variable {α β : Type} {x y : Coordinator.Async α} {op : Armed}

/-- A coroutine that neither arms nor confirms. -/
theorem of_within (h : Within unarming x) : Foretells x :=
  fun _ _ => MeetsIn.of_within unarming_covers foretold_stable h

/-- One coroutine after another. -/
theorem bind {f : α → Coordinator.Async β} (hx : Foretells x) (hf : ∀ a, Foretells (f a)) :
    Foretells (x >>= f) := fun c t => .bind (hx c t) fun a => hf a c t

/-- A coroutine that reads the world first. -/
theorem world {f : World → Coordinator.Async α} (h : ∀ w, Foretells (f w)) :
    Foretells (Routine.world >>= f) :=
  fun c t => .world fun w => (h w c t).pre fun _ _ h => h.1

/-- One whose exception is caught. -/
theorem attempt (h : Foretells x) : Foretells (Routine.attempt x) := fun c t => .attempt (h c t)

/-- One or the other. -/
theorem ite {b : Prop} [Decidable b] (hx : Foretells x) (hy : Foretells y) :
    Foretells (if b then x else y) := fun c t => .ite (fun _ => hx c t) fun _ => hy c t

/-- None at all. -/
theorem pure (a : α) : Foretells (Pure.pure a) := fun _ _ => .pure fun _ _ h => h

/-- The flag is set after it was said to be. -/
theorem setArmed (op : Armed) : Foretells (setArmed op) := by
  intro c t
  refine .bind (Q := fun _ o s => foretold o s ∧ ∃ e ∈ s.2, e.event = .coordinator (.armed op))
    (.emit fun o s h _ => ⟨fun op' hop' => ?_, List.prefix_append _ _, Foretold.talks h _,
      _, List.mem_append_right _ List.mem_cons_self, rfl⟩) fun _ => .assign fun o s h =>
        ⟨List.prefix_rfl, fun op' hop' => ?_⟩
  · simp [hearing] at hop'
  · -- the flag that stands now is the one that was said
    obtain rfl : op = op' := Option.some.inj hop'
    exact h.2

/-- A confirm finds what was said. -/
theorem beginConfirm : Foretells beginConfirm := by
  refine fun c t => .world fun w => .emit fun o s h _ => ⟨fun op hop => ?_, List.prefix_append _ _,
    Foretold.talks h.1 _⟩
  have harmed : w.armedOperation = some op := by
    simpa [hearing] using hop
  have hw : s.1 = w := h.2
  exact h.1 op (by rw [hw]; exact harmed)

end Foretells

/-! ## The pieces of a call -/

/-- What leaves the operations alone leaves the flag. -/
theorem same_clears {w w' : World} (h : w.SameOperations w') : w.ClearsArmed w' := Or.inl h.armed

/-- A coroutine that only sends sets no flag. -/
theorem sends_unarming {awaits : List Await} {commands : List Command} {connects : Bool} :
    sends awaits commands connects ≤ unarming :=
  sends_le (fun _ _ => trivial) (fun _ _ _ _ => by simp) (fun _ _ _ => by simp)
    fun _ _ h => same_clears h

section
variable {α β : Type} {x action : Coordinator.Async α}

/-- A send. -/
theorem unarming_send {client : ℕ} {packet : Packet} : Within unarming (sendCommand client packet) :=
  sendCommand_within trivial fun _ => by simp

/-- The wake-up retry of an action that sets no flag. -/
theorem unarming_retry (h : Within unarming action) : Within unarming (retryWhileSleeping action) :=
  retryWhileSleeping_within h trivial sends_unarming

/-- A call that wants a link, and sets no flag once it has one. -/
theorem unarming_connected (h : Within unarming x) {a : α} : Within unarming
    (do let connected ← ensureConnected
        if connected then x else pure a : Coordinator.Async α) := by
  refine .bind (ensureConnected_within.mono sends_unarming) fun connected => ?_
  split
  · exact h
  · exact .pure _

/-- A call that wants a link, and keeps the contract once it has one. -/
theorem connected_foretells (h : Foretells x) {a : α} : Foretells
    (do let connected ← ensureConnected
        if connected then x else pure a : Coordinator.Async α) :=
  .bind (.of_within (ensureConnected_within.mono sends_unarming)) fun _ => .ite h (.pure _)

/-- The brewer's start. -/
theorem unarming_brewerStart : Within unarming brewerStart :=
  .world fun _ => withClient_within fun _ => .bind (.lift _) fun _ => unarming_send

/-- A method of the grinder. -/
theorem unarming_grinder {f : ℕ → ℤ → ℤ → Coordinator.Async Unit}
    (h : ∀ client size speed, Within unarming (f client size speed)) :
    Within unarming (withGrinder f) :=
  .world fun w => withClient_within fun client => h client w.grindSize w.rpm

/-- What a confirm sends. -/
theorem unarming_sendConfirm : Within unarming sendConfirm := by
  refine .world fun w => withClient_within fun client => ?_
  unfold confirmRecipe
  split
  · split
    · exact makeTea_within.mono sends_unarming
    · exact .throw _
  · exact executeCoffeeRecipe_within.mono sends_unarming

/-- A cancel only clears the flag. -/
theorem unarming_cancel : Within unarming asyncCancel :=
  .world fun _ => .bind (.assign fun _ => Or.inr rfl) fun _ => unarming_connected
    (.bind (.attempt (sendStops_within.mono sends_unarming)) fun _ => .pure _)

end

/-! ## Arms and confirms -/

/-- **An arm of a grind says so.** -/
theorem asyncArmGrind_foretells : Foretells asyncArmGrind :=
  connected_foretells (.bind (.attempt (.bind (.of_within (unarming_retry (unarming_grinder fun _ _ _ =>
    unarming_send))) fun _ => .setArmed _)) fun _ => .pure _)

/-- **So does an arm of a pour**, before it pushes the setpoints. -/
theorem asyncArmPour_foretells : Foretells asyncArmPour := by
  refine connected_foretells (.bind (.attempt (.bind (.of_within (unarming_retry (withClient_within fun _ =>
    unarming_send))) fun _ => .setArmed _)) fun armed => ?_)
  cases armed with
  | error _ => exact .pure _
  | ok _ =>
    exact .of_within (.bind (.await trivial) fun _ => .bind (.attempt (.world fun _ => .bind
      (withClient_within fun _ => .bind (.lift _) fun _ => unarming_send) fun _ =>
        .bind (.await trivial) fun _ => .world fun _ => withClient_within fun _ => unarming_send))
          fun _ => .pure _)

/-- **So does an arm of a recipe**; one that fails has set no flag. -/
theorem armPrepared_foretells (prepared : Prepared) : Foretells (armPrepared prepared) := by
  refine .bind (.of_within (.world fun _ => .emit fun _ => by simp)) fun _ => .bind (.attempt (.bind
    (.of_within (unarming_retry (withClient_within fun _ => armRecipe_within.mono sends_unarming)))
      fun _ => .bind (.setArmed _) fun _ => .of_within (.assign fun _ => Or.inl rfl)))
        fun armed => ?_
  cases armed with
  | ok _ => exact .pure _
  | error _ => exact .of_within (.assign fun _ => Or.inl rfl)

/-- A manual confirm. -/
theorem startManual_foretells {operation : Operation} {action : Coordinator.Async Unit}
    (h : Within unarming action) : Foretells (do
      beginConfirm
      let connected ← ensureConnected
      if connected then do
        let started ← Routine.attempt do
          Routine.assign fun w => { w with activeOperation := some operation }
          retryWhileSleeping action
        Routine.assign fun w => { w with armedOperation := none }
        pure started.toBool
      else pure false) := by
  refine .bind .beginConfirm fun _ => .of_within ?_
  refine unarming_connected ?_
  refine .bind (.attempt (.bind (.assign fun _ => Or.inl rfl) fun _ => unarming_retry h)) fun _ => ?_
  exact .bind (.assign fun _ => Or.inr rfl) fun _ => .pure _

/-- A confirm of a grind. -/
theorem asyncConfirmGrind_foretells : Foretells asyncConfirmGrind :=
  startManual_foretells (unarming_grinder fun _ _ _ => unarming_send)

/-- A confirm of a pour. -/
theorem asyncConfirmPour_foretells : Foretells asyncConfirmPour :=
  startManual_foretells unarming_brewerStart

/-- A confirm of a recipe. -/
theorem asyncConfirmRecipe_foretells : Foretells asyncConfirmRecipe := by
  refine .bind .beginConfirm fun _ => .of_within ?_
  refine unarming_connected ?_
  refine .bind (.attempt (.bind (.assign fun _ => Or.inl rfl) fun _ =>
    unarming_retry unarming_sendConfirm)) fun started => ?_
  split
  · exact .bind (.assign fun _ => Or.inr rfl) fun _ => .pure _
  · exact .bind (.assign fun _ => Or.inr rfl) fun _ => .pure _

section
variable {α : Type} {I : Identifiers} {yaml : YamlLayer}

/-- A call with a prepared recipe. -/
theorem withPrepared_foretells {args : BrewArgs} {f : Prepared → Coordinator.Async Unit}
    (h : ∀ prepared, Foretells (f prepared)) : Foretells (withPrepared I yaml args f) := by
  refine connected_foretells (.world fun w => .bind (.of_within (.lift _)) fun prepared => ?_)
  cases prepared with
  | some prepared => exact h prepared
  | none => exact .pure _

/-- A recipe executed at once arms nothing. -/
theorem asyncExecuteRecipe_foretells (args : BrewArgs) :
    Foretells (asyncExecuteRecipe I yaml args) := by
  refine withPrepared_foretells fun prepared => .of_within ?_
  refine .bind (.world fun _ => .emit fun _ => by simp) fun _ => ?_
  refine .bind (.attempt (.bind (.assign fun _ => Or.inl rfl) fun _ => unarming_retry
    (withClient_within fun _ => brewRecipe_within sends_unarming sends_unarming trivial))) fun brewed => ?_
  split
  · exact .pure _
  · exact .assign fun _ => Or.inl rfl

/-- A recipe is prepared and armed. -/
theorem asyncArmRecipe_foretells (args : BrewArgs) : Foretells (asyncArmRecipe I yaml args) :=
  withPrepared_foretells armPrepared_foretells

/-- A call whose result nobody reads. -/
theorem drop_foretells {x : Coordinator.Async Bool} (h : Foretells x) : Foretells (drop x) :=
  .bind h fun _ => .pure _

/-- A button confirms or arms. -/
theorem press_foretells {op : Armed} {confirm arm : Coordinator.Async Unit} (hconfirm : Foretells confirm)
    (harm : Foretells arm) : Foretells (press op confirm arm) :=
  .world fun _ => .ite hconfirm harm

/-- The recipe tool confirms what it finds standing, or selects, cancels and arms. -/
theorem toolPhase_foretells (args : ToolArgs) (name : String) (recipe : RecipeDict) :
    Foretells (toolPhase I yaml args name recipe) := by
  have hselect : ∀ w : World, (w.selectForTool yaml args name recipe).armedOperation =
      w.armedOperation := by
    intro w
    obtain ⟨size, rpm, hwrites⟩ := w.selectForTool_writes yaml args name recipe
    rw [hwrites]
  refine .world fun w => .ite (.pure _) (.ite ?_ ?_)
  · exact .bind (.of_within (.emit fun _ => by simp)) fun _ => drop_foretells asyncConfirmRecipe_foretells
  · exact .bind (.of_within (.assign fun w => Or.inl (hselect w))) fun _ => .world fun w =>
      .bind (.of_within (.when unarming_cancel)) fun _ => asyncArmRecipe_foretells _

/-- The recipe tool, which connects first if it has to. -/
theorem executeRecipeTool_foretells (args : ToolArgs) :
    Foretells (executeRecipeTool I yaml args) := by
  refine .world fun w => ?_
  cases findRecipe I (w.recipes yaml) args.recipe with
  | none => exact .pure _
  | some found =>
    exact .ite (toolPhase_foretells args _ _) (.bind (.of_within (asyncConnect_within.mono
      sends_unarming)) fun _ => .ite (toolPhase_foretells args _ _) (.pure _))

/-! ## Every call -/

/-- A pause or a restart of a manual run. -/
theorem pauseManual_unarming {shown : ShownState} {pause restart : Command} :
    Within unarming (pauseResumeManual shown pause restart) := by
  have hbare : ∀ k, Within unarming (sendBare k) :=
    fun k => sendBare_within trivial fun _ _ => by simp
  unfold pauseResumeManual
  split
  · exact .bind (hbare _) fun _ => .assign fun _ => Or.inl rfl
  · exact .bind (hbare _) fun _ => .assign fun _ => Or.inl rfl

/-- Pausing and resuming sets no flag. -/
theorem asyncPauseResume_foretells (shown : ShownState) : Foretells (asyncPauseResume shown) := by
  refine .of_within ?_
  refine unarming_connected (.world fun w => ?_)
  split
  · exact .pure _
  · refine .bind (.attempt ?_) fun _ => .pure _
    split
    · exact pauseManual_unarming
    · exact pauseManual_unarming
    · cases shown with
      | paused => exact sendBare_within trivial fun _ _ => by simp
      | running => exact sendBare_within trivial fun _ _ => by simp
      | unread => exact .pure _

/-- A command of the scale, retried. -/
theorem retried_foretells (command : Command) : Foretells (retried (sendChecked command)) := by
  refine .of_within ?_
  refine unarming_connected ?_
  exact .bind (.attempt (unarming_retry (withClient_within fun _ => .bind requireConnected_within
    fun _ => unarming_send))) fun _ => .pure _

/-- A slider writes its setpoint and sends it. -/
theorem slide_foretells (slider : Slider) : Foretells slider.set := by
  refine .of_within (slider.set_within.mono ⟨fun _ _ => trivial, fun e he op => ?_, fun w w' h => ?_⟩)
  · rcases he with he | ⟨client, packet, rfl, _⟩
    · exact sends_unarming.2.1 e he op
    · simp
  · rcases h with h | h
    · exact same_clears h
    · exact Or.inl h.armed

/-- **Every call of the coordinator keeps the contract.** -/
theorem call_foretells (c : Call) : Foretells (c.routine I yaml) := by
  have hlink : ∀ {β : Type} {x : Coordinator.Async β}, Within linkFootprint x → Foretells x :=
    fun h => .of_within (h.mono sends_unarming)
  cases c with
  | pour =>
    refine connected_foretells (.of_within ?_)
    exact .bind (.attempt (.bind (.assign fun _ => Or.inl rfl) fun _ =>
      unarming_retry unarming_brewerStart)) fun _ => .pure _
  | grind =>
    refine connected_foretells (.of_within ?_)
    exact .bind (.attempt (.bind (.assign fun _ => Or.inl rfl) fun _ => unarming_retry
      (unarming_grinder fun _ _ _ => .bind unarming_send fun _ => .bind (.await trivial) fun _ =>
        unarming_send))) fun _ => .pure _
  | executeRecipe args => exact asyncExecuteRecipe_foretells args
  | armPour => exact drop_foretells asyncArmPour_foretells
  | confirmPour => exact drop_foretells asyncConfirmPour_foretells
  | armGrind => exact drop_foretells asyncArmGrind_foretells
  | confirmGrind => exact drop_foretells asyncConfirmGrind_foretells
  | armRecipe args => exact asyncArmRecipe_foretells args
  | confirmRecipe => exact drop_foretells asyncConfirmRecipe_foretells
  | cancel => exact .of_within unarming_cancel
  | connect => exact drop_foretells (hlink asyncConnect_within)
  | disconnect => exact hlink (asyncDisconnect_within.mono quiet_le_link)
  | dropStaleLink => exact hlink (asyncDropStaleLink_within.mono quiet_le_link)
  | enterIdleStandby => exact hlink (asyncEnterIdleStandby_within.mono quiet_le_link)
  | pressGrind =>
    exact press_foretells (drop_foretells asyncConfirmGrind_foretells)
      (drop_foretells asyncArmGrind_foretells)
  | pressPour =>
    exact press_foretells (drop_foretells asyncConfirmPour_foretells)
      (drop_foretells asyncArmPour_foretells)
  | pressRecipe =>
    exact press_foretells (drop_foretells asyncConfirmRecipe_foretells) (asyncArmRecipe_foretells _)
  | executeRecipeTool args => exact executeRecipeTool_foretells args

/-! ## The tools -/

/-- The tools' auto-connect. -/
theorem reachMachine_foretells : Foretells reachMachine :=
  .world fun _ => .ite (.pure _) (.bind (.attempt (.of_within (asyncConnect_within.mono
    sends_unarming))) fun _ => .pure _)

/-- The second half of a two-phase tool confirms or arms. -/
theorem twoPhase_foretells {op : Armed} {confirmed : Bool} {confirm arm : Coordinator.Async Bool}
    {settings : Bool → World → Settings} (hconfirm : Foretells confirm) (harm : Foretells arm) :
    Foretells (twoPhase op confirmed confirm arm settings) := by
  refine .world fun w => .bind (.attempt (.ite hconfirm harm)) fun ran => ?_
  cases ran with
  | error e => exact .pure _
  | ok b =>
    cases b with
    | false => exact .pure _
    | true => exact .world fun w => .pure _

/-- The grind tool. -/
theorem grindTool_foretells (args : GrindArgs) : Foretells (grindTool args) := by
  refine .bind reachMachine_foretells fun reached => .ite ?_ (.pure _)
  exact .bind (.of_within (.assign fun _ => Or.inl rfl)) fun _ =>
    twoPhase_foretells asyncConfirmGrind_foretells asyncArmGrind_foretells

/-- The pour tool. -/
theorem pourTool_foretells (args : PourArgs) : Foretells (pourTool args) := by
  unfold pourTool
  split
  · exact .pure _
  · refine .bind reachMachine_foretells fun reached => .ite ?_ (.pure _)
    exact .bind (.of_within (.lift _)) fun _ => .bind (.of_within (.assign fun _ => Or.inl rfl))
      fun _ => twoPhase_foretells asyncConfirmPour_foretells asyncArmPour_foretells

/-- A tool that makes one call on the machine. -/
theorem plainTool_foretells {call : Coordinator.Async Unit} (h : Foretells call) :
    Foretells (plainTool call) := by
  refine .bind reachMachine_foretells fun reached => .ite (.bind (.attempt h) fun ran => ?_) (.pure _)
  cases ran <;> exact .pure _

/-- The cancel tool. -/
theorem cancelTool_foretells : Foretells cancelTool := by
  refine .bind (.attempt (.of_within unarming_cancel)) fun ran => ?_
  cases ran <;> exact .pure _

/-- **Every call of the home keeps the contract.** -/
theorem routine_foretells (c c' : HomeCall) (t : ℕ) : Meets foretelling c' t foretold
    (c.routine I yaml) (fun _ => foretold) fun _ => foretold := by
  have hreply : ∀ {x : Coordinator.Async ToolReply}, Foretells x →
      Meets foretelling c' t foretold (replying x) (fun _ => foretold) fun _ => foretold :=
    fun h => Meets.bind (h c' t) fun reply => Meets.emit fun o s hs _ =>
      ⟨fun op hop => (by cases hop), List.prefix_append _ _, Foretold.talks hs _⟩
  cases c with
  | call c => exact call_foretells c c' t
  | pauseResume shown => exact asyncPauseResume_foretells shown c' t
  | tareScale => exact retried_foretells _ c' t
  | enterScaleMode => exact retried_foretells _ c' t
  | exitScaleMode => exact retried_foretells _ c' t
  | slide slider => exact slide_foretells slider c' t
  | grindTool args => exact hreply (grindTool_foretells args)
  | pourTool args => exact hreply (pourTool_foretells args)
  | tareTool => exact hreply (plainTool_foretells (retried_foretells _))
  | statusTool => exact hreply (plainTool_foretells (.pure _))
  | cancelTool => exact hreply cancelTool_foretells

/-- **Every step of the home keeps the contract.** -/
theorem foretelling_stepOk {p : HomePool} {a : HomeAction} (hp : PoolOk foretelling p) :
    StepOk foretelling (homeSystem I yaml) p a where
  begins c _ := by
    show wp foretelling c p.spawned _ ((c.routine I yaml).run.bind fun _ => .ret ()) _ _
    rw [wp_bind]
    refine wp_mono (routine_foretells c c p.spawned ⟨none, p.state⟩ p.state hp.inv) fun r o s hr => ?_
    cases r with
    | ok a => exact ⟨hr, trivial⟩
    | error e => exact ⟨hr, trivial⟩
  assumed _ _ := emits_of_forall (fun _ _ => trivial) _ _
  heeded _ _ _ hguarantee _ _ _ _ := hguarantee
  moved m _ :=
    ⟨Foretold.clears hp.inv (p.world.move_clears I yaml m), fun _ _ _ _ => List.prefix_rfl⟩

variable (I yaml) in
/-- **A confirm finds an arm that the run has made**, when the run began with none. -/
theorem confirms_foretold {w : World} (hw : w.armedOperation = none) (as : List HomeAction) :
    EachFinds foretelling.ensure (homeRun I yaml w as).trace := by
  have hidle : PoolOk foretelling (Pool.idle w : HomePool) :=
    poolOk_idle fun op hop => absurd (hw.symm.trans hop) (by simp)
  have hall : AllSteps (Pool.step (homeSystem I yaml)) (fun _ _ => True) (Pool.idle w) as :=
    AllSteps.of_kept (fun _ _ (_ : True) => ⟨trivial, trivial⟩) as trivial
  obtain ⟨_, hensured⟩ := PoolOk.run (S := homeSystem I yaml)
    (fun p a hp _ => foretelling_stepOk hp) hidle hall
  exact eachFinds_run eachFinds_nil hensured

end

/-! ## Causes -/

/-- A start, and what it is due to. -/
def Caused (past : Trace HomeCall HomeEvent) (e : Entry HomeCall HomeEvent) : Prop :=
  e.call.direct = true ∨ ∃ op, e.call.stages = some (op, true) ∧
    (∃ c packet, e.event = .coordinator (.sent c packet) ∧ goes op packet.command = true) ∧
    (∃ e' ∈ past, e'.task = e.task ∧ e'.event = .coordinator (.confirming (some op))) ∧
    ∃ e' ∈ past, e'.task ≠ e.task ∧ e'.event = .coordinator (.armed op)

/-- A start is a packet with a start command. -/
theorem starts_sent {e : HomeEvent} (h : e.starts = true) :
    ∃ c packet, e = .coordinator (.sent c packet) ∧ startCommand packet.command = true := by
  cases e with
  | replied reply => cases h
  | coordinator e =>
    cases e with
    | sent c packet => exact ⟨c, packet, rfl, h⟩
    | _ => cases h

/-- **Every start has a cause.**  In every run that begins with nothing armed, whoever calls what and
however the calls interleave: a start command comes from a call that starts things directly, or from a call of
two phases that was told to start, starts its own operation, and found its arm standing, which another call
had made before. -/
theorem starts_have_causes (I : Identifiers) (yaml : YamlLayer) (w : World)
    (hw : w.armedOperation = none) (as : List HomeAction) (past later : Trace HomeCall HomeEvent)
    (e : Entry HomeCall HomeEvent) (htrace : (homeRun I yaml w as).trace = past ++ e :: later)
    (hstarts : e.event.starts = true) : Caused past e := by
  have he : e ∈ (homeRun I yaml w as).trace := by
    rw [htrace]
    exact List.mem_append_right _ List.mem_cons_self
  obtain ⟨c, packet, hevent, hstart⟩ := starts_sent hstarts
  obtain ⟨s, hs⟩ := home_protocol I yaml w as e he
  rw [htrace, saidBy_split] at hs
  cases hstages : e.call.stages with
  | none =>
    refine Or.inl ?_
    by_contra hdirect
    have hquiet : e.call.talk = quietTalk := by
      simp only [HomeCall.talk, hstages]
      rw [if_neg hdirect]
    rw [hquiet] at hs
    obtain ⟨now, next, -, hnext, -⟩ := Protocol.after_split _ hs
    rw [quietTalk, if_pos hstarts] at hnext
    cases hnext
  | some staged =>
    obtain ⟨op, may⟩ := staged
    have htalk : e.call.talk = homeTalk op may := by simp only [HomeCall.talk, hstages]
    rw [htalk, ← saidBy_split, ← htrace] at hs
    have htwo := twoPhased_of_talk hs
    have hsaid : saidBy e.task (homeRun I yaml w as).trace =
        saidBy e.task past ++ .coordinator (.sent c packet) :: saidBy e.task later := by
      rw [htrace, saidBy_split, hevent]
    obtain ⟨hgoes, rfl, hconfirming⟩ := htwo.starts _ _ _ _ hsaid hstart
    obtain ⟨e', he', htask, hconfirmed⟩ := mem_saidBy.mp hconfirming
    refine Or.inr ⟨op, hstages, ⟨c, packet, hevent, hgoes⟩, ⟨e', he', htask, hconfirmed⟩, ?_⟩
    -- what the confirm found was said before it, and not by its own call
    obtain ⟨before, after, rfl⟩ := List.append_of_mem he'
    obtain ⟨armed, harmed, hop⟩ := confirms_foretold I yaml hw as before e'
      (after ++ e :: later) (by rw [htrace]; simp) op hconfirmed
    refine ⟨armed, List.mem_append_left _ harmed, fun hsame => ?_, hop⟩
    rcases htwo.apart with hno | hno
    · have hmem : e.event ∈ saidBy e.task (homeRun I yaml w as).trace :=
        mem_saidBy.mpr ⟨e, he, rfl, rfl⟩
      rw [hno _ hmem] at hstarts
      cases hstarts
    · refine hno op (mem_saidBy.mpr ⟨armed, ?_, hsame, hop⟩)
      rw [htrace]
      exact List.mem_append_left _ (List.mem_append_left _ harmed)

/-- The start of a grind that the agent armed and then confirmed. -/
theorem confirmed_grind_caused :
    let trace := (homeRun plainIdentifiers morningYaml connectedWorld askedTwice).trace
    Caused (trace.take 4) ⟨1, .grindTool { confirmed := true }, .coordinator (.sent 0
      { command := .grinderStart, args := [.int 1000, .int 40, .int 80] })⟩ :=
  starts_have_causes plainIdentifiers morningYaml connectedWorld rfl askedTwice _
    ((homeRun plainIdentifiers morningYaml connectedWorld askedTwice).trace.drop 5) _ (by rfl) rfl

end XBloom.Llm
