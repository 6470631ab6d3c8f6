/-
# XBloom.Llm.Stages — the stages of a two-phase call

A two-phase call is asked, and then it either opens its page and arms it, or it confirms what stands and
starts it; it never does both, and a tool says at its end which of the two it did.  `stageTalk` is this as
a protocol over what the call emits, and every two-phase tool and button keeps to it, whatever happens while
it waits.
-/
import XBloom.Coordinator.Standing
import XBloom.Llm.Tools

namespace XBloom.Llm

open XBloom.Async XBloom.Py XBloom.Ble XBloom.Recipe XBloom.Brewing XBloom.Coordinator

/-! ## The protocol -/

/-- How far a two-phase call is. -/
inductive Stage where
  | asked
  | opening
  | armed
  | confirmed
  | started
  | replied
  deriving DecidableEq, Repr

/-- The commands of connects, with their push of unit changes, and of cancels. -/
def linkCommands : List Command :=
  [.handshake, .recipeStop, .brewerQuit, .grinderQuit, .recipeStartQuit, .grinderStop, .brewerStop] ++
    pushCommands

/-- A command before anything is armed or started. -/
def Stage.sendAsked (k : Command) : Option Stage :=
  if startCommand k = true then none
  else if linkCommands.contains k = true then some .asked else some .opening

/-- A command of a call that arms. -/
def Stage.sendArming (stage : Stage) (k : Command) : Option Stage :=
  if startCommand k = true then none else some stage

/-- A command of a call that has confirmed its arm. -/
def Stage.sendStarting (op : Armed) (stage : Stage) (k : Command) : Option Stage :=
  if goes op k = true then some .started
  else if linkCommands.contains k = true then some stage else none

/-- **What a two-phase call of `op` emits**; it may start only if it was told so. -/
def stageTalk (op : Armed) (may : Bool) : Protocol Stage Event
  | .asked, .sent _ packet => Stage.sendAsked packet.command
  | .asked, .connecting _ => some .asked
  | .asked, .naming _ => some .asked
  | .asked, .chain _ _ => some .opening
  | .asked, .confirming armed =>
    if may = true ∧ armed = some op then some .confirmed else none
  | .opening, .sent _ packet => Stage.sendArming .opening packet.command
  | .opening, .connecting _ => some .opening
  | .opening, .armed op' => if op' = op then some .armed else none
  | .armed, .sent _ packet => Stage.sendArming .armed packet.command
  | .armed, .connecting _ => some .armed
  | .confirmed, .sent _ packet => Stage.sendStarting op .confirmed packet.command
  | .confirmed, .connecting _ => some .confirmed
  | .started, .sent _ packet => Stage.sendStarting op .started packet.command
  | .started, .connecting _ => some .started
  | _, _ => none

/-- **What it may reply**, from its stage. -/
def Stage.mayReply (may : Bool) : Stage → ToolReply → Bool
  | .asked, .missingTemperature => true
  | .asked, .connectFailed => true
  | .asked, .armFailed => true
  | .opening, .armFailed => true
  | .armed, .armed again _ => again == may
  | .confirmed, .startFailed => true
  | .started, .startFailed => true
  | .started, .started _ => true
  | .replied, _ => false
  | _, .raised _ => true
  | _, _ => false

/-- What it says at home: what it emits, and one reply at its end. -/
def homeTalk (op : Armed) (may : Bool) : Protocol Stage HomeEvent
  | stage, .coordinator e => stageTalk op may stage e
  | stage, .replied reply => if stage.mayReply may reply = true then some .replied else none

/-! ## The link at any stage -/

variable {op : Armed} {may : Bool} {α : Type}

/-- Stages in which a call may reach the machine. -/
def Stage.open : Stage → Bool
  | .replied => false
  | _ => true

/-- Connects and drops leave every stage as it is. -/
theorem link_stage {stage : Stage} (h : stage.open = true) {e : Event} (he : linkFootprint.emits e) :
    stageTalk op may stage e = some stage := by
  cases e with
  | sent c packet =>
    have hlinks : ∀ k ∈ [Command.handshake, .recipeStop, .brewerQuit, .grinderQuit] ++ pushCommands,
        startCommand k = false ∧ linkCommands.contains k = true := by decide
    obtain ⟨hstart, hlink⟩ := hlinks packet.command (List.contains_iff_mem.mp he)
    have hgoes : goes op packet.command = false := goes_start hstart op
    cases stage <;>
      simp_all [stageTalk, Stage.sendAsked, Stage.sendArming, Stage.sendStarting, Stage.open]
  | connecting armed => cases stage <;> first | rfl | cases h
  | armed op' => cases he
  | chain armed uid => cases he
  | confirming armed => cases he
  | naming uid => cases he

/-- A call in one of some stages, whatever the world. -/
def among (stages : List Stage) : Stage → World → Prop := fun s _ => s ∈ stages

theorem link_talks {stages : List Stage} (h : ∀ s ∈ stages, s.open = true) {x : Coordinator.Async α}
    (hx : Within linkFootprint x) :
    Says (stageTalk op may) (among stages) x (fun _ => among stages) fun _ => among stages :=
  hx.talks fun s _ hs he => ⟨s, link_stage (h s hs) he, hs⟩

/-- A send leaves the stage it leads to. -/
theorem sendCommand_talks {stages stages' : List Stage} {c : ℕ} {packet : Packet}
    (h : ∀ s ∈ stages, ∃ s' ∈ stages', stageTalk op may s (.sent c packet) = some s') :
    Says (stageTalk op may) (among stages) (sendCommand c packet) (fun _ => among stages')
      fun _ s w => among stages s w ∨ among stages' s w := by
  refine .world fun w => .ite (fun _ => ?_) fun _ => .throw fun s w h => Or.inl h.1
  refine .bind (Q := fun _ => among stages') (.emit fun s w hs => ?_) fun _ =>
    .bind (Q := fun _ => among stages') (.await fun s w hs r w' => hs) fun r =>
      .ite (fun _ => .throw fun s w h => Or.inr h) fun _ => .pure fun s w h => h
  obtain ⟨s', hs', hnext⟩ := h s hs.1
  exact ⟨s', hnext, hs'⟩

theorem withClient_talks {A : Stage → World → Prop} {Q : α → Stage → World → Prop}
    {X : PyErr → Stage → World → Prop} {f : ℕ → Coordinator.Async α}
    (h : ∀ client, Says (stageTalk op may) A (f client) Q X) (hX : ∀ e s w, A s w → X e s w) :
    Says (stageTalk op may) A (withClient f) Q X := by
  refine .world fun w => ?_
  split
  · exact (h _).pre fun _ _ h => h.1
  · exact .throw fun s w h => hX _ s w h.1

/-- **The wake-up retry** keeps to the stages of its action. -/
theorem retry_talks {stages stages' : List Stage} (hopen : ∀ s ∈ stages, s.open = true)
    (hsub : ∀ s ∈ stages', s ∈ stages) {action : Coordinator.Async α}
    (haction : Says (stageTalk op may) (among stages) action (fun _ => among stages')
      fun _ => among stages) :
    Says (stageTalk op may) (among stages) (retryWhileSleeping action) (fun _ => among stages')
      fun _ => among stages := by
  have hattempts : ∀ asleep n, Says (stageTalk op may) (among stages) (retryAttempts asleep action n)
      (fun _ => among stages') fun _ => among stages := by
    intro asleep n
    induction n with
    | zero => exact haction
    | succ n ih =>
      refine .bind (Q := fun r => spoken (fun _ => among stages') (fun _ => among stages) r)
        (.attempt haction) fun result => ?_
      cases result with
      | ok a =>
        refine .world fun w => .ite (fun _ => ?_) fun _ => .pure fun s w h => h.1
        exact .bind (Q := fun _ => among stages) (.await fun s w h r w' => hsub s h.1) fun _ => ih
      | error e =>
        refine .world fun w => .ite (fun _ => ?_) fun _ => .throw fun s w h => h.1
        exact .bind (Q := fun _ => among stages) (.await fun s w h r w' => h.1) fun _ => ih
  refine .world fun w => .bind (Q := fun _ => among stages) (.when (fun _ => ?_) fun _ s w h => h.1)
    fun _ => hattempts w.asleep 2
  exact (link_talks hopen wakeMachine_within).pre fun _ _ h => h.1

/-! ## Arms -/

/-- Before its arm. -/
def before : List Stage := [.asked, .opening]

/-- After its confirmation. -/
def running : List Stage := [.confirmed, .started]

theorem before_open : ∀ s ∈ before, s.open = true := by decide

theorem running_open : ∀ s ∈ running, s.open = true := by decide

/-- A page command opens its page. -/
theorem open_talks {c : ℕ} {packet : Packet} (hstart : startCommand packet.command = false)
    (hlink : packet.command ∉ linkCommands) :
    Says (stageTalk op may) (among before) (sendCommand c packet) (fun _ => among [.opening])
      fun _ => among before := by
  refine (@sendCommand_talks _ _ _ [.opening] _ _ fun s hs => ⟨.opening, by simp, ?_⟩).weaken
    (fun _ _ h => h) (fun _ _ _ h => h) fun _ s w h => ?_
  · simp only [before, List.mem_cons, List.not_mem_nil, or_false] at hs
    rcases hs with rfl | rfl
    · simp [stageTalk, Stage.sendAsked, hstart, hlink]
    · simp [stageTalk, Stage.sendArming, hstart]
  · rcases h with h | h
    · exact h
    · rw [List.mem_singleton.mp h]
      exact List.mem_cons_of_mem _ List.mem_cons_self

/-- The flag is set. -/
theorem setArmed_talks {X : PyErr → Stage → World → Prop} :
    Says (stageTalk op may) (among [.opening]) (setArmed op) (fun _ => among [.armed]) X := by
  refine .bind (Q := fun _ => among [.armed]) (.emit fun s w h => ⟨.armed, ?_, by simp [among]⟩)
    fun _ => .assign fun _ _ h => h
  rw [List.mem_singleton.mp h]
  simp [stageTalk]

/-- An action that opens the page, under the retry, and the flag. -/
theorem armPage_talks {action : Coordinator.Async Unit}
    (haction : Says (stageTalk op may) (among before) action (fun _ => among [.opening])
      fun _ => among before) :
    Says (stageTalk op may) (among before) (Routine.attempt do
        retryWhileSleeping action
        setArmed op)
      (spoken (fun _ => among [.armed]) fun _ => among before) fun _ => among before :=
  .attempt (.bind (retry_talks before_open (by decide) haction) fun _ => setArmed_talks)

/-- Where an arm leaves its call. -/
def armOutcome (armed : Bool) : List Stage := if armed = true then [.armed] else before

theorem ensureConnected_talks {stages : List Stage} (h : ∀ s ∈ stages, s.open = true) :
    Says (stageTalk op may) (among stages) ensureConnected (fun _ => among stages)
      fun _ => among stages := link_talks h ensureConnected_within

theorem before_asked : ∀ s w, among [.asked] s w → among before s w := by
  intro s w h
  rw [List.mem_singleton.mp h]
  exact List.mem_cons_self

theorem asyncArmGrind_talks : Says (stageTalk .grind may) (among [.asked]) asyncArmGrind
    (fun b => among (armOutcome b)) fun _ => among before := by
  refine .bind ((ensureConnected_talks before_open).pre before_asked) fun connected =>
    .ite (fun _ => ?_) fun _ => .pure fun s w h => h
  refine .bind (armPage_talks ?_) fun armed => .pure fun s w h => ?_
  · exact .world fun w => withClient_talks (fun client => (open_talks rfl
      (show Command.grinderIn ∉ linkCommands by decide)).pre fun _ _ h => h.1) fun _ _ _ h => h.1
  · cases armed with
    | ok _ => exact h
    | error _ => exact h

theorem asyncArmPour_talks : Says (stageTalk .pour may) (among [.asked]) asyncArmPour
    (fun b => among (armOutcome b)) fun _ => among before := by
  refine .bind ((ensureConnected_talks before_open).pre before_asked) fun connected =>
    .ite (fun _ => ?_) fun _ => .pure fun s w h => h
  refine .bind (armPage_talks (withClient_talks (fun client => open_talks rfl
    (show Command.brewerIn ∉ linkCommands by decide)) fun _ _ _ h => h)) fun armed => ?_
  cases armed with
  | error _ => exact .pure fun s w h => h
  | ok _ =>
    -- the page is armed, and its setpoints are pushed
    have hpush : ∀ c packet, startCommand packet.command = false →
        Says (stageTalk .pour may) (among [.armed]) (sendCommand c packet) (fun _ => among [.armed])
          fun _ => among [.armed] := by
      intro c packet hstart
      refine (@sendCommand_talks _ _ _ [.armed] _ _ fun s hs => ⟨.armed, by simp, ?_⟩).weaken
        (fun _ _ h => h) (fun _ _ _ h => h) fun _ s w h => ?_
      · rw [List.mem_singleton.mp hs]
        simp [stageTalk, Stage.sendArming, hstart]
      · exact h.elim id id
    refine .bind (Q := fun _ => among [.armed]) (.await fun s w h r w' => h) fun _ =>
      .bind (Q := fun _ => among [.armed]) (.attempt ?_) fun _ => .pure fun s w h => h
    refine .world fun w => .bind (Q := fun _ => among [.armed]) (withClient_talks (fun client => ?_)
      fun _ _ _ h => h.1) fun _ => .bind (Q := fun _ => among [.armed])
        (.await fun s w h r w' => h) fun _ => .world fun w => withClient_talks (fun client =>
          (hpush client _ rfl).pre fun _ _ h => h.1) fun _ _ _ h => h.1
    exact .bind (Q := fun _ => among [.armed]) (.lift (fun _ _ s w h => h.1) fun _ _ s w h => h.1)
      fun tenths => hpush client _ rfl

/-! ## Confirmations -/

/-- A call that was told to start, and finds its arm standing. -/
def standing (op : Armed) (may : Bool) : Stage → World → Prop :=
  fun s w => s = .asked ∧ may = true ∧ w.armedOperation = some op

theorem beginConfirm_talks {X : PyErr → Stage → World → Prop} :
    Says (stageTalk op may) (standing op may) beginConfirm (fun _ => among running) X := by
  refine .world fun w => .emit fun s w' h => ⟨.confirmed, ?_, List.mem_cons_self⟩
  obtain ⟨⟨rfl, hmay, harmed⟩, rfl⟩ := h
  simp [stageTalk, hmay, harmed]

/-- A go command starts what was confirmed. -/
theorem go_talks {c : ℕ} {packet : Packet} (hgoes : goes op packet.command = true) :
    Says (stageTalk op may) (among running) (sendCommand c packet) (fun _ => among [.started])
      fun _ => among running := by
  refine (@sendCommand_talks _ _ _ [.started] _ _ fun s hs => ⟨.started, by simp, ?_⟩).weaken
    (fun _ _ h => h) (fun _ _ _ h => h) fun _ s w h => ?_
  · simp only [running, List.mem_cons, List.not_mem_nil, or_false] at hs
    rcases hs with rfl | rfl <;> simp [stageTalk, Stage.sendStarting, hgoes]
  · rcases h with h | h
    · exact h
    · rw [List.mem_singleton.mp h]
      exact List.mem_cons_of_mem _ List.mem_cons_self

/-- Where a confirm leaves its call. -/
def confirmOutcome (started : Bool) : List Stage := if started = true then [.started] else running

/-- A manual start, under the retry. -/
theorem startManual_talks {operation : Operation} {action : Coordinator.Async Unit}
    (haction : Says (stageTalk op may) (among running) action (fun _ => among [.started])
      fun _ => among running) :
    Says (stageTalk op may) (standing op may) (do
        beginConfirm
        let connected ← ensureConnected
        if connected then do
          let started ← Routine.attempt do
            Routine.assign fun w => { w with activeOperation := some operation }
            retryWhileSleeping action
          Routine.assign fun w => { w with armedOperation := none }
          pure started.toBool
        else pure false)
      (fun b => among (confirmOutcome b)) fun _ => among running := by
  refine .bind beginConfirm_talks fun _ => .bind (ensureConnected_talks running_open) fun connected =>
    .ite (fun _ => ?_) fun _ => .pure fun s w h => h
  refine .bind (Q := spoken (fun _ => among [.started]) fun _ => among running) (.attempt
    (.bind (Q := fun _ => among running) (.assign fun _ _ h => h) fun _ =>
      retry_talks running_open (by decide) haction)) fun started =>
    .bind (Q := fun _ => spoken (fun _ => among [.started]) (fun _ => among running) started)
      (.assign fun s w h => ?_) fun _ => .pure fun s w h => ?_
  · cases started with
    | ok _ => exact h
    | error _ => exact h
  · cases started with
    | ok _ => exact h
    | error _ => exact h

theorem asyncConfirmGrind_talks : Says (stageTalk .grind may) (standing .grind may) asyncConfirmGrind
    (fun b => among (confirmOutcome b)) fun _ => among running :=
  startManual_talks (.world fun _ => withClient_talks (fun _ => (go_talks rfl).pre fun _ _ h => h.1)
    fun _ _ _ h => h.1)

theorem asyncConfirmPour_talks : Says (stageTalk .pour may) (standing .pour may) asyncConfirmPour
    (fun b => among (confirmOutcome b)) fun _ => among running :=
  startManual_talks (.world fun _ => withClient_talks (fun _ =>
    .bind (Q := fun _ => among running) (.lift (fun _ _ _ _ h => h.1) fun _ _ _ _ h => h.1)
      fun _ => go_talks rfl) fun _ _ _ h => h.1)

/-! ## Recipes -/

/-- Nothing is asked of how a call ends. -/
def whenever {β : Type} : β → Stage → World → Prop := fun _ _ _ => True

/-- What a chain, a go or a cancel sends, at stages that allow it. -/
theorem sends_talks {stages : List Stage} {awaits : List Await} {commands : List Command}
    (h : ∀ s ∈ stages, ∀ k ∈ commands, ∀ c packet, packet.command = k →
      ∃ s' ∈ stages, stageTalk op may s (.sent c packet) = some s') {x : Coordinator.Async α}
    (hx : Within (sends awaits commands false) x) :
    Says (stageTalk op may) (among stages) x (fun _ => among stages) fun _ => among stages := by
  refine hx.talks (A := fun s => s ∈ stages) fun s e hs he => ?_
  cases e with
  | sent c packet =>
    obtain ⟨s', hs', hnext⟩ := h s hs packet.command (List.contains_iff_mem.mp he) c packet rfl
    exact ⟨s', hnext, hs'⟩
  | connecting armed => cases he
  | armed op' => cases he
  | chain armed uid => cases he
  | confirming armed => cases he
  | naming uid => cases he

theorem sendConfirm_talks : Says (stageTalk .recipe may) (among running) sendConfirm
    (fun _ => among running) fun _ => among running := by
  have hgo : ∀ {β : Type} {x : Coordinator.Async β}, Within goFootprint x →
      Says (stageTalk .recipe may) (among running) x (fun _ => among running)
        fun _ => among running := by
    refine fun hx => sends_talks (fun s hs k hk c packet hpacket => ⟨.started, by decide, ?_⟩) hx
    have hgoes : goes .recipe packet.command = true := by
      rw [hpacket]
      simp only [List.mem_cons, List.not_mem_nil, or_false] at hk
      rcases hk with rfl | rfl <;> rfl
    simp only [running, List.mem_cons, List.not_mem_nil, or_false] at hs
    rcases hs with rfl | rfl <;> simp [stageTalk, Stage.sendStarting, hgoes]
  refine .world fun w => withClient_talks (fun client => ?_) fun _ _ _ h => h.1
  unfold confirmRecipe
  split
  · split
    · exact (hgo makeTea_within).pre fun _ _ h => h.1
    · exact .throw fun _ _ h => h.1
  · exact (hgo executeCoffeeRecipe_within).pre fun _ _ h => h.1

theorem asyncConfirmRecipe_talks : Says (stageTalk .recipe may) (standing .recipe may)
    asyncConfirmRecipe (fun _ => among running) fun _ => among running := by
  refine .bind beginConfirm_talks fun _ => .bind (ensureConnected_talks running_open) fun connected =>
    .ite (fun _ => ?_) fun _ => .pure fun _ _ h => h
  refine .bind (Q := fun _ => among running) (.attempt (.bind (Q := fun _ => among running)
    (.assign fun _ _ h => h) fun _ => retry_talks running_open (fun _ h => h) sendConfirm_talks))
    fun started => ?_
  split
  · exact .bind (Q := fun _ => among running) (.assign fun _ _ h => h) fun _ => .pure fun _ _ h => h
  · exact .bind (Q := fun _ => among running) (.assign fun _ _ h => h) fun _ => .pure fun _ _ h => h

/-- A cancel inside a call that was asked leaves it so. -/
theorem asyncCancel_talks : Says (stageTalk op may) (among [.asked]) asyncCancel
    (fun _ => among [.asked]) fun _ => among [.asked] := by
  have hstops : ∀ k ∈ [Command.recipeStop, .grinderStop, .brewerStop, .grinderQuit, .brewerQuit,
      .recipeStartQuit], Stage.sendAsked k = some .asked := by decide
  refine .world fun w => .bind (Q := fun _ => among [.asked]) (.assign fun _ _ h => h.1) fun _ =>
    .bind (ensureConnected_talks (by decide)) fun connected => .ite (fun _ => ?_) fun _ =>
      .pure fun _ _ h => h
  refine .bind (Q := fun _ => among [.asked]) (.attempt (sends_talks
    (fun s hs k hk c packet hpacket => ⟨.asked, List.mem_cons_self, ?_⟩) sendStops_within)) fun _ =>
      .pure fun _ _ h => h
  rw [List.mem_singleton.mp hs]
  show Stage.sendAsked packet.command = _
  rw [hpacket]
  exact hstops k hk

theorem armPrepared_talks {prepared : Prepared} : Says (stageTalk .recipe may) (among [.asked])
    (armPrepared prepared) whenever whenever := by
  refine .bind (Q := fun _ => among [.opening]) (.world fun w => .emit fun s w' h => ?_) fun _ => ?_
  · refine ⟨.opening, ?_, List.mem_cons_self⟩
    rw [List.mem_singleton.mp h.1]
    rfl
  have hchain : Says (stageTalk .recipe may) (among [.opening])
      (withClient fun c => armRecipe c prepared) (fun _ => among [.opening])
        fun _ => among [.opening] := by
    refine withClient_talks (fun client => sends_talks (fun s hs k hk c packet hpacket =>
      ⟨.opening, List.mem_cons_self, ?_⟩) armRecipe_within) fun _ _ _ h => h
    rw [List.mem_singleton.mp hs]
    show Stage.sendArming .opening packet.command = _
    have hstart : ∀ k ∈ chainCommands, startCommand k = false := by decide
    rw [hpacket, Stage.sendArming, if_neg (by rw [hstart k hk]; decide)]
  refine .bind (Q := whenever) (.attempt (.bind (Q := fun _ => among [.opening]) ?_ fun _ =>
    .bind (Q := fun _ => among [.armed]) setArmed_talks fun _ => .assign fun _ _ _ => trivial))
    fun armed => ?_
  · exact (retry_talks (by decide) (fun _ h => h) hchain).weaken (fun _ _ h => h) (fun _ _ _ h => h)
      fun _ _ _ _ => trivial
  · split
    · exact .pure fun _ _ _ => trivial
    · exact .assign fun _ _ _ => trivial

section
variable {I : Identifiers} {yaml : YamlLayer}

theorem asyncArmRecipe_talks {args : BrewArgs} : Says (stageTalk .recipe may) (among [.asked])
    (asyncArmRecipe I yaml args) whenever whenever := by
  refine .bind ((ensureConnected_talks (by decide)).weaken (fun _ _ h => h) (fun _ _ _ h => h)
    fun _ _ _ _ => trivial) fun connected => .ite (fun _ => ?_) fun _ => .pure fun _ _ _ => trivial
  refine .world fun w => .bind (Q := fun _ => among [.asked]) (.lift (fun _ _ _ _ h => h.1)
    fun _ _ _ _ _ => trivial) fun prepared => ?_
  split
  · exact armPrepared_talks
  · exact .pure fun _ _ _ => trivial

/-! ## Buttons and the recipe tool -/

/-- A two-stage button. -/
theorem press_talks {confirm arm : Coordinator.Async Unit}
    (hconfirm : Says (stageTalk op true) (standing op true) confirm whenever whenever)
    (harm : Says (stageTalk op true) (among [.asked]) arm whenever whenever) :
    Says (stageTalk op true) (among [.asked]) (press op confirm arm) whenever whenever := by
  refine .world fun w => .ite (fun harmed => ?_) fun _ => harm.pre fun _ _ h => h.1
  refine hconfirm.pre fun s w' h => ⟨List.mem_singleton.mp h.1, rfl, ?_⟩
  rw [h.2]
  exact harmed

theorem drop_talks {A : Stage → World → Prop} {Q : Bool → Stage → World → Prop}
    {X : PyErr → Stage → World → Prop} {x : Coordinator.Async Bool}
    (h : Says (stageTalk op may) A x Q X) :
    Says (stageTalk op may) A (drop x) whenever whenever :=
  .bind (h.weaken (fun _ _ h => h) (fun _ _ _ h => h) fun _ _ _ _ => trivial) fun _ =>
    .pure fun _ _ _ => trivial

theorem toolPhase_talks {args : ToolArgs} {name : String} {recipe : RecipeDict} :
    Says (stageTalk .recipe args.confirmed) (among [.asked]) (toolPhase I yaml args name recipe)
      whenever whenever := by
  refine .world fun w => .ite (fun _ => .pure fun _ _ _ => trivial) fun _ =>
    .ite (fun hphase => ?_) fun _ => ?_
  · -- the flag is still what was just read
    refine .bind (Q := fun _ => standing .recipe args.confirmed) (.emit fun s w' h => ?_) fun _ =>
      drop_talks asyncConfirmRecipe_talks
    obtain ⟨hs, rfl⟩ := h
    rw [List.mem_singleton.mp hs]
    exact ⟨.asked, rfl, rfl, hphase.1, hphase.2.1⟩
  · refine .bind (Q := fun _ => among [.asked]) (.assign fun _ _ h => h.1) fun _ =>
      .world fun w => .bind (Q := fun _ => among [.asked]) (.when (fun _ => ?_) fun _ _ _ h => h.1)
        fun _ => asyncArmRecipe_talks
    exact asyncCancel_talks.weaken (fun _ _ h => h.1) (fun _ _ _ h => h) fun _ _ _ _ => trivial

theorem executeRecipeTool_talks {args : ToolArgs} :
    Says (stageTalk .recipe args.confirmed) (among [.asked]) (executeRecipeTool I yaml args)
      whenever whenever := by
  refine .world fun w => ?_
  split
  · exact .pure fun _ _ _ => trivial
  · refine .ite (fun _ => toolPhase_talks.pre fun _ _ h => h.1) fun _ => .bind ?_ fun connected =>
      .ite (fun _ => toolPhase_talks) fun _ => .pure fun _ _ _ => trivial
    exact (link_talks (by decide) asyncConnect_within).weaken (fun _ _ h => h.1) (fun _ _ _ h => h)
      fun _ _ _ _ => trivial

end

end XBloom.Llm
