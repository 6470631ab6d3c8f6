/-
# XBloom.Coordinator.State — what the coordinator keeps, and what happens to it without an await

The coordinator's flags, its `XBloomClient` objects and the machine status each of them has parsed, the
setpoints its entities show, the unit preferences, and the recipe store.  Everything here runs between two
awaits: BLE event dispatch, the poll's reconciliations, the drop callback, a changed select entity, an
edited recipe.  The parts of the machine's status that none of the modelled functions reads are left out.
-/
import XBloom.Ble.Models
import XBloom.Recipe.Store

namespace XBloom.Coordinator

open XBloom.Py XBloom.Ble XBloom.Recipe

/-! ## Flags -/

/-- `_active_operation`. -/
inductive Operation where
  | recipe
  | manualGrind
  | manualPour
  deriving DecidableEq, Repr

/-- `_armed_operation`. -/
inductive Armed where
  | grind
  | pour
  | recipe
  deriving DecidableEq, Repr

/-- The status labels `raw_state_label` that are told apart; `unread` is any other one. -/
inductive RawStateLabel where
  | starting
  | brewing
  | waterShortage
  | noBeans
  | awaitingConfirm
  | unread
  deriving DecidableEq, Repr

/-- The pages `DeviceStatus.screen` that are told apart; `unread` is any other one. -/
inductive Screen where
  | home
  | grind
  | pour
  | unread
  deriving DecidableEq, Repr

/-- `DeviceStatus`. -/
structure DeviceStatus where
  rawStateLabel : Option RawStateLabel := none
  screen : Option Screen := none
  lastPage : Option Screen := none
  grinderRunning : Bool := false
  brewerRunning : Bool := false
  isSleeping : Bool := false
  deriving DecidableEq, Repr

/-- One `XBloomClient`: whether its link is up, and the status it parsed. -/
structure Client where
  connected : Bool := false
  status : DeviceStatus := {}
  deriving DecidableEq, Repr

/-- `WATER_SOURCE_TANK`. -/
def waterSourceTank : ℤ := 0

/-- `_UNIT_OPTION_KEYS`: the settings that are pushed to the machine. -/
inductive UnitKey where
  | weightUnit
  | tempUnit
  | waterSource
  deriving DecidableEq, Repr

/-- `_UNIT_PUSH_ORDER`. -/
def unitPushOrder : List UnitKey := [.weightUnit, .tempUnit, .waterSource]

/-- The coordinator.  A client is the position of its creation in `clients`; `data` keeps the two
values of the last poll that are read elsewhere. -/
structure World where
  clients : List Client := []
  client : Option ℕ := none
  connectLocked : Bool := false
  manualDisconnect : Bool := false
  idleDisconnected : Bool := false
  forceReconnectPending : Bool := false
  idleStandbyPending : Bool := false
  activeOperation : Option Operation := none
  armedOperation : Option Armed := none
  armedRecipeIsTea : Bool := false
  armedRecipeTeaPayload : Option (List UInt8) := none
  podPromptActive : Bool := false
  executingRecipe : Bool := false
  activeRecipePours : Option (List PourStep) := none
  currentPourIndex : Option ℕ := none
  manualPaused : Bool := false
  manualRunSeen : Bool := false
  manualPauseSeen : Bool := false
  lastReconcileScreen : Option Screen := none
  dataWaterLevelOk : Bool := true
  dataVersion : String := ""
  waterShortage : Bool := false
  grindSize : ℤ := 50
  rpm : ℤ := 80
  temperature : ℤ := 93
  volume : ℤ := 250
  flowRate : PyFloat := 3
  waterSource : ℤ := waterSourceTank
  pourPattern : ℤ := 0
  weightUnit : String := "g"
  tempUnit : String := "c"
  pendingUnitPushes : Finset UnitKey := ∅
  unitPushLocked : Bool := false
  store : Store

namespace World

/-- `client.is_connected`. -/
def isConnected (w : World) (c : ℕ) : Bool := ((w.clients[c]?).map Client.connected).getD false

/-- `client.status`. -/
def status (w : World) (c : ℕ) : DeviceStatus := ((w.clients[c]?).map Client.status).getD {}

/-- `self.client and self.client.is_connected`. -/
def linkUp (w : World) : Bool := w.client.any w.isConnected

/-- `self.client and self.client.is_sleeping()`. -/
def asleep (w : World) : Bool := w.client.any fun c => (w.status c).isSleeping

/-- A client changes. -/
def setClient (w : World) (c : ℕ) (f : Client → Client) : World :=
  { w with clients := w.clients.modify c f }

/-- `_clear_manual_run`. -/
def clearManualRun (w : World) : World :=
  { w with manualPaused := false, manualRunSeen := false, manualPauseSeen := false }

/-- `_finish_run`. -/
def finishRun (w : World) : World :=
  clearManualRun { w with
    executingRecipe := false, activeRecipePours := none, currentPourIndex := none,
    activeOperation := none }

/-- The armed flag and what goes with an armed recipe, reset. -/
def disarmRecipe (w : World) : World :=
  { w with armedOperation := none, armedRecipeIsTea := false, armedRecipeTeaPayload := none }

variable (yaml : YamlLayer)

/-- `self.recipes`. -/
def recipes (w : World) : Dict String RecipeDict := w.store.visible yaml

/-- The uid stored under a name. -/
def uidOf (w : World) (name : String) : Option String :=
  ((w.recipes yaml).get? name).bind RecipeDict.uid

/-- The uid of the selected recipe. -/
def selectedUid (w : World) : Option String := w.store.selectedRecipe.bind (w.uidOf yaml)

/-- The recipe stored under a name; neither `None` nor the empty name has one. -/
def named (w : World) (name : Option String) : Option RecipeDict :=
  (name.filter (· ≠ "")).bind (w.recipes yaml).get?

theorem named_eq_some {w : World} {name : Option String} {r : RecipeDict}
    (h : w.named yaml name = some r) : ∃ n, name = some n ∧ (w.recipes yaml).get? n = some r := by
  obtain ⟨n, hn, hget⟩ := Option.bind_eq_some_iff.mp h
  exact ⟨n, (Option.filter_eq_some_iff.mp hn).1, hget⟩

/-- `select_recipe`: a coffee recipe that grinds also sets the grind size and rpm sliders. -/
def selectRecipe (w : World) (name : Option String) : World :=
  let w := { w with store := { w.store with selectedRecipe := name } }
  match w.named yaml name with
  | none => w
  | some raw =>
    if lower (strip raw.cupType) = "tea" ∨ raw.grindSize ≤ 0 then w
    else { w with
      grindSize := raw.grindSize
      rpm := if raw.rpm = (0 : ℤ) then w.rpm else raw.rpm }

end World

/-! ## Events -/

/-- The event types `_dispatch_event` acts on; `other` is any other one. -/
inductive BleEvent where
  | waterShortage
  | waterRefilled
  | podDetected
  | easySlotStarted
  | grindingStarted
  | brewingStarted
  | bloom (pourIndex : ℕ)
  | pourComplete
  | recipeComplete
  | noBeans
  | abnormalDoseOrWater
  | abnormalGearPosition
  | grindingComplete
  | other
  deriving DecidableEq, Repr

namespace World

/-- The water-shortage latch of `_dispatch_event`. -/
def noteWater (w : World) : BleEvent → World
  | .waterShortage => { w with waterShortage := decide (w.waterSource = waterSourceTank) }
  | .waterRefilled => { w with waterShortage := false }
  | .brewingStarted => { w with waterShortage := false }
  | .pourComplete => { w with waterShortage := false }
  | .recipeComplete => { w with waterShortage := false }
  | _ => w

/-- The pod prompt of `_dispatch_event`. -/
def notePod (w : World) : BleEvent → World
  | .podDetected => { w with podPromptActive := true }
  | .grindingStarted => { w with podPromptActive := false }
  | .brewingStarted => { w with podPromptActive := false }
  | _ => w

/-- The armed → active transitions of `_dispatch_event`, on machine-side starts. -/
def noteStart (w : World) : BleEvent → World
  | .easySlotStarted => { w.disarmRecipe with activeOperation := some .recipe }
  | .grindingStarted =>
    match w.armedOperation with
    | some .recipe => { w.disarmRecipe with activeOperation := some .recipe }
    | some .grind => { w with armedOperation := none, activeOperation := some .manualGrind }
    | _ => w
  | .brewingStarted =>
    match w.armedOperation with
    | some .recipe => { w.disarmRecipe with activeOperation := some .recipe }
    | some .pour => { w with armedOperation := none, activeOperation := some .manualPour }
    | _ => w
  | _ => w

/-- The pour index and the ends of runs in `_dispatch_event`. -/
def noteProgress (w : World) : BleEvent → World
  | .bloom idx =>
    match w.activeRecipePours.bind fun pours => pours[idx]? with
    | some pour =>
      if w.executingRecipe then
        { w with currentPourIndex := some idx, flowRate := pour.flowRate }
      else w
    | none => w
  | .pourComplete => w.finishRun
  | .recipeComplete => w.finishRun
  | .noBeans => w.finishRun
  | .abnormalDoseOrWater => w.finishRun
  | .abnormalGearPosition => w.finishRun
  | .grindingComplete =>
    if w.activeOperation = some .manualGrind then { w with activeOperation := none } else w
  | _ => w

/-- `_dispatch_event`. -/
def dispatchEvent (w : World) (e : BleEvent) : World :=
  (((w.noteWater e).notePod e).noteStart e).noteProgress e

/-! ## Polls -/

/-- The page of an armed grind or pour. -/
def armedPage : Armed → Option Screen
  | .grind => some .grind
  | .pour => some .pour
  | .recipe => none

/-- `_reconcile_armed_with_screen`: a grind or pour arm is dropped when its page gives way to home. -/
def reconcileArmedWithScreen (w : World) (s : DeviceStatus) : World :=
  let last := w.lastReconcileScreen
  let w := { w with lastReconcileScreen := s.screen }
  match w.armedOperation.bind armedPage with
  | some page =>
    if s.screen = some .home ∧ last = some page then { w with armedOperation := none } else w
  | none => w

/-- `_PAGE_OPERATIONS`. -/
def pageOperations : Screen → Option Operation
  | .pour => some .manualPour
  | .grind => some .manualGrind
  | _ => none

/-- `_OPERATION_PAGES`. -/
def operationPages : Operation → Option Screen
  | .manualPour => some .pour
  | .manualGrind => some .grind
  | .recipe => none

/-- `_manual_running`. -/
def manualRunning (s : DeviceStatus) : Operation → Bool
  | .manualPour =>
    s.brewerRunning || s.rawStateLabel == some .starting || s.rawStateLabel == some .brewing
  | _ => s.grinderRunning

/-- `_reconcile_manual_operation` while the operation of the machine's last page runs. -/
def trackManualRun (w : World) (page : Screen) (op : Operation) : World :=
  let w :=
    if w.activeOperation = none ∧ (w.armedOperation = none ∨
        w.armedOperation.bind armedPage = some page) then
      { w with armedOperation := none, activeOperation := some op }
    else w
  if w.activeOperation = some op then
    let w := { w with manualRunSeen := true }
    if w.manualPauseSeen then { w with manualPaused := false, manualPauseSeen := false } else w
  else w

/-- `_reconcile_manual_operation` while it does not. -/
def endManualRun (w : World) (s : DeviceStatus) : World :=
  match w.activeOperation.bind operationPages with
  | none => w.clearManualRun
  | some ownPage =>
    if s.screen ≠ none ∧ s.screen ≠ some ownPage then
      clearManualRun { w with activeOperation := none }
    else if s.screen = some ownPage ∧ w.manualPaused then { w with manualPauseSeen := true }
    else if s.screen = some ownPage ∧ w.manualRunSeen then
      clearManualRun { w with activeOperation := none }
    else w

/-- `_reconcile_manual_operation`. -/
def reconcileManualOperation (w : World) (s : DeviceStatus) : World :=
  match s.lastPage with
  | none => w.endManualRun s
  | some page =>
    match pageOperations page with
    | none => w.endManualRun s
    | some op => if manualRunning s op then w.trackManualRun page op else w.endManualRun s

/-- The part of `_async_update_data` that changes the coordinator, on a connected link that is not
being dropped. -/
def poll (w : World) (version : String) : World :=
  match w.client with
  | none => { w with dataWaterLevelOk := false, dataVersion := "" }
  | some c =>
    if w.isConnected c then
      let s := w.status c
      let w := (w.reconcileArmedWithScreen s).reconcileManualOperation s
      { w with dataWaterLevelOk := !w.waterShortage, dataVersion := version }
    else { w with dataWaterLevelOk := false, dataVersion := "" }

end World

/-! ## The surroundings -/

/-- What happens around the calls: notifications, link losses and their callbacks, polls, entity
writes and store operations. -/
inductive Move where
  | notification (c : ℕ) (s : DeviceStatus)
  | event (e : BleEvent)
  | linkLost (c : ℕ)
  | unexpectedDisconnect
  | poll (version : String)
  | select (name : Option String)
  | setpoints (grindSize rpm temperature volume : ℤ) (flowRate : PyFloat) (waterSource : ℤ)
      (pourPattern : ℤ)
  /-- The unit preferences change, in the Settings step, which queues them and starts a push of its own,
  or as the machine reports them (`XBloom.Units`). -/
  | units (weightUnit tempUnit : String) (waterSource : ℤ) (pending : Finset UnitKey) (pushing : Bool)
  | store (op : StoreOp)

/-- `_handle_unexpected_disconnect`. -/
def World.handleUnexpectedDisconnect (w : World) : World :=
  if w.manualDisconnect then w else { w with client := none }

/-- The world after a move. -/
def World.move (I : Identifiers) (yaml : YamlLayer) (w : World) : Move → World
  | .notification c s => w.setClient c fun client => { client with status := s }
  | .event e => w.dispatchEvent e
  | .linkLost c => w.setClient c fun client => { client with connected := false }
  | .unexpectedDisconnect => w.handleUnexpectedDisconnect
  | .poll version => w.poll version
  | .select name => w.selectRecipe yaml name
  | .setpoints grindSize rpm temperature volume flowRate waterSource pourPattern =>
    { w with
      grindSize := grindSize, rpm := rpm, temperature := temperature, volume := volume
      flowRate := flowRate, waterSource := waterSource, pourPattern := pourPattern }
  | .units weightUnit tempUnit waterSource pending pushing =>
    { w with
      weightUnit := weightUnit, tempUnit := tempUnit, waterSource := waterSource
      pendingUnitPushes := pending, unitPushLocked := pushing }
  | .store op => { w with store := w.store.step I yaml op }

/-! ## What a move leaves alone -/

/-- An arm ends or stays as it is; nothing here makes one. -/
def World.ClearsArmed (w w' : World) : Prop :=
  w'.armedOperation = w.armedOperation ∨ w'.armedOperation = none

namespace World

theorem ClearsArmed.refl (w : World) : w.ClearsArmed w := Or.inl rfl

theorem ClearsArmed.trans {w w' w'' : World} (h : w.ClearsArmed w') (h' : w'.ClearsArmed w'') :
    w.ClearsArmed w'' := by
  rcases h' with h' | h'
  · rcases h with h | h
    · exact Or.inl (h'.trans h)
    · exact Or.inr (h'.trans h)
  · exact Or.inr h'

theorem ClearsArmed.armed {w w' : World} {op : Armed} (h : w.ClearsArmed w')
    (harmed : w'.armedOperation = some op) : w.armedOperation = some op := by
  rcases h with h | h
  · rw [← h]
    exact harmed
  · rw [h] at harmed
    cases harmed

theorem noteWater_clears (w : World) (e : BleEvent) : w.ClearsArmed (w.noteWater e) := by
  unfold noteWater
  split <;> exact Or.inl rfl

theorem notePod_clears (w : World) (e : BleEvent) : w.ClearsArmed (w.notePod e) := by
  unfold notePod
  split <;> exact Or.inl rfl

theorem noteStart_clears (w : World) (e : BleEvent) : w.ClearsArmed (w.noteStart e) := by
  unfold noteStart
  split
  · exact Or.inr rfl
  · split
    · exact Or.inr rfl
    · exact Or.inr rfl
    · exact Or.inl rfl
  · split
    · exact Or.inr rfl
    · exact Or.inr rfl
    · exact Or.inl rfl
  · exact Or.inl rfl

theorem noteProgress_clears (w : World) (e : BleEvent) : w.ClearsArmed (w.noteProgress e) := by
  unfold noteProgress
  split
  · split
    · split <;> exact Or.inl rfl
    · exact Or.inl rfl
  all_goals first | exact Or.inl rfl | (split <;> exact Or.inl rfl)

/-- **No BLE event arms anything.** -/
theorem dispatchEvent_clears (w : World) (e : BleEvent) : w.ClearsArmed (w.dispatchEvent e) :=
  (((w.noteWater_clears e).trans (notePod_clears _ e)).trans (noteStart_clears _ e)).trans
    (noteProgress_clears _ e)

theorem reconcileArmedWithScreen_clears (w : World) (s : DeviceStatus) :
    w.ClearsArmed (w.reconcileArmedWithScreen s) := by
  unfold reconcileArmedWithScreen
  dsimp only
  split
  · split
    · exact Or.inr rfl
    · exact Or.inl rfl
  · exact Or.inl rfl

theorem trackManualRun_clears (w : World) (page : Screen) (op : Operation) :
    w.ClearsArmed (w.trackManualRun page op) := by
  unfold trackManualRun
  dsimp only
  by_cases h : w.activeOperation = none ∧ (w.armedOperation = none ∨
      w.armedOperation.bind armedPage = some page)
  · simp only [if_pos h]
    right
    split
    · split <;> rfl
    · rfl
  · simp only [if_neg h]
    left
    split
    · split <;> rfl
    · rfl

theorem endManualRun_clears (w : World) (s : DeviceStatus) : w.ClearsArmed (w.endManualRun s) := by
  unfold endManualRun
  left
  split
  · rfl
  · split
    · rfl
    · split
      · rfl
      · split <;> rfl

theorem reconcileManualOperation_clears (w : World) (s : DeviceStatus) :
    w.ClearsArmed (w.reconcileManualOperation s) := by
  unfold reconcileManualOperation
  split
  · exact endManualRun_clears w s
  · split
    · exact endManualRun_clears w s
    · split
      · exact trackManualRun_clears w _ _
      · exact endManualRun_clears w s

/-- **No poll arms anything.** -/
theorem poll_clears (w : World) (version : String) : w.ClearsArmed (w.poll version) := by
  unfold poll
  split
  · exact Or.inl rfl
  · split
    · exact (reconcileArmedWithScreen_clears w _).trans (reconcileManualOperation_clears _ _)
    · exact Or.inl rfl

/-- **What a selection writes**: the name, and the two grinder sliders. -/
theorem selectRecipe_writes (yaml : YamlLayer) (w : World) (name : Option String) :
    ∃ size rpm, w.selectRecipe yaml name =
      { w with store := { w.store with selectedRecipe := name }, grindSize := size, rpm := rpm } := by
  unfold selectRecipe
  dsimp only
  split
  · exact ⟨w.grindSize, w.rpm, rfl⟩
  · split
    · exact ⟨w.grindSize, w.rpm, rfl⟩
    · exact ⟨_, _, rfl⟩

theorem selectRecipe_armed (yaml : YamlLayer) (w : World) (name : Option String) :
    (w.selectRecipe yaml name).armedOperation = w.armedOperation := by
  obtain ⟨_, _, hwrites⟩ := selectRecipe_writes yaml w name
  rw [hwrites]

/-- **Nothing around the calls arms anything.** -/
theorem move_clears (I : Identifiers) (yaml : YamlLayer) (w : World) (m : Move) :
    w.ClearsArmed (w.move I yaml m) := by
  cases m with
  | event e => exact dispatchEvent_clears w e
  | poll version => exact poll_clears w version
  | select name => exact Or.inl (selectRecipe_armed yaml w name)
  | unexpectedDisconnect =>
    show w.ClearsArmed w.handleUnexpectedDisconnect
    unfold handleUnexpectedDisconnect
    split <;> exact Or.inl rfl
  | notification c s => exact Or.inl rfl
  | linkLost c => exact Or.inl rfl
  | setpoints _ _ _ _ _ _ _ => exact Or.inl rfl
  | units _ _ _ _ _ => exact Or.inl rfl
  | store op => exact Or.inl rfl

end World

end XBloom.Coordinator
