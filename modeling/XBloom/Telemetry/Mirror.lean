/-
# XBloom.Telemetry.Mirror — the two paths from the machine's knobs to Home Assistant's setpoints

A knob turn reaches the setpoints twice.  The frame itself fires an event, and `_dispatch_event`
mirrors it at once (`_apply_brewer_knob`, `_apply_brewer_page_entry`, `_apply_grinder_knob`), gated on
the page being open with nothing running.  And every poll that derives the state "idle" copies the
last reading the client holds, whenever that arrived (`copyReadings`).

What the event entities get to see plays no part here, nor does the task a unit change starts.
-/
import XBloom.Coordinator.State
import XBloom.Telemetry.Notification

namespace XBloom.Telemetry

open XBloom.Py XBloom.Ble XBloom.Coordinator

/-! ## What the coordinator sees of a status -/

/-- A page, as far as the coordinator's bookkeeping tells them apart. -/
def Page.screen : Page → Screen
  | .home => .home
  | .grind => .grind
  | .pour => .pour
  | .scale => .unread
  | .settings => .unread

/-- A label, as far as the coordinator's bookkeeping tells them apart. -/
def StateLabel.raw : StateLabel → RawStateLabel
  | .starting => .starting
  | .brewing => .brewing
  | .waterShortage => .waterShortage
  | .noBeans => .noBeans
  | .awaitingConfirm => .awaitingConfirm
  | _ => .unread

/-- The part of a status the reconciliations read. -/
def DeviceStatus.bookkeeping (s : DeviceStatus) : Coordinator.DeviceStatus where
  rawStateLabel := s.rawStateLabel.map StateLabel.raw
  screen := s.screen.map Page.screen
  lastPage := s.lastPage.map Page.screen
  grinderRunning := s.grinder.isRunning
  brewerRunning := s.brewer.isRunning
  isSleeping := s.isSleeping

/-- An event of the client, as `_dispatch_event` acts on it. -/
def Notification.bleEvent : Notification → BleEvent
  | .grindingStarted => .grindingStarted
  | .grindingComplete => .grindingComplete
  | .brewingStarted => .brewingStarted
  | .pourComplete => .pourComplete
  | .bloom (some pourIndex) => .bloom pourIndex
  | .recipeComplete => .recipeComplete
  | .podDetected _ => .podDetected
  | .easySlotStarted _ => .easySlotStarted
  | .waterRefilled => .waterRefilled
  | _ => .other

/-- An error of the client, as `_dispatch_event` acts on it. -/
def MachineError.bleEvent : MachineError → BleEvent
  | .noBeans => .noBeans
  | .abnormalDoseOrWater => .abnormalDoseOrWater
  | .abnormalGearPosition => .abnormalGearPosition
  | .waterShortage => .waterShortage
  | .alarm _ _ => .other

/-! ## The event-driven mirrors -/

/-- A reading on the pour slider, whose ends stand for RT and BP. -/
def sliderOf (temperature : ℚ) : ℤ :=
  if temperature < 40 then 39
  else if 95 < temperature then 96
  else PyFloat.roundHalfEven temperature

/-- `_apply_brewer_values`. -/
def applyBrewerValues (w : World) (temperature : Option ℚ) (pattern : Option ℕ) : World :=
  let w :=
    match temperature with
    | some t => if 15 ≤ t ∧ t ≤ 100 then { w with temperature := sliderOf t } else w
    | none => w
  match pattern with
  | some p => if p ∈ validPourPatterns then { w with pourPattern := p } else w
  | none => w

/-- `_apply_brewer_knob`. -/
def applyBrewerKnob (s : DeviceStatus) (w : World) (temperature : Option ℚ) (pattern : Option ℕ) :
    World :=
  if s.screen ≠ some .pour ∨ s.brewer.isRunning then w else applyBrewerValues w temperature pattern

/-- `_apply_brewer_page_entry`. -/
def applyBrewerPageEntry (s : DeviceStatus) (w : World) (volume temperature pattern : ℕ) : World :=
  if w.armedOperation = some .pour then w
  else if s.screen ≠ some .pour ∨ s.brewer.isRunning then w
  else
    let w := applyBrewerValues w (some temperature) (some pattern)
    if 30 ≤ volume ∧ volume ≤ 500 then { w with volume := volume } else w

/-- `_apply_grinder_knob`. -/
def applyGrinderKnob (s : DeviceStatus) (w : World) (size : Option ℤ) (rpm : Option ℕ) : World :=
  if s.screen ≠ some .grind ∨ s.grinder.isRunning then w
  else
    let w :=
      match size with
      | some n => if 1 ≤ n ∧ n ≤ 80 then { w with grindSize := n } else w
      | none => w
    match rpm with
    | some n => if 60 ≤ n ∧ n ≤ 120 then { w with rpm := n } else w
    | none => w

/-- `_dispatch_event`, for an event of the client with status `s`. -/
def dispatch (s : DeviceStatus) (w : World) : Event → World
  | .grinderKnob size rpm => applyGrinderKnob s w size rpm
  | .brewerKnob temperature pattern => applyBrewerKnob s w temperature pattern
  | .brewerPageEntry volume temperature pattern => applyBrewerPageEntry s w volume temperature pattern
  | .unitChange _ _ _ => w
  | .notification e => w.dispatchEvent e.bleEvent
  | .error e => w.dispatchEvent e.bleEvent

/-! ## The poll -/

/-- What `_derive_state_string` returns. -/
inductive StateString where
  | armedRecipe
  | calibratingGrinder
  | waterShortage
  | sleeping
  | label (l : StateLabel)
  | paused
  | standalone (page : Page)
  | standaloneArmed (op : Armed)
  | state (s : DeviceState)
  deriving DecidableEq, Repr

/-- The pages of the standalone modes. -/
def standalonePages : List Page := [.grind, .pour, .scale]

/-- `_derive_state_string`. -/
def deriveStateString (w : World) (s : DeviceStatus) : StateString :=
  if w.armedOperation = some .recipe then .armedRecipe
  else if s.isCalibratingGrinder then .calibratingGrinder
  else if w.waterShortage then .waterShortage
  else if s.isSleeping then .sleeping
  else
    match s.rawStateLabel with
    | some l => .label l
    | none =>
      if w.manualPaused ∧ s.screen ∈ [none, some Page.grind, some Page.pour] then .paused
      else
        match s.screen with
        | some page =>
          if page ∈ standalonePages ∧ s.grinder.isRunning = false ∧ s.brewer.isRunning = false then
            .standalone page
          else .state (if s.state = .unknown then .idle else s.state)
        | none =>
          match w.armedOperation with
          | some op => .standaloneArmed op
          | none => .state (if s.state = .unknown then .idle else s.state)

/-- The reconciliations of a poll. -/
def reconcile (w : World) (s : DeviceStatus) : World :=
  (w.reconcileArmedWithScreen s.bookkeeping).reconcileManualOperation s.bookkeeping

/-- The last lines of `_async_update_data`: the last readings become the setpoints. -/
def copyReadings (w : World) (s : DeviceStatus) : World :=
  let w :=
    if s.brewer.temperature ≠ 0 then
      { w with temperature := PyFloat.roundHalfEven s.brewer.temperature }
    else w
  match s.pourPatternLive with
  | some p => { w with pourPattern := p }
  | none => w

/-- The coordinator with the client it holds, whether that is connected, and `_session_timeout`. -/
structure State where
  world : World
  client : Option Client := none
  connected : Bool := false
  sessionTimeout : ℚ := 0

/-- `_BLE_SILENCE_TIMEOUT_S`. -/
def bleSilenceTimeout : ℚ := 15

namespace State

/-- A poll drops a link that has gone silent. -/
def silent (st : State) (s : DeviceStatus) (sinceNotification : ℚ) : Bool :=
  !st.world.forceReconnectPending && !s.isSleeping && decide (bleSilenceTimeout < sinceNotification)

/-- A poll sends an idle link into standby. -/
def idleTooLong (st : State) (sinceActivity : ℚ) : Bool :=
  decide (0 < st.sessionTimeout) && !st.world.idleStandbyPending &&
    st.world.armedOperation.isNone && st.world.activeOperation.isNone &&
    !st.world.podPromptActive && decide (st.sessionTimeout < sinceActivity)

/-- `_async_update_data`, this long after the last notification and the last activity. -/
def poll (st : State) (sinceNotification sinceActivity : ℚ) : State :=
  match st.client with
  | none => st
  | some c =>
    if st.connected = false then st
    else if st.silent c.status sinceNotification then
      { st with world := { st.world with forceReconnectPending := true } }
    else if st.idleTooLong sinceActivity then
      { st with world := { st.world with idleStandbyPending := true } }
    else
      let w := reconcile st.world c.status
      { st with world :=
          if deriveStateString w c.status = .state .idle then copyReadings w c.status else w }

/-- A frame of a notification, at the client the coordinator holds: the client parses it, and its
events are dispatched.  A frame without a command raises before that. -/
def receive (st : State) (frame : Bytes) : State :=
  match st.client with
  | none => st
  | some c =>
    match Received.receive { client := c } frame with
    | .error _ => { st with client := some (c.scanForStatusFrame frame) }
    | .ok r =>
      { st with
        client := some r.client
        world := r.events.foldl (dispatch r.client.status) st.world }

end State

end XBloom.Telemetry
