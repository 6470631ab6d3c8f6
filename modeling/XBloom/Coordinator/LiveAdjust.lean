/-
# XBloom.Coordinator.LiveAdjust — sliders that reach an open page

While the machine sits on its grind or pour page with nothing running, a changed slider is pushed to it at
once: 8006 again for the grind page, 4510 and 8016 for the pour page.  The page counts as open when it was
armed from here or when the machine reports it, so a page opened by its knob is adjusted too.
-/
import XBloom.Coordinator.Footprints

namespace XBloom.Coordinator

open XBloom.Async XBloom.Py XBloom.Ble XBloom.Recipe

/-! ## The pushes -/

namespace World

/-- The machine reports a page with nothing of its kind running. -/
def pageOpen (w : World) (page : Screen) (isRunning : DeviceStatus → Bool) : Bool :=
  w.client.any fun c => (w.status c).screen == some page && !isRunning (w.status c)

/-- `_grind_page_open`. -/
def grindPageOpen (w : World) : Bool := w.pageOpen .grind DeviceStatus.grinderRunning

/-- `_pour_page_open`. -/
def pourPageOpen (w : World) : Bool := w.pageOpen .pour DeviceStatus.brewerRunning

/-- A page that is armed or open. -/
def adjusts (w : World) : Armed → Bool
  | .grind => decide (w.armedOperation = some .grind) || w.grindPageOpen
  | .pour => decide (w.armedOperation = some .pour) || w.pourPageOpen
  | .recipe => false

end World

/-- One push to a page that is armed or open; its failure is logged. -/
def syncArmed (page : Armed) (push : Async Unit) : Async Unit := do
  let w ← Routine.world
  if w.adjusts page = false then pure ()
  else do
    let connected ← ensureConnected
    if connected then do
      let _ ← Routine.attempt push
    else pure ()

/-- `BrewerController.set_temperature` with the slider of the moment. -/
def pushTemperature : Async Unit := do
  let w ← Routine.world
  withClient fun c => do
    let tenths ← Routine.lift ((wireTemperature w.temperature).mul 10).round
    sendCommand c { command := .brewerSetTemperature, args := [.int tenths] }

/-- `BrewerController.set_pattern` with the pattern of the moment. -/
def pushPattern : Async Unit := do
  let w ← Routine.world
  withClient fun c => sendCommand c { command := .brewerSetPattern, args := [.int w.pourPattern] }

/-- `async_sync_armed_grinder_settings`. -/
def syncArmedGrinderSettings : Async Unit := syncArmed .grind (withGrinder grinderEnterMode)

/-- `async_sync_armed_brewer_temperature`. -/
def syncArmedBrewerTemperature : Async Unit := syncArmed .pour pushTemperature

/-- `async_sync_armed_brewer_pattern`. -/
def syncArmedBrewerPattern : Async Unit := syncArmed .pour pushPattern

/-! ## The entities -/

/-- `POUR_PATTERN_OPTIONS.get(option, 2)`. -/
def pourPatternOption (option : String) : ℤ :=
  if option = "center" then 0 else if option = "circular" then 1 else 2

/-- A number entity or the pattern select is given a value. -/
inductive Slider where
  | grindSize (value : PyFloat)
  | rpm (value : PyFloat)
  | temperature (value : PyFloat)
  | volume (value : PyFloat)
  | pourPattern (option : String)
  deriving DecidableEq, Repr

namespace Slider

/-- What it becomes: `int(value)`, or the pattern of the option. -/
def stored : Slider → Except PyErr ℤ
  | grindSize value => value.toInt
  | rpm value => value.toInt
  | temperature value => value.toInt
  | volume value => value.toInt
  | pourPattern option => .ok (pourPatternOption option)

/-- The coordinator with it. -/
def write (w : World) (n : ℤ) : Slider → World
  | grindSize _ => { w with grindSize := n }
  | rpm _ => { w with rpm := n }
  | temperature _ => { w with temperature := n }
  | volume _ => { w with volume := n }
  | pourPattern _ => { w with pourPattern := n }

/-- The page it is pushed to. -/
def page : Slider → Option Armed
  | grindSize _ => some .grind
  | rpm _ => some .grind
  | temperature _ => some .pour
  | volume _ => none
  | pourPattern _ => some .pour

/-- The command it is pushed with. -/
def command : Slider → Option Command
  | grindSize _ => some .grinderIn
  | rpm _ => some .grinderIn
  | temperature _ => some .brewerSetTemperature
  | volume _ => none
  | pourPattern _ => some .brewerSetPattern

/-- Its push. -/
def sync : Slider → Async Unit
  | grindSize _ => syncArmedGrinderSettings
  | rpm _ => syncArmedGrinderSettings
  | temperature _ => syncArmedBrewerTemperature
  | volume _ => pure ()
  | pourPattern _ => syncArmedBrewerPattern

/-- `async_set_native_value` of the four number entities and `async_select_option` of the pattern
select. -/
def set (slider : Slider) : Async Unit := do
  let n ← Routine.lift slider.stored
  Routine.assign fun w => slider.write w n
  slider.sync

end Slider

/-! ## What a slider touches -/

/-- A slider's write touches a setpoint only. -/
structure World.SetsSlider (w w' : World) : Prop where
  armed : w'.armedOperation = w.armedOperation
  active : w'.activeOperation = w.activeOperation
  clients : w'.clients = w.clients
  client : w'.client = w.client
  idle : w'.idleDisconnected = w.idleDisconnected

theorem Slider.write_sets (slider : Slider) (w : World) (n : ℤ) : w.SetsSlider (slider.write w n) := by
  cases slider <;> exact ⟨rfl, rfl, rfl, rfl, rfl⟩

/-- The link, and one page command at most. -/
def adjustFootprint (k : Option Command) : CoordinatorFootprint where
  awaits l := linkFootprint.awaits l ∨ ∃ command, k = some command ∧ l = .written command
  emits e := linkFootprint.emits e ∨ ∃ c packet, e = .sent c packet ∧ k = some packet.command
  writes w w' := w.SameOperations w' ∨ w.SetsSlider w'

theorem link_le_adjust (k : Option Command) : linkFootprint ≤ adjustFootprint k :=
  ⟨fun _ h => Or.inl h, fun _ h => Or.inl h, fun _ _ h => Or.inl h⟩

theorem adjust_within {k : Option Command} {c : ℕ} {packet : Packet} (h : k = some packet.command) :
    Within (adjustFootprint k) (sendCommand c packet) :=
  sendCommand_within (Or.inr ⟨packet.command, h, rfl⟩) (Or.inr ⟨c, packet, rfl, h⟩)

theorem syncArmed_within {page : Armed} {push : Async Unit} {k : Option Command}
    (hpush : Within (adjustFootprint k) push) : Within (adjustFootprint k) (syncArmed page push) := by
  refine .world fun w => ?_
  split
  · exact .pure _
  · refine .bind (ensureConnected_within.mono (link_le_adjust k)) fun connected => ?_
    split
    · exact .bind (.attempt hpush) fun _ => .pure _
    · exact .pure _

/-- **A slider reaches the machine through the command of its page only.** -/
theorem Slider.set_within (slider : Slider) : Within (adjustFootprint slider.command) slider.set := by
  refine .bind (.lift _) fun n => .bind (.assign fun w => Or.inr (slider.write_sets w n)) fun _ => ?_
  have hgrinder : Within (adjustFootprint (some .grinderIn)) (withGrinder grinderEnterMode) :=
    .world fun _ => withClient_within fun _ => adjust_within rfl
  cases slider with
  | grindSize value => exact syncArmed_within hgrinder
  | rpm value => exact syncArmed_within hgrinder
  | temperature value =>
    exact syncArmed_within (.world fun _ => withClient_within fun _ => .bind (.lift _) fun _ =>
      adjust_within rfl)
  | volume value => exact .pure _
  | pourPattern option =>
    exact syncArmed_within (.world fun _ => withClient_within fun _ => adjust_within rfl)

end XBloom.Coordinator
