/-
# XBloom.Coordinator.Operations — manual pours and grinds, the pause and the cancel

`OperationsMixin`, with the controllers' commands it sends.  A `try` whose `except` only logs is an
`attempt` whose result is dropped.
-/
import XBloom.Coordinator.Connection

namespace XBloom.Coordinator

open XBloom.Async XBloom.Py XBloom.Ble XBloom.Recipe

/-! ## The grinder -/

/-- `GrinderController.enter_mode`. -/
def grinderEnterMode (c : ℕ) (size speed : ℤ) : Async Unit :=
  sendCommand c { command := .grinderIn, args := [.int size, .int speed] }

/-- `GrinderController.confirm_start`. -/
def grinderConfirmStart (c : ℕ) (size speed : ℤ) : Async Unit :=
  sendCommand c { command := .grinderStart, args := [.int 1000, .int size, .int speed] }

/-- `GrinderController.start`. -/
def grinderStart (c : ℕ) (size speed : ℤ) : Async Unit := do
  grinderEnterMode c size speed
  let _ ← Routine.await .burrGap
  grinderConfirmStart c size speed

/-- A grinder call with the sliders of the moment. -/
def withGrinder (f : ℕ → ℤ → ℤ → Async Unit) : Async Unit := do
  let w ← Routine.world
  withClient fun c => f c w.grindSize w.rpm

/-! ## The brewer -/

/-- `_wire_temperature`: the ends of the slider are RT and BP. -/
def wireTemperature (temperature : ℤ) : PyFloat :=
  if temperature ≤ 39 then 20 else if 96 ≤ temperature then 98 else .fin temperature

/-- The words of 4506, from the sliders. -/
def brewerStartArgs (w : World) : Except PyErr (List Arg) := do
  let flow ← packF32 (w.flowRate.mul 10)
  let volume ← packF32 ((← PyFloat.ofInt w.volume).mul 10)
  let temperature ← packF32 ((wireTemperature w.temperature).mul 10)
  let source ← packU32 w.waterSource
  let pattern ← packU32 w.pourPattern
  return [flow, volume, temperature, source, pattern]

/-- `BrewerController.start` with the sliders of the moment. -/
def brewerStart : Async Unit := do
  let w ← Routine.world
  withClient fun c => do
    let args ← Routine.lift (brewerStartArgs w)
    sendCommand c { command := .brewerStart, args := args }

/-- `BrewerController.enter_mode`. -/
def brewerEnterMode : Async Unit := withClient fun c => sendCommand c { command := .brewerIn }

/-- The entry push of `async_arm_pour`: temperature, a gap, pattern. -/
def pushPourPage : Async Unit := do
  let w ← Routine.world
  withClient fun c => do
    let tenths ← Routine.lift ((wireTemperature w.temperature).mul 10).round
    sendCommand c { command := .brewerSetTemperature, args := [.int tenths] }
  let _ ← Routine.await .pageGap
  let w ← Routine.world
  withClient fun c => sendCommand c { command := .brewerSetPattern, args := [.int w.pourPattern] }

/-! ## Pours -/

/-- `async_pour`. -/
def asyncPour : Async Unit := do
  let connected ← ensureConnected
  if connected then do
    let _ ← Routine.attempt do
      Routine.assign fun w => { w with activeOperation := some .manualPour }
      retryWhileSleeping brewerStart
  else pure ()

/-- What an arm does once its commands are out: set the flag. -/
def setArmed (op : Armed) : Async Unit := do
  Routine.emit (.armed op)
  Routine.assign fun w => { w with armedOperation := some op }

/-- A confirm begins. -/
def beginConfirm : Async Unit := do
  let w ← Routine.world
  Routine.emit (.confirming w.armedOperation)

/-- `async_arm_pour`. -/
def asyncArmPour : Async Bool := do
  let connected ← ensureConnected
  if connected then do
    let armed ← Routine.attempt do
      retryWhileSleeping brewerEnterMode
      setArmed .pour
    match armed with
    | .error _ => pure false
    | .ok _ => do
      let _ ← Routine.await .pageSettle
      let _ ← Routine.attempt pushPourPage
      pure true
  else pure false

/-- `async_confirm_pour`. -/
def asyncConfirmPour : Async Bool := do
  beginConfirm
  let connected ← ensureConnected
  if connected then do
    let started ← Routine.attempt do
      Routine.assign fun w => { w with activeOperation := some .manualPour }
      retryWhileSleeping brewerStart
    Routine.assign fun w => { w with armedOperation := none }
    pure started.toBool
  else pure false

/-! ## Grinds -/

/-- `async_grind`. -/
def asyncGrind : Async Unit := do
  let connected ← ensureConnected
  if connected then do
    let _ ← Routine.attempt do
      Routine.assign fun w => { w with activeOperation := some .manualGrind }
      retryWhileSleeping (withGrinder grinderStart)
  else pure ()

/-- `async_arm_grind`. -/
def asyncArmGrind : Async Bool := do
  let connected ← ensureConnected
  if connected then do
    let armed ← Routine.attempt do
      retryWhileSleeping (withGrinder grinderEnterMode)
      setArmed .grind
    pure armed.toBool
  else pure false

/-- `async_confirm_grind`. -/
def asyncConfirmGrind : Async Bool := do
  beginConfirm
  let connected ← ensureConnected
  if connected then do
    let started ← Routine.attempt do
      Routine.assign fun w => { w with activeOperation := some .manualGrind }
      retryWhileSleeping (withGrinder grinderConfirmStart)
    Routine.assign fun w => { w with armedOperation := none }
    pure started.toBool
  else pure false

/-- A bare command on `self.client`. -/
def sendBare (command : Command) : Async Unit := withClient fun c => sendCommand c { command }

/-! ## Pause and resume -/

/-- `self.data["state"]`, as far as `async_pause_resume` tells it apart: `running` is starting, brewing
or grinding. -/
inductive ShownState where
  | paused
  | running
  | unread
  deriving DecidableEq, Repr

/-- A manual run is paused, or resumed when it shows as paused. -/
def pauseResumeManual (shown : ShownState) (pause restart : Command) : Async Unit := do
  if shown = .paused then do
    sendBare restart
    Routine.assign fun w => { w with manualPauseSeen := true }
  else do
    sendBare pause
    Routine.assign fun w => { w with manualPaused := true, manualPauseSeen := false }

/-- A recipe is paused or resumed, or nothing is. -/
def pauseResumeRecipe : ShownState → Async Unit
  | .paused => sendBare .recipeRestart
  | .running => sendBare .recipePause
  | .unread => pure ()

/-- `async_pause_resume`; what it is shown is what the last poll derived, and may be anything here. -/
def asyncPauseResume (shown : ShownState) : Async Unit := do
  let connected ← ensureConnected
  if connected then do
    let w ← Routine.world
    if w.armedOperation.isSome then pure ()
    else do
      let _ ← Routine.attempt do
        match w.activeOperation with
        | some .manualGrind => pauseResumeManual shown .grinderPause .grinderRestart
        | some .manualPour => pauseResumeManual shown .brewerPause .brewerRestart
        | _ => pauseResumeRecipe shown
  else pure ()

/-! ## Cancel -/

/-- `_ARMED_QUIT_COMMANDS`. -/
def armedQuitCommand : Armed → Command
  | .grind => .grinderQuit
  | .pour => .brewerQuit
  | .recipe => .recipeStartQuit

/-- The quits of a cancel: of the armed page, and of the pod prompt unless that is the same one. -/
def quitCommands (armed : Option Armed) (podPrompt : Bool) : List Command :=
  let quits := armed.toList.map armedQuitCommand
  if podPrompt = true ∧ Command.recipeStartQuit ∉ quits then quits ++ [.recipeStartQuit] else quits

/-- The bookkeeping a cancel clears before anything else. -/
def World.clearOperations (w : World) : World :=
  { w with
    executingRecipe := false, activeRecipePours := none, currentPourIndex := none
    activeOperation := none, manualPaused := false, manualRunSeen := false
    manualPauseSeen := false, armedOperation := none, armedRecipeIsTea := false
    armedRecipeTeaPayload := none, podPromptActive := false }

/-- `for command in quit_commands: ...`. -/
def sendQuits : List Command → Async Unit
  | [] => pure ()
  | command :: rest => do
    sendBare command
    sendQuits rest

/-- The watch of `_async_verify_component_stop`, with this many polls left: whether the component of
this client still runs at its end. -/
def stillRunning (isRunning : DeviceStatus → Bool) (c : ℕ) : ℕ → Async Bool
  | 0 => pure true
  | n + 1 => do
    let w ← Routine.world
    if isRunning (w.status c) then do
      let _ ← Routine.await .stopPoll
      stillRunning isRunning c n
    else pure false

/-- `_async_verify_component_stop`: one more stop for a component that runs on. -/
def verifyComponentStop (isRunning : DeviceStatus → Bool) (stop : Command) : Async Unit := do
  let w ← Routine.world
  match w.client with
  | none => pure ()
  | some c => do
    let running ← stillRunning isRunning c 10
    if running then sendBare stop else pure ()

/-- Stop a manual run, then quit its page. -/
def stopComponent (isRunning : DeviceStatus → Bool) (stop quit : Command) : Async Unit := do
  sendBare stop
  verifyComponentStop isRunning stop
  let _ ← Routine.await .stopGap
  sendBare quit

/-- The commands of a cancel, from the flags it found. -/
def sendStops (active : Option Operation) (armed : Option Armed) (podPrompt : Bool) : Async Unit :=
  if quitCommands armed podPrompt ≠ [] then sendQuits (quitCommands armed podPrompt)
  else
    match active with
    | some .manualGrind =>
      stopComponent DeviceStatus.grinderRunning .grinderStop (armedQuitCommand .grind)
    | some .manualPour =>
      stopComponent DeviceStatus.brewerRunning .brewerStop (armedQuitCommand .pour)
    | _ => sendBare .recipeStop

/-- `async_cancel`. -/
def asyncCancel : Async Unit := do
  let w ← Routine.world
  Routine.assign World.clearOperations
  let connected ← ensureConnected
  if connected then do
    let _ ← Routine.attempt (sendStops w.activeOperation w.armedOperation w.podPromptActive)
  else pure ()

end XBloom.Coordinator
