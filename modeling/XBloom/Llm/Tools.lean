/-
# XBloom.Llm.Tools — the conversation agent beside everybody else

The tools `xbloom__grind` and `xbloom__pour` work in two phases: a call arms the machine's page, and a
later call with `confirmed=true` starts what is armed.  `homeSystem` puts them, with the other tools that
reach the machine and the sliders of the dashboard, into one pool with the calls of
`XBloom.Coordinator.Calls`; a tool's reply is an event of its own.  The sentences a reply carries for the
agent are left out, as are `xbloom__write_easy_slot` and `xbloom__calibrate_grinder`, whose calls are those of
`XBloom.Slots`.
-/
import XBloom.Async.Protocols
import XBloom.Coordinator.Finality
import XBloom.Coordinator.LiveAdjust
import XBloom.Coordinator.Maintenance

namespace XBloom.Llm

open XBloom.Async XBloom.Py XBloom.Ble XBloom.Recipe XBloom.Coordinator

/-! ## Arguments and replies -/

/-- The arguments of `xbloom__grind`. -/
structure GrindArgs where
  grindSize : Option ℤ := none
  rpm : Option ℤ := none
  confirmed : Bool := false
  deriving DecidableEq, Repr

/-- The arguments of `xbloom__pour`. -/
structure PourArgs where
  temperature : Option PyFloat := none
  boiling : Bool := false
  volume : ℤ
  flowRate : Option PyFloat := none
  confirmed : Bool := false
  deriving DecidableEq, Repr

/-- `TEMPERATURE_BOILING_C`. -/
def temperatureBoiling : PyFloat := 96

/-- The temperature a pour asks for; without one, and not boiling, the agent has to ask. -/
def PourArgs.asked (args : PourArgs) : Option PyFloat :=
  if args.boiling then some temperatureBoiling else args.temperature

/-- The settings a reply reports. -/
inductive Settings where
  | grind (size rpm : ℤ)
  | pour (temperature : PyFloat) (boiling : Bool) (volume : ℤ) (flowRate : Option PyFloat)
  deriving DecidableEq, Repr

/-- What a tool replies. -/
inductive ToolReply where
  | missingTemperature
  | connectFailed
  /-- `f"... failed: {exc!s}"`. -/
  | raised (e : PyErr)
  | startFailed
  | armFailed
  /-- The page is armed; `again` when a confirmation found nothing standing. -/
  | armed (again : Bool) (settings : Settings)
  | started (settings : Settings)
  /-- The success of a tool that neither arms nor starts. -/
  | done
  deriving DecidableEq, Repr

/-! ## The tools -/

/-- The auto-connect of every tool; what it raises counts as a failure. -/
def reachMachine : Coordinator.Async Bool := do
  let w ← Routine.world
  if w.linkUp then pure true
  else do
    let connected ← Routine.attempt asyncConnect
    pure (connected.toOption.getD false)

/-- The second half of a two-phase tool: start what is armed, or arm. -/
def twoPhase (op : Armed) (confirmed : Bool) (confirm arm : Coordinator.Async Bool)
    (settings : Bool → World → Settings) : Coordinator.Async ToolReply := do
  let w ← Routine.world
  let start := confirmed && decide (w.armedOperation = some op)
  let ran ← Routine.attempt (if start = true then confirm else arm)
  match ran with
  | .error e => pure (.raised e)
  | .ok false => pure (if start = true then .startFailed else .armFailed)
  | .ok true => do
    let w ← Routine.world
    pure (if start = true then .started (settings start w) else .armed confirmed (settings start w))

/-- `XBloomGrindTool.async_call`. -/
def grindTool (args : GrindArgs) : Coordinator.Async ToolReply := do
  let reached ← reachMachine
  if reached = true then do
    Routine.assign fun w => { w with
      grindSize := args.grindSize.getD w.grindSize, rpm := args.rpm.getD w.rpm }
    twoPhase .grind args.confirmed asyncConfirmGrind asyncArmGrind
      fun _ w => .grind w.grindSize w.rpm
  else pure .connectFailed

/-- `XBloomPourTool.async_call`, with the temperature it was asked for. -/
def pourWith (args : PourArgs) (temperature : PyFloat) : Coordinator.Async ToolReply := do
  let reached ← reachMachine
  if reached = true then do
    let rounded ← Routine.lift temperature.round
    Routine.assign fun w => { w with
      temperature := rounded, volume := args.volume, flowRate := args.flowRate.getD w.flowRate }
    twoPhase .pour args.confirmed asyncConfirmPour asyncArmPour
      fun start w => .pour temperature args.boiling args.volume (if start then some w.flowRate else none)
  else pure .connectFailed

/-- `XBloomPourTool.async_call`. -/
def pourTool (args : PourArgs) : Coordinator.Async ToolReply :=
  match args.asked with
  | none => pure .missingTemperature
  | some temperature => pourWith args temperature

/-- A tool that makes one call on the machine. -/
def plainTool (call : Coordinator.Async Unit) : Coordinator.Async ToolReply := do
  let reached ← reachMachine
  if reached = true then do
    let ran ← Routine.attempt call
    match ran with
    | .error e => pure (.raised e)
    | .ok _ => pure .done
  else pure .connectFailed

/-- `XBloomTareScaleTool.async_call`. -/
def tareTool : Coordinator.Async ToolReply := plainTool asyncTareScale

/-- `XBloomStatusTool.async_call`, as far as it reaches the machine. -/
def statusTool : Coordinator.Async ToolReply := plainTool (pure ())

/-- `XBloomCancelTool.async_call`: no auto-connect. -/
def cancelTool : Coordinator.Async ToolReply := do
  let ran ← Routine.attempt asyncCancel
  match ran with
  | .error e => pure (.raised e)
  | .ok _ => pure .done

/-! ## The home -/

/-- An event of the coordinator, or a tool's reply. -/
inductive HomeEvent where
  | coordinator (e : Event)
  | replied (reply : ToolReply)
  deriving DecidableEq, Repr

/-- The coordinator's own coroutines, at home. -/
def hearing : Lens World Event Await Response World HomeEvent Await Response where
  part := id
  replace _ w := w
  event := .coordinator
  label := id
  response := id

/-- The coroutines of the home. -/
abbrev Home (α : Type) := Routine World HomeEvent Await Response PyErr α

/-- A coroutine of the coordinator, at home. -/
def atHome {α : Type} (x : Coordinator.Async α) : Home α := Routine.zoom hearing x

/-- A tool, and its reply. -/
def replying (x : Coordinator.Async ToolReply) : Home Unit := do
  let reply ← atHome x
  Routine.emit (.replied reply)

/-- The calls of the home. -/
inductive HomeCall where
  | call (c : Call)
  | pauseResume (shown : ShownState)
  | tareScale
  | enterScaleMode
  | exitScaleMode
  | slide (slider : Slider)
  | grindTool (args : GrindArgs)
  | pourTool (args : PourArgs)
  | tareTool
  | statusTool
  | cancelTool
  deriving DecidableEq, Repr

section
variable (I : Identifiers) (yaml : YamlLayer)

/-- What a call runs. -/
def HomeCall.routine : HomeCall → Home Unit
  | .call c => atHome (c.routine I yaml)
  | .pauseResume shown => atHome (asyncPauseResume shown)
  | .tareScale => atHome asyncTareScale
  | .enterScaleMode => atHome asyncEnterScaleMode
  | .exitScaleMode => atHome asyncExitScaleMode
  | .slide slider => atHome slider.set
  | .grindTool args => replying (Llm.grindTool args)
  | .pourTool args => replying (Llm.pourTool args)
  | .tareTool => replying Llm.tareTool
  | .statusTool => replying Llm.statusTool
  | .cancelTool => replying Llm.cancelTool

/-- **The coordinator and all who call it.** -/
def homeSystem : System World HomeEvent Await Response HomeCall Move where
  program call := (call.routine I yaml).run.bind fun _ => .ret ()
  enabled := Coordinator.enabled
  move := World.move I yaml

end

/-- Its pools and its steps. -/
abbrev HomePool := Pool World HomeEvent Await Response HomeCall
abbrev HomeAction := Action Response HomeCall Move

section
variable (I : Identifiers) (yaml : YamlLayer)

/-- A run of it. -/
def homeRun (w : World) (as : List HomeAction) : HomePool :=
  Logic.run (Pool.step (homeSystem I yaml)) (Pool.idle w) as

end

end XBloom.Llm
