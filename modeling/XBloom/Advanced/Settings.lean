/-
# XBloom.Advanced.Settings — pour radius, vibration amplitude and display brightness

`async_set_advanced_settings` checks its levels, connects, and writes up to three settings.  The pour
radius has no absolute scale: its levels lie around a factory value that only the cloud knows, so the call
reads the current radius, asks the cloud, and only then writes.  All of it happens beside everything else
that runs at home (`settingsSystem`): polls replace what was last read, links drop, the account logs in and
out, and every await may last for seconds.  The connect is the coordinator's (`ensureConnected`), with its
push of pending unit changes, and so is the way home from a settings page (`returnMachineHome`).
-/
import XBloom.Ble.Framing
import XBloom.Llm.Tools

namespace XBloom.Advanced

open XBloom.Async XBloom.Py XBloom.Ble XBloom.Recipe XBloom.Coordinator XBloom.Llm

/-! ## Levels and raw values -/

/-- The settings of the service. -/
inductive Setting where
  | pourRadius
  | vibrationAmplitude
  | displayBrightness
  deriving DecidableEq, Repr

/-- The arguments of `async_set_advanced_settings`. -/
structure SettingsArgs where
  pourRadiusLevel : Option ℤ := none
  vibrationAmplitudeLevel : Option ℤ := none
  displayBrightnessLevel : Option ℤ := none
  deriving DecidableEq, Repr

/-- `_vibration_level_to_raw`. -/
def vibrationLevelToRaw (level : ℤ) : ℤ := 1000 + level * 100

/-- `_pour_radius_level_to_raw`. -/
def pourRadiusLevelToRaw (level center : ℤ) : ℤ := center - (2 - level) * 80

/-- `_DISPLAY_BRIGHTNESS_RAW[level]`. -/
def displayBrightnessRaw (level : ℤ) : Except PyErr ℤ :=
  if level = 1 then .ok 1
  else if level = 2 then .ok 8
  else if level = 3 then .ok 15
  else .error .keyError

/-- What the service answers; the messages are left out. -/
inductive SettingsReply where
  | success
  | noAction
  | invalidLevel (s : Setting)
  | cloudLoginRequired
  | notConnected
  | pourRadiusUnknown
  | serialUnknown
  | cloudCenterUnavailable
  | writeFailed (e : PyErr)
  deriving DecidableEq, Repr

/-- A level that is given lies in its range. -/
def within (low high : ℤ) (level : Option ℤ) : Bool :=
  level.all fun l => decide (low ≤ l ∧ l ≤ high)

/-- The checks before anything is sent, in their order. -/
def checkLevels (args : SettingsArgs) (loggedIn : Bool) : Option SettingsReply :=
  if args.pourRadiusLevel = none ∧ args.vibrationAmplitudeLevel = none ∧
      args.displayBrightnessLevel = none then some .noAction
  else if within 0 4 args.pourRadiusLevel = false then some (.invalidLevel .pourRadius)
  else if within 0 5 args.vibrationAmplitudeLevel = false then some (.invalidLevel .vibrationAmplitude)
  else if within 1 3 args.displayBrightnessLevel = false then some (.invalidLevel .displayBrightness)
  else if args.pourRadiusLevel.isSome = true ∧ loggedIn = false then some .cloudLoginRequired
  else none

/-! ## The world -/

/-- What is read of a machine: the fields of `DeviceStatus`, and the keys of `data`, that the settings
go by. -/
structure Readings where
  pourRadius : Option ℤ := none
  vibrationAmplitude : Option ℤ := none
  serialNumber : String := ""
  deriving DecidableEq, Repr

/-- The coordinator, the status that each client has parsed, the last poll and the cloud account. -/
structure SettingsWorld where
  coordinator : World
  status : ℕ → Readings := fun _ => {}
  data : Readings := {}
  loggedIn : Bool := false

/-- Where a call waits. -/
inductive SettingsAwait where
  | home (l : Await)
  /-- The write of a GET. -/
  | asked (s : Setting)
  /-- The write of a SET. -/
  | written (s : Setting)
  /-- The 0.5 s for the radius to be read. -/
  | readGap
  /-- The 0.8 s between two commands. -/
  | commandGap
  /-- `get_pour_radius_init_center`. -/
  | center
  /-- `async_refresh`. -/
  | refresh
  deriving DecidableEq, Repr

/-- What a call is resumed with. -/
inductive Answer where
  | machine (r : Response)
  | center (value : Option ℤ)
  | raised
  deriving DecidableEq, Repr

/-- What the machine's awaits make of it. -/
def Answer.response : Answer → Response
  | .machine r => r
  | .center _ => .done
  | .raised => .failed

/-- What the cloud's make of it: the center, none, or a value that is no number. -/
def Answer.initCenter : Answer → Except PyErr (Option ℤ)
  | .center value => .ok value
  | .machine _ => .ok none
  | .raised => .error (.valueError [])

/-- What a call emits. -/
inductive SettingsEvent where
  | home (e : HomeEvent)
  /-- A GET goes out on a client's link. -/
  | get (client : ℕ) (s : Setting)
  /-- A SET goes out. -/
  | set (client : ℕ) (s : Setting) (raw : ℤ)
  /-- The cloud is asked for the center of a serial's machine. -/
  | asked (serial : String) (current : ℤ)
  /-- What it answers. -/
  | centered (value : Option ℤ)
  | replied (reply : SettingsReply)
  deriving DecidableEq, Repr

/-- The coroutines of the service. -/
abbrev Settling (α : Type) := Routine SettingsWorld SettingsEvent SettingsAwait Answer PyErr α

/-- The home, as a part. -/
def household : Lens World HomeEvent Await Response SettingsWorld SettingsEvent SettingsAwait Answer where
  part := SettingsWorld.coordinator
  replace v w := { v with coordinator := w }
  event := .home
  label := .home
  response := Answer.response

/-- A coroutine of the coordinator, beside the settings. -/
def onMachine {α : Type} (x : Coordinator.Async α) : Settling α := Routine.zoom household (atHome x)

/-! ## Commands -/

/-- A method of `self.client`. -/
def onClient {α : Type} (f : ℕ → Settling α) : Settling α := do
  let w ← Routine.world
  match w.coordinator.client with
  | some c => f c
  | none => throw .attributeError

/-- `async_get_pour_radius` and `async_get_vibration_amplitude`: nothing without a link. -/
def getSetting (s : Setting) (c : ℕ) : Settling Unit := do
  let w ← Routine.world
  if w.coordinator.isConnected c then do
    Routine.emit (.get c s)
    let r ← Routine.await (.asked s)
    if r.response = .failed then throw .connectionError else pure ()
  else pure ()

/-- What a SET that was written leaves in the client's status. -/
def SettingsWorld.remember (w : SettingsWorld) (c : ℕ) (s : Setting) (raw : ℤ) : SettingsWorld :=
  match s with
  | .pourRadius => { w with
      status := Function.update w.status c { w.status c with pourRadius := some raw } }
  | .vibrationAmplitude => { w with
      status := Function.update w.status c { w.status c with vibrationAmplitude := some raw } }
  | .displayBrightness => w

/-- `async_set_pour_radius`, `async_set_vibration_amplitude` and `async_set_display_brightness`, with the
raw value: it has to fit the command's word. -/
def setSetting (s : Setting) (raw : ℤ) (c : ℕ) : Settling Unit := do
  let w ← Routine.world
  if w.coordinator.isConnected c then do
    let _ ← Routine.lift (packLE 4 raw)
    Routine.emit (.set c s raw)
    let r ← Routine.await (.written s)
    if r.response = .failed then throw .connectionError
    else Routine.assign fun w => w.remember c s raw
  else throw .connectionError

/-! ## The service -/

/-- The current radius: the last poll's, or the one a GET brings in time. -/
def currentRadius : Settling (Option ℤ) := do
  let w ← Routine.world
  match w.data.pourRadius with
  | some radius => pure (some radius)
  | none => do
    onClient (getSetting .pourRadius)
    let _ ← Routine.await .readGap
    let w ← Routine.world
    pure w.data.pourRadius

/-- `get_pour_radius_init_center`. -/
def getPourRadiusInitCenter (serial : String) (current : ℤ) : Settling (Option ℤ) := do
  Routine.emit (.asked serial current)
  let answer ← Routine.await .center
  let center ← Routine.lift answer.initCenter
  Routine.emit (.centered center)
  pure center

/-- The pour radius of `async_set_advanced_settings`; what it returns ends the call. -/
def writePourRadius (level : ℤ) : Settling (Option SettingsReply) := do
  let current ← currentRadius
  match current with
  | none => pure (some .pourRadiusUnknown)
  | some current => do
    let w ← Routine.world
    if w.data.serialNumber = "" then pure (some .serialUnknown)
    else do
      let center ← getPourRadiusInitCenter w.data.serialNumber current
      match center with
      | none => pure (some .cloudCenterUnavailable)
      | some center => do
        onClient (setSetting .pourRadius (pourRadiusLevelToRaw level center))
        let _ ← Routine.await .commandGap
        pure none

/-- The vibration amplitude. -/
def writeVibrationAmplitude : Option ℤ → Settling Unit
  | none => pure ()
  | some level => do
    onClient (setSetting .vibrationAmplitude (vibrationLevelToRaw level))
    let _ ← Routine.await .commandGap

/-- The display brightness, whose page the machine is then called back from. -/
def writeDisplayBrightness : Option ℤ → Settling Unit
  | none => pure ()
  | some level => do
    onClient fun c => do
      let raw ← Routine.lift (displayBrightnessRaw level)
      setSetting .displayBrightness raw c
    let w ← Routine.world
    onMachine (returnMachineHome w.coordinator.client)

/-- The `try` of `async_set_advanced_settings`; what it returns ends the call. -/
def writeSettings (args : SettingsArgs) : Settling (Option SettingsReply) := do
  let refused ← (match args.pourRadiusLevel with
    | some level => writePourRadius level
    | none => pure none)
  match refused with
  | some reply => pure (some reply)
  | none => do
    writeVibrationAmplitude args.vibrationAmplitudeLevel
    writeDisplayBrightness args.displayBrightnessLevel
    pure none

/-- `async_set_advanced_settings`. -/
def asyncSetAdvancedSettings (args : SettingsArgs) : Settling SettingsReply := do
  let w ← Routine.world
  match checkLevels args w.loggedIn with
  | some reply => pure reply
  | none => do
    let connected ← onMachine ensureConnected
    if connected = true then do
      let wrote ← Routine.attempt (writeSettings args)
      match wrote with
      | .error e => pure (.writeFailed e)
      | .ok (some reply) => pure reply
      | .ok none => do
        let _ ← Routine.await .refresh
        pure .success
    else pure .notConnected

/-- `_async_refresh_advanced_settings`; what it raises is logged. -/
def asyncRefreshAdvancedSettings (client : Option ℕ) : Settling Unit := do
  let w ← Routine.world
  match client.or w.coordinator.client with
  | none => pure ()
  | some c => do
    let _ ← Routine.attempt do
      getSetting .pourRadius c
      let _ ← Routine.await .commandGap
      getSetting .vibrationAmplitude c

/-! ## The system -/

/-- The calls at home, and those of the settings. -/
inductive SettingsCall where
  | home (c : HomeCall)
  | setAdvanced (args : SettingsArgs)
  | refreshAdvanced (client : Option ℕ)
  deriving DecidableEq, Repr

/-- What happens to the settings' world without them. -/
inductive SettingsMove where
  | home (m : Move)
  /-- `_async_update_data`: the default state without a link. -/
  | polled
  /-- A notification: MachineInfo, or the answer to a GET. -/
  | reported (c : ℕ) (readings : Readings)
  /-- `login`, or another account. -/
  | account (loggedIn : Bool)

section
variable (I : Identifiers) (yaml : YamlLayer)

/-- What a call runs. -/
def SettingsCall.routine : SettingsCall → Settling Unit
  | .home c => Routine.zoom household (c.routine I yaml)
  | .setAdvanced args => do
    let reply ← asyncSetAdvancedSettings args
    Routine.emit (.replied reply)
  | .refreshAdvanced client => asyncRefreshAdvancedSettings client

/-- The world after a move. -/
def SettingsWorld.move (w : SettingsWorld) : SettingsMove → SettingsWorld
  | .home m => { w with coordinator := w.coordinator.move I yaml m }
  | .polled => { w with
      data := if w.coordinator.linkUp = true then (w.coordinator.client.map w.status).getD {} else {} }
  | .reported c readings => { w with status := Function.update w.status c readings }
  | .account loggedIn => { w with loggedIn := loggedIn }

/-- The home's lock is waited for; any other await may end at any time. -/
def settingsEnabled : SettingsAwait → SettingsWorld → Bool
  | .home l, w => enabled l w.coordinator
  | _, _ => true

/-- **The settings' calls beside all others.** -/
def settingsSystem :
    System SettingsWorld SettingsEvent SettingsAwait Answer SettingsCall SettingsMove where
  program call := (call.routine I yaml).run.bind fun _ => .ret ()
  enabled := settingsEnabled
  move := SettingsWorld.move I yaml

end

/-- Its pools and its steps. -/
abbrev SettingsPool := Pool SettingsWorld SettingsEvent SettingsAwait Answer SettingsCall
abbrev SettingsAction := Action Answer SettingsCall SettingsMove

section
variable (I : Identifiers) (yaml : YamlLayer)

/-- A run of it. -/
def settingsRun (w : SettingsWorld) (as : List SettingsAction) : SettingsPool :=
  Logic.run (Pool.step (settingsSystem I yaml)) (Pool.idle w) as

end

end XBloom.Advanced
