/-
# XBloom.Link.Manager — the connection switch, the supervisor, standby and reconnects on demand

`coordinator/connection.py` from the side of the link: who opens it, who drops it and what they leave
in the flags.  Several `XBloomClient`s follow one another, each with its own link and its own drop
callback; an await point says which of them it is about and, for a teardown, on whose behalf.  What an
action sends once it holds the link is left out: here it only takes time.

`hass.async_create_task` starts a task where it is created.  The point `scheduled` lets it start later
as well, so a run may do either.
-/
import XBloom.Async.Coroutine
import XBloom.Ble.Commands
import XBloom.Coordinator.State

namespace XBloom.Link

open XBloom.Async XBloom.Py XBloom.Ble
open XBloom.Coordinator (Operation Armed)

/-! ## The world -/

/-- One `XBloomClient`: its link, whether its machine sleeps, and when it was last heard of. -/
structure Client where
  connected : Bool := false
  sleeping : Bool := false
  lastNotification : ℕ := 0
  deriving DecidableEq

/-- The coordinator, as far as the link goes.  A client is the position of its creation; times are
milliseconds of the monotonic clock, the session timeout is in seconds. -/
structure World where
  clients : List Client := []
  client : Option ℕ := none
  connectLocked : Bool := false
  manualDisconnect : Bool := false
  idleDisconnected : Bool := false
  forceReconnectPending : Bool := false
  idleStandbyPending : Bool := false
  activeOperation : Option Operation := none
  armedOperation : Option Armed := none
  podPromptActive : Bool := false
  sessionTimeout : ℕ := 60
  lastActivity : ℕ := 0
  reconnectFailures : ℕ := 0
  reconnectBlockedUntil : ℕ := 0
  clock : ℕ := 0
  deriving DecidableEq

namespace World

/-- `client.is_connected`. -/
def isConnected (w : World) (c : ℕ) : Bool := ((w.clients[c]?).map Client.connected).getD false

/-- `client.is_sleeping()`. -/
def isSleeping (w : World) (c : ℕ) : Bool := ((w.clients[c]?).map Client.sleeping).getD false

/-- `self.client and self.client.is_connected`. -/
def linkUp (w : World) : Bool := w.client.any w.isConnected

/-- `self.client and self.client.is_sleeping()`. -/
def asleep (w : World) : Bool := w.client.any w.isSleeping

/-- A client changes. -/
def setClient (w : World) (c : ℕ) (f : Client → Client) : World :=
  { w with clients := w.clients.modify c f }

/-- A client's link is up, or down. -/
def setConnected (w : World) (c : ℕ) (up : Bool) : World :=
  w.setClient c fun client => { client with connected := up }

/-- `_note_activity`. -/
def noteActivity (w : World) : World := { w with lastActivity := w.clock }

/-- `_note_connect_success`. -/
def noteConnectSuccess (w : World) : World :=
  { w with reconnectFailures := 0, reconnectBlockedUntil := 0 }

/-- Nothing is armed or active, and no pod prompt is shown. -/
def atRest (w : World) : Bool :=
  w.armedOperation.isNone && w.activeOperation.isNone && !w.podPromptActive

/-- Milliseconds since a moment. -/
def since (w : World) (moment : ℕ) : ℕ := w.clock - moment

end World

/-! ## Await points, events -/

/-- What the poll starts in the background. -/
inductive Background where
  | reconnect
  | dropStaleLink
  | standby
  deriving DecidableEq

/-- On whose behalf a link is torn down. -/
inductive Teardown where
  | switchOff
  | staleLink
  | standby
  | wake
  deriving DecidableEq

/-- The awaits of a connect once it has its client. -/
inductive ConnectStage where
  | link
  | notify
  | readNotify
  | handshakeWritten
  | handshakeGap
  | recipeStopWritten
  | stopGap
  | brewerQuitWritten
  | grinderQuitWritten
  | quitGap
  | settle
  | refresh
  deriving DecidableEq

/-- The awaits of a client's disconnect. -/
inductive UnlinkStage where
  | stopNotify
  | bleak
  deriving DecidableEq

/-- Where a call waits. -/
inductive Point where
  | scheduled (task : Background)
  | connectLock
  | connecting (client : ℕ) (stage : ConnectStage)
  | disconnecting (why : Teardown) (client : ℕ) (stage : UnlinkStage)
  | refreshing (why : Teardown)
  | wakeHandshake (client : ℕ)
  | wakePoll
  | acting
  deriving DecidableEq

/-- What a call is resumed with. -/
inductive Response where
  | done
  | failed
  deriving DecidableEq

/-- What a call emits: a command on a client's link, or a mark: of a connect that creates its client, of
what the user asked for (the switch turned on or off), of an action that has the link, with the last
activity noted by then, and of a standby that starts its teardown. -/
inductive Event where
  | sent (client : ℕ) (command : Command)
  | connecting (client : ℕ)
  | turnOn
  | turnOff
  | passedGate (noted : ℕ)
  | standbyTeardown
  deriving DecidableEq

/-- The coordinator's `async` functions. -/
abbrev Managing (α : Type) := Routine World Event Point Response PyErr α

/-! ## Sends -/

/-- `_send_command`. -/
def sendCommand (c : ℕ) (command : Command) (at_ : Point) : Managing Unit := do
  let w ← Routine.world
  if w.isConnected c then do
    Routine.emit (.sent c command)
    let r ← Routine.await at_
    if r = .failed then throw .connectionError else pure ()
  else throw .connectionError

/-- `async_send_handshake`. -/
def sendHandshake (c : ℕ) (at_ : Point) : Managing Unit := do
  let w ← Routine.world
  Routine.when (w.isConnected c) do
    let _ ← Routine.attempt (sendCommand c .handshake at_)

/-! ## Connecting -/

/-- The cleanup commands of `_reset_state`. -/
def cleanUp (c : ℕ) : Managing Unit := do
  sendCommand c .recipeStop (.connecting c .recipeStopWritten)
  let _ ← Routine.await (.connecting c .stopGap)
  sendCommand c .brewerQuit (.connecting c .brewerQuitWritten)
  sendCommand c .grinderQuit (.connecting c .grinderQuitWritten)
  let _ ← Routine.await (.connecting c .quitGap)

/-- `_reset_state`: the handshake, then the cleanup, whose failure is logged. -/
def resetState (c : ℕ) : Managing Unit := do
  sendHandshake c (.connecting c .handshakeWritten)
  let _ ← Routine.await (.connecting c .handshakeGap)
  let _ ← Routine.attempt (cleanUp c)

/-- `XBloomClient.connect`. -/
def clientConnect (c : ℕ) : Managing Bool := do
  let linked ← Routine.await (.connecting c .link)
  if linked = .failed then pure false
  else do
    Routine.assign fun w => w.setConnected c true
    let notifying ← Routine.await (.connecting c .notify)
    if notifying = .failed then throw .connectionError
    else do
      let _ ← Routine.await (.connecting c .readNotify)
      resetState c
      let _ ← Routine.await (.connecting c .settle)
      pure true

/-- `min(_RECONNECT_BACKOFF_BASE_S * 2 ** (failures - 1), _RECONNECT_BACKOFF_MAX_S)`: the power is an
`int`, which a `float` is multiplied with only if a double holds it. -/
def backoffDelay (failures : ℕ) : Except PyErr PyFloat := do
  let doubled ← PyFloat.ofInt (2 ^ (failures - 1))
  let delay := PyFloat.mul 5 doubled
  return if PyFloat.lt 300 delay then 300 else delay

/-- Seconds on the monotonic clock. -/
def milliseconds : PyFloat → ℕ
  | .fin q => ⌊1000 * q⌋.toNat
  | _ => 0

/-- `_note_connect_failure`: 5 s, doubled with every failure, up to 300 s. -/
def noteConnectFailure : Managing ℕ := do
  Routine.assign fun w => { w with reconnectFailures := w.reconnectFailures + 1 }
  let w ← Routine.world
  let delay ← Routine.lift (backoffDelay w.reconnectFailures)
  Routine.assign fun w => { w with reconnectBlockedUntil := w.clock + milliseconds delay }
  pure w.reconnectFailures

/-- A connect that failed: `_log_connect_failure`, and no client; what `_note_connect_failure` raises
leaves the client. -/
def connectFailed : Managing Bool := do
  let _ ← noteConnectFailure
  Routine.assign fun w => { w with client := none }
  pure false

/-- What `async_connect` does with its new client.  The push of pending unit changes, which stops nothing, is
in `XBloom.Coordinator.connectClient` and in `XBloom.Units`; the tasks that it starts are left out. -/
def connectClient (c : ℕ) : Managing Bool := do
  let connected ← clientConnect c
  if connected then do
    Routine.assign World.noteConnectSuccess
    let _ ← Routine.await (.connecting c .refresh)
    Routine.assign fun w => { w with client := some c }
    pure true
  else connectFailed

/-- The body of `async_connect`, under its lock; whatever the connect raises is logged. -/
def connectLocked : Managing Bool := do
  let w ← Routine.world
  if w.linkUp then pure true
  else do
    Routine.emit (.connecting w.clients.length)
    Routine.assign fun w => { w.noteActivity with
      manualDisconnect := false, idleDisconnected := false
      clients := w.clients ++ [{ lastNotification := w.clock }], client := some w.clients.length }
    let connected ← Routine.attempt (connectClient w.clients.length)
    match connected with
    | .ok b => pure b
    | .error _ => connectFailed

/-- `async_connect`. -/
def asyncConnect : Managing Bool := do
  let w ← Routine.world
  Routine.when w.connectLocked do
    let _ ← Routine.await .connectLock
  Routine.assign fun w => { w with connectLocked := true }
  let connected ← Routine.attempt connectLocked
  Routine.assign fun w => { w with connectLocked := false }
  Routine.lift connected

/-! ## Disconnecting -/

/-- `XBloomClient.disconnect`. -/
def clientDisconnect (why : Teardown) (c : ℕ) : Managing Unit := do
  let w ← Routine.world
  Routine.when (w.isConnected c) do
    let _ ← Routine.await (.disconnecting why c .stopNotify)
    let unlinked ← Routine.await (.disconnecting why c .bleak)
    if unlinked = .failed then throw .connectionError
    else Routine.assign fun w => w.setConnected c false

/-- The teardown in `async_disconnect`; whatever it raises is logged. -/
def dropClient (why : Teardown) : Managing Unit := do
  let w ← Routine.world
  match w.client with
  | some c => do
    let _ ← Routine.attempt (clientDisconnect why c)
    Routine.assign fun w => { w with client := none }
  | none => pure ()

/-- `async_disconnect`. -/
def asyncDisconnect (why : Teardown) : Managing Unit := do
  Routine.assign fun w => { w with manualDisconnect := true }
  dropClient why
  let _ ← Routine.await (.refreshing why)

/-- `_async_drop_stale_link`. -/
def asyncDropStaleLink : Managing Unit := do
  let dropped ← Routine.attempt do
    asyncDisconnect .staleLink
    Routine.assign fun w => { w with manualDisconnect := false }
  Routine.assign fun w => { w with forceReconnectPending := false }
  Routine.lift dropped

/-- `_async_enter_idle_standby`. -/
def asyncEnterIdleStandby : Managing Unit := do
  Routine.assign fun w => { w with idleDisconnected := true }
  Routine.emit .standbyTeardown
  let dropped ← Routine.attempt (asyncDisconnect .standby)
  Routine.assign fun w => { w with idleStandbyPending := false }
  Routine.lift dropped

/-! ## The poll -/

/-- `hass.async_create_task`. -/
def createTask (task : Background) (x : Managing Unit) : Managing Unit := do
  let _ ← Routine.await (.scheduled task)
  x

/-- `_maybe_schedule_reconnect`. -/
def maybeScheduleReconnect : Managing Unit := do
  let w ← Routine.world
  if w.manualDisconnect || w.idleDisconnected then pure ()
  else if w.connectLocked then pure ()
  else if w.clock < w.reconnectBlockedUntil then pure ()
  else createTask .reconnect do
    let _ ← asyncConnect

/-- The link has been silent for longer than `_BLE_SILENCE_TIMEOUT_S`, on a machine that is awake. -/
def World.stale (w : World) (c : ℕ) : Bool :=
  !w.forceReconnectPending && !w.isSleeping c &&
    decide (15000 < w.since (((w.clients[c]?).map Client.lastNotification).getD 0))

/-- The idle countdown has run out. -/
def World.idle (w : World) : Bool :=
  decide (0 < w.sessionTimeout) && !w.idleStandbyPending && w.atRest &&
    decide (1000 * w.sessionTimeout < w.since w.lastActivity)

/-- `_async_update_data`, as far as it supervises the link. -/
def asyncUpdateData : Managing Unit := do
  let w ← Routine.world
  match w.client with
  | none => maybeScheduleReconnect
  | some c =>
    if w.isConnected c then
      if w.stale c then do
        Routine.assign fun w => { w with forceReconnectPending := true }
        createTask .dropStaleLink asyncDropStaleLink
      else if w.idle then do
        Routine.assign fun w => { w with idleStandbyPending := true }
        createTask .standby asyncEnterIdleStandby
      else pure ()
    else maybeScheduleReconnect

/-! ## Actions -/

/-- `_async_ensure_connected`. -/
def ensureConnected : Managing Bool := do
  Routine.assign World.noteActivity
  let w ← Routine.world
  if w.linkUp then pure true
  else if w.idleDisconnected then asyncConnect
  else pure false

/-- `_async_wait_awake`, with this many polls left. -/
def waitAwake : ℕ → Managing Bool
  | 0 => do
    let w ← Routine.world
    pure !w.asleep
  | n + 1 => do
    let w ← Routine.world
    if w.asleep then do
      let _ ← Routine.await .wakePoll
      waitAwake n
    else pure true

/-- The first half of `_async_wake_machine`: the handshake alone, on a held link. -/
def wakeByHandshake : Managing Bool := do
  let w ← Routine.world
  match w.client with
  | some c => do
    sendHandshake c (.wakeHandshake c)
    waitAwake 30
  | none => pure false

/-- `_async_wake_machine`. -/
def wakeMachine : Managing Unit := do
  let woke ← wakeByHandshake
  if woke then pure ()
  else do
    let w ← Routine.world
    if w.armedOperation.isSome then pure ()
    else do
      asyncDisconnect .wake
      Routine.assign fun w => { w with manualDisconnect := false }
      let _ ← asyncConnect

/-- What an action does with the link, by the number of its awaits. -/
def act : ℕ → Managing Unit
  | 0 => pure ()
  | n + 1 => do
    let _ ← Routine.await .acting
    act n

/-- A coordinator action: the gate, the wake-up of a sleeping machine if the action has one
(`_async_retry_while_sleeping`), and what it came for. -/
def action (wakes : Bool) (awaits : ℕ) : Managing Unit := do
  let connected ← ensureConnected
  Routine.when connected do
    let w ← Routine.world
    Routine.emit (.passedGate w.lastActivity)
    Routine.when (wakes && w.asleep) wakeMachine
    act awaits

/-! ## The system -/

/-- The calls: the switch turned on (or a tool that connects explicitly), turned off, a poll, and an
action. -/
inductive Call where
  | turnOn
  | turnOff
  | poll
  | action (wakes : Bool) (awaits : ℕ)
  deriving DecidableEq

/-- What a call runs. -/
def Call.routine : Call → Managing Unit
  | .turnOn => do
    Routine.emit .turnOn
    let _ ← asyncConnect
  | .turnOff => do
    Routine.emit .turnOff
    asyncDisconnect .switchOff
  | .poll => asyncUpdateData
  | .action wakes awaits => Link.action wakes awaits

/-- What happens beside the calls: a link is lost, the drop callback of a client whose link is down
runs, a notification comes in, time passes, a poll finds the machine busy, and operations come and
go. -/
inductive Move where
  | linkLost (c : ℕ)
  | dropCallback (c : ℕ)
  | notification (c : ℕ) (sleeping : Bool)
  | elapse (milliseconds : ℕ)
  | busy
  | operations (active : Option Operation) (armed : Option Armed) (podPrompt : Bool)
  deriving DecidableEq

/-- `_handle_unexpected_disconnect`, which does not learn whose link went down. -/
def World.handleUnexpectedDisconnect (w : World) : World :=
  if w.manualDisconnect then w else { w with client := none }

/-- The world after a move. -/
def World.move (w : World) : Move → World
  | .linkLost c => w.setConnected c false
  | .dropCallback c => if w.isConnected c then w else w.handleUnexpectedDisconnect
  | .notification c sleeping =>
    w.setClient c fun client => { client with sleeping := sleeping, lastNotification := w.clock }
  | .elapse milliseconds => { w with clock := w.clock + milliseconds }
  | .busy => w.noteActivity
  | .operations active armed podPrompt =>
    { w with activeOperation := active, armedOperation := armed, podPromptActive := podPrompt }

/-- **The connection manager.**  A call that waits for the connect lock goes on once it is free. -/
def system : System World Event Point Response Call Move where
  program call := call.routine.run.bind fun _ => .ret ()
  enabled
    | .connectLock, w => !w.connectLocked
    | _, _ => true
  move := World.move

/-- The pools of the connection manager. -/
abbrev LinkPool := Pool World Event Point Response Call

/-- Its steps. -/
abbrev LinkAction := Action Response Call Move

end XBloom.Link
