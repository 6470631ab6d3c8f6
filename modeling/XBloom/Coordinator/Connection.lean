/-
# XBloom.Coordinator.Connection — sends, connects, drops and the wake-up retry

The coroutines under every user action.  An await point is named for what the source awaits there; a
response says whether that went well (`done`), went well but took so long that nothing of a step's
floor is left (`late`), or failed: a write or connect that raises, an ACK that times out.

A connect resets the machine and pushes the unit changes that are still pending.

Besides the packets sent, the trace carries marks of what a call does at a point that no packet
shows: which flag it found or set there.
-/
import XBloom.Async.Coroutine
import XBloom.Ble.Commands
import XBloom.Coordinator.State

namespace XBloom.Coordinator

open XBloom.Async XBloom.Py XBloom.Ble XBloom.Recipe

/-! ## Await points, events -/

/-- Where a coroutine waits. -/
inductive Await where
  /-- `async with self._connect_lock`. -/
  | lock
  /-- `async with self._unit_push_lock`. -/
  | unitLock
  /-- bleak's connect. -/
  | link
  /-- `start_notify`. -/
  | notify
  /-- The sleeps of `_reset_state` and `connect`. -/
  | resetGap
  /-- `stop_notify` and bleak's disconnect. -/
  | unlink
  /-- `async_refresh`. -/
  | refresh
  /-- The write of a command. -/
  | written (command : Command)
  /-- The echo of a command. -/
  | acked (command : Command)
  /-- `_WAKE_RETRY_DELAY_S` before a setting is sent again. -/
  | unitRetry
  /-- `_SETTINGS_PAGE_SETTLE_S`. -/
  | settingSettle
  /-- The rest of a chain step's floor. -/
  | settle
  /-- The gap between a single-shot chain and its go command. -/
  | startGap
  /-- A poll of `_async_verify_brew_started`; it fails when the deadline has passed. -/
  | startPoll
  /-- The burrs' two seconds in `GrinderController.start`. -/
  | burrGap
  /-- `_POUR_ARM_SETTLE_S`. -/
  | pageSettle
  /-- `_POUR_ARM_PUSH_GAP_S`. -/
  | pageGap
  /-- A poll of `_async_wait_awake`. -/
  | wakePoll
  /-- `_WAKE_RETRY_DELAY_S`. -/
  | retryDelay
  /-- A poll of `_async_verify_component_stop`. -/
  | stopPoll
  /-- `_STOP_TO_QUIT_SETTLE_S`. -/
  | stopGap
  deriving DecidableEq, Repr

/-- What a task is resumed with. -/
inductive Response where
  | done
  | late
  | failed
  deriving DecidableEq, Repr

/-- What a task emits: a packet on a client's link, or a mark. -/
inductive Event where
  | sent (client : ℕ) (packet : Packet)
  /-- `_armed_operation` is set. -/
  | armed (op : Armed)
  /-- `async_connect` starts connecting, with this arm standing. -/
  | connecting (armed : Option Armed)
  /-- A recipe chain starts, with this arm standing, for the recipe of this uid. -/
  | chain (armed : Option Armed) (uid : Option String)
  /-- A confirm begins, with this arm standing. -/
  | confirming (armed : Option Armed)
  /-- `xbloom__execute_recipe` confirms the recipe it resolved, which has this uid. -/
  | naming (uid : Option String)
  deriving DecidableEq, Repr

/-- The coordinator's `async` functions. -/
abbrev Async (α : Type) := Routine World Event Await Response PyErr α

/-! ## Sends -/

/-- `self.client`, for a method call on it. -/
def withClient {α : Type} (f : ℕ → Async α) : Async α := do
  let w ← Routine.world
  match w.client with
  | some c => f c
  | none => throw .attributeError

/-- `_send_command` and `_send_command_raw`. -/
def sendCommand (c : ℕ) (packet : Packet) : Async Unit := do
  let w ← Routine.world
  if w.isConnected c then do
    Routine.emit (.sent c packet)
    let r ← Routine.await (.written packet.command)
    if r = .failed then throw .connectionError else pure ()
  else throw .connectionError

/-- `send_and_wait`: a send and its echo. -/
def sendAndWait (c : ℕ) (packet : Packet) : Async Response := do
  sendCommand c packet
  let r ← Routine.await (.acked packet.command)
  if r = .failed then throw .ackTimeout else pure r

/-- `async_send_handshake`. -/
def sendHandshake (c : ℕ) : Async Bool := do
  let w ← Routine.world
  if w.isConnected c then do
    let sent ← Routine.attempt (sendCommand c { command := .handshake })
    pure sent.toBool
  else pure false

/-! ## Pending unit changes -/

/-- `struct.pack("<I", n)`. -/
def packU32 (n : ℤ) : Except PyErr Arg :=
  if 0 ≤ n ∧ n < 2 ^ 32 then .ok (.int n) else .error .structError

/-- `WEIGHT_UNIT_OPTIONS.get(unit, WEIGHT_UNIT_OPTIONS["g"])`. -/
def weightUnitCode (unit : String) : ℤ := if unit = "ml" then 0 else if unit = "oz" then 2 else 1

/-- `TEMP_UNIT_OPTIONS.get(unit, TEMP_UNIT_OPTIONS["c"])`. -/
def tempUnitCode (unit : String) : ℤ := if unit = "f" then 0 else 1

/-- `_unit_push_command`: the command of a key and its payload. -/
def World.unitPushCommand (w : World) : UnitKey → Command × ℤ
  | .weightUnit => (.weightUnitSet, weightUnitCode w.weightUnit)
  | .tempUnit => (.tempUnitSet, tempUnitCode w.tempUnit)
  | .waterSource => (.waterSourceSet, w.waterSource)

/-- The attempts of `_async_send_unit_command`, with this many left after the current one. -/
def unitAttempts (c : ℕ) (packet : Packet) (asleep : Bool) : ℕ → Async Unit
  | 0 => do
    let _ ← sendAndWait c packet
  | n + 1 => do
    let sent ← Routine.attempt (sendAndWait c packet)
    match sent with
    | .ok _ => pure ()
    | .error e => do
      if e = .ackTimeout then do
        Routine.when asleep do
          let _ ← Routine.await .unitRetry
        unitAttempts c packet asleep n
      else throw e

/-- `_async_send_unit_command`: two sends, or three to a machine that sleeps at the first. -/
def sendUnitCommand (client : Option ℕ) (push : Command × ℤ) : Async Unit :=
  match client with
  | some c => do
    let w ← Routine.world
    let word ← Routine.lift (packU32 push.2)
    unitAttempts c { command := push.1, args := [word] } (w.status c).isSleeping
      (if (w.status c).isSleeping then 2 else 1)
  | none => throw .attributeError

/-- `_async_return_machine_home`; what the send raises is logged. -/
def returnMachineHome (client : Option ℕ) : Async Unit := do
  let _ ← Routine.await .settingSettle
  let _ ← Routine.attempt (match client with
    | some c => sendAndWait c { command := .backToHome }
    | none => throw .attributeError)

/-- A key leaves the pending ones, if the payload that was sent is still the one of its value. -/
def World.discardSent (w : World) (key : UnitKey) (payload : ℤ) : World :=
  if (w.unitPushCommand key).2 = payload then
    { w with pendingUnitPushes := w.pendingUnitPushes.erase key }
  else w

/-- The loop of `_apply_unit_preferences`: whether anything was sent, `none` after a hard failure. -/
def pushKeys (client : Option ℕ) : List UnitKey → Bool → Async (Option Bool)
  | [], sent => pure (some sent)
  | key :: rest, sent => do
    let w ← Routine.world
    if key ∈ w.pendingUnitPushes then do
      let outcome ← Routine.attempt (sendUnitCommand client (w.unitPushCommand key))
      match outcome with
      | .ok _ => do
        Routine.assign fun v => v.discardSent key (w.unitPushCommand key).2
        pushKeys client rest true
      | .error e =>
        if e = .ackTimeout then do
          Routine.assign fun v => v.discardSent key (w.unitPushCommand key).2
          pushKeys client rest true
        else pure none
    else pushKeys client rest sent

/-- The body of `_apply_unit_preferences` under its lock: 8022 follows what was sent. -/
def applyLocked (client : Option ℕ) : Async Unit := do
  let sent ← pushKeys client unitPushOrder false
  Routine.when (sent = some true) (returnMachineHome client)

/-- `_apply_unit_preferences`. -/
def applyUnitPreferences (client : Option ℕ) : Async Unit := do
  let w ← Routine.world
  Routine.when w.unitPushLocked do
    let _ ← Routine.await .unitLock
  Routine.assign fun w => { w with unitPushLocked := true }
  let applied ← Routine.attempt (applyLocked client)
  Routine.assign fun w => { w with unitPushLocked := false }
  Routine.lift applied

/-! ## Connecting -/

/-- The cleanup commands of `_reset_state`. -/
def cleanUp (c : ℕ) : Async Unit := do
  sendCommand c { command := .recipeStop }
  let _ ← Routine.await .resetGap
  sendCommand c { command := .brewerQuit }
  sendCommand c { command := .grinderQuit }
  let _ ← Routine.await .resetGap

/-- `_reset_state`: the handshake, then the cleanup, whose failure is logged. -/
def resetState (c : ℕ) : Async Unit := do
  let _ ← sendHandshake c
  let _ ← Routine.await .resetGap
  let _ ← Routine.attempt (cleanUp c)

/-- `XBloomClient.connect`. -/
def clientConnect (c : ℕ) : Async Bool := do
  let linked ← Routine.await .link
  if linked = .failed then pure false
  else do
    Routine.assign fun w => w.setClient c fun client => { client with connected := true }
    let notifying ← Routine.await .notify
    if notifying = .failed then throw .connectionError
    else do
      let _ ← Routine.await .notify
      resetState c
      let _ ← Routine.await .resetGap
      pure true

/-- What `async_connect` does with its new client: connect it, push what is pending and refresh.

Left out here: the GATT inventory, the MachineInfo retry, which `XBloom.Info` has, and the read of the
advanced settings, which is a task of its own. -/
def connectClient (c : ℕ) : Async Bool := do
  let connected ← clientConnect c
  if connected then do
    let w ← Routine.world
    Routine.when (w.pendingUnitPushes ≠ ∅) (applyUnitPreferences (some c))
    let _ ← Routine.await .refresh
    Routine.assign fun w => { w with client := some c }
    pure true
  else do
    Routine.assign fun w => { w with client := none }
    pure false

/-- `async_connect` with a new client, of number `n`; whatever it raises is logged. -/
def connectNew (n : ℕ) : Async Bool := do
  Routine.assign fun w => { w with
    manualDisconnect := false, idleDisconnected := false
    clients := w.clients ++ [{}], client := some n }
  let connected ← Routine.attempt (connectClient n)
  match connected with
  | .ok b => pure b
  | .error _ => do
    Routine.assign fun w => { w with client := none }
    pure false

/-- The body of `async_connect`, under its lock. -/
def connectLocked : Async Bool := do
  let w ← Routine.world
  if w.linkUp then pure true
  else do
    Routine.emit (.connecting w.armedOperation)
    connectNew w.clients.length

/-- `async_connect`. -/
def asyncConnect : Async Bool := do
  let w ← Routine.world
  Routine.when w.connectLocked do
    let _ ← Routine.await .lock
  Routine.assign fun w => { w with connectLocked := true }
  let connected ← Routine.attempt connectLocked
  Routine.assign fun w => { w with connectLocked := false }
  Routine.lift connected

/-- `XBloomClient.disconnect`; the coordinator's clients do no cleanup here. -/
def clientDisconnect (c : ℕ) : Async Unit := do
  let w ← Routine.world
  if w.isConnected c then do
    let _ ← Routine.await .unlink
    let unlinked ← Routine.await .unlink
    if unlinked = .failed then throw .connectionError
    else Routine.assign fun w => w.setClient c fun client => { client with connected := false }
  else pure ()

/-- The teardown in `async_disconnect`; whatever it raises is logged. -/
def dropClient : Async Unit := do
  let w ← Routine.world
  match w.client with
  | some c => do
    let _ ← Routine.attempt (clientDisconnect c)
    Routine.assign fun w => { w with client := none }
  | none => pure ()

/-- `async_disconnect`. -/
def asyncDisconnect : Async Unit := do
  Routine.assign fun w => { w with manualDisconnect := true }
  dropClient
  let _ ← Routine.await .refresh

/-- `_async_drop_stale_link`. -/
def asyncDropStaleLink : Async Unit := do
  let dropped ← Routine.attempt do
    asyncDisconnect
    Routine.assign fun w => { w with manualDisconnect := false }
  Routine.assign fun w => { w with forceReconnectPending := false }
  Routine.lift dropped

/-- `_async_enter_idle_standby`. -/
def asyncEnterIdleStandby : Async Unit := do
  Routine.assign fun w => { w with idleDisconnected := true }
  let dropped ← Routine.attempt asyncDisconnect
  Routine.assign fun w => { w with idleStandbyPending := false }
  Routine.lift dropped

/-- `_async_ensure_connected`: only a standby drop is undone on demand. -/
def ensureConnected : Async Bool := do
  let w ← Routine.world
  if w.linkUp then pure true
  else if w.idleDisconnected then asyncConnect
  else pure false

/-! ## The sleeping machine -/

/-- `_async_wait_awake`, with this many polls left. -/
def waitAwake : ℕ → Async Bool
  | 0 => do
    let w ← Routine.world
    pure !w.asleep
  | n + 1 => do
    let w ← Routine.world
    if w.asleep then do
      let _ ← Routine.await .wakePoll
      waitAwake n
    else pure true

/-- The first half of `_async_wake_machine`: the handshake alone, on a held link. -/
def wakeByHandshake : Async Bool := do
  let w ← Routine.world
  match w.client with
  | some c => do
    let _ ← sendHandshake c
    waitAwake 30
  | none => pure false

/-- `_async_wake_machine`: the handshake, then a reconnect, but never while something is armed. -/
def wakeMachine : Async Unit := do
  let woke ← wakeByHandshake
  if woke then pure ()
  else do
    let w ← Routine.world
    if w.armedOperation.isSome then pure ()
    else do
      asyncDisconnect
      Routine.assign fun w => { w with manualDisconnect := false }
      let _ ← asyncConnect

/-- The attempts of `_async_retry_while_sleeping`, with this many left after the current one. -/
def retryAttempts {α : Type} (asleep : Bool) (action : Async α) : ℕ → Async α
  | 0 => action
  | n + 1 => do
    let result ← Routine.attempt action
    match result with
    | .ok a => do
      let w ← Routine.world
      if w.asleep then do
        let _ ← Routine.await .retryDelay
        retryAttempts asleep action n
      else pure a
    | .error e => do
      let w ← Routine.world
      if e = .ackTimeout ∧ (asleep || w.asleep) = true then do
        let _ ← Routine.await .retryDelay
        retryAttempts asleep action n
      else throw e

/-- `_async_retry_while_sleeping`: three attempts, after a wake-up if the machine sleeps. -/
def retryWhileSleeping {α : Type} (action : Async α) : Async α := do
  let w ← Routine.world
  Routine.when w.asleep wakeMachine
  retryAttempts w.asleep action 2

end XBloom.Coordinator
