/-
# XBloom.Units.Push — the SET commands and the lock they go out under

`_apply_unit_preferences` sends one ACK-gated command for each pending key and then 8022, all of it
under `_unit_push_lock`.  Two callers reach it: a push of its own after a Settings change, and
`async_connect`, on its way through.  Meanwhile settings change, the machine reports its own values,
links drop and come up, and every await may last for seconds.
-/
import XBloom.Async.Coroutine
import XBloom.Units.Values

namespace XBloom.Units

open XBloom.Async

/-! ## The world -/

/-- One `XBloomClient`: whether its link is up, and whether its machine sleeps. -/
structure Client where
  connected : Bool := false
  sleeping : Bool := false

/-- The coordinator, as far as a push reads it.  A client is the position of its creation. -/
structure PushWorld where
  units : UnitPreferences
  clients : List Client := []
  client : Option ℕ := none
  idleDisconnected : Bool := false
  connectLocked : Bool := false
  unitPushLocked : Bool := false

/-- `client.is_connected`. -/
def PushWorld.isConnected (w : PushWorld) (c : ℕ) : Bool :=
  ((w.clients[c]?).map Client.connected).getD false

/-- `client.is_sleeping()`. -/
def PushWorld.isSleeping (w : PushWorld) (c : ℕ) : Bool :=
  ((w.clients[c]?).map Client.sleeping).getD false

/-- `self.client and self.client.is_connected`. -/
def PushWorld.linkUp (w : PushWorld) : Bool := w.client.any w.isConnected

/-- Where a push or a connect waits. -/
inductive PushPoint where
  /-- `async with self._connect_lock`. -/
  | connectLock
  /-- bleak's connect, `start_notify` and the reset that follows. -/
  | connecting
  /-- `async_refresh`. -/
  | refreshing
  /-- `async with self._unit_push_lock`. -/
  | pushLock
  /-- The write of a SET command. -/
  | written (key : OptionKey) (payload : List OptionValue)
  /-- Its echo. -/
  | acked (key : OptionKey) (payload : List OptionValue)
  /-- `_WAKE_RETRY_DELAY_S` before it is sent again. -/
  | retryDelay (key : OptionKey) (payload : List OptionValue)
  /-- `_SETTINGS_PAGE_SETTLE_S`. -/
  | pageSettle
  /-- The write of 8022. -/
  | homeWritten
  /-- Its echo. -/
  | homeAcked
  deriving DecidableEq

/-- What a call is resumed with: it went well; the time ran out, or the link was closed, which fails
whoever waits for an echo in the same way; or it raised. -/
inductive PushResponse where
  | done
  | timedOut
  | failed
  deriving DecidableEq

/-- What goes out to the machine. -/
inductive PushEvent where
  | set (key : OptionKey) (command : ℤ) (payload : List OptionValue)
  | home
  deriving DecidableEq

/-- What a send raises: `AckTimeout`, or anything else. -/
inductive SendError where
  | ackTimeout
  | other
  deriving DecidableEq

/-- The coordinator's `async` functions that push. -/
abbrev Pushing (α : Type) := Routine PushWorld PushEvent PushPoint PushResponse SendError α

/-! ## Sends -/

/-- A method of the client: calling one of `None` raises. -/
def onClient {α : Type} (client : Option ℕ) (f : ℕ → Pushing α) : Pushing α :=
  match client with
  | some c => f c
  | none => throw .other

/-- The write of a command: a link that is down raises before anything is sent. -/
def writeCommand (c : ℕ) (event : PushEvent) (at_ : PushPoint) : Pushing Unit := do
  let w ← Routine.world
  if w.isConnected c then do
    Routine.emit event
    let r ← Routine.await at_
    if r = .failed then throw .other
    else if r = .timedOut then throw .ackTimeout
    else pure ()
  else throw .other

/-- `send_and_wait`. -/
def sendAndWait (c : ℕ) (event : PushEvent) (written acked : PushPoint) : Pushing Unit := do
  writeCommand c event written
  let r ← Routine.await acked
  if r = .done then pure () else throw .ackTimeout

/-- A SET command. -/
def sendSet (c : ℕ) (key : OptionKey) (command : ℤ) (payload : List OptionValue) : Pushing Unit :=
  sendAndWait c (.set key command payload) (.written key payload) (.acked key payload)

/-- The attempts of `_async_send_unit_command`, with this many left after the current one. -/
def sendAttempts (c : ℕ) (key : OptionKey) (command : ℤ) (payload : List OptionValue)
    (asleep : Bool) : ℕ → Pushing Unit
  | 0 => sendSet c key command payload
  | n + 1 => do
    let sent ← Routine.attempt (sendSet c key command payload)
    match sent with
    | .ok () => pure ()
    | .error .ackTimeout => do
      Routine.when asleep do
        let _ ← Routine.await (.retryDelay key payload)
      sendAttempts c key command payload asleep n
    | .error .other => throw .other

/-- `_async_send_unit_command`: two sends, or three to a machine that sleeps at the first. -/
def asyncSendUnitCommand (client : Option ℕ) (key : OptionKey) (command : ℤ)
    (payload : List OptionValue) : Pushing Unit :=
  onClient client fun c => do
    let w ← Routine.world
    sendAttempts c key command payload (w.isSleeping c) (if w.isSleeping c then 2 else 1)

/-- `_async_return_machine_home`; what the send raises is logged. -/
def asyncReturnMachineHome (client : Option ℕ) : Pushing Unit := do
  let _ ← Routine.await .pageSettle
  let _ ← Routine.attempt (onClient client fun c => sendAndWait c .home .homeWritten .homeAcked)

/-! ## A batch -/

/-- A key leaves the pending ones, if the payload that was sent is still the one of its value. -/
def discardSent (key : OptionKey) (payload : List OptionValue) (u : UnitPreferences) :
    UnitPreferences :=
  if (u.pushCommand key).2 = payload then
    { u with pendingUnitPushes := u.pendingUnitPushes.erase key }
  else u

/-- The loop of `_apply_unit_preferences`: whether anything was sent, `none` after a hard failure. -/
def pushKeys (client : Option ℕ) : List OptionKey → Bool → Pushing (Option Bool)
  | [], sent => pure (some sent)
  | key :: rest, sent => do
    let w ← Routine.world
    if key ∉ w.units.pendingUnitPushes then pushKeys client rest sent
    else do
      let (command, payload) := w.units.pushCommand key
      let outcome ← Routine.attempt (asyncSendUnitCommand client key command payload)
      if outcome = .error .other then pure none
      else do
        Routine.assign fun w => { w with units := discardSent key payload w.units }
        pushKeys client rest true

/-- The body of `_apply_unit_preferences` under its lock. -/
def applyLocked (client : Option ℕ) : Pushing Unit := do
  let sent ← pushKeys client unitPushOrder false
  Routine.when (sent = some true) (asyncReturnMachineHome client)

/-- `_apply_unit_preferences`. -/
def applyUnitPreferences (client : Option ℕ) : Pushing Unit := do
  let w ← Routine.world
  Routine.when w.unitPushLocked do
    let _ ← Routine.await .pushLock
  Routine.assign fun w => { w with unitPushLocked := true }
  let applied ← Routine.attempt (applyLocked client)
  Routine.assign fun w => { w with unitPushLocked := false }
  Routine.lift applied

/-! ## Its two callers -/

/-- What `async_connect` does with a new client of this number. -/
def connectClient (n : ℕ) : Pushing Bool := do
  let connected ← Routine.await .connecting
  if connected = .done then do
    Routine.assign fun w => { w with
      clients := w.clients.modify n fun client => { client with connected := true } }
    let w ← Routine.world
    Routine.when (w.units.pendingUnitPushes ≠ ∅) (applyUnitPreferences (some n))
    let _ ← Routine.await .refreshing
    Routine.assign fun w => { w with client := some n }
    pure true
  else do
    Routine.assign fun w => { w with client := none }
    pure false

/-- The body of `async_connect` under its lock. -/
def connectLocked : Pushing Bool := do
  let w ← Routine.world
  if w.linkUp then pure true
  else do
    Routine.assign fun w => { w with
      idleDisconnected := false, clients := w.clients ++ [{}], client := some w.clients.length }
    let connected ← Routine.attempt (connectClient w.clients.length)
    match connected with
    | .ok b => pure b
    | .error _ => do
      Routine.assign fun w => { w with client := none }
      pure false

/-- `async_connect`. -/
def asyncConnect : Pushing Bool := do
  let w ← Routine.world
  Routine.when w.connectLocked do
    let _ ← Routine.await .connectLock
  Routine.assign fun w => { w with connectLocked := true }
  let connected ← Routine.attempt connectLocked
  Routine.assign fun w => { w with connectLocked := false }
  Routine.lift connected

/-- `_async_ensure_connected`. -/
def ensureConnected : Pushing Bool := do
  let w ← Routine.world
  if w.linkUp then pure true
  else if w.idleDisconnected then asyncConnect
  else pure false

/-- `_async_push_unit_preferences`: only what the connect raises stops it, not its result. -/
def asyncPushUnitPreferences : Pushing Unit := do
  let outcome ← Routine.attempt ensureConnected
  match outcome with
  | .error _ => pure ()
  | .ok _ => do
    let w ← Routine.world
    Routine.when (w.units.pendingUnitPushes ≠ ∅) do
      let w ← Routine.world
      applyUnitPreferences w.client

/-! ## The system -/

/-- The calls. -/
inductive PushCall where
  | push
  | connect
  deriving DecidableEq

/-- What happens beside them: a Settings change, a cmd 8015 report, and the rest of the connection's
life, in which links drop, machines fall asleep, `self.client` is forgotten and standby is entered. -/
inductive PushMove where
  | settings (options : Options)
  | report (r : UnitReport)
  | client (c : ℕ) (status : Client)
  | forgotten
  | standby (idle : Bool)

/-- Pushes and connects in flight. -/
abbrev PushPool := Pool PushWorld PushEvent PushPoint PushResponse PushCall

/-- A step of them, or of what happens beside them. -/
abbrev PushAction := Action PushResponse PushCall PushMove

/-- What a move does. -/
def PushWorld.move (w : PushWorld) : PushMove → PushWorld
  | .settings options => { w with units := (w.units.handleUnitOptionsChange options).1 }
  | .report r => { w with units := (w.units.syncFromMachine r).1 }
  | .client c status => { w with clients := w.clients.set c status }
  | .forgotten => { w with client := none }
  | .standby idle => { w with idleDisconnected := idle }

/-- The program of a call. -/
def pushProgram : PushCall → Co PushWorld PushEvent PushPoint PushResponse Unit
  | .push => asyncPushUnitPreferences.run.bind fun _ => .ret ()
  | .connect => asyncConnect.run.bind fun _ => .ret ()

/-- **Any number of pushes and connects**; a call that waits for a lock goes on once it is free. -/
def pushSystem : System PushWorld PushEvent PushPoint PushResponse PushCall PushMove where
  program := pushProgram
  enabled
    | .connectLock, w => !w.connectLocked
    | .pushLock, w => !w.unitPushLocked
    | _, _ => true
  move := PushWorld.move

end XBloom.Units
