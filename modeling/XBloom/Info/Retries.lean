/-
# XBloom.Info.Retries — asking the machine again who it is

After a connect the machine may still owe its serial number.  A background loop then wakes up a few times,
reads the standard characteristics, and re-sends the handshake.  It runs beside everything that happens to
the link: further connects, disconnects, drops of the link on the machine's side, and notifications.

A loop is cancelled by whoever gives the link up; it notices where it waits.
-/
import XBloom.Async.Segments
import Mathlib.Data.Finset.Basic

namespace XBloom.Info

open XBloom.Async

/-! ## The world -/

/-- `_MACHINE_INFO_RETRY_DELAYS_S`. -/
def machineInfoRetryDelays : List ℕ := [3, 5, 10, 20, 30]

/-- The link's side of the coordinator.  Clients and loops are numbered as they are made; `linked` are
the clients that are connected, `serials` and `versions` those whose status has a serial number and a
version. -/
structure LinkWorld where
  client : Option ℕ
  made : ℕ
  linked : Finset ℕ
  bare : Finset ℕ
  serials : Finset ℕ
  versions : Finset ℕ
  locked : Bool
  manualDisconnect : Bool
  machineInfoTask : Option ℕ
  loops : ℕ
  begun : Finset ℕ
  done : Finset ℕ
  cancelled : Finset ℕ

/-- The characteristics that are read, in order. -/
inductive DeviceInfo where
  | serial
  | firmware
  | software
  deriving DecidableEq

/-- Where a call waits. -/
inductive LinkPoint where
  | lock
  | connecting (client : ℕ)
  /-- What a connect does before the retry loop: the GATT inventory, the push of unit changes, a refresh. -/
  | settling (client : ℕ)
  | disconnecting (client : ℕ)
  | refreshing
  | sleeping (loop left : ℕ)
  | reading (loop left : ℕ) (char : DeviceInfo)
  | sending (loop left : ℕ)
  | refreshingFor (loop left : ℕ)
  deriving DecidableEq

/-- How it goes: well, or not, or it raises. -/
inductive LinkAnswer where
  | yes
  | no
  | raises
  deriving DecidableEq

/-- What is logged, scheduled and sent: a loop is created and starts, it re-sends the handshake to a
client, the link is given up, and the advanced settings are asked for. -/
inductive LinkEvent where
  | scheduled (loop : ℕ)
  | started (loop : ℕ)
  | resent (loop client : ℕ)
  | gaveUp
  | asksSettings
  deriving DecidableEq

/-- What a loop is ended by. -/
inductive LoopExit where
  | cancelled
  | attributeError
  deriving DecidableEq

/-- A call. -/
abbrev LinkRoutine (α : Type) := Routine LinkWorld LinkEvent LinkPoint LinkAnswer LoopExit α

/-! ## The loop -/

section
variable (loop : ℕ)

/-- An await inside a loop, which is where it is cancelled. -/
def awaitIn (point : LinkPoint) : LinkRoutine LinkAnswer := do
  let r ← Routine.await point
  let w ← Routine.world
  if loop ∈ w.cancelled then throw .cancelled else return r

/-- The status attribute a characteristic fills in is there. -/
def known (w : LinkWorld) (client : ℕ) : DeviceInfo → Bool
  | .serial => decide (client ∈ w.serials)
  | _ => decide (client ∈ w.versions)

/-- `setattr(status, attr, text)`. -/
def setKnown (client : ℕ) (char : DeviceInfo) (w : LinkWorld) : LinkWorld :=
  match char with
  | .serial => { w with serials := insert client w.serials }
  | _ => { w with versions := insert client w.versions }

/-- One characteristic of `_try_read_device_info_chars`. -/
def readChar (left client : ℕ) (char : DeviceInfo) : LinkRoutine Unit := do
  let w ← Routine.world
  if known w client char then return ()
  else
    let r ← awaitIn loop (.reading loop left char)
    if r = .yes then Routine.assign (setKnown client char) else return ()

/-- The characteristics of `_try_read_device_info_chars`, one after the other. -/
def readChars (left client : ℕ) : LinkRoutine Bool := do
  readChar loop left client .serial
  readChar loop left client .firmware
  readChar loop left client .software
  let w ← Routine.world
  return known w client .serial || known w client .firmware

/-- `_try_read_device_info_chars`, of a client that is connected. -/
def tryReadDeviceInfoChars (left client : ℕ) : LinkRoutine Bool := do
  let w ← Routine.world
  if client ∈ w.bare then return false else readChars loop left client

/-- The machine is known: the panel is refreshed, and the advanced settings are asked for. -/
def arrived (left : ℕ) : LinkRoutine Unit := do
  let _ ← awaitIn loop (.refreshingFor loop left)
  Routine.emit .asksSettings

/-- `await self.client.async_send_handshake()`, in its `try`. -/
def resendHandshake (left : ℕ) : LinkRoutine Unit := do
  let w ← Routine.world
  match w.client with
  | none => return ()
  | some client =>
    Routine.emit (.resent loop client)
    let _ ← awaitIn loop (.sending loop left)
    return ()

/-- The attempts of `_machine_info_retry_loop`. -/
def machineInfoAttempts : List ℕ → LinkRoutine Unit
  | [] => return ()
  | _ :: delays => do
    let _ ← awaitIn loop (.sleeping loop (delays.length + 1))
    let w ← Routine.world
    match w.client with
    | none => return ()
    | some client =>
      if client ∉ w.linked then return ()
      else if client ∈ w.serials then arrived loop delays.length
      else
        let found ← tryReadDeviceInfoChars loop (delays.length + 1) client
        if found then
          let w ← Routine.world
          if w.client.isNone then throw .attributeError else arrived loop delays.length
        else
          resendHandshake loop delays.length
          machineInfoAttempts delays

/-- `_machine_info_retry_loop`, as a task: one that has been created, once. -/
def machineInfoRetryLoop : LinkRoutine Unit := do
  let w ← Routine.world
  if loop < w.loops ∧ loop ∉ w.begun then
    Routine.assign fun w => { w with begun := insert loop w.begun }
    Routine.emit (.started loop)
    let _ ← Routine.attempt (machineInfoAttempts loop machineInfoRetryDelays)
    Routine.assign fun w => { w with done := insert loop w.done }
  else return ()

end

/-! ## The link -/

/-- `self._machine_info_task and not self._machine_info_task.done()`. -/
def LinkWorld.looping (w : LinkWorld) : Bool :=
  match w.machineInfoTask with
  | some loop => decide (loop ∉ w.done)
  | none => false

/-- The task is cancelled, unless it is done, and forgotten. -/
def LinkWorld.cancelLoop (w : LinkWorld) : LinkWorld :=
  match w.machineInfoTask with
  | some loop =>
    { w with
      cancelled := if loop ∈ w.done then w.cancelled else insert loop w.cancelled
      machineInfoTask := none }
  | none => w

/-- The client there is has its serial number. -/
def LinkWorld.hasSerial (w : LinkWorld) : Bool :=
  match w.client with
  | some client => decide (client ∈ w.serials)
  | none => false

/-- `_schedule_machine_info_retry`. -/
def scheduleMachineInfoRetry : LinkRoutine Unit := do
  let w ← Routine.world
  if w.looping then return ()
  else if w.hasSerial then return ()
  else
    Routine.assign fun w => { w with machineInfoTask := some w.loops, loops := w.loops + 1 }
    Routine.emit (.scheduled w.loops)

/-- `async_connect`. -/
def asyncConnect : LinkRoutine Unit := do
  let _ ← Routine.await .lock
  Routine.assign fun w => { w with locked := true }
  let w ← Routine.world
  if w.client.any (· ∈ w.linked) then Routine.assign fun w => { w with locked := false }
  else
    let client := w.made
    Routine.assign fun w =>
      { w with manualDisconnect := false, client := some client, made := client + 1 }
    let connected ← Routine.await (.connecting client)
    if connected = .yes then
      let settled ← Routine.await (.settling client)
      if settled = .raises then
        Routine.assign fun w => { w with client := none, locked := false }
      else
        scheduleMachineInfoRetry
        let w ← Routine.world
        Routine.when (decide (client ∈ w.serials)) (Routine.emit .asksSettings)
        Routine.assign fun w => { w with client := some client, locked := false }
    else Routine.assign fun w => { w with client := none, locked := false }

/-- The loop is cancelled with the link it was for. -/
def giveUp : LinkRoutine Unit := do
  Routine.assign LinkWorld.cancelLoop
  Routine.emit .gaveUp

/-- `if self.client: await self.client.disconnect()`, in its `try`. -/
def disconnectClient : LinkRoutine Unit := do
  let w ← Routine.world
  match w.client with
  | none => return ()
  | some client =>
    let r ← Routine.await (.disconnecting client)
    Routine.assign fun w =>
      { w with client := none, linked := if r = .yes then w.linked.erase client else w.linked }

/-- `async_disconnect`. -/
def asyncDisconnect : LinkRoutine Unit := do
  Routine.assign fun w => { w with manualDisconnect := true }
  giveUp
  disconnectClient
  let _ ← Routine.await .refreshing
  return ()

/-- `_handle_unexpected_disconnect`, called as the link of a client goes. -/
def handleUnexpectedDisconnect (client : ℕ) : LinkRoutine Unit := do
  Routine.assign fun w => { w with linked := w.linked.erase client }
  let w ← Routine.world
  if w.manualDisconnect then return ()
  else
    giveUp
    Routine.assign fun w => { w with client := none }

/-! ## The system -/

/-- The calls. -/
inductive LinkCall where
  | connect
  | disconnect
  | dropped (client : ℕ)
  | loop (n : ℕ)
  deriving DecidableEq

/-- The program of a call. -/
def LinkCall.routine : LinkCall → LinkRoutine Unit
  | .connect => asyncConnect
  | .disconnect => asyncDisconnect
  | .dropped client => handleUnexpectedDisconnect client
  | .loop n => machineInfoRetryLoop n

/-- What else happens: a client's link comes up, or goes unnoticed; nothing can be read from it; a
notification brings its serial number or its version; a link that was given up need not stay down. -/
inductive LinkMove where
  | up (client : ℕ)
  | lost (client : ℕ)
  | bare (client : ℕ)
  | unmanned
  | serial (client : ℕ)
  | version (client : ℕ)
  deriving DecidableEq

/-- The world after it. -/
def LinkWorld.move (w : LinkWorld) : LinkMove → LinkWorld
  | .up client => { w with linked := insert client w.linked }
  | .lost client => { w with linked := w.linked.erase client }
  | .bare client => { w with bare := insert client w.bare }
  | .unmanned => { w with manualDisconnect := false }
  | .serial client => { w with serials := insert client w.serials }
  | .version client => { w with versions := insert client w.versions }

/-- The coordinator's link. -/
def linkSystem : System LinkWorld LinkEvent LinkPoint LinkAnswer LinkCall LinkMove where
  program c := c.routine.run.bind fun _ => .ret ()
  enabled l w := match l with
    | .lock => !w.locked
    | _ => true
  move := LinkWorld.move

/-- A coordinator's link, and what is going on with it. -/
abbrev LinkPool := Pool LinkWorld LinkEvent LinkPoint LinkAnswer LinkCall

/-- A step. -/
abbrev LinkAction := Action LinkAnswer LinkCall LinkMove

/-- Before the first connect. -/
def noLink : LinkWorld := ⟨none, 0, ∅, ∅, ∅, ∅, false, false, none, 0, ∅, ∅, ∅⟩

end XBloom.Info
