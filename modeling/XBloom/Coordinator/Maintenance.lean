/-
# XBloom.Coordinator.Maintenance — the scale page, and the send of a grinder calibration

Tare, the scale page and the calibration send one command each, under the wake-up retry like every other
action.  What a calibration does after its send is `XBloom.Slots.Calibration`.
-/
import XBloom.Coordinator.Chains

namespace XBloom.Coordinator

open XBloom.Async XBloom.Py XBloom.Ble

/-! ## The scale -/

/-- A bare command of `brewing`, on a client that has to be connected. -/
def sendChecked (command : Command) (c : ℕ) : Async Unit := do
  requireConnected c
  sendCommand c { command }

/-- `brewing.async_tare`. -/
def asyncTare : ℕ → Async Unit := sendChecked .scaleTare

/-- `brewing.async_enter_scale`. -/
def asyncEnterScale : ℕ → Async Unit := sendChecked .scaleIn

/-- `brewing.async_exit_scale`. -/
def asyncExitScale : ℕ → Async Unit := sendChecked .scaleQuit

/-- A call that retries one action of the client and logs what it raises. -/
def retried (action : ℕ → Async Unit) : Async Unit := do
  let connected ← ensureConnected
  if connected then do
    let _ ← Routine.attempt (retryWhileSleeping (withClient action))
  else pure ()

/-- `async_tare_scale`. -/
def asyncTareScale : Async Unit := retried asyncTare

/-- `async_enter_scale_mode`. -/
def asyncEnterScaleMode : Async Unit := retried asyncEnterScale

/-- `async_exit_scale_mode`. -/
def asyncExitScaleMode : Async Unit := retried asyncExitScale

/-! ## The grinder -/

/-- `XBloomClient.async_calibrate_grinder`. -/
def clientCalibrateGrinder (c : ℕ) : Async Unit :=
  sendCommand c { command := .calibrateGrinder, args := [.int 1000] }

/-- The send of `async_calibrate_grinder`: the method is looked up on the client of this moment, once,
and handed to the retry. -/
def sendCalibration : Async Unit := withClient fun c => retryWhileSleeping (clientCalibrateGrinder c)

end XBloom.Coordinator
