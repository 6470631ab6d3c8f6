/-
# XBloom.Coordinator.Chains — the recipe chains of `brewing`, on a client

A recipe reaches the machine as a chain of commands, each of them sent, echoed and given its floor
before the next: 8022, 8102, 8104 and the payload (8001/8004 for coffee, 4513 for tea).  The
single-shot forms go on to the go command after a gap; the two-stage form sends it from a second call.
-/
import XBloom.Coordinator.Connection
import XBloom.Coordinator.Prepare

namespace XBloom.Coordinator

open XBloom.Async XBloom.Py XBloom.Ble XBloom.Recipe XBloom.Brewing

/-- `_ack_step`. -/
def ackStep (c : ℕ) (packet : Packet) : Async Unit := do
  let echoed ← sendAndWait c packet
  if echoed = .late then pure ()
  else do
    let _ ← Routine.await .settle

/-- `if not client.is_connected: raise ConnectionError(...)`. -/
def requireConnected (c : ℕ) : Async Unit := do
  let w ← Routine.world
  if w.isConnected c then pure () else throw .connectionError

/-! ## Coffee -/

/-- `_async_arm_coffee`. -/
def asyncArmCoffee (c : ℕ) (recipe : XBloomRecipe) (bypassVolume bypassTemperature : PyFloat) :
    Async Unit := do
  requireConnected c
  let dose ← Routine.lift (armDose recipe)
  ackStep c { command := .backToHome }
  let bypass ← Routine.lift (bypassArgs bypassVolume bypassTemperature dose)
  ackStep c { command := .setBypass, args := bypass }
  let cup ← Routine.lift (cupArgs (coffeeCupBounds recipe).1 (coffeeCupBounds recipe).2)
  ackStep c { command := .setCup, args := cup }
  let payload ← Routine.lift (buildCoffeeRecipePayload recipe)
  ackStep c { command := recipeCommand recipe, raw := payload }

/-- The end of `_async_verify_brew_started` without a start. -/
def startUnconfirmed : Async Unit := throw .brewStartUnconfirmed

/-- `_async_verify_brew_started`, with this many polls left in its eight seconds. -/
def verifyBrewStarted (c : ℕ) : ℕ → Async Unit
  | 0 => startUnconfirmed
  | n + 1 => do
    let w ← Routine.world
    let label := (w.status c).rawStateLabel
    if label = some .starting ∨ label = some .brewing then pure ()
    else if label = some .waterShortage ∨ label = some .noBeans then startUnconfirmed
    else do
      let polled ← Routine.await .startPoll
      if polled = .failed then startUnconfirmed else verifyBrewStarted c n

/-- 8002 and the check that the brew started. -/
def executeCoffeeRecipe (c : ℕ) : Async Unit := do
  sendCommand c { command := .recipeExecute }
  verifyBrewStarted c 80

/-- `_async_brew_coffee`. -/
def asyncBrewCoffee (c : ℕ) (recipe : XBloomRecipe) (bypassVolume bypassTemperature : PyFloat) :
    Async Unit := do
  asyncArmCoffee c recipe bypassVolume bypassTemperature
  let _ ← Routine.await .startGap
  executeCoffeeRecipe c

/-! ## Tea -/

/-- `_async_arm_tea`: returns the payload its go command sends again. -/
def asyncArmTea (c : ℕ) (recipe : XBloomRecipe) : Async (List UInt8) := do
  requireConnected c
  ackStep c { command := .backToHome }
  let bypass ← Routine.lift (bypassArgs 0 0 0)
  ackStep c { command := .setBypass, args := bypass }
  let cup ← Routine.lift (cupArgs 200 0)
  ackStep c { command := .setCup, args := cup }
  let payload ← Routine.lift (buildTeaPayload recipe)
  ackStep c { command := .teaRecipeCode, raw := payload }
  pure payload

/-- 4512, with the payload again, and its echo. -/
def makeTea (c : ℕ) (payload : List UInt8) : Async Unit := do
  let _ ← sendAndWait c { command := .teaRecipeMake, raw := payload }

/-- `_async_brew_tea`. -/
def asyncBrewTea (c : ℕ) (recipe : XBloomRecipe) : Async Unit := do
  let payload ← asyncArmTea c recipe
  let _ ← Routine.await .startGap
  makeTea c payload

/-! ## Both -/

/-- `brewing.async_execute_recipe`. -/
def brewRecipe (c : ℕ) (prepared : Prepared) : Async Unit :=
  if isTeaRecipe prepared.recipe then asyncBrewTea c prepared.recipe
  else asyncBrewCoffee c prepared.recipe prepared.bypassVolume prepared.bypassTemperature

/-- `brewing.async_arm_recipe`. -/
def armRecipe (c : ℕ) (prepared : Prepared) : Async (Option (List UInt8)) :=
  if isTeaRecipe prepared.recipe then do
    let payload ← asyncArmTea c prepared.recipe
    pure (some payload)
  else do
    asyncArmCoffee c prepared.recipe prepared.bypassVolume prepared.bypassTemperature
    pure none

/-- `brewing.async_confirm_recipe`. -/
def confirmRecipe (c : ℕ) (isTea : Bool) (teaPayload : Option (List UInt8)) : Async Unit :=
  if isTea then
    match teaPayload with
    | some payload => makeTea c payload
    | none => throw (.valueError [.lit "tea_payload is required to confirm a tea recipe"])
  else executeCoffeeRecipe c

end XBloom.Coordinator
