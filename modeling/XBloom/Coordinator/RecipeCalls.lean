/-
# XBloom.Coordinator.RecipeCalls — executing, arming and confirming the selected recipe

`RecipesMixin`.  All three prepare or confirm, then hand a chain of `XBloom.Coordinator.Chains` to the
wake-up retry; what a failure takes back differs, and only a confirm has a `finally`.
-/
import XBloom.Coordinator.Chains
import XBloom.Coordinator.Operations

namespace XBloom.Coordinator

open XBloom.Async XBloom.Py XBloom.Ble XBloom.Recipe XBloom.Brewing

namespace World

/-- The bookkeeping of a brew that starts in one call. -/
def noteBrew (w : World) (pours : List PourStep) : World :=
  { w with
    activeRecipePours := some pours, executingRecipe := true, activeOperation := some .recipe
    currentPourIndex := none }

/-- The bookkeeping of a confirmed brew: its pours are those of the arm. -/
def noteConfirm (w : World) : World :=
  { w with executingRecipe := true, activeOperation := some .recipe, currentPourIndex := none }

/-- What an `except` takes back. -/
def dropBrew (w : World) : World :=
  { w with executingRecipe := false, activeRecipePours := none, activeOperation := none }

/-- What an arm keeps for its confirm. -/
def noteArm (w : World) (prepared : Prepared) (payload : Option (List UInt8)) : World :=
  { w with
    armedRecipeIsTea := prepared.isTea, armedRecipeTeaPayload := payload
    activeRecipePours := some prepared.recipe.pours }

end World

/-- The chain of a prepared recipe begins. -/
def beginChain (prepared : Prepared) : Async Unit := do
  let w ← Routine.world
  Routine.emit (.chain w.armedOperation prepared.uid)

/-- `async_execute_recipe` with its recipe prepared. -/
def executePrepared (prepared : Prepared) : Async Unit := do
  beginChain prepared
  let brewed ← Routine.attempt do
    Routine.assign fun w => w.noteBrew prepared.recipe.pours
    retryWhileSleeping (withClient fun c => brewRecipe c prepared)
  match brewed with
  | .ok _ => pure ()
  | .error _ => Routine.assign World.dropBrew

/-- `async_arm_recipe` with its recipe prepared. -/
def armPrepared (prepared : Prepared) : Async Unit := do
  beginChain prepared
  let armed ← Routine.attempt do
    let payload ← retryWhileSleeping (withClient fun c => armRecipe c prepared)
    setArmed .recipe
    Routine.assign fun w => w.noteArm prepared payload
  match armed with
  | .ok _ => pure ()
  | .error _ => Routine.assign fun w => { w with activeRecipePours := none }

section
variable (I : Identifiers) (yaml : YamlLayer)

/-- The selected recipe is prepared, when the machine is connected, and handed on; what
`_prepare_recipe_execution` raises is not caught. -/
def withPrepared (args : BrewArgs) (f : Prepared → Async Unit) : Async Unit := do
  let connected ← ensureConnected
  if connected then do
    let w ← Routine.world
    let prepared ← Routine.lift (prepareRecipeExecution I yaml w args)
    match prepared with
    | some prepared => f prepared
    | none => pure ()
  else pure ()

/-- `async_execute_recipe`. -/
def asyncExecuteRecipe (args : BrewArgs) : Async Unit := withPrepared I yaml args executePrepared

/-- `async_arm_recipe`. -/
def asyncArmRecipe (args : BrewArgs) : Async Unit := withPrepared I yaml args armPrepared

end

/-- The go command of an armed recipe, with the flags of the moment. -/
def sendConfirm : Async Unit := do
  let w ← Routine.world
  withClient fun c => confirmRecipe c w.armedRecipeIsTea w.armedRecipeTeaPayload

/-- `async_confirm_recipe`. -/
def asyncConfirmRecipe : Async Bool := do
  beginConfirm
  let connected ← ensureConnected
  if connected then do
    let started ← Routine.attempt do
      Routine.assign World.noteConfirm
      retryWhileSleeping sendConfirm
    match started with
    | .ok _ => do
      Routine.assign World.disarmRecipe
      pure true
    | .error _ => do
      Routine.assign fun w => w.dropBrew.disarmRecipe
      pure false
  else pure false

end XBloom.Coordinator
