/-
# XBloom.Coordinator.Calls — the calls a user, a service, an LLM or the supervisor can make

The buttons choose between an arm and a confirm by the armed flag; `xbloom__execute_recipe` resolves a
recipe by name first.  `system` puts every call into one pool, with the moves of
`XBloom.Coordinator.State` around them.
-/
import XBloom.Async.Logic
import XBloom.Coordinator.RecipeCalls
import XBloom.Recipe.Find

namespace XBloom.Coordinator

open XBloom.Async XBloom.Logic XBloom.Py XBloom.Ble XBloom.Recipe XBloom.Brewing

/-! ## Buttons -/

/-- A two-stage button: the second press confirms what the first one armed. -/
def press (op : Armed) (confirm arm : Async Unit) : Async Unit := do
  let w ← Routine.world
  if w.armedOperation = some op then confirm else arm

/-- A call whose result is dropped. -/
def drop (x : Async Bool) : Async Unit := do
  let _ ← x

/-- `XBloomGrindButton.async_press`. -/
def pressGrind : Async Unit := press .grind (drop asyncConfirmGrind) (drop asyncArmGrind)

/-- `XBloomPourButton.async_press`. -/
def pressPour : Async Unit := press .pour (drop asyncConfirmPour) (drop asyncArmPour)

section
variable (I : Identifiers) (yaml : YamlLayer)

/-- `XBloomExecuteRecipeButton.async_press`. -/
def pressRecipe : Async Unit := press .recipe (drop asyncConfirmRecipe) (asyncArmRecipe I yaml {})

/-! ## `xbloom__execute_recipe` -/

/-- The arguments of the tool. -/
structure ToolArgs where
  recipe : String
  confirmed : Bool := false
  grindSize : Option ℤ := none
  rpm : Option ℤ := none
  brew : BrewArgs := {}
  deriving DecidableEq, Repr

/-- `args.get("cup_type") or recipe.get("cup_type") or "omni_dripper"`. -/
def ToolArgs.cupType (args : ToolArgs) (recipe : RecipeDict) : String :=
  let chosen := args.brew.overrides.cupType.getD ""
  if chosen ≠ "" then chosen else if recipe.cupType ≠ "" then recipe.cupType else "omni_dripper"

/-- `is_tea` of the tool. -/
def ToolArgs.isTea (args : ToolArgs) (recipe : RecipeDict) : Bool :=
  lower (args.cupType recipe) == "tea"

/-- The brew arguments the tool hands on: no bypass for tea. -/
def ToolArgs.brewArgs (args : ToolArgs) (recipe : RecipeDict) : BrewArgs :=
  if args.isTea recipe then { args.brew with bypassVolume := none, bypassTemperature := none }
  else args.brew

/-- The tool selects its recipe and lays the sliders it was given over it. -/
def World.selectForTool (w : World) (args : ToolArgs) (name : String) (recipe : RecipeDict) : World :=
  let w := w.selectRecipe yaml (some name)
  if args.isTea recipe then w
  else { w with grindSize := args.grindSize.getD w.grindSize, rpm := args.rpm.getD w.rpm }

/-- What it writes, as a selection does. -/
theorem World.selectForTool_writes (w : World) (args : ToolArgs) (name : String) (recipe : RecipeDict) :
    ∃ size rpm, w.selectForTool yaml args name recipe =
      { w with store := { w.store with selectedRecipe := some name }, grindSize := size, rpm := rpm } := by
  obtain ⟨_, _, hwrites⟩ := w.selectRecipe_writes yaml (some name)
  unfold World.selectForTool
  dsimp only
  rw [hwrites]
  split
  · exact ⟨_, _, rfl⟩
  · exact ⟨_, _, rfl⟩

/-- The second phase: the recipe that was resolved is confirmed. -/
def toolConfirm (recipe : RecipeDict) : Async Unit := do
  Routine.emit (.naming recipe.uid)
  drop asyncConfirmRecipe

/-- The first phase: select, back out of a standing arm, arm. -/
def toolArm (args : ToolArgs) (name : String) (recipe : RecipeDict) : Async Unit := do
  Routine.assign fun w => w.selectForTool yaml args name recipe
  let w ← Routine.world
  Routine.when w.armedOperation.isSome asyncCancel
  asyncArmRecipe I yaml (args.brewArgs recipe)

/-- The tool, on a connected machine: the water check and the choice of the phase. -/
def toolPhase (args : ToolArgs) (name : String) (recipe : RecipeDict) : Async Unit := do
  let w ← Routine.world
  if w.waterSource = waterSourceTank ∧ w.dataWaterLevelOk = false then pure ()
  else if args.confirmed = true ∧ w.armedOperation = some .recipe ∧
      w.store.selectedRecipe = some name then toolConfirm recipe
  else toolArm I yaml args name recipe

/-- `XBloomExecuteRecipeTool.async_call`, without its replies. -/
def executeRecipeTool (args : ToolArgs) : Async Unit := do
  let w ← Routine.world
  match findRecipe I (w.recipes yaml) args.recipe with
  | none => pure ()
  | some (name, recipe) =>
    if w.linkUp then toolPhase I yaml args name recipe
    else do
      let connected ← asyncConnect
      if connected then toolPhase I yaml args name recipe else pure ()

end

/-! ## The system -/

/-- The calls. -/
inductive Call where
  | pour
  | armPour
  | confirmPour
  | grind
  | armGrind
  | confirmGrind
  | executeRecipe (args : BrewArgs)
  | armRecipe (args : BrewArgs)
  | confirmRecipe
  | cancel
  | connect
  | disconnect
  | dropStaleLink
  | enterIdleStandby
  | pressGrind
  | pressPour
  | pressRecipe
  | executeRecipeTool (args : ToolArgs)
  deriving DecidableEq, Repr

/-- What a call runs. -/
def Call.routine (I : Identifiers) (yaml : YamlLayer) : Call → Async Unit
  | .pour => asyncPour
  | .armPour => drop asyncArmPour
  | .confirmPour => drop asyncConfirmPour
  | .grind => asyncGrind
  | .armGrind => drop asyncArmGrind
  | .confirmGrind => drop asyncConfirmGrind
  | .executeRecipe args => asyncExecuteRecipe I yaml args
  | .armRecipe args => asyncArmRecipe I yaml args
  | .confirmRecipe => drop asyncConfirmRecipe
  | .cancel => asyncCancel
  | .connect => drop asyncConnect
  | .disconnect => asyncDisconnect
  | .dropStaleLink => asyncDropStaleLink
  | .enterIdleStandby => asyncEnterIdleStandby
  | .pressGrind => Coordinator.pressGrind
  | .pressPour => Coordinator.pressPour
  | .pressRecipe => Coordinator.pressRecipe I yaml
  | .executeRecipeTool args => Coordinator.executeRecipeTool I yaml args

/-- A lock is waited for while it is held; any other await may end at any time. -/
def enabled : Await → World → Bool
  | .lock, w => !w.connectLocked
  | .unitLock, w => !w.unitPushLocked
  | _, _ => true

/-- **The coordinator.**  What a call raises goes to its caller and changes nothing here. -/
def system (I : Identifiers) (yaml : YamlLayer) : System World Event Await Response Call Move where
  program call := (call.routine I yaml).run.bind fun _ => .ret ()
  enabled := enabled
  move := World.move I yaml

/-- The pools of the coordinator. -/
abbrev CoordinatorPool := Pool World Event Await Response Call

/-- The steps of the coordinator. -/
abbrev CoordinatorAction := Action Response Call Move

/-- The contracts of the coordinator, and what its assertions are about. -/
abbrev CoordinatorContract := Contract World Event Await Response Call
abbrev CoordinatorAssertion := Assertion World Event Await Response Call
abbrev CoordinatorOrigin := Origin World Event Await Response Call
abbrev CoordinatorState := State World Event Call

section
variable (I : Identifiers) (yaml : YamlLayer)

/-- The coordinator after some steps. -/
def continueFrom (p : CoordinatorPool) (as : List CoordinatorAction) : CoordinatorPool :=
  run (Pool.step (system I yaml)) p as

/-- A state of the coordinator that some run reaches, from any world without a call. -/
def Reachable (p : CoordinatorPool) : Prop := ∃ w as, continueFrom I yaml (Pool.idle w) as = p

end

end XBloom.Coordinator
