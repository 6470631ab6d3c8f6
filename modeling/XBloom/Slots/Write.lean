/-
# XBloom.Slots.Write — switching modes, and writing a slot

`async_write_easy_slot` sends all three slots: the target's recipe and, for the other two, what the record
says was written there last, or the target's recipe again.  The machine takes them in Pro Mode only, so a
machine in Easy Mode is switched before and after.

The trace carries the packets and two marks: a mode switch that comes to a send (`switching`), and the
moment the other slots are filled in (`filling`).
-/
import XBloom.Coordinator.Connection
import XBloom.Slots.State

namespace XBloom.Slots

open XBloom.Async XBloom.Py XBloom.Ble XBloom.Recipe XBloom.Brewing

/-! ## Await points, events -/

/-- The type-2 commands: 11511, 11510 and 11512. -/
inductive Command where
  | easyModeType (mode : Mode)
  | easyRecipeSend (letter : Letter)
  | easyRecipeOrder
  deriving DecidableEq, Repr

/-- Where a call waits. -/
inductive Await where
  /-- In a function of the connection. -/
  | coord (l : Coordinator.Await)
  /-- `fetch_shared_recipe`. -/
  | fetched
  /-- The write of a packet. -/
  | written (command : Command)
  /-- The tenth of a second before a look at the acknowledgement. -/
  | modePoll (mode : Mode)
  /-- The 0.8 s after a slot packet. -/
  | slotGap
  deriving DecidableEq, Repr

/-- What a call is resumed with: how it went, and what was fetched, with the uid an import would mint. -/
structure Answer where
  outcome : Coordinator.Response := .done
  fetched : Option PyVal := none
  uid : String := ""

/-- A packet; that of a slot with the recipe its payload was built from. -/
inductive Packet where
  | easyMode (mode : Mode)
  | slot (letter : Letter) (source : SlotSource) (payload : List UInt8)
  | order (payload : List UInt8)

/-- The command of a packet. -/
def Packet.command : Packet → Command
  | .easyMode mode => .easyModeType mode
  | .slot letter _ _ => .easyRecipeSend letter
  | .order _ => .easyRecipeOrder

/-- What a call emits. -/
inductive Event where
  | coord (e : Coordinator.Event)
  | sent (c : ℕ) (packet : Packet)
  /-- A mode switch comes to its send. -/
  | switching (mode : Mode)
  /-- The target's recipe is settled, and the other slots are filled in. -/
  | filling (letter : Letter) (target : String × RecipeDict)

/-- The `async` functions around the slots. -/
abbrev Async (α : Type) := Routine World Event Await Answer PyErr α

/-- The coordinator's connection in this world. -/
def connectionLens : Lens Coordinator.World Coordinator.Event Coordinator.Await Coordinator.Response
    World Event Await Answer where
  part := World.coord
  replace := World.setCoord
  event := .coord
  label := .coord
  response := Answer.outcome

/-- A function of the connection. -/
def connection {α : Type} (x : Coordinator.Async α) : Async α := Routine.zoom connectionLens x

/-! ## Sends -/

/-- `self.client`, for what is done with it. -/
def withClient {α : Type} (f : ℕ → Async α) : Async α := do
  let w ← Routine.world
  match w.coord.client with
  | some c => f c
  | none => throw .attributeError

/-- `_send_command_raw`. -/
def sendCommandRaw (packet : Packet) (c : ℕ) : Async Unit := do
  let w ← Routine.world
  if w.coord.isConnected c then do
    Routine.emit (.sent c packet)
    let r ← Routine.await (.written packet.command)
    if r.outcome = .failed then throw .connectionError else pure ()
  else throw .connectionError

/-! ## Mode switches -/

/-- The polls of one attempt, with this many left. -/
def pollModeAck (mode : Mode) : ℕ → Async Bool
  | 0 => pure false
  | n + 1 => do
    let _ ← Routine.await (.modePoll mode)
    withClient fun c => do
      let w ← Routine.world
      if w.modeAckHex c = some (modeSwitchHex mode) then pure true else pollModeAck mode n

/-- `_MODE_SWITCH_ACK_TIMEOUT_S` in polls. -/
def modeSwitchPolls : ℕ := 15

/-- The attempts of `_async_switch_mode_with_retry`, with this many left. -/
def switchAttempts (mode : Mode) : ℕ → Async Bool
  | 0 => pure false
  | n + 1 => do
    Routine.emit (.switching mode)
    withClient (sendCommandRaw (.easyMode mode))
    let confirmed ← pollModeAck mode modeSwitchPolls
    if confirmed then pure true
    else withClient fun c => do
      let w ← Routine.world
      if w.isSleeping c then switchAttempts mode n else pure false

/-- `_async_switch_mode_with_retry`. -/
def switchModeWithRetry (mode : Mode) : Async Bool := switchAttempts mode 3

/-! ## The batch -/

/-- The packets of the slots, one by one. -/
def writeSlots (c : ℕ) (slotRecipes : Letter → SlotSource) : List Letter → Async Unit
  | [] => pure ()
  | letter :: rest => do
    let payload ← Routine.lift (slotPayload letter (slotRecipes letter).recipe)
    sendCommandRaw (.slot letter (slotRecipes letter) payload) c
    let _ ← Routine.await .slotGap
    writeSlots c slotRecipes rest

/-- `brewing.async_write_easy_slots`. -/
def writeEasySlots (slotRecipes : Letter → SlotSource) (c : ℕ) : Async Unit := do
  let w ← Routine.world
  if w.coord.isConnected c then do
    writeSlots c slotRecipes Letter.all
    sendCommandRaw (.order orderPayload) c
    let _ ← Routine.await .slotGap
  else throw .connectionError

/-- The attempts of `_async_retry_while_sleeping`, with this many left after the current one. -/
def retryAttempts (asleep : Bool) (action : Async Unit) : ℕ → Async Unit
  | 0 => action
  | n + 1 => do
    let result ← Routine.attempt action
    match result with
    | .ok () => do
      let w ← Routine.world
      if w.coord.asleep then do
        let _ ← Routine.await (.coord .retryDelay)
        retryAttempts asleep action n
      else pure ()
    | .error e => do
      let w ← Routine.world
      if e = .ackTimeout ∧ (asleep || w.coord.asleep) = true then do
        let _ ← Routine.await (.coord .retryDelay)
        retryAttempts asleep action n
      else throw e

/-- `_async_retry_while_sleeping`, for an action of this world. -/
def retryWhileSleeping (action : Async Unit) : Async Unit := do
  let w ← Routine.world
  Routine.when w.coord.asleep (connection Coordinator.wakeMachine)
  retryAttempts w.coord.asleep action 2

/-! ## `async_write_easy_slot` -/

/-- The errors of `async_write_easy_slot`, with what their messages show. -/
inductive SlotError where
  | notImported (result : StoreResult)
  | recipeNotFound (identifier : String)
  | noRecipeSelected
  | teaNotSupportedInEasySlot (name : String)
  | notConnected
  | firmwareTooOld (version : String)
  | invalidSlot (slotLetter : String)
  | writeFailed (e : PyErr)

/-- What it returns. -/
inductive SlotResult where
  | failure (error : SlotError)
  | success (slot : Letter) (name : String) (uid : Option String)

/-- `MIN_FIRMWARE_EASY_MODE`. -/
def minFirmwareEasyMode : String := "V12.0D.210"

variable (I : Identifiers) (yaml : YamlLayer)

/-- A reference that no recipe answers to is imported. -/
def importTarget (identifier : String) : Async (Except SlotError (String × RecipeDict)) := do
  let r ← Routine.await .fetched
  if r.outcome = .failed then throw .typeError
  else do
    let w ← Routine.world
    let imported := importCloudRecipe I yaml w.coord.store identifier r.fetched r.uid
    Routine.assign fun w => w.setCoord { w.coord with store := imported.1 }
    match imported.2 with
    | .success (some uid) _ =>
      match findRecipe I (imported.1.visible yaml) uid with
      | some resolved => pure (.ok resolved)
      | none => pure (.error (.recipeNotFound identifier))
    | failed => pure (.error (.notImported failed))

/-- What an identifier resolves to, given what `find_recipe` found. -/
def orImport (identifier : String) :
    Option (String × RecipeDict) → Async (Except SlotError (String × RecipeDict))
  | some resolved => pure (.ok resolved)
  | none =>
    if looksLikeShareRef I identifier then importTarget I yaml identifier
    else pure (.error (.recipeNotFound identifier))

/-- The selected recipe. -/
def World.selectedTarget (w : World) : Except SlotError (String × RecipeDict) :=
  match w.coord.store.selectedRecipe with
  | none => .error .noRecipeSelected
  | some name =>
    if name = "" then .error .noRecipeSelected
    else (((w.recipes yaml).get? name).map fun raw => .ok (name, raw)).getD (.error .noRecipeSelected)

/-- The name and the recipe to write, or the error of there being none. -/
def resolveTarget (identifier : Option String) :
    Async (Except SlotError (String × RecipeDict)) := do
  let w ← Routine.world
  match identifier with
  | none => pure (w.selectedTarget yaml)
  | some identifier =>
    if identifier = "" then pure (w.selectedTarget yaml)
    else orImport I yaml identifier (findRecipe I (w.recipes yaml) identifier)

/-- `other_resolved`: the recipe the record names for a slot, if there is one. -/
def World.otherResolved (w : World) (letter : Letter) : Option (String × RecipeDict) :=
  match (w.easySlotContents letter).bind SlotEntry.uid with
  | some uid => if uid = "" then none else findRecipe I (w.recipes yaml) uid
  | none => none

/-- `slot_names` and `slot_raws`. -/
def World.slotTargets (w : World) (letter : Letter) (target : String × RecipeDict) (l : Letter) :
    String × RecipeDict :=
  if l = letter then target else (w.otherResolved I yaml l).getD target

/-- A recipe built for its slot. -/
def buildSource (raw : RecipeDict) : Except PyErr SlotSource :=
  match h : buildRecipeFromYaml raw with
  | .ok recipe => .ok ⟨raw, recipe, h⟩
  | .error e => .error e

/-- `slot_recipes`. -/
def buildSlots (raws : Letter → RecipeDict) : Except PyErr (Letter → SlotSource) := do
  let a ← buildSource (raws .a)
  let b ← buildSource (raws .b)
  let c ← buildSource (raws .c)
  return fun
    | .a => a
    | .b => b
    | .c => c

/-- The body of the `try`: `switched_to_pro`, and how it ends. -/
def switchAndWrite (slotRecipes : Letter → SlotSource) : Async (Bool × Except PyErr Unit) := do
  let w ← Routine.world
  let easy := decide (w.dataMode = "easy")
  let switched ← Routine.attempt (Routine.when easy do
    let _ ← switchModeWithRetry .pro)
  match switched with
  | .error e => pure (false, .error e)
  | .ok () => do
    let written ← Routine.attempt (retryWhileSleeping (withClient (writeEasySlots slotRecipes)))
    pure (easy, written)

/-- The body of the `finally`; whatever it raises is logged. -/
def restoreEasy : Async Unit := do
  let _ ← Routine.attempt do
    let _ ← switchModeWithRetry .easy
    let r ← Routine.await (.coord .refresh)
    if r.outcome = .failed then throw .homeAssistantError else pure ()

/-- The batch with the mode switches around it, and the entry in the record. -/
def writeAndRecord (letter : Letter) (target : String × RecipeDict)
    (slotRecipes : Letter → SlotSource) : Async SlotResult := do
  let outcome ← switchAndWrite slotRecipes
  Routine.when outcome.1 restoreEasy
  match outcome.2 with
  | .error e => pure (.failure (.writeFailed e))
  | .ok () => do
    Routine.assign fun w =>
      { w with easySlots := w.easySlots.insert letter.name ⟨target.2.uid, target.1⟩ }
    pure (.success letter target.1 target.2.uid)

/-- The other slots are filled in. -/
def fillAndWrite (letter : Letter) (target : String × RecipeDict) : Async SlotResult := do
  Routine.emit (.filling letter target)
  let w ← Routine.world
  match buildSlots fun l => (w.slotTargets I yaml letter target l).2 with
  | .error e => pure (.failure (.writeFailed e))
  | .ok slotRecipes => writeAndRecord letter target slotRecipes

/-- The checks once the recipe is found. -/
def writeTarget (slotLetter : String) (target : String × RecipeDict) : Async SlotResult := do
  if lower (strip target.2.cupType) = "tea" then pure (.failure (.teaNotSupportedInEasySlot target.1))
  else do
    let connected ← connection Coordinator.ensureConnected
    if connected = false then pure (.failure .notConnected)
    else do
      let w ← Routine.world
      if Coordinator.firmwareAtLeast I.texts w.coord.dataVersion minFirmwareEasyMode = false then
        pure (.failure (.firmwareTooOld w.coord.dataVersion))
      else
        match Letter.parse slotLetter with
        | none => pure (.failure (.invalidSlot slotLetter))
        | some letter => fillAndWrite I yaml letter target

/-- `async_write_easy_slot`. -/
def asyncWriteEasySlot (slotLetter : String) (identifier : Option String) : Async SlotResult := do
  let resolved ← resolveTarget I yaml identifier
  match resolved with
  | .error error => pure (.failure error)
  | .ok target => writeTarget I yaml slotLetter target

/-! ## Runs -/

/-- The story of a call around the slots. -/
abbrev Tale := Story World Event Await Answer Move

/-- The replies a call may get. -/
abbrev Replies := ℕ → Reply Answer Move

/-- A slot write from its beginning to its end. -/
def World.write (w : World) (slotLetter : String) (identifier : Option String) (replies : Replies) :
    Except PyErr SlotResult × Tale :=
  (asyncWriteEasySlot I yaml slotLetter identifier).run.play (World.move I yaml) (.start w) replies

/-- A mode switch from its beginning to its end. -/
def World.switchMode (w : World) (mode : Mode) (replies : Replies) : Except PyErr Bool × Tale :=
  (switchModeWithRetry mode).run.play (World.move I yaml) (.start w) replies

/-- What happens to an installation: the surroundings move, or a call runs its course. -/
inductive Act where
  | move (m : Move)
  | write (slotLetter : String) (identifier : Option String) (replies : Replies)
  | switchMode (mode : Mode) (replies : Replies)

/-- What each act does. -/
def World.step (w : World) : Act → World
  | .move m => w.move I yaml m
  | .write slotLetter identifier replies => (w.write I yaml slotLetter identifier replies).2.world
  | .switchMode mode replies => (w.switchMode I yaml mode replies).2.world

end XBloom.Slots
