/-
# XBloom.Setup.Machines — setting machines up and unloading them, beside one another

Every machine is a config entry of its own.  Setting one up puts its coordinator where the service calls
find it, and at the end registers the integration's services, unless another machine's setup has; the
last machine that is unloaded removes them.  In between a setup waits four times and an unload up to
three times, and what it waits for may fail.

Home Assistant sets an entry up only when nothing else of that entry is going on, and unloads it only when
it is set up: `Managed`.  Across entries there is no order.
-/
import XBloom.Async.Segments
import XBloom.Py.Dict
import XBloom.Py.Number
import Mathlib.Data.Finset.Basic

namespace XBloom.Setup

open XBloom.Py XBloom.Async

/-! ## Services -/

/-- The services `_register_services` registers, in order. -/
def registeredServices : List String :=
  ["execute_recipe", "execute_tea_recipe", "cloud_import_recipe", "write_recipe_to_easy_slot",
    "advanced_settings", "cloud_export_recipe", "list_recipes", "create_recipe", "edit_recipe",
    "delete_recipe", "cloud_search_collective_recipes"]

/-- The services `async_unload_entry` removes, in order. -/
def removedServices : List String :=
  ["execute_recipe", "execute_tea_recipe", "list_recipes", "create_recipe", "edit_recipe",
    "delete_recipe", "cloud_import_recipe", "cloud_export_recipe", "cloud_search_collective_recipes",
    "write_recipe_to_easy_slot", "advanced_settings"]

/-- `hass.services.async_register`. -/
def asyncRegister (services : List String) (service : String) : List String :=
  if service ∈ services then services else services ++ [service]

/-- `_register_services`: once. -/
def registerServices (services : List String) : List String :=
  if "execute_recipe" ∈ services then services else registeredServices.foldl asyncRegister services

/-- Removing those services that there are. -/
def removeServices (services : List String) : List String :=
  removedServices.foldl (fun services service =>
    if service ∈ services then services.erase service else services) services

/-- `_coordinators_for_call`: those of all machines, or that of the machine that is named. -/
def coordinatorsForCall (data : Dict String ℕ) (configEntryId : Option String) : List ℕ :=
  match configEntryId with
  | none => data.entries.map Prod.snd
  | some entryId => if entryId = "" then data.entries.map Prod.snd else (data.get? entryId).toList

/-! ## Calls -/

/-- What the machines share: each one's coordinator (they are numbered as they are made) under its entry
id, the services, and the entries that are set up. -/
structure Home where
  data : Dict String ℕ
  made : ℕ
  services : List String
  ready : Finset String

/-- Where a setup or an unload waits. -/
inductive HomePoint where
  | loadingPods (entryId : String)
  | refreshing (entryId : String)
  | describingServices (entryId : String)
  | forwarding (entryId : String)
  | disconnecting (entryId : String)
  | unloadingPlatforms (entryId : String)
  | describingOthers (entryId : String)
  deriving DecidableEq

/-- The entry a call is about that waits there. -/
def HomePoint.entry : HomePoint → String
  | loadingPods entryId => entryId
  | refreshing entryId => entryId
  | describingServices entryId => entryId
  | forwarding entryId => entryId
  | disconnecting entryId => entryId
  | unloadingPlatforms entryId => entryId
  | describingOthers entryId => entryId

/-- How it goes. -/
inductive HomeAnswer where
  | succeeded
  | refused
  | failed
  deriving DecidableEq

/-- What others see: an entry is set up, or unloaded, or its platforms would not be; a service call
reaches coordinators, or there is no such service. -/
inductive HomeEvent where
  | setUp (entryId : String)
  | unloaded (entryId : String) (unloadOk : Bool)
  | reaches (service : String) (coordinators : List ℕ)
  | serviceNotFound (service : String)
  deriving DecidableEq

/-- A call. -/
abbrev HomeRoutine (α : Type) := Routine Home HomeEvent HomePoint HomeAnswer PyErr α

/-- An await of something that may raise. -/
def awaiting (point : HomePoint) : HomeRoutine Unit := do
  let r ← Routine.await point
  if r = .failed then throw .homeAssistantError else return ()

/-- `async_setup_entry`. -/
def asyncSetupEntry (entryId : String) : HomeRoutine Unit := do
  let w ← Routine.world
  let coordinator := w.made
  Routine.assign fun w => { w with made := w.made + 1 }
  awaiting (.loadingPods entryId)
  awaiting (.refreshing entryId)
  Routine.assign fun w => { w with data := w.data.insert entryId coordinator }
  awaiting (.describingServices entryId)
  awaiting (.forwarding entryId)
  Routine.assign fun w =>
    { w with services := registerServices w.services, ready := insert entryId w.ready }
  Routine.emit (.setUp entryId)

/-- `async_unload_entry`. -/
def asyncUnloadEntry (entryId : String) : HomeRoutine Unit := do
  let w ← Routine.world
  if (w.data.get? entryId).isNone then throw .keyError
  else
    awaiting (.disconnecting entryId)
    let r ← Routine.await (.unloadingPlatforms entryId)
    match r with
    | .failed => throw .homeAssistantError
    | .refused => Routine.emit (.unloaded entryId false)
    | .succeeded =>
      Routine.assign fun w => { w with data := w.data.erase entryId, ready := w.ready.erase entryId }
      let w ← Routine.world
      if w.data.entries.isEmpty then
        Routine.assign fun w => { w with services := removeServices w.services }
        Routine.emit (.unloaded entryId true)
      else
        awaiting (.describingOthers entryId)
        Routine.emit (.unloaded entryId true)

/-- A service call, as far as it finds its machines. -/
def serviceCall (service : String) (configEntryId : Option String) : HomeRoutine Unit := do
  let w ← Routine.world
  if service ∈ w.services then
    Routine.emit (.reaches service (coordinatorsForCall w.data configEntryId))
  else Routine.emit (.serviceNotFound service)

/-! ## The system -/

/-- The calls. -/
inductive HomeCall where
  | setup (entryId : String)
  | unload (entryId : String)
  | service (name : String) (configEntryId : Option String)
  deriving DecidableEq

/-- The program of a call. -/
def HomeCall.routine : HomeCall → HomeRoutine Unit
  | .setup entryId => asyncSetupEntry entryId
  | .unload entryId => asyncUnloadEntry entryId
  | .service name configEntryId => serviceCall name configEntryId

/-- Any number of machines. -/
def homeSystem : System Home HomeEvent HomePoint HomeAnswer HomeCall Empty where
  program c := c.routine.run.bind fun _ => .ret ()
  enabled _ _ := true
  move w _ := w

/-- The machines of a home, and what is going on with them. -/
abbrev HomePool := Pool Home HomeEvent HomePoint HomeAnswer HomeCall

/-- A step. -/
abbrev HomeAction := Action HomeAnswer HomeCall Empty

/-- No machine yet. -/
def emptyHome : Home := ⟨Dict.empty, 0, [], ∅⟩

/-- Nothing is going on with an entry. -/
def AtRest (p : HomePool) (entryId : String) : Prop :=
  ∀ t < p.spawned, ∀ l ∈ (p.tasks t).map Suspended.label, l.entry ≠ entryId

instance (p : HomePool) (entryId : String) : Decidable (AtRest p entryId) := by
  unfold AtRest
  exact inferInstance

/-- **What Home Assistant promises**: one thing at a time with each entry, and only what is set up is
unloaded. -/
def Managed (p : HomePool) : HomeAction → Prop
  | .spawn (.setup entryId) => AtRest p entryId
  | .spawn (.unload entryId) => AtRest p entryId ∧ entryId ∈ p.world.ready
  | _ => True

instance (p : HomePool) (a : HomeAction) : Decidable (Managed p a) := by
  unfold Managed
  split <;> infer_instance

end XBloom.Setup
