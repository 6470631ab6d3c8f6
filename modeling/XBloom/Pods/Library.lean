/-
# XBloom.Pods.Library — the pods a machine has scanned, and the calls that keep them

A scanned pod is looked up in the cloud and counted in the machine's pod library; the panel lists the
library, retries a lookup and forgets a pod.  Every call waits for the cloud or for its save, and all of
them share one dictionary, which the store file follows when a save is written.

The world is the library, the file, whether a save is outstanding, and the clock.  A lookup is resumed
with what the cloud answered, or with nothing when it timed out or failed.
-/
import XBloom.Async.Segments
import XBloom.Cloud.Translate
import XBloom.Py.Dict
import XBloom.Py.IsoTime

namespace XBloom.Pods

open XBloom.Py XBloom.Cloud XBloom.Async

/-! ## The lookup -/

/-- `s.upper()`, on ASCII: it is compared with `N/A` only. -/
def upper (s : String) : String := String.ofList (s.toList.map Char.toUpper)

/-- The bean fields of a pod, under their names here and in the cloud. -/
def beanFields : List (String × String) :=
  [("name", "theName"), ("roaster", "subtitle"), ("origin", "origin"), ("process", "process"),
    ("varietal", "varietal"), ("flavor", "flavor"), ("introduce", "introduce"), ("type", "type"),
    ("color", "theColor")]

/-- `roast`, when it is an `int` above zero. -/
def roastField : PyVal → Entries
  | .int n => if 0 < n then [("roast", .int n)] else []
  | .bool true => [("roast", .bool true)]
  | _ => []

/-- `image`, when there is one. -/
def imageField (pod : Entries) : Entries :=
  let image := pyOr (get pod "imagePath") (get pod "image")
  if image.truthy then [("image", image)] else []

/-- `v == "success"`. -/
def isSuccess : PyVal → Bool
  | .str s => decide (s = "success")
  | _ => false

/-- `c.get("isDefault") == 1`; only mappings get here. -/
def isDefault : PyVal → Bool
  | .dict c => isOne (get c "isDefault")
  | _ => false

section
variable (T : Texts)

/-- One bean field, when it carries a real value. -/
def beanField (pod : Entries) (e : String × String) : Option (String × PyVal) :=
  let value := strip (toStr T (pyOr (get pod e.2) (.str "")))
  if value ≠ "" ∧ upper value ≠ "N/A" then some (e.1, .str value) else none

/-- A recipe linked to a pod, with its share link. -/
def linkedRecipe : PyVal → Except PyErr Entries
  | .dict cloud => do
    let recipe ← cloudRecipeToLocal T cloud
    return recipe ++ [("share_url", pyOr (get cloud "shareRecipeLink") (.str ""))]
  | _ => .error .attributeError

/-- `fetch_pod_detail`, from the reply of its call on. -/
def fetchPodDetail (resp : Entries) : Except PyErr (Option Entries) :=
  if isSuccess (get resp "result") then
    match pyOr (get resp "list") (.list []) with
    | .list [] => .ok none
    | .list cloudRecipes =>
      match pyOr (get resp "podsVo") (.dict []) with
      | .dict pod => do
        let recipes ← cloudRecipes.mapM (linkedRecipe T)
        let defaultIndex := (cloudRecipes.findIdx? isDefault).getD 0
        return some (beanFields.filterMap (beanField T pod) ++ roastField (get pod "roast") ++
          imageField pod ++ [("default_recipe", get (recipes.getD defaultIndex []) "name"),
            ("recipes", .list (recipes.map .dict))])
      | _ => .error .attributeError
    | _ => .error .typeError
  else .ok none

/-! ## A pod's entry -/

/-- The keys of an entry that the library fills in itself. -/
def libraryKeys : List String := ["xid", "first_scanned", "last_scanned", "scans"]

/-- A lookup brought recipes. -/
def brings (detail : Entries) : Bool := (get detail "recipes").truthy

/-- The entry `async_record` writes over the previous one. -/
def recorded (xid now : String) (detail previous : Entries) : Except PyErr Entries := do
  let scans ← toInt T (getOr previous "scans" (.int 0))
  return [("xid", .str xid), ("first_scanned", getOr previous "first_scanned" (.str now)),
    ("last_scanned", .str now), ("scans", .int (scans + 1))] ++ detail ++
      if brings detail then [] else previous

end

/-- The entry `async_update_detail` writes. -/
def updatedDetail (detail pod : Entries) : Entries :=
  libraryKeys.filterMap (fun k => (pod.lookup k).map fun v => (k, v)) ++ detail

/-- `p.get("last_scanned", "")`; nothing but texts is written there. -/
def lastScanned (pod : Entries) : String :=
  match pod.lookup "last_scanned" with
  | some (.str s) => s
  | _ => ""

/-- `PodLibrary.pods`: newest scan first. -/
def listPods (pods : Dict String Entries) : List Entries :=
  (pods.entries.map Prod.snd).mergeSort fun p q => decide (lastScanned q ≤ lastScanned p)

/-! ## Calls -/

/-- The library, the store file, whether a save is outstanding, and the clock. -/
structure PodWorld where
  pods : Dict String Entries
  stored : Dict String Entries
  unsaved : Bool
  now : Stamp

/-- Where a call waits. -/
inductive PodPoint where
  | looking (xid : String)
  | saving
  deriving DecidableEq

/-- What a call is resumed with: the cloud's answer, or that what it waited for is over; `failed` when
it raised. -/
inductive PodAnswer where
  | answered (resp : Entries)
  | finished
  | failed

/-- What the panel is sent. -/
inductive PodReply where
  | pods (pods : List Entries)
  | notFound
  | updated (updated : Bool)
  | deleted (deleted : Bool)

/-- What calls do that others see: the lookup of a scan or of a retry is over, a pod is to be forgotten,
`pod_detected` is fired, the panel is answered. -/
inductive PodEvent where
  | scanned (xid : String) (detail : Entries) (now : Stamp)
  | retried (xid : String) (detail : Entries)
  | forgets (xid : String)
  | podDetected (attributes : Entries)
  | replied (reply : PodReply)

/-- A call on the pod library. -/
abbrev PodRoutine (α : Type) := Routine PodWorld PodEvent PodPoint PodAnswer PyErr α

/-- `_async_save`: the file follows, sooner or later. -/
def asyncSave : PodRoutine Unit := do
  Routine.assign fun w => { w with unsaved := true }
  match ← Routine.await .saving with
  | .failed => throw .homeAssistantError
  | _ => return ()

section
variable (T : Texts)

/-- `_async_lookup_pod`. -/
def asyncLookupPod (xid : String) : PodRoutine Entries := do
  match ← Routine.await (.looking xid) with
  | .answered resp =>
    match fetchPodDetail T resp with
    | .ok (some detail) => return detail
    | _ => return []
  | _ => return []

/-- `async_record`. -/
def asyncRecord (xid : String) (detail : Entries) : PodRoutine Unit := do
  let w ← Routine.world
  let pod ← Routine.lift (recorded T xid w.now.isoformat detail ((w.pods.get? xid).getD []))
  Routine.assign fun w => { w with pods := w.pods.insert xid pod }
  asyncSave

/-- `async_update_detail`. -/
def asyncUpdateDetail (xid : String) (detail : Entries) : PodRoutine Bool := do
  let w ← Routine.world
  match w.pods.get? xid with
  | none => return false
  | some pod =>
    if brings detail = false then return false
    else
      Routine.assign fun w => { w with pods := w.pods.insert xid (updatedDetail detail pod) }
      asyncSave
      return true

/-- `async_delete`. -/
def asyncDelete (xid : String) : PodRoutine Bool := do
  let w ← Routine.world
  match w.pods.get? xid with
  | none => return false
  | some _ =>
    Routine.assign fun w => { w with pods := w.pods.erase xid }
    asyncSave
    return true

/-- `_enrich_and_dispatch` of a detected pod. -/
def enrichAndDispatch (xid : String) : PodRoutine Unit := do
  let detail ← asyncLookupPod T xid
  let w ← Routine.world
  Routine.emit (.scanned xid detail w.now)
  let _ ← Routine.attempt (asyncRecord T xid detail)
  Routine.emit (.podDetected (detail ++ [("xid", .str xid)]))

/-- `ws_pods`. -/
def wsPods : PodRoutine Unit := do
  let w ← Routine.world
  Routine.emit (.replied (.pods (listPods w.pods)))

/-- `ws_pod_refresh`. -/
def wsPodRefresh (xid : String) : PodRoutine Unit := do
  let w ← Routine.world
  if (w.pods.get? xid).isNone then Routine.emit (.replied .notFound)
  else
    let detail ← asyncLookupPod T xid
    Routine.emit (.retried xid detail)
    let updated ← asyncUpdateDetail xid detail
    Routine.emit (.replied (.updated updated))

/-- `ws_pod_delete`. -/
def wsPodDelete (xid : String) : PodRoutine Unit := do
  Routine.emit (.forgets xid)
  let deleted ← asyncDelete xid
  Routine.emit (.replied (.deleted deleted))

/-! ## The system -/

/-- The calls: a pod is put on the machine, or the panel asks. -/
inductive PodCall where
  | detected (xid : String)
  | pods
  | refresh (xid : String)
  | delete (xid : String)
  deriving DecidableEq

/-- The program of a call. -/
def PodCall.routine : PodCall → PodRoutine Unit
  | .detected xid => enrichAndDispatch T xid
  | .pods => wsPods
  | .refresh xid => wsPodRefresh T xid
  | .delete xid => wsPodDelete xid

/-- What happens meanwhile: the library is written to its file, or cannot be, and the clock is set. -/
inductive PodMove where
  | writes
  | writeFails
  | tick (now : Stamp)

/-- What is left of the world. -/
def PodWorld.move (w : PodWorld) : PodMove → PodWorld
  | .writes => { w with stored := w.pods, unsaved := false }
  | .writeFails => { w with unsaved := false }
  | .tick now => { w with now := now }

/-- Any number of calls on one pod library; a save is over when the file was written. -/
def podSystem : System PodWorld PodEvent PodPoint PodAnswer PodCall PodMove where
  program c := (c.routine T).run.bind fun _ => .ret ()
  enabled
    | .looking _, _ => true
    | .saving, w => !w.unsaved
  move := PodWorld.move

/-- Calls on a pod library. -/
abbrev PodPool := Pool PodWorld PodEvent PodPoint PodAnswer PodCall

/-- A step of the calls, or of what happens meanwhile. -/
abbrev PodAction := Action PodAnswer PodCall PodMove

end

end XBloom.Pods
