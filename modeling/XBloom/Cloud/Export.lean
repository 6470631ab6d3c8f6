/-
# XBloom.Cloud.Export — exporting a local recipe to the cloud account

`async_export_recipe` resolves a recipe, then talks to the cloud with up to four awaited calls, and at
last writes the cloud identity it obtained back under the name it resolved.  Everything may change
while it waits: the local store by its other writers, the account by the vendor's app.

The server is the account's list of entries, the page its list call returns, and a reply to each call:
whether an answer arrived, and whether the server did what it was asked when none did.  Authentication
and time stamps are left out of the payloads.
-/
import XBloom.Async.Segments
import XBloom.Cloud.Translate
import XBloom.Recipe.Store

namespace XBloom.Cloud

open XBloom.Py XBloom.Recipe XBloom.Async

/-! ## The account -/

/-- A recipe on the account; no table id is 0. -/
structure CloudEntry where
  tableId : ℤ
  fields : Entries
  shareRecipeLink : String
  issued : tableId ≠ 0

/-- An entry as the list call returns it. -/
def CloudEntry.raw (e : CloudEntry) : Entries :=
  e.fields ++ [("tableId", .int e.tableId), ("shareRecipeLink", .str e.shareRecipeLink)]

/-- The table ids of an account. -/
def tableIds (account : List CloudEntry) : List ℤ := account.map CloudEntry.tableId

/-- **What the server lists**: at most `countPerPage` = 100 of the account's entries, and all of them
when there are no more. -/
structure Server where
  page : List CloudEntry → List CloudEntry
  page_subset : ∀ account, page account ⊆ account
  page_length : ∀ account, (page account).length ≤ 100
  page_all : ∀ account, account.length ≤ 100 → account ⊆ page account

/-- A call to the cloud. -/
inductive Request where
  | login
  | list
  | update (tableId : ℤ) (fields : Entries)
  | create (fields : Entries)

/-- What becomes of a call: whether `"result": "success"` arrives, whether the server carried the call
out when it does not, and the id and link it gives a created entry. -/
structure Reply where
  success : Bool
  carriedOut : Bool
  tableId : ℤ
  shareLink : String

/-- Replace the fields of the entry with a table id. -/
def updateEntry (tableId : ℤ) (fields : Entries) (account : List CloudEntry) : List CloudEntry :=
  account.map fun e => if e.tableId = tableId then { e with fields := fields } else e

/-- The account after a call, and whether the call succeeded.  A created entry gets an id of its own:
a reply with another is none. -/
def serve (account : List CloudEntry) (r : Reply) : Request → List CloudEntry × Bool
  | .login => (account, r.success)
  | .list => (account, r.success)
  | .update tableId fields =>
    (if r.success || r.carriedOut then updateEntry tableId fields account else account, r.success)
  | .create fields =>
    if h : r.tableId ≠ 0 ∧ r.tableId ∉ tableIds account then
      (if r.success || r.carriedOut then ⟨r.tableId, fields, r.shareLink, h.1⟩ :: account
        else account, r.success)
    else (account, false)

/-! ## Calls -/

/-- The store, the account and what the cloud client holds. -/
structure World where
  store : Store
  account : List CloudEntry
  cloudLoginConfigured : Bool
  loggedIn : Bool

/-- Where an export waits: in `login`, in the list call of `get_recipe` before an update, in the
update, in the create, and in the list call of `get_recipe` that reads a new entry's link back. -/
inductive Point where
  | loggingIn
  | finding (tableId : ℤ)
  | updating (tableId : ℤ) (fields : Entries)
  | creating
  | readingBack (tableId : ℤ)

/-- Why an export fails. -/
inductive ExportError where
  | recipeNotFound
  | invalidRecipe (why : Invalid)
  | pourVolumeMismatch
  | loginFailed
  | exportFailed
  deriving DecidableEq

/-- What an export returns: the id and link when it went to the cloud, the recipe, and whether it
warns of a bypass. -/
inductive ExportResult where
  | success (identity : Option (ℤ × String)) (recipe : RecipeDict) (warning : Bool)
  | failure (error : ExportError)
  deriving DecidableEq

/-- What an export does that others see, with the name and the recipe it resolved. -/
inductive Event where
  | asks (resolved : String × RecipeDict) (request : Request)
  | returns (resolved : Option (String × RecipeDict)) (result : ExportResult)

/-- A call of the export, or of the cloud client on its behalf. -/
abbrev Exporting (α : Type) := Routine World Event Point Reply PyErr α

section
variable (I : Identifiers) (yaml : YamlLayer) (S : Server) (resolved : String × RecipeDict)

/-- `_post`: the reply, `none` unless it says success. -/
def post (at_ : Point) (request : Request) : Exporting (Option Reply) := do
  Routine.emit (.asks resolved request)
  let r ← Routine.await at_
  let w ← Routine.world
  Routine.assign fun w => { w with account := (serve w.account r request).1 }
  return if (serve w.account r request).2 then some r else none

/-- `async_ensure_cloud_login`. -/
def asyncEnsureCloudLogin : Exporting Bool := do
  let w ← Routine.world
  if w.cloudLoginConfigured = false then return false
  else if w.loggedIn then return true
  else
    match ← post resolved .loggingIn .login with
    | none => return false
    | some _ =>
      Routine.assign fun w => { w with loggedIn := true }
      return true

/-- `list_recipes`. -/
def listRecipes (at_ : Point) : Exporting (Option (List CloudEntry)) := do
  let w ← Routine.world
  if w.loggedIn = false then return none
  else
    match ← post resolved at_ .list with
    | none => return none
    | some _ =>
      let w ← Routine.world
      return some (S.page w.account)

/-- `get_recipe`. -/
def getRecipe (at_ : Point) (tableId : ℤ) : Exporting (Option CloudEntry) := do
  match ← listRecipes S resolved at_ with
  | none => return none
  | some recipes => return recipes.find? fun e => e.tableId = tableId

/-- `update_recipe`. -/
def updateRecipe (tableId : ℤ) (cloudFields : Entries) : Exporting Bool := do
  let w ← Routine.world
  if w.loggedIn = false then return false
  else return (← post resolved (.updating tableId cloudFields) (.update tableId cloudFields)).isSome

/-- `_CREATE_STATIC_FIELDS`. -/
def createStaticFields : Entries :=
  [("adaptedModel", .int 1), ("theSubsetId", .int 0), ("subSetType", .int 2),
    ("appPlace", .list [.int 4]), ("isShortcuts", .int 2)]

/-- `create_recipe`. -/
def createRecipe (localRecipe : RecipeDict) : Exporting (Option (ℤ × String)) := do
  let w ← Routine.world
  if w.loggedIn = false then return none
  else
    let payload := localRecipeToCloud localRecipe ++ createStaticFields ++ [("theColor", .str "")]
    match ← post resolved .creating (.create payload) with
    | none => return none
    | some r =>
      let created ← getRecipe S resolved (.readingBack r.tableId) r.tableId
      return some (r.tableId, (created.map CloudEntry.shareRecipeLink).getD "")

/-! ## The export -/

/-- `validate_pour_volume_consistency`: whether it finds a mismatch.  `abs(x) > 1.0` is `x > 1.0` or
`-x > 1.0`. -/
def validatePourVolumeConsistency (recipe : RecipeDict) : Except PyErr Bool :=
  let doseG := floatOrZero recipe.doseG
  match recipe.ratio with
  | some ratio =>
    if PyFloat.lt 0 doseG && ratio.truthy then do
      let pourSum ← sumVolumes 0 recipe.pours
      let combined := pourSum.add (floatOrZero recipe.bypassVolume)
      let difference := combined.add (doseG.mul ratio).neg
      return PyFloat.lt 1 difference || PyFloat.lt 1 difference.neg
    else .ok false
  | none => .ok false

/-- `_CLOUD_EDIT_PRESERVE_KEYS`. -/
def cloudEditPreserveKeys : List String :=
  ["theColor", "theSubsetId", "isShortcuts", "appPlace", "adaptedModel", "subSetType"]

/-- The fields of an update: the recipe's own, and those of the entry that the app keeps there. -/
def cloudFields (validated : RecipeDict) (currentRaw : Entries) : Entries :=
  localRecipeToCloud validated ++ cloudEditPreserveKeys.filterMap fun key =>
    (currentRaw.lookup key).map fun v => (key, v)

/-- `raw.get("share_url") or current_raw.get("shareRecipeLink")`. -/
def keptShareUrl (raw : RecipeDict) (current : CloudEntry) : String :=
  if raw.shareUrl.getD "" = "" then current.shareRecipeLink else raw.shareUrl.getD ""

/-- A recipe with a cloud identity. -/
def withIdentity (tableId : ℤ) (shareUrl : String) (recipe : RecipeDict) : RecipeDict :=
  { recipe with
    cloudTableId := some tableId
    shareUrl := if shareUrl = "" then recipe.shareUrl else some shareUrl }

/-- What an export stores under the name it resolved: what is stored there now, or else what it
resolved, with the cloud identity. -/
def storedRecipe (tableId : ℤ) (shareUrl : String) (s : Store) : RecipeDict :=
  withIdentity tableId shareUrl (((s.options.get? resolved.1).join).getD resolved.2)

/-- The store with the cloud identity written back. -/
def keepIdentity (tableId : ℤ) (shareUrl : String) (s : Store) : Store :=
  { s with
    options := s.options.insert resolved.1 (some (storedRecipe resolved tableId shareUrl s)) }

/-- The update in place of the entry with the stored id, or a create; the identity obtained. -/
def exportToCloud (validated : RecipeDict) : Exporting (Option (ℤ × String)) := do
  let tableId := resolved.2.cloudTableId.getD 0
  if tableId = 0 then createRecipe S resolved validated
  else
    match ← getRecipe S resolved (.finding tableId) tableId with
    | none => createRecipe S resolved validated
    | some current =>
      if ← updateRecipe resolved tableId (cloudFields validated current.raw) then
        return some (tableId, keptShareUrl resolved.2 current)
      else return none

/-- `async_export_recipe` once the recipe is resolved. -/
def exportResolved : Exporting ExportResult := do
  let warning := PyFloat.lt 0 (floatOrZero resolved.2.bypassVolume)
  let w ← Routine.world
  if w.cloudLoginConfigured = false then return .success none resolved.2 warning
  else
    match recipeSchema I.texts (.dict resolved.2.entries) with
    | .error e => return .failure (.invalidRecipe e)
    | .ok validated =>
      -- the check is for recipes without a bypass
      let mismatch ← Routine.lift
        (if warning then .ok false else validatePourVolumeConsistency validated)
      if mismatch then return .failure .pourVolumeMismatch
      else if (← asyncEnsureCloudLogin resolved) = false then return .failure .loginFailed
      else
        match ← exportToCloud S resolved validated with
        | none => return .failure .exportFailed
        | some (tableId, shareUrl) =>
          let w ← Routine.world
          Routine.assign fun w => { w with store := keepIdentity resolved tableId shareUrl w.store }
          return .success (some (tableId, shareUrl))
            (storedRecipe resolved tableId shareUrl w.store) warning

/-- `async_export_recipe`. -/
def asyncExportRecipe (identifier : String) : Exporting Unit := do
  let w ← Routine.world
  match findRecipe I (w.store.visible yaml) identifier with
  | none => Routine.emit (.returns none (.failure .recipeNotFound))
  | some resolved =>
    let result ← exportResolved I S resolved
    Routine.emit (.returns (some resolved) result)

/-! ## The system -/

/-- What else happens meanwhile: an operation on the local store, or a change of the account in the
vendor's app. -/
inductive Move where
  | operation (op : StoreOp)
  | account (account : List CloudEntry)

/-- Exports in flight. -/
abbrev ExportPool := Pool World Event Point Reply String

/-- A step of exports, or of what happens beside them. -/
abbrev ExportAction := Action Reply String Move

/-- Any number of exports, over a store and an account that change meanwhile. -/
def system : System World Event Point Reply String Move where
  program identifier := (asyncExportRecipe I yaml S identifier).run.bind fun _ => .ret ()
  enabled _ _ := true
  move w
    | .operation op => { w with store := w.store.step I yaml op }
    | .account account => { w with account := account }

end

/-- **With nothing in between, an export is the store's operation** `exportRecipe`: it resolves and
writes back in one store. -/
theorem keepIdentity_eq_exportRecipe {I : Identifiers} {yaml : YamlLayer} {s : Store}
    {identifier : String} {resolved : String × RecipeDict}
    (h : findRecipe I (s.visible yaml) identifier = some resolved) (tableId : ℤ) (shareUrl : String) :
    s.step I yaml (.exportCloud identifier (some (tableId, some shareUrl))) =
      keepIdentity resolved tableId shareUrl s := by
  simp only [Store.step, Store.apply, exportRecipe, h, keepIdentity, storedRecipe, withIdentity]
  split <;> rfl

end XBloom.Cloud
