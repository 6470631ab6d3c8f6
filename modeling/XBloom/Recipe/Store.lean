/-
# XBloom.Recipe.Store — the local recipe store and its writers on both paths

Recipes live in two layers: the YAML block of `configuration.yaml`, fixed for a run of Home Assistant,
and `entry.options["recipes"]`, where `None` is a tombstone hiding a YAML recipe.  What is visible is
their overlay.  Two sets of writers rewrite the options map: the coordinator's (services, panel, LLM
tools) and the options flow's steps.  Every writer here is the source's, statement by statement; what
the network or a YAML parser returns to it is an argument, as is the uid `new_recipe_uid` mints.

`self.recipes` is recomputed by every write (`_rebuild_recipes`, or `_async_update_listener` after the
options flow), so it is a function of the state, `visible`.
-/
import XBloom.Logic.Runs
import XBloom.Recipe.Find

namespace XBloom.Recipe

open XBloom.Py

/-! ## Mappings and records -/

/-- A mapping as a caller hands it over. -/
abbrev PyMap := List (String × PyVal)

/-- `RECIPE_PROTECTED_FIELDS`. -/
def recipeProtectedFields : List String := ["uid", "cloud_table_id", "share_url", "source"]

/-- `strip_protected_recipe_fields`. -/
def stripProtectedRecipeFields (m : PyMap) : PyMap :=
  m.filter fun e => decide (e.1 ∉ recipeProtectedFields)

/-- A pour as the mapping it is. -/
def PourDict.entries (p : PourDict) : PyMap :=
  [("volume_ml", .int p.volumeMl), ("temperature_c", .int p.temperatureC),
    ("flow_rate", .float p.flowRate), ("pause_seconds", .int p.pauseSeconds),
    ("pattern", .int p.pattern), ("vibration", .str p.vibration)]

/-- A recipe as the mapping it is; the metadata it does not have is absent. -/
def RecipeDict.entries (r : RecipeDict) : PyMap :=
  (r.uid.toList.map fun v => ("uid", .str v)) ++
  (r.cloudTableId.toList.map fun v => ("cloud_table_id", .int v)) ++
  (r.shareUrl.toList.map fun v => ("share_url", .str v)) ++
  (r.source.toList.map fun v => ("source", .str v)) ++
  [("name", .str r.name), ("grind_size", .int r.grindSize), ("rpm", .int r.rpm),
    ("dose_g", .float r.doseG), ("ratio", r.ratio.elim .none .float), ("cup_type", .str r.cupType),
    ("bypass_volume", .float r.bypassVolume), ("bypass_temperature", .float r.bypassTemperature),
    ("pours", .list (r.pours.map fun p => .dict p.entries))]

/-! ## State -/

/-- `hass.data[DOMAIN]["yaml_recipes"]`, keyed by the recipes' own names; the setup gives each the uid
`yaml_recipe_uid` derives from its name. -/
structure YamlLayer where
  recipes : Dict String RecipeDict
  yamlRecipeUid : String → String
  named : ∀ {n r}, recipes.get? n = some r → r.name = n
  identified : ∀ {n r}, recipes.get? n = some r → r.uid = some (yamlRecipeUid n)

/-- `entry.options["recipes"]` and the coordinator's `selected_recipe`. -/
structure Store where
  options : Dict String (Option RecipeDict)
  selectedRecipe : Option String

/-- What a store operation tells its caller. -/
inductive StoreResult where
  | success (uid : Option String) (name : String)
  | saved (names : List String)
  | recipeNotFound
  | invalidRecipe (why : Invalid)
  | nameTaken (name : String)
  | fetchFailed
  | notExported
  | recipeExists (name : String)
  | invalidYaml
  | noRecipes
  deriving DecidableEq, Repr

variable (I : Identifiers) (yaml : YamlLayer)

/-- `_rebuild_recipes` (and `_all_visible_recipes`): the options layer over the YAML layer. -/
def Store.visible (s : Store) : Dict String RecipeDict := Dict.overlay yaml.recipes s.options

/-! ## The coordinator's writers -/

/-- `validated["name"]`, `["uid"]` and `["source"]` set before a new recipe is stored. -/
def RecipeDict.saveAs (validated : RecipeDict) (name uid source : String) : RecipeDict :=
  { validated with name := name, uid := some uid, source := some source }

/-- Drop a name from the options layer, leaving a tombstone when a YAML recipe lies under it. -/
def dropName (options : Dict String (Option RecipeDict)) (name : String) :
    Dict String (Option RecipeDict) :=
  if yaml.recipes.contains name then (options.erase name).insert name none else options.erase name

/-- `create_local_recipe`. -/
def createLocalRecipe (s : Store) (recipe : PyMap) (uid : String) : Store × StoreResult :=
  match recipeSchema I.texts (.dict (stripProtectedRecipeFields recipe)) with
  | .error e => (s, .invalidRecipe e)
  | .ok validated =>
    let name := dedupeName validated.name (s.visible yaml).keys
    let stored := validated.saveAs name uid "manual"
    ({ s with options := s.options.insert name (some stored) }, .success (some uid) name)

/-- `"://" in text`. -/
def hasScheme (text : String) : Bool := decide ("://".toList <:+: text.toList)

/-- The `share_url` an import remembers. -/
def importShareUrl (shareUrlOrId : String) : String :=
  if hasScheme shareUrlOrId then strip shareUrlOrId
  else "https://share-h5.xbloom.com/?id=" ++ strip shareUrlOrId

/-- `async_import_cloud_recipe`, given what `fetch_shared_recipe` returned. -/
def importCloudRecipe (s : Store) (shareUrlOrId : String) (fetched : Option PyVal) (uid : String) :
    Store × StoreResult :=
  match fetched with
  | none => (s, .fetchFailed)
  | some localRaw =>
    match recipeSchema I.texts localRaw with
    | .error e => (s, .invalidRecipe e)
    | .ok validated =>
      let name := dedupeName validated.name (s.visible yaml).keys
      let shareUrl := validated.shareUrl.getD (importShareUrl shareUrlOrId)
      let stored := { validated with shareUrl := some shareUrl }.saveAs name uid "import"
      ({ s with options := s.options.insert name (some stored) }, .success (some uid) name)

/-- `_looks_like_share_ref`. -/
def looksLikeShareRef (identifier : String) : Bool :=
  let s := strip identifier
  hasScheme s || s.toList.any (fun c => c ∈ ['%', '=', '+', '/']) || I.isDigitText s

/-- `async_edit_local_recipe` once the identifier is resolved. -/
def editResolved (s : Store) (resolved : String × RecipeDict) (changes : PyMap) :
    Store × StoreResult :=
  let oldName := resolved.1
  match recipeSchema I.texts
      (.dict (stripProtectedRecipeFields changes ++ resolved.2.entries)) with
  | .error e => (s, .invalidRecipe e)
  | .ok validated =>
    let newName := validated.name
    if newName ≠ oldName ∧ (s.visible yaml).contains newName then (s, .nameTaken newName)
    else
      let options := if newName ≠ oldName then dropName yaml s.options oldName else s.options
      ({ options := options.insert newName (some validated)
         selectedRecipe :=
          if s.selectedRecipe = some oldName then some newName else s.selectedRecipe },
        .success validated.uid newName)

/-- `async_edit_local_recipe`: a share reference that is not here yet is imported first. -/
def editLocalRecipe (s : Store) (identifier : String) (changes : PyMap) (fetched : Option PyVal)
    (uid : String) : Store × StoreResult :=
  match findRecipe I (s.visible yaml) identifier with
  | some resolved => editResolved I yaml s resolved changes
  | none =>
    if looksLikeShareRef I identifier then
      match importCloudRecipe I yaml s identifier fetched uid with
      | (s', .success (some uid') _) =>
        match findRecipe I (s'.visible yaml) uid' with
        | some resolved => editResolved I yaml s' resolved changes
        | none => (s', .recipeNotFound)
      | failed => failed
    else (s, .recipeNotFound)

/-- `delete_local_recipe`. -/
def deleteLocalRecipe (s : Store) (identifier : String) : Store × StoreResult :=
  match findRecipe I (s.visible yaml) identifier with
  | none => (s, .recipeNotFound)
  | some (name, recipe) =>
    ({ options := dropName yaml s.options name
       selectedRecipe := if s.selectedRecipe = some name then none else s.selectedRecipe },
      .success recipe.uid name)

/-- The `share_url` of a pod library entry, as `find_recipe` reads it; `""` when it has none. -/
def podShareUrl (raw : PyMap) : String :=
  match raw.lookup "share_url" with
  | some url => if url.truthy then ((cvString I.texts url).toOption).getD "" else ""
  | none => ""

/-- The name of a pod library entry. -/
def podName (raw : PyMap) : Option String :=
  match raw.lookup "name" with
  | some (.str name) => some name
  | _ => none

/-- The loop of `save_pod_recipes`: the options, the visible recipes and the names added so far, over
the library entries and the uid each would get. -/
def savePods (options : Dict String (Option RecipeDict)) (visible : Dict String RecipeDict)
    (added : List String) :
    List (PyMap × String) → Dict String (Option RecipeDict) × List String
  | [] => (options, added)
  | (raw, uid) :: rest =>
    let shareUrl := podShareUrl I raw
    if shareUrl ≠ "" ∧ (findRecipe I visible shareUrl).isSome then
      savePods options visible added rest
    else if shareUrl = "" ∧ visible.entries.any
        (fun e => decide (e.2.source = some "pod" ∧ some e.1 = podName raw)) then
      savePods options visible added rest
    else
      let candidate := raw.filter fun e => decide (e.1 ≠ "share_url") || e.2.truthy
      match recipeSchema I.texts (.dict candidate) with
      | .error _ => savePods options visible added rest
      | .ok validated =>
        let name := dedupeName validated.name visible.keys
        let stored := validated.saveAs name uid "pod"
        savePods (options.insert name (some stored)) (visible.insert name stored) (added ++ [name])
          rest

/-- `save_pod_recipes`. -/
def savePodRecipes (s : Store) (recipes : List (PyMap × String)) : Store × StoreResult :=
  let (options, added) := savePods I s.options (s.visible yaml) [] recipes
  if added.isEmpty then (s, .saved []) else ({ s with options := options }, .saved added)

/-- `async_export_recipe`, given the cloud identity it obtained; every failure on the way obtains
none. -/
def exportRecipe (s : Store) (identifier : String) (identity : Option (ℤ × Option String)) :
    Store × StoreResult :=
  match findRecipe I (s.visible yaml) identifier with
  | none => (s, .recipeNotFound)
  | some (name, raw) =>
    match identity with
    | none => (s, .notExported)
    | some (tableId, shareUrl) =>
      let stored := ((s.options.get? name).join).getD raw
      let stored := { stored with cloudTableId := some tableId }
      let stored :=
        match shareUrl with
        | some url => if url = "" then stored else { stored with shareUrl := some url }
        | none => stored
      ({ s with options := s.options.insert name (some stored) }, .success stored.uid name)

/-! ## The options flow's steps -/

/-- `config_flow._options_recipes`: the store without its tombstones. -/
def flowOptionsRecipes (s : Store) : Dict String (Option RecipeDict) :=
  s.options.filter fun _ recipe => recipe.isSome

/-- `_parse_and_validate`, given what `yaml.safe_load` returned. -/
def parseAndValidate (parsed : Option PyVal) : Except StoreResult RecipeDict :=
  match parsed with
  | some (.dict m) =>
    match recipeSchema I.texts (.dict (stripProtectedRecipeFields m)) with
    | .ok recipe => .ok recipe
    | .error e => .error (.invalidRecipe e)
  | _ => .error .invalidYaml

/-- `async_step_add_recipe`. -/
def stepAddRecipe (s : Store) (parsed : Option PyVal) (uid : String) : Store × StoreResult :=
  match parseAndValidate I parsed with
  | .error e => (s, e)
  | .ok recipe =>
    if (s.visible yaml).contains recipe.name then (s, .recipeExists recipe.name)
    else
      let stored := recipe.saveAs recipe.name uid "manual"
      ({ s with options := (flowOptionsRecipes s).insert recipe.name (some stored) },
        .success (some uid) recipe.name)

/-- `recipe[key] = original[key]` for the protected keys the original has. -/
def restoreProtected (recipe original : RecipeDict) : RecipeDict :=
  { recipe with
    uid := original.uid <|> recipe.uid
    cloudTableId := original.cloudTableId <|> recipe.cloudTableId
    shareUrl := original.shareUrl <|> recipe.shareUrl
    source := original.source <|> recipe.source }

/-- `async_step_edit_recipe_yaml`. -/
def stepEditRecipe (s : Store) (editing : String) (parsed : Option PyVal) : Store × StoreResult :=
  match (s.visible yaml).get? editing with
  | none => (s, .noRecipes)
  | some original =>
    match parseAndValidate I parsed with
    | .error e => (s, e)
    | .ok recipe =>
      let stored := restoreProtected recipe original
      ({ s with options := ((flowOptionsRecipes s).erase editing).insert recipe.name (some stored) },
        .success stored.uid recipe.name)

/-- `async_step_delete_recipe`. -/
def stepDeleteRecipe (s : Store) (name : String) : Store × StoreResult :=
  if (s.visible yaml).entries.isEmpty then (s, .noRecipes)
  else
    let existing := flowOptionsRecipes s
    let options := if existing.contains name then existing.erase name else existing.insert name none
    ({ s with options := options }, .success none name)

/-! ## Runs -/

/-- One operation of either path, with what it gets from outside. -/
inductive StoreOp where
  | create (recipe : PyMap) (uid : String)
  | edit (identifier : String) (changes : PyMap) (fetched : Option PyVal) (uid : String)
  | delete (identifier : String)
  | importCloud (shareUrlOrId : String) (fetched : Option PyVal) (uid : String)
  | savePod (recipes : List (PyMap × String))
  | exportCloud (identifier : String) (identity : Option (ℤ × Option String))
  | flowAdd (parsed : Option PyVal) (uid : String)
  | flowEdit (editing : String) (parsed : Option PyVal)
  | flowDelete (name : String)

/-- The state after an operation and what it answers. -/
def Store.apply (s : Store) : StoreOp → Store × StoreResult
  | .create recipe uid => createLocalRecipe I yaml s recipe uid
  | .edit identifier changes fetched uid => editLocalRecipe I yaml s identifier changes fetched uid
  | .delete identifier => deleteLocalRecipe I yaml s identifier
  | .importCloud shareUrlOrId fetched uid => importCloudRecipe I yaml s shareUrlOrId fetched uid
  | .savePod recipes => savePodRecipes I yaml s recipes
  | .exportCloud identifier identity => exportRecipe I yaml s identifier identity
  | .flowAdd parsed uid => stepAddRecipe I yaml s parsed uid
  | .flowEdit editing parsed => stepEditRecipe I yaml s editing parsed
  | .flowDelete name => stepDeleteRecipe yaml s name

/-- The state after an operation. -/
def Store.step (s : Store) (op : StoreOp) : Store := (s.apply I yaml op).1

end XBloom.Recipe
