/-
# XBloom.Recipe.Edits — what editing a stored recipe can and cannot do

Over every run of the store, through the coordinator and through the options flow, each visible recipe
is kept under its own name and is something `RECIPE_SCHEMA` accepts as it is (`Kept`, `run_kept`).  So an
edit never fails because of what is stored: with no changes it changes nothing, with changes it leaves
every other field alone, and when it is refused a change is to blame (`stored_recipes_editable`).  And
edits add up: two in a row do what one with both changes does (`edits_compose`).
-/
import XBloom.Recipe.Canonical
import XBloom.Recipe.Frame

namespace XBloom.Recipe

open XBloom.Py XBloom.Logic

variable {I : Identifiers} {yaml : YamlLayer}

/-! ## What is stored -/

/-- A recipe under its own name, as `RECIPE_SCHEMA` produces them. -/
structure Kept (n : String) (r : RecipeDict) : Prop where
  named : r.name = n
  storable : r.Storable

/-- Only the pours matter. -/
theorem RecipeDict.Storable.of_pours {r r' : RecipeDict} (h : r.Storable) (hpours : r'.pours = r.pours) :
    r'.Storable := fun p hp => h p (hpours ▸ hp)

/-- The recipes of an options map are kept. -/
def OptionsKept (options : Dict String (Option RecipeDict)) : Prop :=
  ∀ n r, options.get? n = some (some r) → Kept n r

/-- The recipes of `configuration.yaml` went through the schema. -/
def YamlLayer.Storable (yaml : YamlLayer) : Prop := ∀ n r, yaml.recipes.get? n = some r → r.Storable

section
variable {options : Dict String (Option RecipeDict)} {n : String}

theorem OptionsKept.insert (h : OptionsKept options) {r : RecipeDict} (hr : Kept n r) :
    OptionsKept (options.insert n (some r)) := by
  intro m r' hm
  rw [Dict.get?_insert] at hm
  split at hm
  · rename_i heq
    cases hm
    exact heq ▸ hr
  · exact h m r' hm

theorem OptionsKept.hide (h : OptionsKept options) : OptionsKept (options.insert n none) := by
  intro m r' hm
  rw [Dict.get?_insert] at hm
  split at hm
  · cases hm
  · exact h m r' hm

theorem OptionsKept.erase (h : OptionsKept options) : OptionsKept (options.erase n) := by
  intro m r' hm
  rw [Dict.get?_erase] at hm
  split at hm
  · cases hm
  · exact h m r' hm

theorem OptionsKept.drop (h : OptionsKept options) : OptionsKept (dropName yaml options n) := by
  unfold dropName
  split
  · exact h.erase.hide
  · exact h.erase

theorem OptionsKept.flow {s : Store} (h : OptionsKept s.options) :
    OptionsKept (flowOptionsRecipes s) := by
  intro m r hm
  unfold flowOptionsRecipes at hm
  rw [Dict.get?_filter] at hm
  exact h m r (Option.filter_eq_some_iff.mp hm).1

end

/-- **What is visible is kept**, whichever layer it comes from. -/
theorem view_kept (hyaml : yaml.Storable) {s : Store} (h : OptionsKept s.options) {n : String}
    {r : RecipeDict} (hr : view yaml s n = some r) : Kept n r := by
  rw [view_apply] at hr
  cases hoption : s.options.get? n with
  | none =>
    rw [hoption] at hr
    exact ⟨yaml.named hr, hyaml n r hr⟩
  | some o =>
    rw [hoption] at hr
    exact h n r (hoption.trans (congrArg some hr))

/-! ## The writers -/

section
variable {s : Store} (hyaml : yaml.Storable) (h : OptionsKept s.options)

/-- A validated recipe that is saved under a name. -/
theorem kept_saveAs {v : PyVal} {validated : RecipeDict} {name uid source : String}
    (hv : recipeSchema I.texts v = .ok validated) : Kept name (validated.saveAs name uid source) :=
  ⟨rfl, (recipeSchema_fits.sound hv).of_pours rfl⟩

include h in
theorem createLocalRecipe_kept (recipe : PyMap) (uid : String) :
    OptionsKept (createLocalRecipe I yaml s recipe uid).1.options := by
  unfold createLocalRecipe
  split
  · exact h
  · rename_i hv
    exact h.insert (kept_saveAs hv)

include h in
theorem importCloudRecipe_kept (ref : String) (fetched : Option PyVal) (uid : String) :
    OptionsKept (importCloudRecipe I yaml s ref fetched uid).1.options := by
  unfold importCloudRecipe
  split
  · exact h
  · split
    · exact h
    · rename_i hv
      exact h.insert ⟨rfl, (recipeSchema_fits.sound hv).of_pours rfl⟩

include h in
theorem editResolved_kept (resolved : String × RecipeDict) (changes : PyMap) :
    OptionsKept (editResolved I yaml s resolved changes).1.options := by
  unfold editResolved
  dsimp only
  split
  · exact h
  · rename_i hv
    split
    · exact h
    · refine OptionsKept.insert ?_ ⟨rfl, recipeSchema_fits.sound hv⟩
      split
      · exact h.drop
      · exact h

include h in
theorem editLocalRecipe_kept (identifier : String) (changes : PyMap) (fetched : Option PyVal)
    (uid : String) :
    OptionsKept (editLocalRecipe I yaml s identifier changes fetched uid).1.options := by
  unfold editLocalRecipe
  split
  · exact editResolved_kept h _ _
  · split
    · have himport := @importCloudRecipe_kept I yaml s h identifier fetched uid
      split
      · rename_i hresult
        rw [hresult] at himport
        split
        · exact editResolved_kept himport _ _
        · exact himport
      · exact himport
    · exact h

include h in
theorem deleteLocalRecipe_kept (identifier : String) :
    OptionsKept (deleteLocalRecipe I yaml s identifier).1.options := by
  unfold deleteLocalRecipe
  split
  · exact h
  · exact h.drop

/-- Each pod that is saved went through the schema. -/
theorem savePods_kept (recipes : List (PyMap × String)) :
    ∀ {options : Dict String (Option RecipeDict)} {visible : Dict String RecipeDict}
      {added : List String}, OptionsKept options →
      OptionsKept (savePods I options visible added recipes).1 := by
  induction recipes with
  | nil => exact fun h => h
  | cons entry rest ih =>
    obtain ⟨raw, uid⟩ := entry
    intro options visible added h
    unfold savePods
    dsimp only
    split
    · exact ih h
    · split
      · exact ih h
      · split
        · exact ih h
        · rename_i hv
          exact ih (h.insert (kept_saveAs hv))

include h in
theorem savePodRecipes_kept (recipes : List (PyMap × String)) :
    OptionsKept (savePodRecipes I yaml s recipes).1.options := by
  have hloop := @savePods_kept I recipes s.options (s.visible yaml) [] h
  unfold savePodRecipes
  dsimp only
  split
  · exact h
  · exact hloop

include hyaml h in
theorem exportRecipe_kept (identifier : String) (identity : Option (ℤ × Option String)) :
    OptionsKept (exportRecipe I yaml s identifier identity).1.options := by
  unfold exportRecipe
  split
  · exact h
  · rename_i name raw hfind
    split
    · exact h
    · rename_i tableId shareUrl
      have hraw : Kept name raw := view_kept hyaml h (findRecipe_get? I hfind)
      have hstored : Kept name (((s.options.get? name).join).getD raw) := by
        cases hoption : s.options.get? name with
        | none => exact hraw
        | some o =>
          cases o with
          | none => exact hraw
          | some r => exact h name r hoption
      generalize ((s.options.get? name).join).getD raw = stored at hstored ⊢
      refine h.insert ?_
      split
      · split
        · exact ⟨hstored.named, hstored.storable.of_pours rfl⟩
        · exact ⟨hstored.named, hstored.storable.of_pours rfl⟩
      · exact ⟨hstored.named, hstored.storable.of_pours rfl⟩

/-- What the options flow's text box yields went through the schema. -/
theorem parseAndValidate_storable {parsed : Option PyVal} {r : RecipeDict}
    (hr : parseAndValidate I parsed = .ok r) : r.Storable := by
  unfold parseAndValidate at hr
  split at hr
  · split at hr
    · rename_i hv
      cases hr
      exact recipeSchema_fits.sound hv
    · cases hr
  · cases hr

include h in
theorem stepAddRecipe_kept (parsed : Option PyVal) (uid : String) :
    OptionsKept (stepAddRecipe I yaml s parsed uid).1.options := by
  unfold stepAddRecipe
  split
  · exact h
  · rename_i hv
    split
    · exact h
    · exact h.flow.insert ⟨rfl, (parseAndValidate_storable hv).of_pours rfl⟩

include h in
theorem stepEditRecipe_kept (editing : String) (parsed : Option PyVal) :
    OptionsKept (stepEditRecipe I yaml s editing parsed).1.options := by
  unfold stepEditRecipe
  split
  · exact h
  · split
    · exact h
    · rename_i hv
      exact h.flow.erase.insert ⟨rfl, (parseAndValidate_storable hv).of_pours rfl⟩

include h in
theorem stepDeleteRecipe_kept (name : String) :
    OptionsKept (stepDeleteRecipe yaml s name).1.options := by
  unfold stepDeleteRecipe
  split
  · exact h
  · dsimp only
    split
    · exact h.flow.erase
    · exact h.flow.hide

include hyaml h in
/-- **Every operation keeps what is stored kept.** -/
theorem step_kept (op : StoreOp) : OptionsKept (s.step I yaml op).options := by
  unfold Store.step Store.apply
  cases op with
  | create recipe uid => exact createLocalRecipe_kept h recipe uid
  | edit identifier changes fetched uid => exact editLocalRecipe_kept h identifier changes fetched uid
  | delete identifier => exact deleteLocalRecipe_kept h identifier
  | importCloud ref fetched uid => exact importCloudRecipe_kept h ref fetched uid
  | savePod recipes => exact savePodRecipes_kept h recipes
  | exportCloud identifier identity => exact exportRecipe_kept hyaml h identifier identity
  | flowAdd parsed uid => exact stepAddRecipe_kept h parsed uid
  | flowEdit editing parsed => exact stepEditRecipe_kept h editing parsed
  | flowDelete name => exact stepDeleteRecipe_kept h name

include hyaml h in
theorem run_kept (ops : List StoreOp) : OptionsKept (run (Store.step I yaml) s ops).options :=
  @run_preserves _ _ (Store.step I yaml) (fun s => OptionsKept s.options)
    (fun _ op hs => step_kept hyaml hs op) s h ops

end

/-! ## One edit -/

/-- What is visible once a recipe has taken the place of the one under a name. -/
def moved (v : Collection String RecipeDict) (old : String) (r : RecipeDict) :
    Collection String RecipeDict :=
  Function.update (Function.update v old none) r.name (some r)

/-- The recipe selected once a name has given way to another. -/
def renamed (selected : Option String) (old new : String) : Option String :=
  if selected = some old then some new else selected

/-- A name that another recipe has. -/
def Taken (v : Collection String RecipeDict) (old new : String) : Prop :=
  new ≠ old ∧ (v new).isSome = true

section
variable {s : Store} {n : String} {r validated : RecipeDict} {changes : PyMap}

theorem editResolved_refused {e : Invalid}
    (hv : recipeSchema I.texts (.dict (stripProtectedRecipeFields changes ++ r.entries)) = .error e) :
    editResolved I yaml s (n, r) changes = (s, .invalidRecipe e) := by
  simp only [editResolved, hv]

theorem editResolved_taken
    (hv : recipeSchema I.texts (.dict (stripProtectedRecipeFields changes ++ r.entries)) =
      .ok validated) (htaken : Taken (view yaml s) n validated.name) :
    editResolved I yaml s (n, r) changes = (s, .nameTaken validated.name) := by
  have htaken' : validated.name ≠ n ∧ (s.visible yaml).contains validated.name = true := htaken
  simp only [editResolved, hv]
  exact if_pos htaken'

/-- **An edit that goes through** moves the recipe to its name. -/
theorem editResolved_done
    (hv : recipeSchema I.texts (.dict (stripProtectedRecipeFields changes ++ r.entries)) =
      .ok validated) (hfree : ¬ Taken (view yaml s) n validated.name) :
    (editResolved I yaml s (n, r) changes).2 = .success validated.uid validated.name ∧
      view yaml (editResolved I yaml s (n, r) changes).1 = moved (view yaml s) n validated ∧
      (editResolved I yaml s (n, r) changes).1.selectedRecipe =
        renamed s.selectedRecipe n validated.name := by
  have hfree' : ¬ (validated.name ≠ n ∧ (s.visible yaml).contains validated.name = true) := hfree
  simp only [editResolved, hv, if_neg hfree']
  refine ⟨trivial, ?_, rfl⟩
  by_cases hname : validated.name = n
  · rw [if_neg (not_not.mpr hname), view_insert s, moved, hname, Function.update_idem]
  · rw [if_pos hname, view_insert ⟨dropName yaml s.options n, none⟩, view_dropName, moved]

end

/-- **What an edit can do to a recipe of the store**: nothing, when it changes nothing; what it names, when
it goes through; and otherwise a change is to blame. -/
structure Editable (I : Identifiers) (yaml : YamlLayer) (s : Store) (n : String) (r : RecipeDict) :
    Prop where
  unchanged : (editResolved I yaml s (n, r) []).2 = .success r.uid n ∧
    view yaml (editResolved I yaml s (n, r) []).1 = view yaml s ∧
    (editResolved I yaml s (n, r) []).1.selectedRecipe = s.selectedRecipe
  framed : ∀ changes uid name, (editResolved I yaml s (n, r) changes).2 = .success uid name →
    ∃ r', view yaml (editResolved I yaml s (n, r) changes).1 = moved (view yaml s) n r' ∧
      r'.name = name ∧
      ∀ key, (stripProtectedRecipeFields changes).lookup key = none →
        r'.entries.lookup key = r.entries.lookup key
  blamed : ∀ changes e, (editResolved I yaml s (n, r) changes).2 = .invalidRecipe e →
    Blames (stripProtectedRecipeFields changes) e

theorem editable_of_kept {s : Store} {n : String} {r : RecipeDict} (hr : view yaml s n = some r)
    (h : Kept n r) : Editable I yaml s n r := by
  have hread : RecipeRead I.texts r.entries r := recipeRead_entries h.storable
  refine ⟨?_, ?_, ?_⟩
  · have hv : recipeSchema I.texts (.dict (stripProtectedRecipeFields [] ++ r.entries)) = .ok r :=
      recipeSchema_fits.complete h.storable
    have hfree : ¬ Taken (view yaml s) n r.name := fun htaken => htaken.1 h.named
    obtain ⟨hresult, hview, hselected⟩ := editResolved_done hv hfree
    refine ⟨h.named ▸ hresult, ?_, ?_⟩
    · rw [hview, moved, h.named, Function.update_idem, ← hr, Function.update_eq_self]
    · rw [hselected, renamed, h.named]
      split
      · rename_i hsel
        exact hsel.symm
      · rfl
  · intro changes uid name hsuccess
    cases hv : recipeSchema I.texts (.dict (stripProtectedRecipeFields changes ++ r.entries)) with
    | error e =>
      rw [editResolved_refused hv] at hsuccess
      cases hsuccess
    | ok validated =>
      by_cases htaken : Taken (view yaml s) n validated.name
      · rw [editResolved_taken hv htaken] at hsuccess
        cases hsuccess
      · obtain ⟨hresult, hview, _⟩ := editResolved_done hv htaken
        rw [hresult] at hsuccess
        cases hsuccess
        obtain ⟨m, hm, hread'⟩ := recipeSchema_eq_ok hv
        cases hm
        exact ⟨validated, hview, rfl, fun key hkey => entries_below hread hread' hkey⟩
  · intro changes e hinvalid
    cases hv : recipeSchema I.texts (.dict (stripProtectedRecipeFields changes ++ r.entries)) with
    | error e' =>
      rw [editResolved_refused hv] at hinvalid
      cases hinvalid
      exact recipeSchema_blames (noExtraKeys_entries r) hread hv
    | ok validated =>
      by_cases htaken : Taken (view yaml s) n validated.name
      · rw [editResolved_taken hv htaken] at hinvalid
        cases hinvalid
      · rw [(editResolved_done hv htaken).1] at hinvalid
        cases hinvalid

/-- **Stored recipes stay editable.**  After any operations on the store, through the coordinator and
through the options flow: every visible recipe can be edited, an edit without changes leaves the store as
it is, one that goes through leaves every field it does not name, and one that is refused as invalid is
refused for a field it names. -/
theorem stored_recipes_editable (I : Identifiers) (yaml : YamlLayer) (hyaml : yaml.Storable) (s : Store)
    (hs : OptionsKept s.options) (ops : List StoreOp) {n : String} {r : RecipeDict}
    (hr : view yaml (run (Store.step I yaml) s ops) n = some r) :
    Editable I yaml (run (Store.step I yaml) s ops) n r :=
  editable_of_kept hr (view_kept hyaml (run_kept hyaml hs ops) hr)

/-- The recipe of the examples went through the schema. -/
theorem morning_storable : morningYaml.Storable := by
  intro n r h
  have hget : (Dict.empty.insert "Morning" morningRecipe).get? n = some r := h
  rw [Dict.get?_insert] at hget
  split at hget
  · obtain rfl := Option.some.inj hget
    intro p hp
    rw [List.mem_singleton.mp hp]
    exact ⟨by decide, by decide, by decide, by decide⟩
  · cases hget

/-- A service edits the YAML recipe, which so becomes a stored one. -/
theorem morning_editable :
    Editable plainIdentifiers morningYaml
      (run (Store.step plainIdentifiers morningYaml) noRecipesSaved
        [.edit "Morning" [("rpm", .int 100)] none "4f1c0a9b7d21"])
      "Morning" { morningRecipe with rpm := 100 } :=
  stored_recipes_editable plainIdentifiers morningYaml morning_storable noRecipesSaved
    (fun _ _ h => by cases h) [.edit "Morning" [("rpm", .int 100)] none "4f1c0a9b7d21"]
    (by decide +kernel)

/-! ## Two edits -/

theorem stripProtectedRecipeFields_append (m m' : PyMap) :
    stripProtectedRecipeFields (m ++ m') =
      stripProtectedRecipeFields m ++ stripProtectedRecipeFields m' := List.filter_append _ _

/-- A recipe that moves twice might as well have moved once. -/
theorem moved_moved {v : Collection String RecipeDict} {n : String} {r r' : RecipeDict}
    (hfree : ¬ Taken v n r.name) : moved (moved v n r) r.name r' = moved v n r' := by
  funext m
  unfold moved
  by_cases hlast : m = r'.name
  · rw [hlast, Function.update_self, Function.update_self]
  rw [Function.update_of_ne hlast, Function.update_of_ne hlast]
  by_cases hmid : m = r.name
  · -- the name in the middle was free, or is where the recipe came from
    rw [hmid, Function.update_self]
    by_cases hsame : r.name = n
    · rw [hsame, Function.update_self]
    · rw [Function.update_of_ne hsame]
      have hnone : (v r.name).isSome ≠ true := fun hsome => hfree ⟨hsame, hsome⟩
      exact (Option.not_isSome_iff_eq_none.mp hnone).symm
  · rw [Function.update_of_ne hmid, Function.update_of_ne hmid]

/-- A name is taken after a move if and only if it was before. -/
theorem taken_moved {v : Collection String RecipeDict} {n : String} {r : RecipeDict}
    (hfree : ¬ Taken v n r.name) (new : String) :
    Taken (moved v n r) r.name new ↔ Taken v n new := by
  unfold Taken moved
  constructor
  · rintro ⟨hne, hsome⟩
    rw [Function.update_of_ne hne] at hsome
    by_cases hn : new = n
    · rw [hn, Function.update_self] at hsome
      cases hsome
    · rw [Function.update_of_ne hn] at hsome
      exact ⟨hn, hsome⟩
  · rintro ⟨hn, hsome⟩
    have hne : new ≠ r.name := fun heq => hfree ⟨heq ▸ hn, heq ▸ hsome⟩
    refine ⟨hne, ?_⟩
    rw [Function.update_of_ne hne, Function.update_of_ne hn]
    exact hsome

/-- The selection follows both moves, unless it pointed at nothing. -/
theorem renamed_renamed {selected : Option String} {n m k : String}
    (h : selected = some m → m = n) : renamed (renamed selected n m) m k = renamed selected n k := by
  unfold renamed
  by_cases hn : selected = some n
  · rw [if_pos hn, if_pos rfl, if_pos hn]
  · rw [if_neg hn, if_neg hn]
    by_cases hm : selected = some m
    · exact absurd (hm.trans (congrArg some (h hm))) hn
    · rw [if_neg hm]

section
variable {s : Store} {n : String} {r validated : RecipeDict}

/-- A second edit validates the way one edit with both changes does. -/
theorem recipeSchema_twice {first second : PyMap}
    (hfirst : recipeSchema I.texts (.dict (stripProtectedRecipeFields first ++ r.entries)) =
      .ok validated) :
    recipeSchema I.texts (.dict (stripProtectedRecipeFields second ++ validated.entries)) =
      recipeSchema I.texts (.dict (stripProtectedRecipeFields (second ++ first) ++ r.entries)) := by
  obtain ⟨m, hm, hread⟩ := recipeSchema_eq_ok hfirst
  cases hm
  have hkeys : noExtraKeys (stripProtectedRecipeFields first ++ r.entries) recipeKeys = .ok () := by
    unfold recipeSchema at hfirst
    obtain ⟨_, hkeys, _⟩ := bind_eq_ok.mp hfirst
    exact hkeys
  rw [stripProtectedRecipeFields_append, List.append_assoc]
  exact recipeSchema_below (noExtraKeys_entries validated) hkeys
    (recipeRead_entries (recipeSchema_fits.sound hfirst)) hread _

/-- What an edit answers, and what is visible after it when it goes through. -/
theorem editResolved_twice {first second : PyMap}
    (hfirst : recipeSchema I.texts (.dict (stripProtectedRecipeFields first ++ r.entries)) =
      .ok validated) (hfree : ¬ Taken (view yaml s) n validated.name) {s₁ : Store}
    (hs₁ : s₁ = (editResolved I yaml s (n, r) first).1) :
    (editResolved I yaml s₁ (validated.name, validated) second).2 =
        (editResolved I yaml s (n, r) (second ++ first)).2 ∧
      ∀ uid name, (editResolved I yaml s (n, r) (second ++ first)).2 = .success uid name →
        view yaml (editResolved I yaml s₁ (validated.name, validated) second).1 =
            view yaml (editResolved I yaml s (n, r) (second ++ first)).1 ∧
          ((s.selectedRecipe = some validated.name → validated.name = n) →
            (editResolved I yaml s₁ (validated.name, validated) second).1.selectedRecipe =
              (editResolved I yaml s (n, r) (second ++ first)).1.selectedRecipe) := by
  obtain ⟨_, hview, hselected⟩ := editResolved_done hfirst hfree
  rw [← hs₁] at hview hselected
  have hsame := @recipeSchema_twice I r validated first second hfirst
  cases hv : recipeSchema I.texts (.dict (stripProtectedRecipeFields (second ++ first) ++ r.entries)) with
  | error e =>
    rw [editResolved_refused hv, editResolved_refused (hsame.trans hv)]
    exact ⟨rfl, fun _ _ h => by cases h⟩
  | ok last =>
    have hiff := taken_moved hfree last.name
    rw [← hview] at hiff
    by_cases htaken : Taken (view yaml s) n last.name
    · rw [editResolved_taken hv htaken, editResolved_taken (hsame.trans hv) (hiff.mpr htaken)]
      exact ⟨rfl, fun _ _ h => by cases h⟩
    · obtain ⟨honce, hviewOnce, hselOnce⟩ := editResolved_done hv htaken
      obtain ⟨htwice, hviewTwice, hselTwice⟩ :=
        editResolved_done (hsame.trans hv) (fun h => htaken (hiff.mp h))
      refine ⟨htwice.trans honce.symm, fun _ _ _ => ⟨?_, fun hsel => ?_⟩⟩
      · rw [hviewTwice, hviewOnce, hview, moved_moved hfree]
      · rw [hselTwice, hselOnce, hselected, renamed_renamed hsel]

end

/-- An edit of a recipe that its uid finds. -/
theorem editLocalRecipe_found {s : Store} {identifier : String} {resolved : String × RecipeDict}
    (hfind : findRecipe I (s.visible yaml) identifier = some resolved) (changes : PyMap)
    (fetched : Option PyVal) (uid : String) :
    editLocalRecipe I yaml s identifier changes fetched uid = editResolved I yaml s resolved changes := by
  simp only [editLocalRecipe, hfind]

/-- **Edits add up.**  In a store whose recipes are kept under their names with uids of their own: an edit
by uid that goes through, followed by another, answers what one edit with both changes would have answered
(the later change of a field counts), and leaves the same recipes visible and the same one selected. -/
theorem edits_compose (I : Identifiers) (yaml : YamlLayer) (s : Store)
    (hs : WellKept keying (view yaml s)) {n uid : String} {r : RecipeDict}
    (hr : view yaml s n = some r) (huid : r.uid = some uid) (hstrip : strip uid = uid) (hne : uid ≠ "")
    (first second : PyMap) (fetched : Option PyVal) (fresh : String) {name : String} {s₁ : Store}
    (hfirst : editLocalRecipe I yaml s uid first fetched fresh = (s₁, .success (some uid) name)) :
    (editLocalRecipe I yaml s₁ uid second fetched fresh).2 =
        (editLocalRecipe I yaml s uid (second ++ first) fetched fresh).2 ∧
      ∀ u last, (editLocalRecipe I yaml s uid (second ++ first) fetched fresh).2 = .success u last →
        view yaml (editLocalRecipe I yaml s₁ uid second fetched fresh).1 =
            view yaml (editLocalRecipe I yaml s uid (second ++ first) fetched fresh).1 ∧
          ((∀ m, s.selectedRecipe = some m → (view yaml s m).isSome = true) →
            (editLocalRecipe I yaml s₁ uid second fetched fresh).1.selectedRecipe =
              (editLocalRecipe I yaml s uid (second ++ first) fetched fresh).1.selectedRecipe) := by
  have hfind := finds_of_wellKept (I := I) hs hr huid hstrip hne
  rw [editLocalRecipe_found hfind] at hfirst
  cases hv : recipeSchema I.texts (.dict (stripProtectedRecipeFields first ++ r.entries)) with
  | error e =>
    rw [editResolved_refused hv] at hfirst
    cases hfirst
  | ok validated =>
    by_cases htaken : Taken (view yaml s) n validated.name
    · rw [editResolved_taken hv htaken] at hfirst
      cases hfirst
    · obtain ⟨_, hview, _⟩ := editResolved_done hv htaken
      have hs₁ : s₁ = (editResolved I yaml s (n, r) first).1 := by rw [hfirst]
      rw [← hs₁] at hview
      -- the recipe is still the one its uid finds
      have huid' : validated.uid = some uid := (recipeSchema_edit_uid hv).trans huid
      have hget : view yaml s₁ validated.name = some validated := by
        rw [hview, moved, Function.update_self]
      have hfind' : findRecipe I (s₁.visible yaml) uid = some (validated.name, validated) := by
        refine findRecipe_uid I hget huid' hstrip hne fun m r' hr' hru => ?_
        have hm : view yaml s₁ m = some r' := hr'
        rw [hview] at hm
        rcases update_eq_some hm with ⟨heq, _⟩ | ⟨_, hold⟩
        · exact heq
        · obtain ⟨hmn, hold⟩ := update_none_eq_some hold
          exact absurd (hs.distinct m n r' r hold hr (hru.trans huid.symm)) hmn
      obtain ⟨hresult, hsuccess⟩ := @editResolved_twice I yaml s n r validated first second hv htaken s₁ hs₁
      rw [editLocalRecipe_found hfind, editLocalRecipe_found hfind']
      refine ⟨hresult, fun u last hlast => ?_⟩
      obtain ⟨hsame, hselected⟩ := hsuccess u last hlast
      refine ⟨hsame, fun hshown => hselected fun hsel => ?_⟩
      by_contra hne'
      exact htaken ⟨hne', hshown _ hsel⟩

/-- The YAML recipe is given another speed, and then another name. -/
theorem morning_composed :
    (editLocalRecipe plainIdentifiers morningYaml
        (editLocalRecipe plainIdentifiers morningYaml noRecipesSaved "yaml-8d3f2a10"
          [("rpm", .int 100)] none "4f1c0a9b7d21").1
        "yaml-8d3f2a10" [("name", .str "Evening")] none "4f1c0a9b7d21").2 =
      (editLocalRecipe plainIdentifiers morningYaml noRecipesSaved "yaml-8d3f2a10"
        [("name", .str "Evening"), ("rpm", .int 100)] none "4f1c0a9b7d21").2 :=
  (edits_compose plainIdentifiers morningYaml noRecipesSaved noRecipesSaved_wellKept
    (n := "Morning") (r := morningRecipe) (by decide +kernel) rfl (by decide +kernel) (by decide)
    [("rpm", .int 100)] [("name", .str "Evening")] none "4f1c0a9b7d21"
    (Prod.ext rfl (by decide +kernel))).1

end XBloom.Recipe
