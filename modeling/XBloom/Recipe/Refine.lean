/-
# XBloom.Recipe.Refine — the store as a keyed collection

What a user sees of the two layers is a collection of recipes under their names (`view`).  Every
coordinator operation, whatever it does to the options map and its tombstones, is a run of legal
changes of that collection (`Refines`, `coordinator_refines`): creating, importing and saving pods
*add*, editing *replaces* or *renames*, deleting *removes*.

The options flow's steps are not; what they do to the view is in `XBloom.Recipe.Flow`.
-/
import XBloom.Logic.Keyed
import XBloom.Recipe.Store

namespace XBloom.Recipe

open XBloom.Py XBloom.Logic

/-! ## The view -/

/-- Recipes are kept under their name and recognised by their uid. -/
def keying : Keying String RecipeDict String := ⟨RecipeDict.name, RecipeDict.uid⟩

variable (I : Identifiers) (yaml : YamlLayer)

/-- What each name shows. -/
def view (s : Store) : Collection String RecipeDict := fun n => (s.visible yaml).get? n

variable {yaml}

theorem view_apply (s : Store) (n : String) :
    view yaml s n = (s.options.get? n).getD (yaml.recipes.get? n) := Dict.get?_overlay _ _ _

theorem contains_eq_isSome (s : Store) (n : String) :
    (s.visible yaml).contains n = (view yaml s n).isSome := rfl

theorem view_eq_none_of_not_contains {s : Store} {n : String}
    (h : ¬ (s.visible yaml).contains n = true) : view yaml s n = none := by
  rw [contains_eq_isSome, Option.isSome_iff_ne_none, not_not] at h
  exact h

/-- Storing a recipe shows it. -/
theorem view_insert (s : Store) (n : String) (r : RecipeDict) (sel : Option String) :
    view yaml ⟨s.options.insert n (some r), sel⟩ = Function.update (view yaml s) n (some r) := by
  funext m
  rw [view_apply, Dict.get?_insert, Function.update_apply, view_apply]
  by_cases h : m = n
  · rw [if_pos h, if_pos h, Option.getD_some]
  · rw [if_neg h, if_neg h]

/-- The recipes a loop goes by stay those its options show. -/
theorem get?_insert_eq_view {options : Dict String (Option RecipeDict)} {visible : Dict String RecipeDict}
    {sel : Option String} (h : ∀ n, visible.get? n = view yaml ⟨options, sel⟩ n) (r : RecipeDict)
    (n : String) : (visible.insert r.name r).get? n =
      view yaml ⟨options.insert r.name (some r), sel⟩ n := by
  rw [view_insert ⟨options, sel⟩, Dict.get?_insert, Function.update_apply, h]

/-- Dropping a name hides it, whatever lies under it. -/
theorem view_dropName (s : Store) (n : String) (sel : Option String) :
    view yaml ⟨dropName yaml s.options n, sel⟩ = Function.update (view yaml s) n none := by
  funext m
  rw [view_apply, Function.update_apply, view_apply]
  unfold dropName
  by_cases hy : yaml.recipes.contains n = true
  · simp only [if_pos hy, Dict.get?_insert, Dict.get?_erase]
    by_cases h : m = n
    · rw [if_pos h, if_pos h, Option.getD_some]
    · rw [if_neg h, if_neg h, if_neg h]
  · simp only [if_neg hy, Dict.get?_erase]
    by_cases h : m = n
    · have hnone : yaml.recipes.get? n = none := by
        rw [Dict.contains, Option.isSome_iff_ne_none, not_not] at hy
        exact hy
      rw [if_pos h, if_pos h, h, hnone, Option.getD_none]
    · rw [if_neg h, if_neg h]

/-! ## What operations are about -/

/-- The names a result reports. -/
def resultNames : StoreResult → List String
  | .success _ name => [name]
  | .saved names => names
  | _ => []

variable (yaml)

/-- The name of the recipe an operation is about, when it is about one that exists. -/
def subject (s : Store) : StoreOp → Option String
  | .edit identifier _ _ _ => (findRecipe I (s.visible yaml) identifier).map Prod.fst
  | .delete identifier => (findRecipe I (s.visible yaml) identifier).map Prod.fst
  | .exportCloud identifier _ => (findRecipe I (s.visible yaml) identifier).map Prod.fst
  | .flowEdit editing _ => some editing
  | .flowDelete name => some name
  | _ => none

/-- The names an operation explicitly creates, imports, saves or renames a recipe to. -/
def introduces (s : Store) (op : StoreOp) : List String :=
  let names := resultNames (s.apply I yaml op).2
  match op with
  | .delete _ => []
  | .exportCloud _ _ => []
  | .flowDelete _ => []
  | .flowEdit editing _ => names.filter fun n => decide (n ≠ editing)
  | .edit identifier _ fetched uid =>
    match findRecipe I (s.visible yaml) identifier with
    | some resolved => names.filter fun n => decide (n ≠ resolved.1)
    | none => names ++ resultNames (importCloudRecipe I yaml s identifier fetched uid).2
  | _ => names

/-- The uids an operation may mint, in the order it would. -/
def mints : StoreOp → List String
  | .create _ uid => [uid]
  | .edit _ _ _ uid => [uid]
  | .importCloud _ _ uid => [uid]
  | .savePod recipes => recipes.map Prod.snd
  | .flowAdd _ uid => [uid]
  | _ => []

/-- What `new_recipe_uid` promises of the uids an operation mints: twelve hex characters each, no two
alike, none in use. -/
structure Fresh (s : Store) (op : StoreOp) : Prop where
  nodup : (mints op).Nodup
  unused : ∀ u ∈ mints op, FreshIdent keying (view yaml s) u
  unusedYaml : ∀ u ∈ mints op, FreshIdent keying yaml.recipes.get? u
  token : ∀ u ∈ mints op, strip u = u ∧ u ≠ ""

/-- **An operation is a run of legal changes** of what is visible, about the names it says: what it
introduces it introduces explicitly, and with fresh uids it is about no recipe but its subject. -/
structure Refines (s : Store) (op : StoreOp) (cs : List (Change String RecipeDict)) : Prop where
  view : view yaml (s.step I yaml op) = run (Change.apply keying) (view yaml s) cs
  legal : AllSteps (Change.apply keying) (fun v c => c.Legal keying v) (XBloom.Recipe.view yaml s) cs
  introduces : ∀ c ∈ cs, ∀ n ∈ c.introduces keying, n ∈ introduces I yaml s op
  subjects : Fresh yaml s op → ∀ c ∈ cs, ∀ n ∈ c.subjects,
    subject I yaml s op = some n ∨ XBloom.Recipe.view yaml s n = none
  mints : (cs.flatMap (Change.mints keying)).Sublist (mints op)

variable {I yaml} {s : Store}

/-- Nothing happened. -/
theorem refines_unchanged {op : StoreOp} (h : s.step I yaml op = s) : Refines I yaml s op [] where
  view := by rw [h]; rfl
  legal := trivial
  introduces := fun c hc => absurd hc List.not_mem_nil
  subjects := fun _ c hc => absurd hc List.not_mem_nil
  mints := List.nil_sublist _

/-- One new recipe. -/
theorem refines_add {op : StoreOp} {r : RecipeDict} {uid : String}
    (hview : view yaml (s.step I yaml op) = Function.update (view yaml s) r.name (some r))
    (hfree : view yaml s r.name = none) (huid : r.uid = some uid)
    (hintro : r.name ∈ introduces I yaml s op) (hmint : mints op = [uid]) :
    Refines I yaml s op [.add r] where
  view := hview
  legal := ⟨⟨hfree, uid, huid⟩, trivial⟩
  introduces := by
    intro c hc n hn
    rw [List.mem_singleton.mp hc] at hn
    rw [List.mem_singleton.mp hn]
    exact hintro
  subjects := by
    intro _ c hc n hn
    rw [List.mem_singleton.mp hc] at hn
    exact absurd hn List.not_mem_nil
  mints := by
    rw [hmint]
    show ([Change.add r].flatMap (Change.mints keying)).Sublist [uid]
    have huid' : keying.ident r = some uid := huid
    simp [Change.mints, huid']

/-- A recipe keeps its place and its uid. -/
theorem refines_replace {op : StoreOp} {n : String} {r r₀ : RecipeDict}
    (hview : view yaml (s.step I yaml op) = Function.update (view yaml s) n (some r))
    (hold : view yaml s n = some r₀) (hname : r.name = n ∨ r.name = r₀.name) (huid : r.uid = r₀.uid)
    (hsubject : subject I yaml s op = some n) : Refines I yaml s op [.replace n r] where
  view := hview
  legal := ⟨⟨r₀, hold, hname, huid⟩, trivial⟩
  introduces := by
    intro c hc m hm
    rw [List.mem_singleton.mp hc] at hm
    exact absurd hm List.not_mem_nil
  subjects := by
    intro _ c hc m hm
    rw [List.mem_singleton.mp hc] at hm
    rw [List.mem_singleton.mp hm]
    exact Or.inl hsubject
  mints := List.nil_sublist _

/-- A recipe moves to a free name and keeps its uid. -/
theorem refines_rename {op : StoreOp} {r r₀ : RecipeDict} {old : String}
    (hview : view yaml (s.step I yaml op) =
      Function.update (Function.update (view yaml s) old none) r.name (some r))
    (hfree : view yaml s r.name = none) (hold : view yaml s old = some r₀) (huid : r.uid = r₀.uid)
    (hsubject : subject I yaml s op = some old) (hintro : r.name ∈ introduces I yaml s op) :
    Refines I yaml s op [.rename old r] where
  view := hview
  legal := ⟨⟨hfree, r₀, hold, huid⟩, trivial⟩
  introduces := by
    intro c hc n hn
    rw [List.mem_singleton.mp hc] at hn
    rw [List.mem_singleton.mp hn]
    exact hintro
  subjects := by
    intro _ c hc n hn
    rw [List.mem_singleton.mp hc] at hn
    rw [List.mem_singleton.mp hn]
    exact Or.inl hsubject
  mints := List.nil_sublist _

/-- A name is emptied. -/
theorem refines_remove {op : StoreOp} {n : String}
    (hview : view yaml (s.step I yaml op) = Function.update (view yaml s) n none)
    (hsubject : subject I yaml s op = some n) : Refines I yaml s op [.remove n] where
  view := hview
  legal := ⟨trivial, trivial⟩
  introduces := by
    intro c hc m hm
    rw [List.mem_singleton.mp hc] at hm
    exact absurd hm List.not_mem_nil
  subjects := by
    intro _ c hc m hm
    rw [List.mem_singleton.mp hc] at hm
    rw [List.mem_singleton.mp hm]
    exact Or.inl hsubject
  mints := List.nil_sublist _

/-! ## The coordinator's operations -/

/-- A free name by `dedupe_name` shows nothing. -/
theorem view_dedupeName (s : Store) (name : String) :
    view yaml s (dedupeName name (s.visible yaml).keys) = none := get?_dedupeName (s.visible yaml) name

/-- Storing a new recipe under a deduplicated name. -/
structure Stores (yaml : YamlLayer) (s s' : Store) (r : RecipeDict) (uid : String) : Prop where
  view : view yaml s' = Function.update (XBloom.Recipe.view yaml s) r.name (some r)
  free : XBloom.Recipe.view yaml s r.name = none
  uid : r.uid = some uid

theorem stores_insert (s : Store) (r : RecipeDict) (name uid source : String) :
    let r' := r.saveAs (dedupeName name (s.visible yaml).keys) uid source
    Stores yaml s { s with options := s.options.insert r'.name (some r') } r' uid where
  view := view_insert s _ _ _
  free := view_dedupeName s name
  uid := rfl

theorem createLocalRecipe_cases (s : Store) (recipe : PyMap) (uid : String) :
    ((createLocalRecipe I yaml s recipe uid).1 = s ∧
      resultNames (createLocalRecipe I yaml s recipe uid).2 = []) ∨
    ∃ r, Stores yaml s (createLocalRecipe I yaml s recipe uid).1 r uid ∧
      (createLocalRecipe I yaml s recipe uid).2 = .success (some uid) r.name := by
  unfold createLocalRecipe
  cases recipeSchema I.texts (.dict (stripProtectedRecipeFields recipe)) with
  | error e => exact Or.inl ⟨rfl, rfl⟩
  | ok validated => exact Or.inr ⟨_, stores_insert s validated validated.name uid "manual", rfl⟩

theorem importCloudRecipe_cases (s : Store) (ref : String) (fetched : Option PyVal) (uid : String) :
    ((importCloudRecipe I yaml s ref fetched uid).1 = s ∧
      ∀ u n, (importCloudRecipe I yaml s ref fetched uid).2 ≠ .success u n) ∨
    ∃ r, Stores yaml s (importCloudRecipe I yaml s ref fetched uid).1 r uid ∧
      (importCloudRecipe I yaml s ref fetched uid).2 = .success (some uid) r.name := by
  unfold importCloudRecipe
  cases fetched with
  | none => exact Or.inl ⟨rfl, fun u n h => by cases h⟩
  | some localRaw =>
    cases hschema : recipeSchema I.texts localRaw with
    | error e =>
      left
      simp only [hschema]
      exact ⟨trivial, fun u n h => by cases h⟩
    | ok validated =>
      right
      simp only [hschema]
      exact ⟨_, stores_insert s
        { validated with shareUrl := some (validated.shareUrl.getD (importShareUrl ref)) }
        validated.name uid "import", rfl⟩

/-- Stripping drops the uid. -/
theorem lookup_strip_uid (m : PyMap) : (stripProtectedRecipeFields m).lookup "uid" = none := by
  rw [List.lookup_eq_none_iff]
  intro e he
  have hkept : e.1 ∉ recipeProtectedFields := of_decide_eq_true (List.mem_filter.mp he).2
  have hne : e.1 ≠ "uid" := fun h => hkept (h ▸ List.mem_cons_self)
  exact bne_iff_ne.mpr (Ne.symm hne)

/-- The uid an edit validates is the current recipe's. -/
theorem lookup_uid_edit (changes : PyMap) (r : RecipeDict) :
    (stripProtectedRecipeFields changes ++ r.entries).lookup "uid" = r.uid.map .str := by
  rw [List.lookup_append, lookup_strip_uid, Option.none_or]
  unfold RecipeDict.entries
  cases r.uid with
  | some u => rfl
  | none => cases r.cloudTableId <;> cases r.shareUrl <;> cases r.source <;> rfl

/-- The uid of an accepted mapping is its `uid` key's. -/
theorem recipeSchema_uid {m : PyMap} {r : RecipeDict} (h : recipeSchema I.texts (.dict m) = .ok r) :
    Py.optional m "uid" (cvString I.texts) = .ok r.uid := by
  obtain ⟨m', heq, hread⟩ := recipeSchema_eq_ok h
  obtain rfl := PyVal.dict.inj heq
  exact hread.uid

/-- **An edit keeps the uid**, whatever the changes mapping says about it. -/
theorem recipeSchema_edit_uid {changes : PyMap} {r validated : RecipeDict}
    (h : recipeSchema I.texts (.dict (stripProtectedRecipeFields changes ++ r.entries)) =
      .ok validated) : validated.uid = r.uid := by
  have huid := recipeSchema_uid h
  unfold Py.optional at huid
  rw [lookup_uid_edit] at huid
  cases hr : r.uid with
  | none =>
    rw [hr] at huid
    exact (Except.ok.inj huid).symm
  | some u =>
    rw [hr] at huid
    exact (Except.ok.inj huid).symm

/-- A mapping without its protected fields is accepted without a uid. -/
theorem recipeSchema_strip_uid {m : PyMap} {r : RecipeDict}
    (h : recipeSchema I.texts (.dict (stripProtectedRecipeFields m)) = .ok r) : r.uid = none := by
  have huid := recipeSchema_uid h
  unfold Py.optional at huid
  rw [lookup_strip_uid] at huid
  exact (Except.ok.inj huid).symm

/-- What an edit of a resolved recipe does: nothing, replace it, or rename it to a free name. -/
theorem editResolved_cases (s : Store) (resolved : String × RecipeDict) (changes : PyMap) :
    ((editResolved I yaml s resolved changes).1 = s ∧
      resultNames (editResolved I yaml s resolved changes).2 = []) ∨
    ∃ r, r.uid = resolved.2.uid ∧
      resultNames (editResolved I yaml s resolved changes).2 = [r.name] ∧
      ((r.name = resolved.1 ∧ view yaml (editResolved I yaml s resolved changes).1 =
          Function.update (view yaml s) r.name (some r)) ∨
       (r.name ≠ resolved.1 ∧ view yaml s r.name = none ∧
        view yaml (editResolved I yaml s resolved changes).1 =
          Function.update (Function.update (view yaml s) resolved.1 none) r.name (some r))) := by
  unfold editResolved
  cases hschema : recipeSchema I.texts
      (.dict (stripProtectedRecipeFields changes ++ resolved.2.entries)) with
  | error e => exact Or.inl ⟨rfl, rfl⟩
  | ok validated =>
    have huid := recipeSchema_edit_uid hschema
    -- a rename to a name that shows a recipe is refused
    by_cases htaken : validated.name ≠ resolved.1 ∧ (s.visible yaml).contains validated.name = true
    · left
      simp only [if_pos htaken]
      exact ⟨trivial, rfl⟩
    · right
      simp only [if_neg htaken]
      refine ⟨validated, huid, rfl, ?_⟩
      by_cases hname : validated.name = resolved.1
      · left
        refine ⟨hname, ?_⟩
        rw [if_neg (not_not.mpr hname)]
        exact view_insert s _ _ _
      · right
        have hfree := view_eq_none_of_not_contains fun hc => htaken ⟨hname, hc⟩
        refine ⟨hname, hfree, ?_⟩
        rw [if_pos hname]
        rw [view_insert ⟨dropName yaml s.options resolved.1, none⟩, view_dropName]

/-! ## Every coordinator operation refines -/

theorem createLocalRecipe_refines (s : Store) (recipe : PyMap) (uid : String) :
    ∃ cs, Refines I yaml s (.create recipe uid) cs := by
  rcases @createLocalRecipe_cases I yaml s recipe uid with ⟨h, _⟩ | ⟨r, h, hres⟩
  · exact ⟨[], refines_unchanged h⟩
  · refine ⟨_, refines_add h.view h.free h.uid ?_ rfl⟩
    show r.name ∈ resultNames (createLocalRecipe I yaml s recipe uid).2
    rw [hres]
    exact List.mem_cons_self

theorem importCloudRecipe_refines (s : Store) (ref : String) (fetched : Option PyVal)
    (uid : String) : ∃ cs, Refines I yaml s (.importCloud ref fetched uid) cs := by
  rcases @importCloudRecipe_cases I yaml s ref fetched uid with
    ⟨h, _⟩ | ⟨r, h, hres⟩
  · exact ⟨[], refines_unchanged h⟩
  · refine ⟨_, refines_add h.view h.free h.uid ?_ rfl⟩
    show r.name ∈ resultNames (importCloudRecipe I yaml s ref fetched uid).2
    rw [hres]
    exact List.mem_cons_self

/-- An edit of a recipe that is there: the one of its name is replaced or renamed. -/
theorem editLocalRecipe_refines_found {s : Store} {identifier : String} {changes : PyMap}
    {fetched : Option PyVal} {uid : String} {resolved : String × RecipeDict}
    (hfind : findRecipe I (s.visible yaml) identifier = some resolved) :
    ∃ cs, Refines I yaml s (.edit identifier changes fetched uid) cs := by
  have hstep : s.step I yaml (.edit identifier changes fetched uid) =
      (editResolved I yaml s resolved changes).1 := by
    simp only [Store.step, Store.apply, editLocalRecipe, hfind]
  have hresult : (s.apply I yaml (.edit identifier changes fetched uid)).2 =
      (editResolved I yaml s resolved changes).2 := by
    simp only [Store.apply, editLocalRecipe, hfind]
  have hsubject : subject I yaml s (.edit identifier changes fetched uid) = some resolved.1 := by
    simp only [subject, hfind, Option.map_some]
  have hold : view yaml s resolved.1 = some resolved.2 := findRecipe_get? I hfind
  rcases @editResolved_cases I yaml s resolved changes with ⟨h, _⟩ | ⟨r, huid, hnames, h⟩
  · exact ⟨[], refines_unchanged (hstep.trans h)⟩
  · rcases h with ⟨hname, hview⟩ | ⟨hne, hfree, hview⟩
    · rw [← hstep, hname] at hview
      exact ⟨_, refines_replace hview hold (Or.inl hname) huid hsubject⟩
    · rw [← hstep] at hview
      refine ⟨_, refines_rename hview hfree hold huid hsubject ?_⟩
      simp only [introduces, hresult, hnames, hfind]
      exact List.mem_filter.mpr ⟨List.mem_cons_self, decide_eq_true hne⟩

/-- The recipe just imported is the one its uid finds. -/
theorem findRecipe_imported {s s' : Store} {imp : RecipeDict} {uid : String}
    (himp : Stores yaml s s' imp uid) (hunused : FreshIdent keying (view yaml s) uid)
    (htoken : strip uid = uid ∧ uid ≠ "") :
    findRecipe I (s'.visible yaml) uid = some (imp.name, imp) := by
  have hget : view yaml s' imp.name = some imp := by
    rw [himp.view, Function.update_self]
  refine findRecipe_uid I hget himp.uid htoken.1 htoken.2 ?_
  intro n r hr huid
  have hr' : view yaml s' n = some r := hr
  rw [himp.view] at hr'
  rcases update_eq_some hr' with ⟨hn, _⟩ | ⟨_, hold⟩
  · exact hn
  · exact absurd huid (hunused n r hold)

/-- An import and a further change to the recipe its uid finds. -/
theorem refines_add_then {s s' : Store} {op : StoreOp} {imp : RecipeDict} {uid : String}
    {resolved : String × RecipeDict} {c : Change String RecipeDict}
    (himp : Stores yaml s s' imp uid) (hmint : mints op = [uid])
    (hfind : findRecipe I (s'.visible yaml) uid = some resolved)
    (hview : view yaml (s.step I yaml op) = c.apply keying (view yaml s'))
    (hlegal : c.Legal keying (view yaml s')) (himpIntro : imp.name ∈ introduces I yaml s op)
    (hintro : ∀ n ∈ c.introduces keying, n ∈ introduces I yaml s op)
    (hsubjects : c.subjects = [resolved.1]) (hnomint : c.mints keying = []) :
    Refines I yaml s op [.add imp, c] where
  view := by
    rw [hview, himp.view]
    rfl
  legal := by
    refine ⟨⟨himp.free, uid, himp.uid⟩, ?_, trivial⟩
    rw [himp.view] at hlegal
    exact hlegal
  introduces := by
    intro c' hc' n hn
    rcases List.mem_cons.mp hc' with rfl | hc'
    · rw [List.mem_singleton.mp hn]
      exact himpIntro
    · rw [List.mem_singleton.mp hc'] at hn
      exact hintro n hn
  subjects := by
    intro hfresh c' hc' n hn
    have hmem : uid ∈ mints op := by rw [hmint]; exact List.mem_cons_self
    -- adding has no subject; the further change is about the import itself
    rcases List.mem_cons.mp hc' with rfl | hc'
    · exact absurd hn List.not_mem_nil
    · rw [List.mem_singleton.mp hc', hsubjects] at hn
      have hfound := @findRecipe_imported I yaml s s' imp uid himp (hfresh.unused uid hmem)
        (hfresh.token uid hmem)
      rw [hfind] at hfound
      rw [List.mem_singleton.mp hn, Option.some.inj hfound]
      exact Or.inr himp.free
  mints := by
    have huid : keying.ident imp = some uid := himp.uid
    rw [hmint]
    show ((keying.ident imp).toList ++ (c.mints keying ++ [])).Sublist [uid]
    rw [huid, hnomint]
    exact List.Sublist.refl _

/-- An edit of a share reference: the recipe is imported, and edited under its own uid. -/
theorem editLocalRecipe_refines_import {s : Store} {identifier : String} {changes : PyMap}
    {fetched : Option PyVal} {uid : String}
    (hfind : findRecipe I (s.visible yaml) identifier = none) :
    ∃ cs, Refines I yaml s (.edit identifier changes fetched uid) cs := by
  have hintro : ∀ n, n ∈ resultNames (s.apply I yaml (.edit identifier changes fetched uid)).2 ∨
      n ∈ resultNames (importCloudRecipe I yaml s identifier fetched uid).2 →
      n ∈ introduces I yaml s (.edit identifier changes fetched uid) := by
    intro n hn
    simp only [introduces, hfind]
    exact List.mem_append.mpr hn
  by_cases hshare : looksLikeShareRef I identifier = true
  · rcases @importCloudRecipe_cases I yaml s identifier fetched uid with ⟨h, hfail⟩ | ⟨imp, himp, hres⟩
    · -- the import failed, and the edit with it
      refine ⟨[], refines_unchanged ?_⟩
      simp only [Store.step, Store.apply, editLocalRecipe, hfind, if_pos hshare]
      split
      · rename_i s' u n heq
        exact absurd (congrArg Prod.snd heq) (hfail (some u) n)
      · exact h
    · have hpair : importCloudRecipe I yaml s identifier fetched uid =
          ((importCloudRecipe I yaml s identifier fetched uid).1, .success (some uid) imp.name) :=
        Prod.ext rfl hres
      have himpName : imp.name ∈ introduces I yaml s (.edit identifier changes fetched uid) :=
        hintro _ (Or.inr (by rw [hres]; exact List.mem_cons_self))
      generalize (importCloudRecipe I yaml s identifier fetched uid).1 = s' at hpair himp
      -- the import went through; its uid may find an older recipe first
      cases hfind' : findRecipe I (s'.visible yaml) uid with
      | none =>
        have hstep : s.step I yaml (.edit identifier changes fetched uid) = s' := by
          simp only [Store.step, Store.apply, editLocalRecipe, hfind, if_pos hshare, hpair, hfind']
        exact ⟨_, refines_add (by rw [hstep]; exact himp.view) himp.free himp.uid himpName rfl⟩
      | some resolved =>
        have happly : s.apply I yaml (.edit identifier changes fetched uid) =
            editResolved I yaml s' resolved changes := by
          simp only [Store.apply, editLocalRecipe, hfind, if_pos hshare, hpair, hfind']
        have hstep : s.step I yaml (.edit identifier changes fetched uid) =
            (editResolved I yaml s' resolved changes).1 := congrArg Prod.fst happly
        have hold : view yaml s' resolved.1 = some resolved.2 := findRecipe_get? I hfind'
        rcases @editResolved_cases I yaml s' resolved changes with ⟨h, _⟩ | ⟨r, huid, hnames, h⟩
        · exact ⟨_, refines_add (by rw [hstep, h]; exact himp.view) himp.free himp.uid himpName rfl⟩
        · have hname : r.name ∈ introduces I yaml s (.edit identifier changes fetched uid) :=
            hintro _ (Or.inl (by rw [happly, hnames]; exact List.mem_cons_self))
          rcases h with ⟨hsame, hview⟩ | ⟨_, hfree, hview⟩
          · rw [← hstep, hsame] at hview
            exact ⟨[.add imp, .replace resolved.1 r], refines_add_then himp rfl hfind' hview
              ⟨resolved.2, hold, Or.inl hsame, huid⟩ himpName
              (fun n hn => absurd hn List.not_mem_nil) rfl rfl⟩
          · rw [← hstep] at hview
            refine ⟨[.add imp, .rename resolved.1 r], refines_add_then himp rfl hfind' hview
              ⟨hfree, resolved.2, hold, huid⟩ himpName ?_ rfl rfl⟩
            intro n hn
            rw [List.mem_singleton.mp hn]
            exact hname
  · refine ⟨[], refines_unchanged ?_⟩
    simp only [Store.step, Store.apply, editLocalRecipe, hfind, if_neg hshare]

theorem deleteLocalRecipe_refines (s : Store) (identifier : String) :
    ∃ cs, Refines I yaml s (.delete identifier) cs := by
  cases hfind : findRecipe I (s.visible yaml) identifier with
  | none =>
    refine ⟨[], refines_unchanged ?_⟩
    simp only [Store.step, Store.apply, deleteLocalRecipe, hfind]
  | some resolved =>
    refine ⟨[.remove resolved.1], refines_remove ?_ ?_⟩
    · simp only [Store.step, Store.apply, deleteLocalRecipe, hfind]
      exact view_dropName s _ _
    · simp only [subject, hfind, Option.map_some]

/-- The collection after `rs` were added to it, in order. -/
def addAll (v : Collection String RecipeDict) (rs : List RecipeDict) : Collection String RecipeDict :=
  run (Change.apply keying) v (rs.map Change.add)

/-- **How an entry goes**: the pod loop passes it over, or stores a recipe with its uid under a free
name. -/
theorem savePods_cons (options : Dict String (Option RecipeDict)) (visible : Dict String RecipeDict)
    (added : List String) (raw : PyMap) (uid : String) :
    (∀ rest, savePods I options visible added ((raw, uid) :: rest) =
      savePods I options visible added rest) ∨
    ∃ stored : RecipeDict, visible.get? stored.name = none ∧ stored.uid = some uid ∧
      ∀ rest, savePods I options visible added ((raw, uid) :: rest) =
        savePods I (options.insert stored.name (some stored)) (visible.insert stored.name stored)
          (added ++ [stored.name]) rest := by
  by_cases hshared : podShareUrl I raw ≠ "" ∧ (findRecipe I visible (podShareUrl I raw)).isSome
  · exact Or.inl fun rest => by rw [savePods, if_pos hshared]
  by_cases hnamed : podShareUrl I raw = "" ∧ visible.entries.any
      (fun e => decide (e.2.source = some "pod" ∧ some e.1 = podName raw))
  · exact Or.inl fun rest => by rw [savePods, if_neg hshared, if_pos hnamed]
  cases hschema : recipeSchema I.texts
      (.dict (raw.filter fun e => decide (e.1 ≠ "share_url") || e.2.truthy)) with
  | error e =>
    refine Or.inl fun rest => ?_
    rw [savePods, if_neg hshared, if_neg hnamed]
    dsimp only
    rw [hschema]
  | ok validated =>
    refine Or.inr ⟨validated.saveAs (dedupeName validated.name visible.keys) uid "pod",
      get?_dedupeName visible _, rfl, fun rest => ?_⟩
    rw [savePods, if_neg hshared, if_neg hnamed]
    dsimp only
    rw [hschema]
    rfl

/-- **The pod loop adds**: what it stores is what it reports, each under a free name with the uid of
its entry, and the visible recipes it goes by are those of its options. -/
theorem savePods_adds (recipes : List (PyMap × String)) (sel : Option String) :
    ∀ (options : Dict String (Option RecipeDict)) (visible : Dict String RecipeDict)
      (added : List String), (∀ n, visible.get? n = view yaml ⟨options, sel⟩ n) →
    ∃ rs : List RecipeDict,
      view yaml ⟨(savePods I options visible added recipes).1, sel⟩ =
        addAll (view yaml ⟨options, sel⟩) rs ∧
      AllSteps (Change.apply keying) (fun v c => c.Legal keying v) (view yaml ⟨options, sel⟩)
        (rs.map Change.add) ∧
      (savePods I options visible added recipes).2 = added ++ rs.map RecipeDict.name ∧
      (rs.flatMap fun r => r.uid.toList).Sublist (recipes.map Prod.snd) := by
  induction recipes with
  | nil =>
    intro options visible added _
    exact ⟨[], rfl, trivial, (List.append_nil _).symm, List.nil_sublist _⟩
  | cons entry rest ih =>
    obtain ⟨raw, uid⟩ := entry
    intro options visible added hvisible
    rcases savePods_cons options visible added raw uid with hskip | ⟨stored, hfree, huid, hstep⟩
    · obtain ⟨rs, hview, hlegal, hadded, huids⟩ := ih options visible added hvisible
      rw [hskip]
      exact ⟨rs, hview, hlegal, hadded, huids.cons uid⟩
    · -- the new recipe, then whatever the rest adds to it
      obtain ⟨rs, hview, hlegal, hadded, huids⟩ := ih (options.insert stored.name (some stored))
        (visible.insert stored.name stored) (added ++ [stored.name])
        (get?_insert_eq_view hvisible stored)
      rw [view_insert ⟨options, sel⟩] at hview hlegal
      rw [hstep]
      refine ⟨stored :: rs, hview, ⟨⟨(hvisible _).symm.trans hfree, uid, huid⟩, hlegal⟩, ?_, ?_⟩
      · rw [hadded, List.map_cons, List.append_assoc]
        rfl
      · rw [List.flatMap_cons, huid]
        exact huids.cons_cons uid

theorem savePodRecipes_refines (s : Store) (recipes : List (PyMap × String)) :
    ∃ cs, Refines I yaml s (.savePod recipes) cs := by
  obtain ⟨rs, hview, hlegal, hadded, huids⟩ :=
    @savePods_adds I yaml recipes s.selectedRecipe s.options (s.visible yaml) [] fun _ => rfl
  rw [List.nil_append] at hadded
  by_cases hempty : (savePods I s.options (s.visible yaml) [] recipes).2.isEmpty = true
  · refine ⟨[], refines_unchanged ?_⟩
    simp only [Store.step, Store.apply, savePodRecipes, if_pos hempty]
  · have happly : s.apply I yaml (.savePod recipes) =
        ({ s with options := (savePods I s.options (s.visible yaml) [] recipes).1 },
          .saved (savePods I s.options (s.visible yaml) [] recipes).2) := by
      simp only [Store.apply, savePodRecipes, if_neg hempty]
    refine ⟨rs.map Change.add, ?_, hlegal, ?_, ?_, ?_⟩
    · unfold Store.step
      rw [happly]
      exact hview
    · intro c hc n hn
      obtain ⟨r, hr, rfl⟩ := List.mem_map.mp hc
      rw [List.mem_singleton.mp hn]
      show r.name ∈ resultNames (s.apply I yaml (.savePod recipes)).2
      rw [happly]
      show r.name ∈ (savePods I s.options (s.visible yaml) [] recipes).2
      rw [hadded]
      exact List.mem_map_of_mem hr
    · intro _ c hc n hn
      obtain ⟨r, _, rfl⟩ := List.mem_map.mp hc
      exact absurd hn List.not_mem_nil
    · rw [List.flatMap_map]
      exact huids

/-- What an export stores is the recipe it found, with its new cloud identity. -/
theorem stored_eq_of_view {name : String} {raw : RecipeDict} (h : view yaml s name = some raw) :
    ((s.options.get? name).join).getD raw = raw := by
  rw [view_apply] at h
  cases hopt : s.options.get? name with
  | none => rfl
  | some v =>
    rw [hopt, Option.getD_some] at h
    rw [h]
    rfl

theorem exportRecipe_refines (s : Store) (identifier : String)
    (identity : Option (ℤ × Option String)) :
    ∃ cs, Refines I yaml s (.exportCloud identifier identity) cs := by
  cases hfind : findRecipe I (s.visible yaml) identifier with
  | none =>
    refine ⟨[], refines_unchanged ?_⟩
    simp only [Store.step, Store.apply, exportRecipe, hfind]
  | some resolved =>
    obtain ⟨name, raw⟩ := resolved
    have hold : view yaml s name = some raw := findRecipe_get? I hfind
    have hsubject : subject I yaml s (.exportCloud identifier identity) = some name := by
      simp only [subject, hfind, Option.map_some]
    cases identity with
    | none =>
      refine ⟨[], refines_unchanged ?_⟩
      simp only [Store.step, Store.apply, exportRecipe, hfind]
    | some identity =>
      obtain ⟨tableId, shareUrl⟩ := identity
      -- whatever identity the cloud gave, name and uid stay
      have hstep : ∃ r : RecipeDict, r.name = raw.name ∧ r.uid = raw.uid ∧
          s.step I yaml (.exportCloud identifier (some (tableId, shareUrl))) =
            { s with options := s.options.insert name (some r) } := by
        simp only [Store.step, Store.apply, exportRecipe, hfind, stored_eq_of_view hold]
        cases shareUrl with
        | none => exact ⟨{ raw with cloudTableId := some tableId }, rfl, rfl, rfl⟩
        | some url =>
          by_cases hurl : url = ""
          · simp only [if_pos hurl]
            exact ⟨{ raw with cloudTableId := some tableId }, rfl, rfl, rfl⟩
          · simp only [if_neg hurl]
            exact ⟨{ raw with cloudTableId := some tableId, shareUrl := some url }, rfl, rfl, rfl⟩
      obtain ⟨r, hname, huid, hstep⟩ := hstep
      refine ⟨[.replace name r], refines_replace ?_ hold (Or.inr hname) huid hsubject⟩
      rw [hstep]
      exact view_insert s _ _ _

/-- An operation of the coordinator's path. -/
def StoreOp.IsCoordinator : StoreOp → Prop
  | .flowAdd _ _ => False
  | .flowEdit _ _ => False
  | .flowDelete _ => False
  | _ => True

/-- **Every coordinator operation is a run of legal changes**, from any store. -/
theorem coordinator_refines (s : Store) {op : StoreOp} (h : op.IsCoordinator) :
    ∃ cs, Refines I yaml s op cs := by
  cases op with
  | create recipe uid => exact createLocalRecipe_refines s recipe uid
  | edit identifier changes fetched uid =>
    cases hfind : findRecipe I (s.visible yaml) identifier with
    | none => exact editLocalRecipe_refines_import hfind
    | some resolved => exact editLocalRecipe_refines_found hfind
  | delete identifier => exact deleteLocalRecipe_refines s identifier
  | importCloud ref fetched uid => exact importCloudRecipe_refines s ref fetched uid
  | savePod recipes => exact savePodRecipes_refines s recipes
  | exportCloud identifier identity => exact exportRecipe_refines s identifier identity
  | flowAdd parsed uid => exact absurd h id
  | flowEdit editing parsed => exact absurd h id
  | flowDelete name => exact absurd h id

end XBloom.Recipe
