/-
# XBloom.Recipe.FreeNames — new recipes overwrite none

`dedupe_name` counts its suffix up from 2 until the name is free.  What creates, imports and saves pods
stores its recipe under such a name, so whatever was visible before still is: for a call that saves several
pods, before each of them.
-/
import XBloom.Recipe.Refine

namespace XBloom.Recipe

open XBloom.Logic XBloom.Py

variable {I : Identifiers} {yaml : YamlLayer} {s s' s'' : Store}

/-! ## What is not overwritten -/

/-- No visible recipe is overwritten or lost. -/
def NoneLost (yaml : YamlLayer) (s s' : Store) : Prop :=
  ∀ n r, view yaml s n = some r → view yaml s' n = some r

theorem noneLost_of_view (h : view yaml s' = view yaml s) : NoneLost yaml s s' := by
  intro n r hr
  rw [h]
  exact hr

/-- A recipe stored under a free name overwrites none. -/
theorem Stores.noneLost {r : RecipeDict} {uid : String} (h : Stores yaml s s' r uid) :
    NoneLost yaml s s' := by
  intro n other hn
  have hne : n ≠ r.name := by
    rintro rfl
    rw [h.free] at hn
    cases hn
  rw [h.view, Function.update_of_ne hne, hn]

/-! ## The three callers -/

theorem createLocalRecipe_noneLost (s : Store) (recipe : PyMap) (uid : String) :
    NoneLost yaml s (createLocalRecipe I yaml s recipe uid).1 := by
  rcases createLocalRecipe_cases s recipe uid with ⟨hsame, _⟩ | ⟨r, hstores, _⟩
  · exact noneLost_of_view (by rw [hsame])
  · exact hstores.noneLost

theorem importCloudRecipe_noneLost (s : Store) (ref : String) (fetched : Option PyVal) (uid : String) :
    NoneLost yaml s (importCloudRecipe I yaml s ref fetched uid).1 := by
  rcases importCloudRecipe_cases s ref fetched uid with ⟨hsame, _⟩ | ⟨r, hstores, _⟩
  · exact noneLost_of_view (by rw [hsame])
  · exact hstores.noneLost

/-- A call that saves pods adds, in its loop, to what the loop goes by. -/
theorem savePods_noneLost {options : Dict String (Option RecipeDict)} {visible : Dict String RecipeDict}
    {sel : Option String} (hvisible : ∀ n, visible.get? n = view yaml ⟨options, sel⟩ n)
    (added : List String) (recipes : List (PyMap × String)) :
    NoneLost yaml ⟨options, sel⟩ ⟨(savePods I options visible added recipes).1, sel⟩ := by
  obtain ⟨rs, hview, hlegal, _, _⟩ := @savePods_adds I yaml recipes sel options visible added hvisible
  intro n r hr
  rw [hview]
  refine frame_run hr hlegal fun c hc hn => ?_
  obtain ⟨r', _, rfl⟩ := List.mem_map.mp hc
  exact absurd hn List.not_mem_nil

/-- The loop over two lists is the loop over the second from where the first has left it. -/
theorem savePods_append {sel : Option String} (later : List (PyMap × String)) :
    ∀ (recipes : List (PyMap × String)) {options : Dict String (Option RecipeDict)}
      {visible : Dict String RecipeDict} {added : List String},
      (∀ n, visible.get? n = view yaml ⟨options, sel⟩ n) →
      ∃ visible' : Dict String RecipeDict,
        (∀ n, visible'.get? n = view yaml ⟨(savePods I options visible added recipes).1, sel⟩ n) ∧
          savePods I options visible added (recipes ++ later) =
            savePods I (savePods I options visible added recipes).1 visible'
              (savePods I options visible added recipes).2 later := by
  intro recipes
  induction recipes with
  | nil => exact fun {options visible added} hvisible => ⟨visible, hvisible, rfl⟩
  | cons entry rest ih =>
    obtain ⟨raw, uid⟩ := entry
    intro options visible added hvisible
    rw [List.cons_append]
    rcases savePods_cons options visible added raw uid with hskip | ⟨stored, _, _, hstep⟩
    · rw [hskip, hskip]
      exact ih hvisible
    · rw [hstep, hstep]
      exact ih (get?_insert_eq_view hvisible stored)

/-- What a call leaves visible is what its loop does; when it adds nothing it writes nothing. -/
theorem view_savePodRecipes (s : Store) (recipes : List (PyMap × String)) :
    view yaml (savePodRecipes I yaml s recipes).1 =
      view yaml ⟨(savePods I s.options (s.visible yaml) [] recipes).1, s.selectedRecipe⟩ := by
  obtain ⟨rs, hview, _, hadded, _⟩ :=
    @savePods_adds I yaml recipes s.selectedRecipe s.options (s.visible yaml) [] fun _ => rfl
  unfold savePodRecipes
  dsimp only
  split
  · rename_i hempty
    rw [List.isEmpty_iff.mp hempty, List.nil_append] at hadded
    rw [hview, List.map_eq_nil_iff.mp hadded.symm]
    rfl
  · rfl

/-- **Each pod of a call** is saved over nothing: what is visible once the call has come to it, pods it
has saved before included, is still visible in the end. -/
theorem savePodRecipes_noneLost (s : Store) (recipes later : List (PyMap × String)) :
    NoneLost yaml (savePodRecipes I yaml s recipes).1 (savePodRecipes I yaml s (recipes ++ later)).1 := by
  obtain ⟨visible, hvisible, happend⟩ := @savePods_append I yaml s.selectedRecipe later recipes s.options
    (s.visible yaml) [] fun _ => rfl
  intro n r hr
  rw [view_savePodRecipes] at hr ⊢
  rw [happend]
  exact savePods_noneLost hvisible _ later n r hr

/-! ## Free names -/

/-- **Name deduplication ends with the first free name.**  A name that is free stays as it is.  For one
that is taken the suffix loop ends, at the least `n` from 2 on whose `name (n)` is free, and that is the
new name.  So creating a recipe, importing one and saving pods, each pod of a call, overwrite no visible
recipe. -/
theorem dedupe_first_free (I : Identifiers) (yaml : YamlLayer) :
    (∀ (name : String) (existing : List String), dedupeName name existing ∉ existing ∧
      (name ∉ existing → dedupeName name existing = name) ∧
      (name ∈ existing → ∃ n, Searches (suffixed name) (· ∈ existing) 2 n ∧
        IsLeast {k | 2 ≤ k ∧ suffixed name k ∉ existing} n ∧
        dedupeName name existing = suffixed name n)) ∧
      ∀ s : Store,
        (∀ recipe uid, NoneLost yaml s (createLocalRecipe I yaml s recipe uid).1) ∧
        (∀ ref fetched uid, NoneLost yaml s (importCloudRecipe I yaml s ref fetched uid).1) ∧
        ∀ recipes later, NoneLost yaml (savePodRecipes I yaml s recipes).1
          (savePodRecipes I yaml s (recipes ++ later)).1 := by
  refine ⟨fun name existing => ⟨dedupeName_not_mem name existing, fun hfree => if_pos hfree, ?_⟩,
    fun s => ⟨createLocalRecipe_noneLost s, importCloudRecipe_noneLost s, savePodRecipes_noneLost s⟩⟩
  intro htaken
  have hsearch := firstFree_searches name existing
  exact ⟨_, hsearch, hsearch.isLeast, if_neg (not_not.mpr htaken)⟩

/-- Two suffixed names are there already. -/
example : dedupeName "X" ["X", "X (2)", "X (3)", "X (5)"] = "X (4)" := by decide +kernel

end XBloom.Recipe
