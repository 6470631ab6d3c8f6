/-
# XBloom.Recipe.Flow — what the options flow's steps do to the view

Every step of the options flow that writes recipes starts from `_options_recipes`, the store without
its tombstones, so the YAML recipes they hid are back (`view_flowOptions`).  On top of that

* adding puts a recipe under a name that shows nothing;
* editing takes the old name out of the options, which uncovers a YAML recipe of that name, and puts
  the recipe under its new one, whatever that shows;
* deleting takes a recipe out of the options when it is there, which uncovers a YAML recipe of that
  name, and else leaves a tombstone.
-/
import XBloom.Recipe.Refine

namespace XBloom.Recipe

open XBloom.Py XBloom.Logic

variable {I : Identifiers} (yaml : YamlLayer)

/-- A tombstone hides a YAML recipe of this name. -/
def Hides (s : Store) (n : String) : Prop :=
  s.options.get? n = some none ∧ yaml.recipes.contains n = true

/-- A recipe in the options lies over a YAML recipe of this name. -/
def Overrides (s : Store) (n : String) : Prop :=
  (flowOptionsRecipes s).contains n = true ∧ yaml.recipes.contains n = true

variable {yaml}

theorem yaml_get?_of_not_contains {n : String} (h : ¬ yaml.recipes.contains n = true) :
    yaml.recipes.get? n = none := by
  rw [Dict.contains, Option.isSome_iff_ne_none, not_not] at h
  exact h

theorem yaml_get?_of_contains {n : String} (h : yaml.recipes.contains n = true) :
    ∃ r, yaml.recipes.get? n = some r := Option.isSome_iff_exists.mp h

/-- A name without a tombstone shows what it showed. -/
theorem view_flowOptions {s : Store} {n : String} (h : ¬ Hides yaml s n) (sel : Option String) :
    view yaml ⟨flowOptionsRecipes s, sel⟩ n = view yaml s n := by
  rw [view_apply, view_apply]
  unfold flowOptionsRecipes
  simp only [Dict.get?_filter]
  cases hopt : s.options.get? n with
  | none => rfl
  | some v =>
    cases v with
    | some r => rfl
    | none =>
      show yaml.recipes.get? n = none
      exact yaml_get?_of_not_contains fun hc => h ⟨hopt, hc⟩

/-- A name with a tombstone shows its YAML recipe again. -/
theorem view_flowOptions_hidden {s : Store} {n : String} (h : Hides yaml s n)
    (sel : Option String) : view yaml ⟨flowOptionsRecipes s, sel⟩ n = yaml.recipes.get? n := by
  rw [view_apply]
  unfold flowOptionsRecipes
  simp only [Dict.get?_filter, h.1]
  rfl

/-- What a name shows without the tombstones it showed before, or a tombstone hid it. -/
theorem view_flowOptions_cases {s : Store} {n : String} {r : RecipeDict} {sel : Option String}
    (h : view yaml ⟨flowOptionsRecipes s, sel⟩ n = some r) :
    view yaml s n = some r ∨ (Hides yaml s n ∧ yaml.recipes.get? n = some r) := by
  by_cases hhides : Hides yaml s n
  · rw [view_flowOptions_hidden hhides] at h
    exact Or.inr ⟨hhides, h⟩
  · rw [view_flowOptions hhides] at h
    exact Or.inl h

/-- Storing a recipe over other options. -/
theorem view_insert_options (options : Dict String (Option RecipeDict)) (n : String)
    (r : RecipeDict) (sel : Option String) :
    view yaml ⟨options.insert n (some r), sel⟩ =
      Function.update (view yaml ⟨options, sel⟩) n (some r) := view_insert ⟨options, sel⟩ n r sel

/-- Taking a name out of the options uncovers the YAML recipe under it. -/
theorem view_erase_options (options : Dict String (Option RecipeDict)) (n : String)
    (sel : Option String) :
    view yaml ⟨options.erase n, sel⟩ =
      Function.update (view yaml ⟨options, sel⟩) n (yaml.recipes.get? n) := by
  funext m
  rw [view_apply, Dict.get?_erase, Function.update_apply, view_apply]
  by_cases h : m = n
  · rw [if_pos h, if_pos h, h, Option.getD_none]
  · rw [if_neg h, if_neg h]

/-- A tombstone hides its name. -/
theorem view_tombstone (options : Dict String (Option RecipeDict)) (n : String)
    (sel : Option String) :
    view yaml ⟨options.insert n none, sel⟩ =
      Function.update (view yaml ⟨options, sel⟩) n none := by
  funext m
  rw [view_apply, Dict.get?_insert, Function.update_apply, view_apply]
  by_cases h : m = n
  · rw [if_pos h, if_pos h, Option.getD_some]
  · rw [if_neg h, if_neg h]

/-! ## The steps -/

variable (I yaml)

/-- `async_step_add_recipe` stores `r`. -/
def AddsRecipe (s : Store) (parsed : Option PyVal) (r : RecipeDict) : Prop :=
  parseAndValidate I parsed = .ok r ∧ view yaml s r.name = none

/-- `async_step_edit_recipe_yaml` stores `r` in place of `original`. -/
def EditsRecipe (s : Store) (editing : String) (parsed : Option PyVal) (original r : RecipeDict) :
    Prop :=
  view yaml s editing = some original ∧ parseAndValidate I parsed = .ok r

/-- `async_step_delete_recipe` writes. -/
def DeletesRecipe (s : Store) : Prop := (s.visible yaml).entries.isEmpty = false

variable {I yaml}

theorem parseAndValidate_uid {parsed : Option PyVal} {r : RecipeDict}
    (h : parseAndValidate I parsed = .ok r) : r.uid = none := by
  unfold parseAndValidate at h
  split at h
  · rename_i m
    cases hschema : recipeSchema I.texts (.dict (stripProtectedRecipeFields m)) with
    | error e =>
      rw [hschema] at h
      cases h
    | ok recipe =>
      rw [hschema] at h
      cases h
      exact recipeSchema_strip_uid hschema
  · cases h

/-- **Adding** changes nothing, or stores a recipe under a name that shows nothing. -/
theorem stepAddRecipe_cases (s : Store) (parsed : Option PyVal) (uid : String) :
    ((∀ r, ¬ AddsRecipe I yaml s parsed r) ∧ s.step I yaml (.flowAdd parsed uid) = s) ∨
    ∃ r, AddsRecipe I yaml s parsed r ∧
      r.name ∈ introduces I yaml s (.flowAdd parsed uid) ∧
      view yaml (s.step I yaml (.flowAdd parsed uid)) =
        Function.update (view yaml ⟨flowOptionsRecipes s, s.selectedRecipe⟩) r.name
          (some (r.saveAs r.name uid "manual")) := by
  cases hparse : parseAndValidate I parsed with
  | error e =>
    refine Or.inl ⟨?_, ?_⟩
    · intro r h
      rw [h.1] at hparse
      cases hparse
    · simp only [Store.step, Store.apply, stepAddRecipe, hparse]
  | ok r =>
    by_cases hc : (s.visible yaml).contains r.name = true
    · refine Or.inl ⟨?_, ?_⟩
      · intro r' h
        rw [h.1] at hparse
        obtain rfl := Except.ok.inj hparse
        rw [contains_eq_isSome, h.2] at hc
        cases hc
      · simp only [Store.step, Store.apply, stepAddRecipe, hparse, if_pos hc]
    · refine Or.inr ⟨r, ⟨hparse, view_eq_none_of_not_contains hc⟩, ?_, ?_⟩
      · show r.name ∈ resultNames (stepAddRecipe I yaml s parsed uid).2
        simp only [stepAddRecipe, hparse, if_neg hc]
        exact List.mem_cons_self
      · simp only [Store.step, Store.apply, stepAddRecipe, hparse, if_neg hc]
        exact view_insert_options _ _ _ _

/-- **Editing** changes nothing, or uncovers what lies under the old name and stores the recipe under
its own. -/
theorem stepEditRecipe_cases (s : Store) (editing : String) (parsed : Option PyVal) :
    ((∀ original r, ¬ EditsRecipe I yaml s editing parsed original r) ∧
      s.step I yaml (.flowEdit editing parsed) = s) ∨
    ∃ original r, EditsRecipe I yaml s editing parsed original r ∧
      (r.name ≠ editing → r.name ∈ introduces I yaml s (.flowEdit editing parsed)) ∧
      view yaml (s.step I yaml (.flowEdit editing parsed)) =
        Function.update (Function.update (view yaml ⟨flowOptionsRecipes s, s.selectedRecipe⟩) editing
          (yaml.recipes.get? editing)) r.name (some (restoreProtected r original)) := by
  cases hold : view yaml s editing with
  | none =>
    have hget : (s.visible yaml).get? editing = none := hold
    refine Or.inl ⟨?_, ?_⟩
    · intro original r h
      exact absurd (hold.symm.trans h.1) (by simp)
    · simp only [Store.step, Store.apply, stepEditRecipe, hget]
  | some original =>
    have hget : (s.visible yaml).get? editing = some original := hold
    cases hparse : parseAndValidate I parsed with
    | error e =>
      refine Or.inl ⟨?_, ?_⟩
      · intro original' r h
        rw [h.2] at hparse
        cases hparse
      · simp only [Store.step, Store.apply, stepEditRecipe, hget, hparse]
    | ok r =>
      refine Or.inr ⟨original, r, ⟨hold, hparse⟩, ?_, ?_⟩
      · intro hne
        show r.name ∈ (resultNames (stepEditRecipe I yaml s editing parsed).2).filter
          fun n => decide (n ≠ editing)
        simp only [stepEditRecipe, hget, hparse]
        exact List.mem_filter.mpr ⟨List.mem_cons_self, decide_eq_true hne⟩
      · -- the old name is taken out of the options before the new one goes in
        simp only [Store.step, Store.apply, stepEditRecipe, hget, hparse]
        rw [view_insert_options, view_erase_options]

/-- **Deleting** changes nothing, or uncovers what lies under an options-owned recipe, or hides the
name. -/
theorem stepDeleteRecipe_cases (s : Store) (name : String) :
    (¬ DeletesRecipe yaml s ∧ s.step I yaml (.flowDelete name) = s) ∨
    (DeletesRecipe yaml s ∧ view yaml (s.step I yaml (.flowDelete name)) =
      Function.update (view yaml ⟨flowOptionsRecipes s, s.selectedRecipe⟩) name
        (if (flowOptionsRecipes s).contains name then yaml.recipes.get? name else none)) := by
  unfold DeletesRecipe
  cases hempty : (s.visible yaml).entries.isEmpty with
  | true =>
    refine Or.inl ⟨by simp, ?_⟩
    simp only [Store.step, Store.apply, stepDeleteRecipe, hempty, if_true]
  | false =>
    refine Or.inr ⟨rfl, ?_⟩
    simp only [Store.step, Store.apply, stepDeleteRecipe, hempty, Bool.false_eq_true, if_false]
    by_cases hown : (flowOptionsRecipes s).contains name = true
    · rw [if_pos hown, if_pos hown]
      exact view_erase_options _ _ _
    · rw [if_neg hown, if_neg hown]
      exact view_tombstone _ _ _

end XBloom.Recipe
