/-
# XBloom.Recipe.Tombstones — when a deleted name stays deleted

Deleting must outlast everything but a recipe put under the name again.  On the coordinator's path it
does, from any store (`coordinator_keeps_hidden`).  In the options flow it does exactly when

* no step rewrites the options map while a tombstone hides a YAML recipe of the deleted name, and
* what was deleted there was not an options-owned recipe over a YAML one

(`KeepsHidden`).  Both conditions are about the store before the step.
-/
import XBloom.Recipe.Build
import XBloom.Recipe.Flow

namespace XBloom.Recipe

open XBloom.Py XBloom.Logic

variable (I : Identifiers) (yaml : YamlLayer)

/-- Whether an operation leaves a hidden name, or the one it deletes, hidden: the options flow must
not write while a tombstone hides a YAML recipe of that name, nor delete an options-owned recipe
without leaving one. -/
def KeepsHidden (n : String) (s : Store) : StoreOp → Prop
  | .flowAdd parsed _ => (∃ r, AddsRecipe I yaml s parsed r) → ¬ Hides yaml s n
  | .flowEdit editing parsed =>
    (∃ original r, EditsRecipe I yaml s editing parsed original r) → ¬ Hides yaml s n
  | .flowDelete name =>
    DeletesRecipe yaml s → if n = name then ¬ Overrides yaml s n else ¬ Hides yaml s n
  | _ => True

/-- The operation deletes the recipe the name shows. -/
def Deletes (s : Store) (op : StoreOp) (n : String) : Prop :=
  (∃ r, view yaml s n = some r) ∧
    ((∃ identifier, op = .delete identifier ∧ subject I yaml s op = some n) ∨ op = .flowDelete n)

variable {I yaml} {s : Store} {n : String}

/-! ## One step -/

/-- A name that shows nothing shows its YAML recipe, if there is one, once the tombstones are gone. -/
theorem view_flowOptions_eq_none_iff (h : view yaml s n = none) (sel : Option String) :
    view yaml ⟨flowOptionsRecipes s, sel⟩ n = none ↔ ¬ Hides yaml s n := by
  constructor
  · intro hnone hhides
    rw [view_flowOptions_hidden hhides] at hnone
    obtain ⟨r, hr⟩ := yaml_get?_of_contains hhides.2
    rw [hnone] at hr
    cases hr
  · intro hhides
    rw [view_flowOptions hhides]
    exact h

/-- **The coordinator keeps every hidden name hidden**, unless it puts a recipe under it. -/
theorem coordinator_keeps_hidden {op : StoreOp} (hop : op.IsCoordinator) (h : view yaml s n = none)
    (hintro : n ∉ introduces I yaml s op) : view yaml (s.step I yaml op) n = none := by
  obtain ⟨cs, hcs⟩ := @coordinator_refines I yaml s op hop
  rw [hcs.view]
  refine absent_run h hcs.legal ?_
  intro c hc hn
  exact hintro (hcs.introduces c hc n hn)

theorem flowAdd_hidden_iff {parsed : Option PyVal} {uid : String} (h : view yaml s n = none)
    (hintro : n ∉ introduces I yaml s (.flowAdd parsed uid)) :
    view yaml (s.step I yaml (.flowAdd parsed uid)) n = none ↔
      KeepsHidden I yaml n s (.flowAdd parsed uid) := by
  rcases @stepAddRecipe_cases I yaml s parsed uid with ⟨hno, hstep⟩ | ⟨r, hadds, hname, hview⟩
  · rw [hstep]
    exact ⟨fun _ hadds => absurd hadds.choose_spec (hno _), fun _ => h⟩
  · have hne : n ≠ r.name := fun heq => hintro (heq ▸ hname)
    rw [hview, Function.update_of_ne hne, view_flowOptions_eq_none_iff h]
    exact ⟨fun hhides _ => hhides, fun hkeeps => hkeeps ⟨r, hadds⟩⟩

theorem flowEdit_hidden_iff {editing : String} {parsed : Option PyVal} (h : view yaml s n = none)
    (hintro : n ∉ introduces I yaml s (.flowEdit editing parsed)) :
    view yaml (s.step I yaml (.flowEdit editing parsed)) n = none ↔
      KeepsHidden I yaml n s (.flowEdit editing parsed) := by
  rcases @stepEditRecipe_cases I yaml s editing parsed with
    ⟨hno, hstep⟩ | ⟨original, r, hedits, hname, hview⟩
  · rw [hstep]
    refine ⟨?_, fun _ => h⟩
    rintro _ ⟨original, r, hedits⟩
    exact absurd hedits (hno original r)
  · -- the edited recipe is visible, so it is not the hidden one
    have hediting : n ≠ editing := by
      intro heq
      rw [heq, hedits.1] at h
      cases h
    have hne : n ≠ r.name := by
      intro heq
      exact hintro (heq ▸ hname (heq ▸ hediting))
    rw [hview, Function.update_of_ne hne, Function.update_of_ne hediting,
      view_flowOptions_eq_none_iff h]
    exact ⟨fun hhides _ => hhides, fun hkeeps => hkeeps ⟨original, r, hedits⟩⟩

/-- What deleting a name in the options flow leaves of it. -/
theorem flowDelete_self_iff {s : Store} {name : String} (hdeletes : DeletesRecipe yaml s) :
    view yaml (s.step I yaml (.flowDelete name)) name = none ↔
      KeepsHidden I yaml name s (.flowDelete name) := by
  rcases @stepDeleteRecipe_cases I yaml s name with ⟨hno, _⟩ | ⟨_, hview⟩
  · exact absurd hdeletes hno
  · rw [hview, Function.update_self]
    show _ ↔ (DeletesRecipe yaml s → if name = name then ¬ Overrides yaml s name else _)
    rw [if_pos rfl]
    unfold Overrides
    by_cases hown : (flowOptionsRecipes s).contains name = true
    · rw [if_pos hown]
      constructor
      · intro hnone _ hover
        obtain ⟨r, hr⟩ := yaml_get?_of_contains hover.2
        rw [hnone] at hr
        cases hr
      · intro hkeeps
        exact yaml_get?_of_not_contains fun hc => hkeeps hdeletes ⟨hown, hc⟩
    · rw [if_neg hown]
      exact ⟨fun _ _ hover => hown hover.1, fun _ => rfl⟩

theorem flowDelete_hidden_iff {name : String} (h : view yaml s n = none) :
    view yaml (s.step I yaml (.flowDelete name)) n = none ↔
      KeepsHidden I yaml n s (.flowDelete name) := by
  rcases @stepDeleteRecipe_cases I yaml s name with ⟨hno, hstep⟩ | ⟨hdeletes, hview⟩
  · rw [hstep]
    exact ⟨fun _ hdeletes => absurd hdeletes hno, fun _ => h⟩
  · by_cases hname : n = name
    · rw [hname]
      exact flowDelete_self_iff hdeletes
    · rw [hview, Function.update_of_ne hname, view_flowOptions_eq_none_iff h]
      show _ ↔ (DeletesRecipe yaml s → if n = name then ¬ Overrides yaml s n else ¬ Hides yaml s n)
      rw [if_neg hname]
      exact ⟨fun hhides _ => hhides, fun hkeeps => hkeeps hdeletes⟩

/-- **A hidden name stays hidden in a step that does not introduce it, exactly when the step keeps
it.** -/
theorem step_hidden_iff {op : StoreOp} (h : view yaml s n = none)
    (hintro : n ∉ introduces I yaml s op) :
    view yaml (s.step I yaml op) n = none ↔ KeepsHidden I yaml n s op := by
  cases op with
  | flowAdd parsed uid => exact flowAdd_hidden_iff h hintro
  | flowEdit editing parsed => exact flowEdit_hidden_iff h hintro
  | flowDelete name => exact flowDelete_hidden_iff h
  | create _ _ => exact ⟨fun _ => trivial, fun _ => coordinator_keeps_hidden trivial h hintro⟩
  | edit _ _ _ _ => exact ⟨fun _ => trivial, fun _ => coordinator_keeps_hidden trivial h hintro⟩
  | delete _ => exact ⟨fun _ => trivial, fun _ => coordinator_keeps_hidden trivial h hintro⟩
  | importCloud _ _ _ => exact ⟨fun _ => trivial, fun _ => coordinator_keeps_hidden trivial h hintro⟩
  | savePod _ => exact ⟨fun _ => trivial, fun _ => coordinator_keeps_hidden trivial h hintro⟩
  | exportCloud _ _ => exact ⟨fun _ => trivial, fun _ => coordinator_keeps_hidden trivial h hintro⟩

/-- The deletion itself hides its name, exactly when it keeps it. -/
theorem deletes_hidden_iff {op : StoreOp} (h : Deletes I yaml s op n) :
    view yaml (s.step I yaml op) n = none ↔ KeepsHidden I yaml n s op := by
  obtain ⟨⟨r, hr⟩, ⟨identifier, rfl, hsubject⟩ | rfl⟩ := h
  · refine ⟨fun _ => trivial, fun _ => ?_⟩
    have hfind : (findRecipe I (s.visible yaml) identifier).map Prod.fst = some n := hsubject
    obtain ⟨resolved, hresolved, rfl⟩ := Option.map_eq_some_iff.mp hfind
    simp only [Store.step, Store.apply, deleteLocalRecipe, hresolved]
    rw [view_dropName, Function.update_self]
  · refine flowDelete_self_iff ?_
    unfold DeletesRecipe
    have hmem : (n, r) ∈ (s.visible yaml).entries := Dict.get?_eq_some_iff.mp hr
    rw [← Bool.not_eq_true, List.isEmpty_iff]
    exact List.ne_nil_of_mem hmem

/-! ## Runs -/

/-- A hidden name stays hidden all along a run that does not introduce it, exactly when every step
keeps it. -/
theorem run_hidden_iff {ops : List StoreOp} {s : Store} (h : view yaml s n = none)
    (hintro : AllSteps (Store.step I yaml) (fun s op => n ∉ introduces I yaml s op) s ops) :
    AllSteps (Store.step I yaml) (fun s op => view yaml (s.step I yaml op) n = none) s ops ↔
      AllSteps (Store.step I yaml) (KeepsHidden I yaml n) s ops := by
  have hstep : ∀ s op, view yaml s n = none → n ∉ introduces I yaml s op →
      (view yaml (s.step I yaml op) n = none ↔ KeepsHidden I yaml n s op) ∧
        (view yaml (s.step I yaml op) n = none → view yaml (s.step I yaml op) n = none) :=
    fun s op h hintro => ⟨step_hidden_iff h hintro, id⟩
  exact AllSteps.iff_while hstep h hintro

/-- **A deleted recipe stays deleted exactly when every step keeps its name hidden.**  In every run
of both paths, from any store over any YAML layer: from the operation that deletes the name on, and
until one introduces it again, the name shows nothing after each step, exactly when the deletion and
each step after it meet `KeepsHidden`. -/
theorem deleted_stays_deleted_iff (s : Store) (before after : List StoreOp) (op : StoreOp)
    (n : String) (hdeletes : Deletes I yaml (run (Store.step I yaml) s before) op n)
    (hintro : AllSteps (Store.step I yaml) (fun s op => n ∉ introduces I yaml s op)
      (run (Store.step I yaml) s (before ++ [op])) after) :
    AllSteps (Store.step I yaml) (fun s op => view yaml (s.step I yaml op) n = none)
        (run (Store.step I yaml) s before) (op :: after) ↔
      AllSteps (Store.step I yaml) (KeepsHidden I yaml n) (run (Store.step I yaml) s before)
        (op :: after) := by
  rw [run_append] at hintro
  have hstep := deletes_hidden_iff hdeletes
  constructor
  · rintro ⟨hhidden, hrest⟩
    exact ⟨hstep.mp hhidden, (run_hidden_iff hhidden hintro).mp hrest⟩
  · rintro ⟨hkeeps, hrest⟩
    have hhidden := hstep.mpr hkeeps
    exact ⟨hhidden, (run_hidden_iff hhidden hintro).mpr hrest⟩

/-! ## One YAML recipe, deleted -/

/-- Share links and digits of plain texts. -/
def plainIdentifiers : Identifiers where
  texts := decimalTexts
  shareIdOf s := if strip s = "" then none else some (strip s)
  isDigitText s := !s.isEmpty && s.toList.all Char.isDigit

/-- The YAML recipe of the examples. -/
def morningRecipe : RecipeDict :=
  { onePourDict 3 with name := "Morning", uid := some "yaml-8d3f2a10", source := some "yaml" }

/-- A `configuration.yaml` with one recipe. -/
def morningYaml : YamlLayer where
  recipes := Dict.empty.insert "Morning" morningRecipe
  yamlRecipeUid _ := "yaml-8d3f2a10"
  named := by
    intro n r h
    rw [Dict.get?_insert] at h
    by_cases hn : n = "Morning"
    · rw [if_pos hn] at h
      rw [hn, ← Option.some.inj h]
      rfl
    · rw [if_neg hn] at h
      cases h
  identified := by
    intro n r h
    rw [Dict.get?_insert] at h
    by_cases hn : n = "Morning"
    · rw [if_pos hn] at h
      rw [← Option.some.inj h]
      rfl
    · rw [if_neg hn] at h
      cases h

/-- A one-pour recipe as a caller writes it. -/
def onePourEntries (name : String) : PyMap :=
  [("name", .str name),
    ("pours", .list [.dict [("volume_ml", .int 225), ("temperature_c", .str "BP")]])]

/-- Nothing saved yet. -/
def noRecipesSaved : Store := ⟨Dict.empty, none⟩

theorem morning_deleted :
    Deletes plainIdentifiers morningYaml noRecipesSaved (.delete "Morning") "Morning" := by
  refine ⟨⟨morningRecipe, by decide +kernel⟩, Or.inl ⟨"Morning", rfl, ?_⟩⟩
  decide +kernel

/-- Deleted by a service call, the YAML recipe stays deleted while another is created by one. -/
theorem morning_stays_deleted :
    AllSteps (Store.step plainIdentifiers morningYaml)
      (fun s op => view morningYaml (s.step plainIdentifiers morningYaml op) "Morning" = none)
      noRecipesSaved [.delete "Morning", .create (onePourEntries "V60") "4f1c0a9b7d21"] := by
  refine (deleted_stays_deleted_iff noRecipesSaved [] [.create (onePourEntries "V60") "4f1c0a9b7d21"]
    (.delete "Morning") "Morning" morning_deleted ⟨?_, trivial⟩).mpr ⟨trivial, trivial, trivial⟩
  decide +kernel

/-- **Adding a recipe in the options flow brings a deleted YAML recipe back.**  The deletion left a
tombstone; the flow writes the options map without it. -/
theorem morning_comes_back :
    Deletes plainIdentifiers morningYaml noRecipesSaved (.delete "Morning") "Morning" ∧
      (let add := StoreOp.flowAdd (some (.dict (onePourEntries "V60"))) "4f1c0a9b7d21"
       let deleted := noRecipesSaved.step plainIdentifiers morningYaml (.delete "Morning")
       "Morning" ∉ introduces plainIdentifiers morningYaml deleted add ∧
         view morningYaml deleted "Morning" = none ∧
         view morningYaml (deleted.step plainIdentifiers morningYaml add) "Morning" =
          some morningRecipe) := by
  refine ⟨morning_deleted, ?_, ?_, ?_⟩
  · decide +kernel
  · decide +kernel
  · decide +kernel

end XBloom.Recipe
