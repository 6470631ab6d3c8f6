/-
# XBloom.Coordinator.Callers — what the brewing callers lay over a stored recipe

The `execute_recipe` service and the `xbloom__execute_recipe` tool brew a stored recipe with overrides.
Both select the recipe, which sets the grind size and rpm sliders, write the grind size and rpm they were
given onto the sliders, and hand the other overrides to `_prepare_recipe_execution`.  Their schemas are
the only check of the numbers: the constructors have run by the time the sliders are read.
-/
import XBloom.Coordinator.Calls
import XBloom.Coordinator.Budget

namespace XBloom.Coordinator

open XBloom.Async XBloom.Py XBloom.Ble XBloom.Recipe XBloom.Brewing

/-! ## The service -/

/-- The data of an `execute_recipe` call. -/
structure ServiceArgs where
  recipe : Option String := none
  grindSize : Option ℤ := none
  rpm : Option ℤ := none
  doseG : Option PyFloat := none
  ratio : Option PyFloat := none
  cupType : Option String := none
  bypassVolume : Option PyFloat := none
  bypassTemperature : Option PyFloat := none
  deriving DecidableEq, Repr

/-- The arguments it hands on. -/
def ServiceArgs.brewArgs (args : ServiceArgs) : BrewArgs where
  overrides := { doseG := args.doseG, ratio := args.ratio, cupType := args.cupType }
  bypassVolume := args.bypassVolume
  bypassTemperature := args.bypassTemperature

section
variable (I : Identifiers) (yaml : YamlLayer)

/-- The name the service brews: the recipe it was given, else the selected one. -/
def ServiceArgs.name (args : ServiceArgs) (w : World) : Option String :=
  match args.recipe.filter (· ≠ "") with
  | some identifier => (findRecipe I (w.recipes yaml) identifier).map Prod.fst
  | none => w.store.selectedRecipe

/-- The service selects its recipe and lays the sliders it was given over it. -/
def World.selectForService (w : World) (args : ServiceArgs) (name : String) : World :=
  let w := w.selectRecipe yaml (some name)
  { w with grindSize := args.grindSize.getD w.grindSize, rpm := args.rpm.getD w.rpm }

/-- `_handle_execute_recipe`, for one machine: a failed check is logged, a raise is not. -/
def executeRecipeService (args : ServiceArgs) : Async Unit := do
  let w ← Routine.world
  match args.name I yaml w with
  | none => pure ()
  | some name =>
    match w.named yaml (some name) with
    | none => pure ()
    | some _ => do
      Routine.assign fun w => w.selectForService yaml args name
      match ← Routine.attempt (asyncExecuteRecipe I yaml args.brewArgs) with
      | .ok _ => pure ()
      | .error .homeAssistantError => pure ()
      | .error e => Routine.lift (.error e)

/-! ## What the schemas accept -/

/-- `vol.Range(min=low, max=high)` on a float: `nan` is in no range. -/
def InRange (x : PyFloat) (low high : ℚ) : Prop := ∃ q : ℚ, x = .fin q ∧ low ≤ q ∧ q ≤ high

/-- What `EXECUTE_RECIPE_SCHEMA` accepts. -/
structure ServiceArgs.Accepted (args : ServiceArgs) : Prop where
  grindSize : ∀ n ∈ args.grindSize, 1 ≤ n ∧ n ≤ 80
  rpm : ∀ n ∈ args.rpm, 60 ≤ n ∧ n ≤ 120
  doseG : ∀ x ∈ args.doseG, InRange x 1 100
  ratio : ∀ x ∈ args.ratio, InRange x 1 50
  cupType : ∀ s ∈ args.cupType, s ∈ ["x_pod", "xpod", "omni_dripper", "other", "tea"]
  bypassVolume : ∀ x ∈ args.bypassVolume, InRange x 0 200
  bypassTemperature : ∀ x ∈ args.bypassTemperature, InRange x 0 100

/-- An entry of `pour_overrides` that the tool accepts; its pattern is an option of `POUR_PATTERN_OPTIONS`. -/
structure PourOverride.Accepted (ov : PourOverride) : Prop where
  pourIndex : 0 ≤ ov.pourIndex
  volume : ∀ n ∈ ov.volume, 30 ≤ n ∧ n ≤ 500
  flowRate : ∀ x ∈ ov.flowRate, InRange x 3 (7 / 2)
  pattern : ∀ n ∈ ov.pattern, n = 0 ∨ n = 1 ∨ n = 2

/-- What the tool's `parameters` accept. -/
structure ToolArgs.Accepted (args : ToolArgs) : Prop where
  grindSize : ∀ n ∈ args.grindSize, 1 ≤ n ∧ n ≤ 80
  rpm : ∀ n ∈ args.rpm, 60 ≤ n ∧ n ≤ 120
  doseG : ∀ x ∈ args.brew.overrides.doseG, InRange x 1 100
  ratio : ∀ x ∈ args.brew.overrides.ratio, InRange x 1 50
  temperatureC : ∀ n ∈ args.brew.overrides.temperatureC, 40 ≤ n ∧ n ≤ 100
  cupType : ∀ s ∈ args.brew.overrides.cupType, s ∈ ["x_pod", "omni_dripper", "other", "tea"]
  bypassVolume : ∀ x ∈ args.brew.bypassVolume, InRange x 0 200
  bypassTemperature : ∀ x ∈ args.brew.bypassTemperature, InRange x 0 100
  pourOverrides : ∀ ov ∈ args.brew.pourOverrides, ov.Accepted

/-! ## The callers -/

/-- A caller that brews with overrides. -/
inductive Caller where
  | service (args : ServiceArgs)
  | tool (args : ToolArgs)

namespace Caller

/-- The grind size it was given. -/
def grindSize : Caller → Option ℤ
  | service args => args.grindSize
  | tool args => args.grindSize

/-- The rpm it was given. -/
def rpm : Caller → Option ℤ
  | service args => args.rpm
  | tool args => args.rpm

/-- What it hands to `_prepare_recipe_execution` for a stored recipe. -/
def brewArgs (stored : RecipeDict) : Caller → BrewArgs
  | service args => args.brewArgs
  | tool args => args.brewArgs stored

/-- The coordinator when it does. -/
def select (w : World) (name : String) (stored : RecipeDict) : Caller → World
  | service args => w.selectForService yaml args name
  | tool args => w.selectForTool yaml args name stored

/-- Its schema accepts the call. -/
def Accepted : Caller → Prop
  | service args => args.Accepted
  | tool args => args.Accepted

end Caller
end

/-! ## The sliders -/

variable {yaml : YamlLayer} {w : World} {name : String} {stored : RecipeDict}

/-- A recipe whose selection sets the sliders: coffee that grinds. -/
def Grinds (stored : RecipeDict) : Prop := stored.isTea = false ∧ 0 < stored.grindSize

instance : DecidablePred Grinds := fun stored =>
  inferInstanceAs (Decidable (stored.isTea = false ∧ 0 < stored.grindSize))

theorem not_grinds_iff : ¬ Grinds stored ↔
    lower (strip stored.cupType) = "tea" ∨ stored.grindSize ≤ 0 := by
  rw [← stored.isTea_iff]
  unfold Grinds
  rw [not_and_or, Bool.not_eq_false, not_lt]

/-- **What a selection does to the sliders.** -/
theorem selectRecipe_sliders (hname : w.named yaml (some name) = some stored) :
    (w.selectRecipe yaml (some name)).grindSize =
        (if Grinds stored then stored.grindSize else w.grindSize) ∧
      (w.selectRecipe yaml (some name)).rpm =
        (if Grinds stored ∧ stored.rpm ≠ 0 then stored.rpm else w.rpm) := by
  have hsame : World.named yaml
      { w with store := { w.store with selectedRecipe := some name } } (some name) = some stored := hname
  unfold World.selectRecipe
  simp only [hsame]
  by_cases hgrinds : Grinds stored
  · rw [if_neg (fun h => not_grinds_iff.mpr h hgrinds), if_pos hgrinds]
    refine ⟨rfl, ?_⟩
    show (if stored.rpm = 0 then w.rpm else stored.rpm) = _
    by_cases hrpm : stored.rpm = 0
    · rw [if_pos hrpm, if_neg fun h => h.2 hrpm]
    · rw [if_neg hrpm, if_pos ⟨hgrinds, hrpm⟩]
  · rw [if_pos (not_grinds_iff.mp hgrinds), if_neg hgrinds, if_neg (fun h => hgrinds h.1)]
    exact ⟨rfl, rfl⟩

theorem selectRecipe_selected : (w.selectRecipe yaml (some name)).named yaml
    (w.selectRecipe yaml (some name)).store.selectedRecipe = w.named yaml (some name) := by
  obtain ⟨_, _, hwrites⟩ := w.selectRecipe_writes yaml (some name)
  rw [hwrites]
  rfl

/-- A name that the schemas offer is not empty. -/
theorem offered_ne_empty {s : String} (h : s ∈ ["x_pod", "omni_dripper", "other", "tea"]) : s ≠ "" := by
  rintro rfl
  exact absurd h (by decide)

/-- What the tool takes for tea is built as tea. -/
theorem ToolArgs.laidOver_isTea {args : ToolArgs} (haccepted : args.Accepted)
    (htea : args.isTea stored = true) : (laidOver stored (args.brewArgs stored)).isTea = true := by
  have hcup : lower (args.brew.overrides.cupType.getD stored.cupType) = "tea" := by
    have hlower : lower (args.cupType stored) = "tea" := by simpa [ToolArgs.isTea] using htea
    unfold ToolArgs.cupType at hlower
    cases hoverride : args.brew.overrides.cupType with
    | none =>
      rw [hoverride] at hlower
      by_cases hempty : stored.cupType = ""
      · simp only [Option.getD_none, hempty] at hlower
        exact absurd hlower (by decide +kernel)
      · simpa [hempty] using hlower
    | some s =>
      have hne := offered_ne_empty (haccepted.cupType s hoverride)
      rw [hoverride] at hlower
      simpa [hne] using hlower
  have hsame : (laidOver stored (args.brewArgs stored)).cupType =
      args.brew.overrides.cupType.getD stored.cupType := by
    unfold ToolArgs.brewArgs laidOver
    split <;> rfl
  rw [RecipeDict.isTea_iff, hsame, strip_of_lower_eq_tea hcup]
  exact hcup

/-- **The sliders a coffee is brewed with**: the caller's numbers, else what the selection left. -/
theorem Caller.select_sliders (yaml : YamlLayer) (w : World) (name : String) {caller : Caller}
    (haccepted : caller.Accepted)
    (hcoffee : (laidOver stored (caller.brewArgs stored)).isTea = false) :
    (caller.select yaml w name stored).grindSize =
        caller.grindSize.getD (w.selectRecipe yaml (some name)).grindSize ∧
      (caller.select yaml w name stored).rpm =
        caller.rpm.getD (w.selectRecipe yaml (some name)).rpm := by
  cases caller with
  | service args => exact ⟨rfl, rfl⟩
  | tool args =>
    have htea : args.isTea stored = false := by
      by_contra htea
      have := args.laidOver_isTea haccepted (by simpa using htea)
      exact absurd (this.symm.trans hcoffee) (by decide)
    simp only [Caller.select, World.selectForTool, htea]
    exact ⟨rfl, rfl⟩

theorem Caller.select_selected {caller : Caller} :
    (caller.select yaml w name stored).named yaml
      (caller.select yaml w name stored).store.selectedRecipe = w.named yaml (some name) := by
  rw [← selectRecipe_selected]
  cases caller with
  | service args => rfl
  | tool args =>
    simp only [Caller.select, World.selectForTool]
    split <;> rfl

/-! ## Brews that grind -/

/-- A recipe is built to grind exactly if the stored one, with the overrides laid over it, does. -/
theorem built_grinds_iff {args : BrewArgs} {raw : RecipeDict} {built : XBloomRecipe}
    (hraw : overrideRecipe stored args = .ok raw) (hbuilt : buildRecipeFromYaml raw = .ok built) :
    (isTeaRecipe built = false ∧ 0 < built.grindSize) ↔ Grinds (laidOver stored args) := by
  obtain ⟨_, _, hargs, _⟩ := buildRecipe_eq_ok hbuilt
  obtain ⟨_, hlaid, _⟩ := overrideRecipe_eq_ok hraw
  rw [isTeaRecipe_of_built hbuilt, hargs, hlaid]
  rfl

/-- **A brew that grinds takes its two numbers off the sliders.** -/
theorem prepareStored_sliders {args : BrewArgs} {prepared : Prepared}
    (hprepared : prepareStored w args stored = .ok prepared) (hgrinds : Grinds (laidOver stored args)) :
    prepared.recipe.grindSize = w.grindSize ∧ prepared.recipe.rpm = w.rpm := by
  obtain ⟨raw, built, pours, hraw, hbuilt, _, rfl⟩ := prepareStored_eq_ok hprepared
  show (w.withSliders built).grindSize = _ ∧ (w.withSliders built).rpm = _
  unfold World.withSliders
  rw [if_pos ((built_grinds_iff hraw hbuilt).mpr hgrinds)]
  exact ⟨rfl, rfl⟩

end XBloom.Coordinator
