/-
# XBloom.Coordinator.Prepare — the pre-brew checks and the recipe a brew is built from

`_prepare_recipe_execution` runs before any BLE traffic: the water check, the firmware gate of tea, the
selected recipe with a call's overrides applied, rescaled to its water budget, and its bypass.
-/
import XBloom.Brewing.Payload
import XBloom.Coordinator.State
import XBloom.Recipe.Build

namespace XBloom.Coordinator

open XBloom.Py XBloom.Ble XBloom.Recipe XBloom.Brewing

/-! ## Firmware -/

/-- `_firmware_build`: the build number of a `V12.0D.NNN`. -/
def firmwareBuild (T : TextNumbers) (version : String) : Option ℤ :=
  let text := (strip version).toList
  let scheme := "V12.0D.".toList
  let digits := text.drop scheme.length
  if text.take scheme.length = scheme ∧ digits ≠ [] ∧ digits.all Char.isDigit then
    T.parseInt (String.ofList digits)
  else none

/-- `MIN_FIRMWARE_TEA`. -/
def minFirmwareTea : String := "V12.0D.300"

/-- `_firmware_at_least`: an unknown version passes. -/
def firmwareAtLeast (T : TextNumbers) (version minimum : String) : Bool :=
  match firmwareBuild T version, firmwareBuild T minimum with
  | some current, some required => decide (required ≤ current)
  | _, _ => true

/-! ## Rescaling -/

/-- The loop of `scale_pours_to_total`: every pour but the last is scaled, the last takes the rest. -/
def scalePours (factor target : PyFloat) (running : ℤ) :
    List PourDict → Except PyErr (List PourDict)
  | [] => .ok []
  | [last] => do return [{ last with volumeMl := max 1 ((← target.round) - running) }]
  | p :: next :: rest => do
    let volume := max 1 (← ((← PyFloat.ofInt p.volumeMl).mul factor).round)
    return { p with volumeMl := volume } ::
      (← scalePours factor target (running + volume) (next :: rest))

/-- `x <= 0`. -/
def nonpositive (x : PyFloat) : Bool := PyFloat.lt x 0 || PyFloat.eq x 0

/-- `scale_pours_to_total`. -/
def scalePoursToTotal (pours : List PourDict) (target : PyFloat) : Except PyErr (List PourDict) := do
  if pours.isEmpty then return []
  let current ← sumVolumes 0 pours
  if nonpositive current || nonpositive target then return pours
  scalePours (← target.div current) target 0 pours

/-! ## Overrides -/

/-- The per-brew overrides of a call. -/
structure Overrides where
  doseG : Option PyFloat := none
  ratio : Option PyFloat := none
  cupType : Option String := none
  temperatureC : Option ℤ := none
  deriving DecidableEq, Repr

/-- One entry of `pour_overrides`. -/
structure PourOverride where
  pourIndex : ℤ
  volume : Option ℤ := none
  flowRate : Option PyFloat := none
  pattern : Option ℤ := none
  deriving DecidableEq, Repr

/-- The keyword arguments of `async_execute_recipe` and `async_arm_recipe`. -/
structure BrewArgs where
  overrides : Overrides := {}
  pourOverrides : List PourOverride := []
  bypassVolume : Option PyFloat := none
  bypassTemperature : Option PyFloat := none
  deriving DecidableEq, Repr

/-- One entry of `_apply_pour_overrides` on the pour it names. -/
def overridePour (ov : PourOverride) (pour : PourStep) : Except PyErr PourStep := do
  let pattern ←
    match ov.pattern with
    | some code => PourPattern.ofCode code
    | none => .ok pour.pattern
  return { pour with
    volume := ov.volume.getD pour.volume
    flowRate := ov.flowRate.getD pour.flowRate
    pattern := pattern }

/-- `_apply_pour_overrides`: entries with no such pour are skipped. -/
def applyPourOverrides (pours : List PourStep) : List PourOverride → Except PyErr (List PourStep)
  | [] => .ok pours
  | ov :: rest =>
    match if 0 ≤ ov.pourIndex then pours[ov.pourIndex.toNat]? else none with
    | none => applyPourOverrides pours rest
    | some pour => do
      let pour ← overridePour ov pour
      applyPourOverrides (pours.set ov.pourIndex.toNat pour) rest

/-- The stored recipe with the overrides laid over it and the pours rescaled to them. -/
def overrideRecipe (raw : RecipeDict) (args : BrewArgs) : Except PyErr RecipeDict := do
  let ov := args.overrides
  let raw := { raw with
    doseG := ov.doseG.getD raw.doseG
    ratio := ov.ratio <|> raw.ratio
    cupType := ov.cupType.getD raw.cupType }
  if ov.doseG.isNone && ov.ratio.isNone then return raw
  match raw.ratio with
  | none => return raw
  | some ratio =>
    if PyFloat.lt 0 raw.doseG && ratio.truthy then
      let bypass := args.bypassVolume.getD raw.bypassVolume
      let target := (raw.doseG.mul ratio).add bypass.neg
      return { raw with pours := ← scalePoursToTotal raw.pours target }
    else return raw

/-- What `_prepare_recipe_execution` returns, with the uid the chosen recipe is stored with. -/
structure Prepared where
  recipe : XBloomRecipe
  isTea : Bool
  bypassVolume : PyFloat
  bypassTemperature : PyFloat
  uid : Option String

/-- `_prepare_recipe_execution` once its checks have passed. -/
def prepareStored (w : World) (args : BrewArgs) (stored : RecipeDict) : Except PyErr Prepared := do
  let raw ← overrideRecipe stored args
  let built ← buildRecipeFromYaml raw
  let pours :=
    match args.overrides.temperatureC with
    | some temperature => built.pours.map fun pour => { pour with temperature := temperature }
    | none => built.pours
  let isTea := isTeaRecipe built
  let recipe :=
    if isTea = false ∧ 0 < built.grindSize then
      { built with pours := pours, grindSize := w.grindSize, rpm := w.rpm }
    else { built with pours := pours }
  let pours ← applyPourOverrides recipe.pours args.pourOverrides
  return { recipe := { recipe with pours := pours }
           isTea := isTea
           bypassVolume := if isTea then 0 else args.bypassVolume.getD raw.bypassVolume
           bypassTemperature :=
            if isTea then 0 else args.bypassTemperature.getD raw.bypassTemperature
           uid := stored.uid }

/-- `_prepare_recipe_execution`: `none` when no valid recipe is selected. -/
def prepareRecipeExecution (I : Identifiers) (yaml : YamlLayer) (w : World) (args : BrewArgs) :
    Except PyErr (Option Prepared) :=
  if w.waterSource = waterSourceTank ∧ w.dataWaterLevelOk = false then .error .homeAssistantError
  else
    match w.named yaml w.store.selectedRecipe with
    | none => .ok none
    | some stored =>
      if lower (args.overrides.cupType.getD stored.cupType) = "tea" ∧
          firmwareAtLeast I.texts w.dataVersion minFirmwareTea = false then
        .error .homeAssistantError
      else (prepareStored w args stored).map some

/-! ## What was prepared -/

/-- The recipe built, with the sliders' grind and rpm when it grinds. -/
def World.withSliders (w : World) (built : XBloomRecipe) : XBloomRecipe :=
  if isTeaRecipe built = false ∧ 0 < built.grindSize then
    { built with grindSize := w.grindSize, rpm := w.rpm }
  else built

/-- The pours built, at the temperature of the call if it has one. -/
def BrewArgs.warm (args : BrewArgs) (pours : List PourStep) : List PourStep :=
  match args.overrides.temperatureC with
  | some temperature => pours.map fun pour => { pour with temperature := temperature }
  | none => pours

/-- The steps of a preparation that returned. -/
theorem prepareStored_eq_ok {w : World} {args : BrewArgs} {stored : RecipeDict} {prepared : Prepared}
    (h : prepareStored w args stored = .ok prepared) :
    ∃ raw built pours, overrideRecipe stored args = .ok raw ∧ buildRecipeFromYaml raw = .ok built ∧
      applyPourOverrides (args.warm built.pours) args.pourOverrides = .ok pours ∧
      prepared = {
        recipe := { w.withSliders built with pours := pours }
        isTea := isTeaRecipe built
        bypassVolume := if isTeaRecipe built then 0 else args.bypassVolume.getD raw.bypassVolume
        bypassTemperature :=
          if isTeaRecipe built then 0 else args.bypassTemperature.getD raw.bypassTemperature
        uid := stored.uid } := by
  unfold prepareStored at h
  obtain ⟨raw, hraw, h⟩ := bind_eq_ok.mp h
  obtain ⟨built, hbuilt, h⟩ := bind_eq_ok.mp h
  obtain ⟨pours, hpours, h⟩ := bind_eq_ok.mp h
  refine ⟨raw, built, pours, hraw, hbuilt, ?_, ?_⟩
  · split at hpours
    · exact hpours
    · exact hpours
  · rw [← Except.ok.inj h]
    unfold World.withSliders
    split
    · rfl
    · rfl

/-- A preparation that returned passed its checks and found the selected recipe. -/
theorem prepareRecipeExecution_eq_ok {I : Identifiers} {yaml : YamlLayer} {w : World} {args : BrewArgs}
    {prepared : Prepared} (h : prepareRecipeExecution I yaml w args = .ok (some prepared)) :
    ∃ stored, w.named yaml w.store.selectedRecipe = some stored ∧
      ¬ (lower (args.overrides.cupType.getD stored.cupType) = "tea" ∧
        firmwareAtLeast I.texts w.dataVersion minFirmwareTea = false) ∧
      prepareStored w args stored = .ok prepared := by
  unfold prepareRecipeExecution at h
  split at h
  · cases h
  · split at h
    · cases h
    · rename_i stored hstored
      split at h
      · cases h
      · rename_i hgate
        cases hprepare : prepareStored w args stored with
        | error e =>
          rw [hprepare] at h
          cases h
        | ok p =>
          rw [hprepare] at h
          obtain rfl : p = prepared := Option.some.inj (Except.ok.inj h)
          exact ⟨stored, hstored, hgate, hprepare⟩

/-- **What is prepared is the selected recipe.** -/
theorem prepared_uid {I : Identifiers} {yaml : YamlLayer} {w : World} {args : BrewArgs}
    {prepared : Prepared} (h : prepareRecipeExecution I yaml w args = .ok (some prepared)) :
    prepared.uid = w.selectedUid yaml := by
  obtain ⟨stored, hstored, _, hprepare⟩ := prepareRecipeExecution_eq_ok h
  obtain ⟨raw, built, pours, _, _, _, rfl⟩ := prepareStored_eq_ok hprepare
  show stored.uid = _
  unfold World.selectedUid World.uidOf
  obtain ⟨name, hname, hget⟩ := World.named_eq_some yaml hstored
  rw [hname, Option.bind_some, hget, Option.bind_some]

/-- The overrides of a call, and the pours rescaled to them, are all that is laid over a recipe. -/
theorem overrideRecipe_eq_ok {stored raw : RecipeDict} {args : BrewArgs}
    (h : overrideRecipe stored args = .ok raw) :
    ∃ pours, raw = { stored with
      doseG := args.overrides.doseG.getD stored.doseG
      ratio := args.overrides.ratio <|> stored.ratio
      cupType := args.overrides.cupType.getD stored.cupType
      pours := pours } ∧
      (pours = stored.pours ∨ ∃ target, scalePoursToTotal stored.pours target = .ok pours) := by
  unfold overrideRecipe at h
  simp only [] at h
  split at h
  · exact ⟨stored.pours, (Except.ok.inj h).symm, Or.inl rfl⟩
  · split at h
    · exact ⟨stored.pours, (Except.ok.inj h).symm, Or.inl rfl⟩
    · split at h
      · obtain ⟨pours, hpours, h⟩ := bind_eq_ok.mp h
        exact ⟨pours, (Except.ok.inj h).symm, Or.inr ⟨_, hpours⟩⟩
      · exact ⟨stored.pours, (Except.ok.inj h).symm, Or.inl rfl⟩

end XBloom.Coordinator
