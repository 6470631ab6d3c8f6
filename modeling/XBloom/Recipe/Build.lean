/-
# XBloom.Recipe.Build — from a validated recipe dict to a payload

`_build_recipe_from_yaml` translates a dict that went through `RECIPE_SCHEMA` into the BLE layer's
`XBloomRecipe`; the arm chains then build its payload.  The three layers check independently: the
schema wants numbers of the right type, the constructors want them in the machine's ranges, and
`struct.pack` wants them in a byte.  `schema_accepts_brews` says when all three agree.
-/
import XBloom.Brewing.Returns
import XBloom.Recipe.Schema

namespace XBloom.Recipe

open XBloom.Py XBloom.Ble XBloom.Brewing

/-! ## `_build_recipe_from_yaml` -/

/-- `_YAML_CUP_TYPE_MAP.get(key, 0)`. -/
def yamlCupTypeMap (key : String) : ℤ :=
  if key = "x_pod" ∨ key = "xpod" then CupType.xPod.code
  else if key = "omni_dripper" then CupType.omniDripper.code
  else if key = "other" then CupType.other.code
  else if key = "tea" then CupType.tea.code
  else 0

/-- `_YAML_VIBRATION_MAP.get(key, VibrationPattern.NONE)`. -/
def yamlVibrationMap (key : String) : VibrationPattern :=
  if key = "before" then .before
  else if key = "after" then .after
  else if key = "both" then .both
  else .none

/-- `sum(float(p["volume_ml"]) for p in pours)`, from a running total. -/
def sumVolumes : PyFloat → List PourDict → Except PyErr PyFloat
  | acc, [] => .ok acc
  | acc, p :: rest => do sumVolumes (acc.add (← PyFloat.ofInt p.volumeMl)) rest

/-- `compute_total_water_ml`: dose × ratio when both are set, else the pours' sum. -/
def computeTotalWaterMl (recipe : RecipeDict) : Except PyErr PyFloat :=
  let doseG := if recipe.doseG.truthy then recipe.doseG else 0
  match recipe.ratio with
  | some ratio =>
    if PyFloat.lt 0 doseG && ratio.truthy then .ok (doseG.mul ratio)
    else sumVolumes 0 recipe.pours
  | none => sumVolumes 0 recipe.pours

/-- One pour of `_build_recipe_from_yaml`. -/
def buildPour (p : PourDict) : Except PyErr PourStep := do
  let pattern ← PourPattern.ofCode p.pattern
  PourStep.postInit
    { volume := p.volumeMl
      temperature := p.temperatureC
      flowRate := p.flowRate
      pausing := p.pauseSeconds
      pattern := pattern
      vibration := yamlVibrationMap (lower (strip p.vibration)) }

/-- The pours of `_build_recipe_from_yaml`, in order. -/
def buildPours : List PourDict → Except PyErr (List PourStep)
  | [] => .ok []
  | p :: rest => do
    let step ← buildPour p
    return step :: (← buildPours rest)

/-- The arguments of the `XBloomRecipe(…)` call that ends `_build_recipe_from_yaml`. -/
def recipeArgs (raw : RecipeDict) (pours : List PourStep) (totalWater : ℤ) : XBloomRecipe where
  grindSize := raw.grindSize
  totalWater := totalWater
  rpm := raw.rpm
  cupType := yamlCupTypeMap (lower (strip raw.cupType))
  name := raw.name
  beanWeight := raw.doseG
  pours := pours

/-- `_build_recipe_from_yaml`. -/
def buildRecipeFromYaml (raw : RecipeDict) : Except PyErr XBloomRecipe := do
  let pours ← buildPours raw.pours
  let totalWater ← (← computeTotalWaterMl raw).round
  (recipeArgs raw pours totalWater).postInit

/-- The payload of a recipe's arm chain: 4513's for tea, 8001/8004's otherwise. -/
def buildPayload (recipe : XBloomRecipe) : Except PyErr (List UInt8) :=
  if isTeaRecipe recipe then buildTeaPayload recipe else buildCoffeeRecipePayload recipe

/-! ## Recipes that can be brewed -/

/-- Whether a dict's recipe goes the tea way. -/
def RecipeDict.isTea (r : RecipeDict) : Bool :=
  yamlCupTypeMap (lower (strip r.cupType)) == CupType.tea.code

/-- A validated dict whose numbers the constructors take (the first seven fields, with the dose `w`; a
coffee's may be `nan` too, which passes their comparisons), and whose payload fits the wire: a total `t`
and ratios that stay finite floats, and for coffee a body that fits its length byte. -/
structure Brewable (r : RecipeDict) (w t : ℚ) : Prop where
  flowRate : ∀ p ∈ r.pours, ∃ q : ℚ, p.flowRate = .fin q ∧ (q = 0 ∨ (3 ≤ q ∧ q ≤ 7 / 2))
  temperature : ∀ p ∈ r.pours, 40 ≤ p.temperatureC ∧ p.temperatureC ≤ 100
  pause : ∀ p ∈ r.pours, 0 ≤ p.pauseSeconds
  grindSize : 0 ≤ r.grindSize ∧ r.grindSize ≤ 150
  rpm : r.rpm ∈ XBloomRecipe.validRpms
  pours : r.pours.length ≤ 20
  dose : (r.doseG = .fin w ∧ 0 ≤ w ∧ w ≤ 100) ∨ (r.doseG = .nan ∧ r.isTea = false)
  total : computeTotalWaterMl r = .ok (.fin t)
  coffeeBody : r.isTea = false → 4 * bodyBlocks (r.pours.map PourDict.volumeMl) ≤ 255
  coffeeRatio : r.isTea = false → 0 < w →
    |((r.pours.map PourDict.volumeMl).sum : ℚ) / w * 10| < PyFloat.overflowBound
  teaPause : r.isTea = true → ∀ p ∈ r.pours, |(p.pauseSeconds : ℚ)| < PyFloat.overflowBound
  teaRatio : r.isTea = true → 1 ≤ w →
    |(PyFloat.roundHalfEven t : ℚ) / ⌊w⌋ * 10| < PyFloat.overflowBound

/-! ## Building them -/

theorem ofCode_returns {n : ℤ} (h : n = 0 ∨ n = 1 ∨ n = 2) : ∃ p, PourPattern.ofCode n = .ok p := by
  rcases h with rfl | rfl | rfl
  · exact ⟨.center, rfl⟩
  · exact ⟨.circular, rfl⟩
  · exact ⟨.spiral, rfl⟩

/-- What a pour becomes. -/
structure BuiltFrom (p : PourDict) (s : PourStep) : Prop where
  packable : Packable s
  volume : s.volume = p.volumeMl
  pausing : s.pausing = p.pauseSeconds

theorem buildPour_returns {p : PourDict} (haccepted : p.Accepted)
    (hflow : ∃ q : ℚ, p.flowRate = .fin q ∧ (q = 0 ∨ (3 ≤ q ∧ q ≤ 7 / 2)))
    (htemp : 40 ≤ p.temperatureC ∧ p.temperatureC ≤ 100) (hpause : 0 ≤ p.pauseSeconds) :
    ∃ s, buildPour p = .ok s ∧ BuiltFrom p s := by
  obtain ⟨pattern, hpattern⟩ := ofCode_returns haccepted.pattern
  obtain ⟨q, hq, hrange⟩ := hflow
  have hvalid : (PourStep.mk p.volumeMl p.temperatureC p.flowRate p.pauseSeconds pattern
      (yamlVibrationMap (lower (strip p.vibration)))).Valid := by
    refine ⟨?_, Or.inr htemp, haccepted.volumeMl, hpause⟩
    show (p.flowRate.lt 3 = false ∧ PyFloat.lt (.fin (7 / 2)) p.flowRate = false) ∨
      p.flowRate.eq 0 = true
    rw [hq]
    rcases hrange with rfl | ⟨hlow, hhigh⟩
    · exact Or.inr (by simp)
    · exact Or.inl ⟨by simpa using hlow, by simpa using hhigh⟩
  refine ⟨_, bind_eq_ok.mpr ⟨pattern, hpattern,
    (PourStep.postInit_eq_ok_iff _ _).mpr ⟨rfl, hvalid⟩⟩, ⟨hvalid, q, hq⟩, rfl, rfl⟩

theorem buildPours_returns {pours : List PourDict}
    (h : ∀ p ∈ pours, ∃ s, buildPour p = .ok s ∧ BuiltFrom p s) :
    ∃ steps, buildPours pours = .ok steps ∧ List.Forall₂ BuiltFrom pours steps := by
  induction pours with
  | nil => exact ⟨[], rfl, .nil⟩
  | cons p rest ih =>
    obtain ⟨s, hs, hbuilt⟩ := h p List.mem_cons_self
    obtain ⟨steps, hsteps, hall⟩ := ih fun p' hp' => h p' (List.mem_cons_of_mem _ hp')
    exact ⟨s :: steps, bind_eq_ok.mpr ⟨s, hs, bind_eq_ok.mpr ⟨steps, hsteps, rfl⟩⟩,
      .cons hbuilt hall⟩

/-- The volumes and the number of pours survive the translation. -/
theorem volumes_of_built {pours : List PourDict} {steps : List PourStep}
    (h : List.Forall₂ BuiltFrom pours steps) :
    steps.map PourStep.volume = pours.map PourDict.volumeMl := by
  induction h with
  | nil => rfl
  | cons hs _ ih => rw [List.map_cons, List.map_cons, hs.volume, ih]

/-- Every step was built from one of the pours. -/
theorem exists_of_built {pours : List PourDict} {steps : List PourStep}
    (h : List.Forall₂ BuiltFrom pours steps) : ∀ s ∈ steps, ∃ p ∈ pours, BuiltFrom p s := by
  induction h with
  | nil => exact fun s hs => absurd hs List.not_mem_nil
  | @cons p s _ _ hp _ ih =>
    intro s' hs'
    rcases List.mem_cons.mp hs' with rfl | hs'
    · exact ⟨p, List.mem_cons_self, hp⟩
    · obtain ⟨p', hp', hbuilt⟩ := ih s' hs'
      exact ⟨p', List.mem_cons_of_mem _ hp', hbuilt⟩

/-- The recipe's own constructor takes a brewable dict's numbers. -/
theorem valid_of_brewable {r : RecipeDict} {w t : ℚ} (h : Brewable r w t) {steps : List PourStep}
    (hlen : steps.length = r.pours.length) (totalWater : ℤ) :
    (recipeArgs r steps totalWater).Valid := by
  refine ⟨h.grindSize, h.rpm, hlen.trans_le h.pours, ?_⟩
  show r.doseG.lt 0 = false ∧ PyFloat.lt 100 r.doseG = false
  rcases h.dose with ⟨hw, hw0, hw100⟩ | ⟨hnan, _⟩
  · rw [hw]
    exact ⟨by simpa using hw0, by simpa using hw100⟩
  · rw [hnan]
    exact ⟨PyFloat.lt_nan_left 0, PyFloat.lt_nan_right 100⟩

/-- **A brewable dict is built**, pour by pour. -/
theorem buildRecipe_returns {r : RecipeDict} {w t : ℚ} (haccepted : ∀ p ∈ r.pours, p.Accepted)
    (h : Brewable r w t) :
    ∃ steps, List.Forall₂ BuiltFrom r.pours steps ∧
      buildRecipeFromYaml r = .ok (recipeArgs r steps (PyFloat.roundHalfEven t)) := by
  obtain ⟨steps, hsteps, hbuilt⟩ := buildPours_returns fun p hp =>
    buildPour_returns (haccepted p hp) (h.flowRate p hp) (h.temperature p hp) (h.pause p hp)
  have hvalid := valid_of_brewable h hbuilt.length_eq.symm (PyFloat.roundHalfEven t)
  refine ⟨steps, hbuilt, ?_⟩
  exact bind_eq_ok.mpr ⟨steps, hsteps, bind_eq_ok.mpr ⟨_, h.total, bind_eq_ok.mpr ⟨_, rfl,
    (XBloomRecipe.postInit_eq_ok_iff _ _).mpr ⟨rfl, hvalid⟩⟩⟩⟩

/-- A pour that was built passed its constructor's checks, with its volume and flow unchanged. -/
theorem buildPour_eq_ok {p : PourDict} {step : PourStep} (h : buildPour p = .ok step) :
    step.Valid ∧ step.volume = p.volumeMl ∧ step.flowRate = p.flowRate := by
  obtain ⟨pattern, _, h⟩ := bind_eq_ok.mp h
  obtain ⟨rfl, hvalid⟩ := (PourStep.postInit_eq_ok_iff _ _).mp h
  exact ⟨hvalid, rfl, rfl⟩

/-- The volumes and flows that were built are those of the pours. -/
theorem buildPours_eq_ok {pours : List PourDict} {steps : List PourStep}
    (h : buildPours pours = .ok steps) :
    (∀ s ∈ steps, s.Valid) ∧ steps.map PourStep.volume = pours.map PourDict.volumeMl ∧
      steps.map PourStep.flowRate = pours.map PourDict.flowRate := by
  induction pours generalizing steps with
  | nil =>
    obtain rfl : [] = steps := Except.ok.inj h
    exact ⟨by simp, rfl, rfl⟩
  | cons p rest ih =>
    obtain ⟨step, hstep, h⟩ := bind_eq_ok.mp h
    obtain ⟨steps', hrest, h⟩ := bind_eq_ok.mp h
    obtain rfl : step :: steps' = steps := Except.ok.inj h
    obtain ⟨hvalid, hvolume, hflow⟩ := buildPour_eq_ok hstep
    obtain ⟨hvalids, hvolumes, hflows⟩ := ih hrest
    refine ⟨List.forall_mem_cons.mpr ⟨hvalid, hvalids⟩, ?_, ?_⟩
    · rw [List.map_cons, List.map_cons, hvolume, hvolumes]
    · rw [List.map_cons, List.map_cons, hflow, hflows]

/-- The parts of a recipe that was built. -/
theorem buildRecipe_eq_ok {r : RecipeDict} {built : XBloomRecipe}
    (h : buildRecipeFromYaml r = .ok built) :
    ∃ totalWater, buildPours r.pours = .ok built.pours ∧ built = recipeArgs r built.pours totalWater ∧
      built.Valid := by
  obtain ⟨steps, hsteps, h⟩ := bind_eq_ok.mp h
  obtain ⟨total, _, h⟩ := bind_eq_ok.mp h
  obtain ⟨totalWater, _, h⟩ := bind_eq_ok.mp h
  obtain ⟨rfl, hvalid⟩ := (XBloomRecipe.postInit_eq_ok_iff _ _).mp h
  exact ⟨totalWater, hsteps, rfl, hvalid⟩

/-- The numbers of the grinder in a recipe that can be built. -/
theorem grinder_of_built {r : RecipeDict} {built : XBloomRecipe} (h : buildRecipeFromYaml r = .ok built) :
    (0 ≤ r.grindSize ∧ r.grindSize ≤ 150) ∧ r.rpm ∈ XBloomRecipe.validRpms := by
  obtain ⟨_, _, hargs, hvalid⟩ := buildRecipe_eq_ok h
  have hrange := hvalid.grindSize
  have hmem := hvalid.rpm
  rw [hargs] at hrange hmem
  exact ⟨hrange, hmem⟩

@[simp] theorem isTeaRecipe_recipeArgs (r : RecipeDict) (steps : List PourStep) (totalWater : ℤ) :
    isTeaRecipe (recipeArgs r steps totalWater) = r.isTea := by
  simp only [isTeaRecipe, RecipeDict.isTea, recipeArgs]

/-- What is `tea` in lower case has nothing to strip. -/
theorem strip_of_lower_eq_tea {s : String} (h : lower s = "tea") : strip s = s := by
  have hletters : ("tea".toList.all fun c => !isSpace c) = true := by decide +kernel
  apply strip_of_lower
  intro c hc
  rw [h] at hc
  simpa using List.all_eq_true.mp hletters c hc

/-- Of the keys of `_YAML_CUP_TYPE_MAP` only one is tea. -/
theorem RecipeDict.isTea_iff (r : RecipeDict) : r.isTea = true ↔ lower (strip r.cupType) = "tea" := by
  unfold RecipeDict.isTea yamlCupTypeMap
  constructor
  · intro h
    by_contra hne
    rw [if_neg hne] at h
    split_ifs at h <;> exact absurd h (by decide)
  · intro h
    rw [h]
    decide

/-- What was built is tea if its dict is. -/
theorem isTeaRecipe_of_built {r : RecipeDict} {built : XBloomRecipe}
    (h : buildRecipeFromYaml r = .ok built) : isTeaRecipe built = r.isTea := by
  obtain ⟨totalWater, _, hbuilt, _⟩ := buildRecipe_eq_ok h
  rw [hbuilt, isTeaRecipe_recipeArgs]

/-- **A brewable dict's recipe has a payload**, coffee or tea. -/
theorem buildPayload_returns {r : RecipeDict} {w t : ℚ} (h : Brewable r w t)
    {steps : List PourStep} (hbuilt : List.Forall₂ BuiltFrom r.pours steps) :
    ∃ payload, buildPayload (recipeArgs r steps (PyFloat.roundHalfEven t)) = .ok payload := by
  have hpackable : ∀ s ∈ steps, Packable s := by
    intro s hs
    obtain ⟨p, _, hp⟩ := exists_of_built hbuilt s hs
    exact hp.packable
  have hvolumes := volumes_of_built hbuilt
  unfold buildPayload
  cases htea : r.isTea with
  | true =>
    rw [isTeaRecipe_recipeArgs, if_pos htea]
    -- `int` does not take `nan`, so a tea has a number for its dose
    obtain ⟨hw, hw0, _⟩ := h.dose.resolve_right fun hnan => absurd (htea.symm.trans hnan.2) (by decide)
    refine tea_payload_returns hpackable (hbuilt.length_eq.symm.trans_le h.pours) ?_ hw hw0
      (h.teaRatio htea)
    intro s hs
    obtain ⟨p, hp, hps⟩ := exists_of_built hbuilt s hs
    rw [hps.pausing]
    exact h.teaPause htea p hp
  | false =>
    rw [isTeaRecipe_recipeArgs, if_neg (by rw [htea]; decide)]
    refine coffee_payload_returns hpackable ?_ (h.dose.imp And.left And.left) ?_
    · show 4 * bodyBlocks (steps.map PourStep.volume) ≤ 255
      rw [hvolumes]
      exact h.coffeeBody htea
    · show 0 < w → |((steps.map PourStep.volume).sum : ℚ) / w * 10| < PyFloat.overflowBound
      rw [hvolumes]
      exact h.coffeeRatio htea

/-- **What the schema accepts and the constructors' ranges admit can be brewed.**  The recipe is
built and its payload returned, coffee or tea. -/
theorem schema_accepts_brews {T : TextNumbers} {raw : PyVal} {r : RecipeDict} {w t : ℚ}
    (haccept : recipeSchema T raw = .ok r) (h : Brewable r w t) :
    ∃ recipe payload, buildRecipeFromYaml r = .ok recipe ∧ buildPayload recipe = .ok payload := by
  obtain ⟨steps, hbuilt, hbuild⟩ := buildRecipe_returns (recipeSchema_accepted haccept) h
  obtain ⟨payload, hpayload⟩ := buildPayload_returns h hbuilt
  exact ⟨_, payload, hbuild, hpayload⟩

/-! ## A recipe of each kind -/

/-- A text of digits as the number it is. -/
def decimalNumeral (s : String) : Option ℤ :=
  if s.toList.isEmpty || !s.toList.all Char.isDigit then none
  else some (s.toList.foldl (fun n c => 10 * n + (c.toNat - 48 : ℕ)) 0)

/-- Plain decimal texts: enough for mappings whose numbers are numbers already. -/
def decimalTexts : TextNumbers where
  parseInt := decimalNumeral
  parseFloat s := (decimalNumeral s).map fun n => .fin n
  reprFloat _ := "0.0"

/-- A one-pour mapping with a given flow rate. -/
def onePourMapping (flow : PyFloat) : PyVal :=
  .dict
    [("name", .str "V60"),
     ("pours", .list [.dict [("volume_ml", .int 225), ("temperature_c", .str "BP"),
        ("flow_rate", .float flow)]])]

/-- What the schema makes of it. -/
def onePourDict (flow : PyFloat) : RecipeDict where
  name := "V60"
  pours := [{ volumeMl := 225, temperatureC := 98, flowRate := flow }]

/-- The mapping with a flow of 3.0 goes all the way to a payload. -/
theorem one_pour_brews :
    ∃ recipe payload, buildRecipeFromYaml (onePourDict 3) = .ok recipe ∧
      buildPayload recipe = .ok payload := by
  have haccept : recipeSchema decimalTexts (onePourMapping 3) = .ok (onePourDict 3) := by
    decide +kernel
  have hbrew : Brewable (onePourDict 3) 15 225 := by
    refine ⟨?_, by decide, by decide, by decide, by decide, by decide,
      Or.inl ⟨rfl, by norm_num, by norm_num⟩, by decide +kernel, by decide +kernel, ?_, ?_, ?_⟩
    · intro p hp
      rw [List.mem_singleton.mp hp]
      exact ⟨3, rfl, by norm_num⟩
    · intro _ _
      decide +kernel
    · intro htea
      exact absurd htea (by decide +kernel)
    · intro htea
      exact absurd htea (by decide +kernel)
  exact schema_accepts_brews haccept hbrew

/-- **The constructors' ranges are narrower than the schema's types.**  A flow rate of 5.0 is a float,
so the schema accepts it; `PourStep` refuses it. -/
theorem flow_five_refused :
    recipeSchema decimalTexts (onePourMapping 5) = .ok (onePourDict 5) ∧
      buildRecipeFromYaml (onePourDict 5) = .error (.valueError
        [.lit "Flow rate ", .float 5, .lit " out of range (3.0-3.5)"]) := by
  exact ⟨by decide +kernel, by decide +kernel⟩

end XBloom.Recipe
