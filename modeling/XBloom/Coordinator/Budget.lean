/-
# XBloom.Coordinator.Budget — whether a dose or ratio override keeps the water budget

`_prepare_recipe_execution` rescales the pours "to keep sum(pours)+bypass == dose_g*ratio": it takes the
bypass off the water, scales the pours to the rest and returns the bypass beside them.  The sum is missed
in two ways.  The residue of the rescaling may not fit in the last pour (`XBloom.Coordinator.Rescale`);
and a tea brew returns no bypass, though its pours were scaled as if it did.
-/
import XBloom.Coordinator.Rescale
import XBloom.Recipe.Tombstones

namespace XBloom.Coordinator

open XBloom.Py XBloom.Ble XBloom.Recipe XBloom.Brewing XBloom.Logic

/-! ## What is asked for -/

/-- A stored recipe with a call's overrides laid over it, its pours as they are. -/
def laidOver (stored : RecipeDict) (args : BrewArgs) : RecipeDict :=
  { stored with
    doseG := args.overrides.doseG.getD stored.doseG
    ratio := args.overrides.ratio <|> stored.ratio
    cupType := args.overrides.cupType.getD stored.cupType }

/-- **A call with a budget**: it overrides the dose or the ratio and no single pour, and its dose, ratio
and bypass leave the pours at least 1 ml each.  The last three fields keep the numbers exact. -/
structure Budgeted (stored : RecipeDict) (args : BrewArgs) (dose ratio bypass : ℚ) : Prop where
  overridden : args.overrides.doseG.isSome ∨ args.overrides.ratio.isSome
  noPourOverrides : args.pourOverrides = []
  doseIs : (laidOver stored args).doseG = .fin dose
  dosePositive : 0 < dose
  ratioIs : (laidOver stored args).ratio = some (.fin ratio)
  ratioNonzero : ratio ≠ 0
  bypassIs : args.bypassVolume.getD stored.bypassVolume = .fin bypass
  pours : stored.pours ≠ []
  volume : 0 < totalMl stored.pours
  enough : (stored.pours.length : ℚ) ≤ dose * ratio - bypass
  exactWater : |dose * ratio| < PyFloat.overflowBound
  exactTarget : |dose * ratio - bypass| < PyFloat.overflowBound
  exactPours : Exact stored.pours (dose * ratio - bypass)

/-- **The budget is kept**: the pours and the bypass returned are the water, within 1 ml. -/
def KeepsBudget (prepared : Prepared) (water : ℚ) : Prop :=
  ∃ bypass : ℚ, prepared.bypassVolume = .fin bypass ∧
    |((prepared.recipe.pours.map PourStep.volume).sum : ℚ) + bypass - water| ≤ 1

/-! ## Its condition -/

/-- The bypass that is taken off the water and not returned: a tea brew's. -/
def lostBypass (stored : RecipeDict) (args : BrewArgs) (bypass : ℚ) : ℚ :=
  if (laidOver stored args).isTea then bypass else 0

/-- What the pours come to is within 1 ml of the target and the bypass that is lost: the gains of the
first pours do not drive it above, the target's rounding does not, and it is not short of the two. -/
structure BudgetFits (pours : List PourDict) (target lost : ℚ) : Prop where
  gains : roundingGains pours target ≤ lastShare pours target + lost
  rounding : (PyFloat.roundHalfEven target : ℚ) ≤ target + lost + 1
  short : target + lost ≤ PyFloat.roundHalfEven target + 1 ∨
    lastShare pours target + lost ≤ roundingGains pours target + 2

instance (pours : List PourDict) (target lost : ℚ) : Decidable (BudgetFits pours target lost) :=
  decidable_of_iff (roundingGains pours target ≤ lastShare pours target + lost ∧
    (PyFloat.roundHalfEven target : ℚ) ≤ target + lost + 1 ∧
    (target + lost ≤ PyFloat.roundHalfEven target + 1 ∨
      lastShare pours target + lost ≤ roundingGains pours target + 2))
    ⟨fun h => ⟨h.1, h.2.1, h.2.2⟩, fun h => ⟨h.gains, h.rounding, h.short⟩⟩

/-- With no bypass lost only the gains count. -/
theorem budgetFits_zero_iff (pours : List PourDict) (target : ℚ) :
    BudgetFits pours target 0 ↔ roundingGains pours target ≤ lastShare pours target := by
  have hup := PyFloat.roundHalfEven_le target
  have hdown := PyFloat.le_roundHalfEven target
  constructor
  · intro h
    simpa using h.gains
  · intro h
    refine ⟨by simpa using h, ?_, Or.inl ?_⟩
    · linarith only [hup]
    · linarith only [hdown]

/-! ## The preparation -/

variable {stored : RecipeDict} {args : BrewArgs} {dose ratio bypass : ℚ}

/-- A call with a budget scales the pours to the water less the bypass. -/
theorem overrideRecipe_budgeted (h : Budgeted stored args dose ratio bypass) :
    overrideRecipe stored args = .ok { laidOver stored args with
      pours := withVolumes stored.pours (apportion PyFloat.roundHalfEven
        (PyFloat.roundHalfEven (dose * ratio - bypass)) 0
        (shares stored.pours (dose * ratio - bypass))) } := by
  have hpositive : 0 < dose * ratio - bypass := by
    refine lt_of_lt_of_le ?_ h.enough
    exact_mod_cast List.length_pos_iff.mpr h.pours
  have hoverridden : (args.overrides.doseG.isNone && args.overrides.ratio.isNone) = false := by
    rcases h.overridden with hdose | hratio
    · rw [Option.isNone_eq_false_iff.mpr hdose, Bool.false_and]
    · rw [Option.isNone_eq_false_iff.mpr hratio, Bool.and_false]
  have hdose : args.overrides.doseG.getD stored.doseG = .fin dose := h.doseIs
  have hratio : (args.overrides.ratio <|> stored.ratio) = some (.fin ratio) := h.ratioIs
  have hyields : (PyFloat.lt 0 (.fin dose) && PyFloat.truthy (.fin ratio)) = true := by
    simp [h.dosePositive, h.ratioNonzero]
  have htarget : ((PyFloat.fin dose).mul (.fin ratio)).add (PyFloat.neg (.fin bypass)) =
      .fin (dose * ratio - bypass) := by
    show (PyFloat.ofRat (dose * ratio)).add (.fin (-bypass)) = _
    rw [PyFloat.ofRat_of_lt h.exactWater]
    show PyFloat.ofRat (dose * ratio + -bypass) = _
    rw [← sub_eq_add_neg, PyFloat.ofRat_of_lt h.exactTarget]
  have hscale := scalePoursToTotal_eq_ok h.pours h.exactPours h.volume hpositive
  unfold overrideRecipe laidOver
  simp only [hoverridden, hratio, hdose, hyields, h.bypassIs, htarget]
  exact bind_eq_ok.mpr ⟨_, hscale, rfl⟩

/-- What such a call prepares: the apportioned volumes, and the bypass unless it is tea. -/
theorem prepareStored_budgeted {w : World} {prepared : Prepared}
    (h : Budgeted stored args dose ratio bypass) (hprepared : prepareStored w args stored = .ok prepared) :
    prepared.recipe.pours.map PourStep.volume = apportion PyFloat.roundHalfEven
        (PyFloat.roundHalfEven (dose * ratio - bypass)) 0
        (shares stored.pours (dose * ratio - bypass)) ∧
      prepared.bypassVolume = .fin (bypass - lostBypass stored args bypass) := by
  obtain ⟨raw, built, pours, hraw, hbuilt, hpours, rfl⟩ := prepareStored_eq_ok hprepared
  obtain rfl := Except.ok.inj ((overrideRecipe_budgeted h).symm.trans hraw)
  obtain ⟨totalWater, hbuiltPours, _, _⟩ := buildRecipe_eq_ok hbuilt
  obtain ⟨_, hvolumes, _⟩ := buildPours_eq_ok hbuiltPours
  rw [h.noPourOverrides] at hpours
  obtain rfl := Except.ok.inj hpours
  -- a temperature override changes no volume
  have hwarm : (args.warm built.pours).map PourStep.volume = built.pours.map PourStep.volume := by
    unfold BrewArgs.warm
    split
    · rw [List.map_map]
      rfl
    · rfl
  constructor
  · show (args.warm built.pours).map PourStep.volume = _
    rw [hwarm, hvolumes]
    exact withVolumes_volumes (by simp [shares])
  · have htea := isTeaRecipe_of_built hbuilt
    show (if isTeaRecipe built then 0 else args.bypassVolume.getD stored.bypassVolume) = _
    have hsame : isTeaRecipe built = (laidOver stored args).isTea := htea
    rw [hsame, h.bypassIs]
    -- tea has no bypass
    unfold lostBypass
    split
    · rw [sub_self]
      rfl
    · rw [sub_zero]

/-- **When a dose or ratio override keeps the water budget.** -/
theorem keeps_budget_iff {I : Identifiers} {yaml : YamlLayer} {w : World} {prepared : Prepared}
    (hselected : w.named yaml w.store.selectedRecipe = some stored)
    (h : Budgeted stored args dose ratio bypass)
    (hprepared : prepareRecipeExecution I yaml w args = .ok (some prepared)) :
    KeepsBudget prepared (dose * ratio) ↔
      BudgetFits stored.pours (dose * ratio - bypass) (lostBypass stored args bypass) := by
  obtain ⟨stored', hstored, _, hprepare⟩ := prepareRecipeExecution_eq_ok hprepared
  obtain rfl : stored = stored' := Option.some.inj (hselected.symm.trans hstored)
  obtain ⟨hvolumes, hbypass⟩ := prepareStored_budgeted h hprepare
  have hnear := apportion_near_iff PyFloat.roundHalfEven (PyFloat.roundHalfEven (dose * ratio - bypass))
    (shares_ne_nil (dose * ratio - bypass) h.pours)
    (dose * ratio - bypass + lostBypass stored args bypass)
  rw [shares_sum h.volume, add_sub_cancel_left, ← lastShare_eq h.pours] at hnear
  have hsame : KeepsBudget prepared (dose * ratio) ↔
      |((apportion PyFloat.roundHalfEven (PyFloat.roundHalfEven (dose * ratio - bypass)) 0
        (shares stored.pours (dose * ratio - bypass))).sum : ℚ) -
          (dose * ratio - bypass + lostBypass stored args bypass)| ≤ 1 := by
    unfold KeepsBudget
    rw [hvolumes]
    constructor
    · rintro ⟨q, hq, hle⟩
      obtain rfl := PyFloat.fin.inj (hbypass.symm.trans hq)
      convert hle using 2
      ring
    · intro hle
      refine ⟨_, hbypass, ?_⟩
      convert hle using 2
      ring
  rw [hsame, hnear]
  exact ⟨fun hall => ⟨hall.1, hall.2.1, hall.2.2⟩, fun hfits => ⟨hfits.gains, hfits.rounding, hfits.short⟩⟩

/-! ## One that keeps it and two that do not -/

/-- A machine on which a recipe is selected. -/
def selecting (recipe : RecipeDict) : World where
  store := { options := Dict.empty.insert recipe.name (some recipe), selectedRecipe := some recipe.name }

/-- A coffee of two pours, 15 g at 1:16 with 30 ml of bypass. -/
def bypassCoffee : RecipeDict where
  name := "V60"
  ratio := some 16
  bypassVolume := 30
  pours := [{ volumeMl := 90, temperatureC := 93 }, { volumeMl := 120, temperatureC := 93 }]

/-- The same as a tea. -/
def bypassTea : RecipeDict := { bypassCoffee with cupType := "tea" }

/-- Five equal pours. -/
def fivePours : RecipeDict :=
  { bypassCoffee with bypassVolume := 0, pours := List.replicate 5 { volumeMl := 48, temperatureC := 93 } }

/-- A call that asks for another dose and ratio. -/
def doseAndRatio (dose ratio : ℚ) : BrewArgs where
  overrides := { doseG := some (.fin dose), ratio := some (.fin ratio) }

/-- What a call prepares for a recipe. -/
def preparedFor (recipe : RecipeDict) (args : BrewArgs) : Except PyErr (Option Prepared) :=
  prepareRecipeExecution plainIdentifiers morningYaml (selecting recipe) args

/-- The volume of the pours and the bypass that were prepared. -/
def waterOf (prepared : Prepared) : ℤ × PyFloat :=
  ((prepared.recipe.pours.map PourStep.volume).sum, prepared.bypassVolume)

/-- What is computed of a preparation shows what was prepared. -/
theorem exists_of_prepared {β : Type} {x : Except PyErr (Option Prepared)} (f : Prepared → β) (b : β)
    (h : x.toOption.join.map f = some b) : ∃ prepared, x = .ok (some prepared) ∧ f prepared = b := by
  obtain ⟨prepared, hjoin, hb⟩ := Option.map_eq_some_iff.mp h
  refine ⟨prepared, ?_, hb⟩
  cases x with
  | error e => cases hjoin
  | ok found => exact congrArg Except.ok hjoin

theorem budgeted_coffee : Budgeted bypassCoffee (doseAndRatio 18 16) 18 16 30 where
  overridden := by decide
  noPourOverrides := rfl
  doseIs := rfl
  dosePositive := by norm_num
  ratioIs := rfl
  ratioNonzero := by norm_num
  bypassIs := rfl
  pours := by decide
  volume := by decide
  enough := by decide +kernel
  exactWater := by decide +kernel
  exactTarget := by decide +kernel
  exactPours := exact_of_volumes (by decide) (by decide) (by decide +kernel) (by norm_num)
    (by decide +kernel)

/-- The coffee at 18 g: 258 ml of pours and 30 ml of bypass are the 288 ml. -/
theorem coffee_keeps_budget : ∃ prepared,
    preparedFor bypassCoffee (doseAndRatio 18 16) = .ok (some prepared) ∧
      KeepsBudget prepared (18 * 16) := by
  obtain ⟨prepared, hprepared, _⟩ := exists_of_prepared waterOf (258, 30)
    (x := preparedFor bypassCoffee (doseAndRatio 18 16)) (by decide +kernel)
  exact ⟨prepared, hprepared,
    (keeps_budget_iff (by decide +kernel) budgeted_coffee hprepared).mpr (by decide +kernel)⟩

/-- A brew whose pours and bypass are more than 1 ml off the water. -/
theorem not_keepsBudget {prepared : Prepared} {volume : ℤ} {bypass water : ℚ}
    (h : waterOf prepared = (volume, .fin bypass)) (hoff : 1 < |(volume : ℚ) + bypass - water|) :
    ¬ KeepsBudget prepared water := by
  rintro ⟨q, hq, hle⟩
  have hbypass : PyFloat.fin bypass = .fin q := (congrArg Prod.snd h).symm.trans hq
  obtain rfl := PyFloat.fin.inj hbypass
  have hvolume : (prepared.recipe.pours.map PourStep.volume).sum = volume := congrArg Prod.fst h
  rw [hvolume] at hle
  exact absurd hle hoff.not_ge

/-- **Two ways to miss it.**  The tea at 18 g is scaled to 258 ml and returned without its 30 ml of
bypass; five pours of 1.5 ml come out as 2, 2, 2, 2 and 1. -/
theorem budgets_missed :
    (∃ prepared, preparedFor bypassTea (doseAndRatio 18 16) = .ok (some prepared) ∧
      Budgeted bypassTea (doseAndRatio 18 16) 18 16 30 ∧ ¬ KeepsBudget prepared (18 * 16)) ∧
    (∃ prepared, preparedFor fivePours (doseAndRatio 1 (15 / 2)) = .ok (some prepared) ∧
      Budgeted fivePours (doseAndRatio 1 (15 / 2)) 1 (15 / 2) 0 ∧
      ¬ KeepsBudget prepared (1 * (15 / 2))) := by
  constructor
  · obtain ⟨prepared, hprepared, hwater⟩ := exists_of_prepared waterOf (258, .fin 0)
      (x := preparedFor bypassTea (doseAndRatio 18 16)) (by decide +kernel)
    refine ⟨prepared, hprepared, ?_, not_keepsBudget hwater (by norm_num)⟩
    exact { budgeted_coffee with }
  · obtain ⟨prepared, hprepared, hwater⟩ := exists_of_prepared waterOf (9, .fin 0)
      (x := preparedFor fivePours (doseAndRatio 1 (15 / 2))) (by decide +kernel)
    refine ⟨prepared, hprepared, ?_, not_keepsBudget hwater (by norm_num)⟩
    exact
      { overridden := by decide
        noPourOverrides := rfl
        doseIs := rfl
        dosePositive := by norm_num
        ratioIs := rfl
        ratioNonzero := by norm_num
        bypassIs := rfl
        pours := by decide
        volume := by decide
        enough := by decide +kernel
        exactWater := by decide +kernel
        exactTarget := by decide +kernel
        exactPours := exact_of_volumes (by decide) (by decide) (by decide +kernel) (by norm_num)
          (by decide +kernel) }

end XBloom.Coordinator
