/-
# XBloom.Coordinator.Overrides — whether a recipe stays valid under the overrides of a brew

The constructors check a recipe when it is built; grind size, rpm, temperature and single pours are
written over it afterwards.  The ranges of the schemas lie inside the constructors' but for one: they
take any rpm from 60 to 120, the machine has only the multiples of ten.
-/
import XBloom.Coordinator.Callers

namespace XBloom.Coordinator

open XBloom.Py XBloom.Ble XBloom.Recipe XBloom.Brewing

/-! ## Pours -/

theorem valid_of_temperature {pour : PourStep} (h : pour.Valid) {temperature : ℤ}
    (hrange : 40 ≤ temperature ∧ temperature ≤ 100) :
    PourStep.Valid { pour with temperature := temperature } :=
  { h with temperature := Or.inr hrange }

/-- An entry sets a volume, a flow rate and a pattern. -/
theorem overridePour_eq_ok {ov : PourOverride} {pour result : PourStep}
    (h : overridePour ov pour = .ok result) : ∃ pattern, result = { pour with
      volume := ov.volume.getD pour.volume
      flowRate := ov.flowRate.getD pour.flowRate
      pattern := pattern } := by
  unfold overridePour at h
  split at h
  · obtain ⟨pattern, _, h⟩ := bind_eq_ok.mp h
    exact ⟨pattern, (Except.ok.inj h).symm⟩
  · exact ⟨pour.pattern, (Except.ok.inj h).symm⟩

/-- An accepted entry keeps the pour it names valid. -/
theorem overridePour_valid {ov : PourOverride} {pour result : PourStep} (haccepted : ov.Accepted)
    (hvalid : pour.Valid) (h : overridePour ov pour = .ok result) : result.Valid := by
  obtain ⟨pattern, rfl⟩ := overridePour_eq_ok h
  refine ⟨?_, hvalid.temperature, ?_, hvalid.pausing⟩
  · show (PyFloat.lt (ov.flowRate.getD pour.flowRate) 3 = false ∧ _) ∨ _
    cases hflow : ov.flowRate with
    | none => exact hvalid.flowRate
    | some x =>
      obtain ⟨q, rfl, hlow, hhigh⟩ := haccepted.flowRate x hflow
      exact Or.inl ⟨by simpa using hlow, by simpa using hhigh⟩
  · show 0 ≤ ov.volume.getD pour.volume
    cases hvolume : ov.volume with
    | none => exact hvalid.volume
    | some n =>
      have hrange := haccepted.volume n hvolume
      simp only [Option.getD_some]
      omega

/-- **`_apply_pour_overrides` keeps the pours valid**, and adds none. -/
theorem applyPourOverrides_valid {pours result : List PourStep} {entries : List PourOverride}
    (haccepted : ∀ ov ∈ entries, ov.Accepted) (hvalid : ∀ p ∈ pours, p.Valid)
    (h : applyPourOverrides pours entries = .ok result) :
    result.length = pours.length ∧ ∀ p ∈ result, p.Valid := by
  induction entries generalizing pours with
  | nil =>
    obtain rfl := Except.ok.inj h
    exact ⟨rfl, hvalid⟩
  | cons ov rest ih =>
    have hrest : ∀ ov ∈ rest, ov.Accepted := fun o ho => haccepted o (List.mem_cons_of_mem _ ho)
    unfold applyPourOverrides at h
    split at h
    · exact ih hrest hvalid h
    · rename_i pour hpour
      obtain ⟨pour', hpour', h⟩ := bind_eq_ok.mp h
      have hmem : pour ∈ pours := by
        split at hpour
        · exact List.mem_of_getElem? hpour
        · cases hpour
      have hvalid' := overridePour_valid (haccepted ov List.mem_cons_self) (hvalid pour hmem) hpour'
      obtain ⟨hlength, hall⟩ := ih hrest (fun p hp => by
        rcases List.mem_or_eq_of_mem_set hp with hp | rfl
        · exact hvalid p hp
        · exact hvalid') h
      rw [List.length_set] at hlength
      exact ⟨hlength, hall⟩

/-- The temperature of a call keeps the pours valid, and adds none. -/
theorem warm_valid {args : BrewArgs} {pours : List PourStep}
    (haccepted : ∀ n ∈ args.overrides.temperatureC, 40 ≤ n ∧ n ≤ 100) (hvalid : ∀ p ∈ pours, p.Valid) :
    (args.warm pours).length = pours.length ∧ ∀ p ∈ args.warm pours, p.Valid := by
  unfold BrewArgs.warm
  split
  · rename_i temperature htemperature
    refine ⟨List.length_map _, ?_⟩
    intro p hp
    obtain ⟨p', hp', rfl⟩ := List.mem_map.mp hp
    exact valid_of_temperature (hvalid p' hp') (haccepted temperature htemperature)
  · exact ⟨rfl, hvalid⟩

/-! ## The sliders -/

/-- The two numbers a grinder is set to. -/
def GrinderValid (grindSize rpm : ℤ) : Prop :=
  (0 ≤ grindSize ∧ grindSize ≤ 150) ∧ rpm ∈ XBloomRecipe.validRpms

/-- **Only the sliders can make a prepared recipe invalid.** -/
theorem prepareStored_valid_iff {w : World} {args : BrewArgs} {stored : RecipeDict}
    {prepared : Prepared}
    (htemperature : ∀ n ∈ args.overrides.temperatureC, 40 ≤ n ∧ n ≤ 100)
    (hpours : ∀ ov ∈ args.pourOverrides, ov.Accepted)
    (hprepared : prepareStored w args stored = .ok prepared) :
    (prepared.recipe.Valid ∧ ∀ p ∈ prepared.recipe.pours, p.Valid) ↔
      (Grinds (laidOver stored args) → GrinderValid w.grindSize w.rpm) := by
  obtain ⟨raw, built, pours, hraw, hbuilt, happly, rfl⟩ := prepareStored_eq_ok hprepared
  obtain ⟨totalWater, hbuiltPours, hargs, hvalid⟩ := buildRecipe_eq_ok hbuilt
  obtain ⟨hbuiltValid, _, _⟩ := buildPours_eq_ok hbuiltPours
  obtain ⟨hwarmLength, hwarm⟩ := warm_valid htemperature hbuiltValid
  obtain ⟨hlength, hpoursValid⟩ := applyPourOverrides_valid hpours hwarm happly
  have hcount : pours.length ≤ 20 := by
    have hpoursCount := hvalid.pours
    omega
  have hgrinds := built_grinds_iff hraw hbuilt
  have hpoursAll : (∀ p ∈ pours, p.Valid) ↔ True := iff_true_intro hpoursValid
  show (XBloomRecipe.Valid { w.withSliders built with pours := pours } ∧ ∀ p ∈ pours, p.Valid) ↔ _
  rw [hpoursAll, and_true, ← hgrinds]
  -- coffee takes the sliders' numbers, tea keeps what was built
  unfold World.withSliders
  split
  · rename_i hcoffee
    constructor
    · intro h _
      exact ⟨h.grindSize, h.rpm⟩
    · intro h
      exact ⟨(h hcoffee).1, (h hcoffee).2, hcount, hvalid.beanWeight⟩
  · rename_i hnot
    exact iff_of_true ⟨hvalid.grindSize, hvalid.rpm, hcount, hvalid.beanWeight⟩
      (fun hcoffee => absurd hcoffee hnot)

/-! ## The condition -/

/-- **What the grinder needs of a brew**: an rpm that was asked for is one of the machine's, and a number
that was not asked for and that the selection leaves alone was already on its slider. -/
structure GrinderFits (w : World) (stored : RecipeDict) (caller : Caller) : Prop where
  rpmAsked : ∀ n ∈ caller.rpm, n ∈ XBloomRecipe.validRpms
  rpmKept : caller.rpm = none → ¬ (Grinds stored ∧ stored.rpm ≠ 0) → w.rpm ∈ XBloomRecipe.validRpms
  grindKept : caller.grindSize = none → ¬ Grinds stored → 0 ≤ w.grindSize ∧ w.grindSize ≤ 150

variable {yaml : YamlLayer} {w : World} {name : String} {stored : RecipeDict} {caller : Caller}

theorem Caller.temperature_accepted (h : caller.Accepted) :
    ∀ n ∈ (caller.brewArgs stored).overrides.temperatureC, 40 ≤ n ∧ n ≤ 100 := by
  cases caller with
  | service args => exact fun n hn => by cases hn
  | tool args =>
    simp only [Caller.brewArgs, ToolArgs.brewArgs]
    split
    · exact h.temperatureC
    · exact h.temperatureC

theorem Caller.pourOverrides_accepted (h : caller.Accepted) :
    ∀ ov ∈ (caller.brewArgs stored).pourOverrides, ov.Accepted := by
  cases caller with
  | service args => exact fun ov hov => by cases hov
  | tool args =>
    simp only [Caller.brewArgs, ToolArgs.brewArgs]
    split
    · exact h.pourOverrides
    · exact h.pourOverrides

theorem Caller.grindSize_accepted (h : caller.Accepted) : ∀ n ∈ caller.grindSize, 1 ≤ n ∧ n ≤ 80 := by
  cases caller with
  | service args => exact h.grindSize
  | tool args => exact h.grindSize

/-- The sliders a caller leaves are valid exactly when the grinder's needs are met. -/
theorem select_valid_iff {built : XBloomRecipe} (hname : w.named yaml (some name) = some stored)
    (hbuilds : buildRecipeFromYaml stored = .ok built) (haccepted : caller.Accepted)
    (hcoffee : (laidOver stored (caller.brewArgs stored)).isTea = false) :
    GrinderValid (caller.select yaml w name stored).grindSize (caller.select yaml w name stored).rpm ↔
      GrinderFits w stored caller := by
  obtain ⟨hgrind, hrpm⟩ := Caller.select_sliders yaml w name haccepted hcoffee
  obtain ⟨hgrind', hrpm'⟩ := selectRecipe_sliders hname
  obtain ⟨hstoredGrind, hstoredRpm⟩ := grinder_of_built hbuilds
  rw [hgrind, hrpm, hgrind', hrpm']
  unfold GrinderValid
  constructor
  · rintro ⟨hg, hr⟩
    refine ⟨?_, ?_, ?_⟩
    · intro n hn
      rw [Option.mem_def.mp hn] at hr
      exact hr
    · intro hnone hkept
      rw [hnone, Option.getD_none, if_neg hkept] at hr
      exact hr
    · intro hnone hkept
      rw [hnone, Option.getD_none, if_neg hkept] at hg
      exact hg
  · intro h
    constructor
    · cases hasked : caller.grindSize with
      | some n =>
        -- the schema has checked the size that was asked for
        have hrange := caller.grindSize_accepted haccepted n hasked
        simp only [Option.getD_some]
        omega
      | none =>
        rw [Option.getD_none]
        split
        · exact hstoredGrind
        · rename_i hkept
          exact h.grindKept hasked hkept
    · cases hasked : caller.rpm with
      | some n => exact h.rpmAsked n hasked
      | none =>
        rw [Option.getD_none]
        split
        · exact hstoredRpm
        · rename_i hkept
          exact h.rpmKept hasked hkept

/-- **When the overrides of a brew keep its recipe valid.**  For a stored recipe that builds and a call
its schema accepts: the recipe prepared passes both constructors' checks exactly when it does not grind
or the grinder's needs are met. -/
theorem overrides_valid_iff {I : Identifiers} {built : XBloomRecipe} {prepared : Prepared}
    (hname : w.named yaml (some name) = some stored) (hbuilds : buildRecipeFromYaml stored = .ok built)
    (haccepted : caller.Accepted)
    (hprepared : prepareRecipeExecution I yaml (caller.select yaml w name stored)
      (caller.brewArgs stored) = .ok (some prepared)) :
    (prepared.recipe.Valid ∧ ∀ p ∈ prepared.recipe.pours, p.Valid) ↔
      (Grinds (laidOver stored (caller.brewArgs stored)) → GrinderFits w stored caller) := by
  obtain ⟨stored', hstored, _, hprepare⟩ := prepareRecipeExecution_eq_ok hprepared
  rw [Caller.select_selected, hname] at hstored
  obtain rfl := Option.some.inj hstored
  rw [prepareStored_valid_iff (caller.temperature_accepted haccepted)
    (caller.pourOverrides_accepted haccepted) hprepare]
  refine forall_congr' fun hgrinds => ?_
  exact select_valid_iff hname hbuilds haccepted hgrinds.1

/-! ## Two service calls -/

/-- What a caller prepares for a recipe that is stored. -/
def preparedBy (caller : Caller) (stored : RecipeDict) : Except PyErr (Option Prepared) :=
  prepareRecipeExecution plainIdentifiers morningYaml
    (caller.select morningYaml (selecting stored) stored.name stored) (caller.brewArgs stored)

/-- A service call that asks for an rpm. -/
def atRpm (n : ℤ) : ServiceArgs where
  rpm := some n

theorem atRpm_accepted {n : ℤ} (h : 60 ≤ n ∧ n ≤ 120) : (atRpm n).Accepted where
  grindSize := by simp [atRpm]
  rpm := by
    intro m hm
    obtain rfl : n = m := Option.some.inj hm
    exact h
  doseG := by simp [atRpm]
  ratio := by simp [atRpm]
  cupType := by simp [atRpm]
  bypassVolume := by simp [atRpm]
  bypassTemperature := by simp [atRpm]

theorem coffee_builds : ∃ built, buildRecipeFromYaml bypassCoffee = .ok built :=
  returns_of_isSome (by decide +kernel)

/-- The coffee at 70 rpm is valid. -/
theorem coffee_at_seventy : ∃ prepared,
    preparedBy (.service (atRpm 70)) bypassCoffee = .ok (some prepared) ∧ prepared.recipe.Valid ∧
      ∀ p ∈ prepared.recipe.pours, p.Valid := by
  obtain ⟨built, hbuilds⟩ := coffee_builds
  obtain ⟨prepared, hprepared, _⟩ := exists_of_prepared (fun p => p.recipe.rpm) 70
    (x := preparedBy (.service (atRpm 70)) bypassCoffee) (by decide +kernel)
  have haccepted : Caller.Accepted (.service (atRpm 70)) := atRpm_accepted (by decide)
  refine ⟨prepared, hprepared, (overrides_valid_iff (by decide +kernel) hbuilds haccepted
    hprepared).mpr fun _ => ⟨?_, ?_, ?_⟩⟩
  · intro n hn
    obtain rfl : (70 : ℤ) = n := Option.some.inj hn
    decide
  · exact fun hnone => absurd hnone (by decide)
  · exact fun _ hnot => absurd (by decide : Grinds bypassCoffee) hnot

/-- **An rpm the schema accepts and the machine does not have.**  A service call with 65 rpm is accepted,
and the recipe prepared has 65 rpm. -/
theorem coffee_at_sixty_five : (atRpm 65).Accepted ∧
    (∃ built, buildRecipeFromYaml bypassCoffee = .ok built) ∧
    ∃ prepared, preparedBy (.service (atRpm 65)) bypassCoffee = .ok (some prepared) ∧
      ¬ prepared.recipe.Valid := by
  obtain ⟨prepared, hprepared, hrpm⟩ := exists_of_prepared (fun p => p.recipe.rpm) 65
    (x := preparedBy (.service (atRpm 65)) bypassCoffee) (by decide +kernel)
  refine ⟨atRpm_accepted (by decide), coffee_builds, prepared, hprepared, fun hvalid => ?_⟩
  have hmem := hvalid.rpm
  rw [hrpm] at hmem
  exact absurd hmem (by decide)

end XBloom.Coordinator
