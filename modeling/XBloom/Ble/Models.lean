/-
# XBloom.Ble.Models — recipes as the BLE layer holds them, and their 8001/8004 blob

`PourStep` and `XBloomRecipe` are dataclasses whose `__post_init__` checks ranges once, at
construction; their fields stay assignable afterwards (per-brew overrides do assign them), so the
records here are plain and the constructors' verdicts are the two `postInit` functions.
`CheckedRecipe` is the value the constructors hand out: a recipe with the proof that every check
passed.

`build_recipe_payload` compiles a recipe into `LENGTH | BODY | FOOTER`.  The body is a run of
4-byte blocks: per pour its sub-steps (volume in chunks of at most 127 ml) and one timing block.
-/
import XBloom.Py.Number

namespace XBloom.Ble

open XBloom.Py

/-! ## Enumerations -/

/-- Pour styles. -/
inductive PourPattern where
  | center
  | circular
  | spiral
  deriving DecidableEq, Repr

namespace PourPattern

/-- The wire code. -/
def code : PourPattern → ℤ
  | .center => 0
  | .circular => 1
  | .spiral => 2

/-- `PourPattern(n)`: `ValueError` outside the enumeration. -/
def ofCode (n : ℤ) : Except PyErr PourPattern :=
  if n = 0 then .ok .center
  else if n = 1 then .ok .circular
  else if n = 2 then .ok .spiral
  else .error (.valueError [.int n, .lit " is not a valid PourPattern"])

@[simp] theorem ofCode_code (p : PourPattern) : ofCode p.code = .ok p := by cases p <;> rfl

end PourPattern

/-- When the tray vibrates around a pour. -/
inductive VibrationPattern where
  | none
  | before
  | after
  | both
  deriving DecidableEq, Repr

/-- The wire code. -/
def VibrationPattern.code : VibrationPattern → ℤ
  | .none => 0
  | .before => 1
  | .after => 2
  | .both => 3

/-- Brewing vessels. -/
inductive CupType where
  | xPod
  | omniDripper
  | other
  | tea
  deriving DecidableEq, Repr

/-- The integer a recipe carries for the vessel. -/
def CupType.code : CupType → ℤ
  | .xPod => 1
  | .omniDripper => 2
  | .other => 3
  | .tea => 4

/-! ## Pours and recipes -/

/-- One pour: volume in ml, temperature in °C, flow in ml/s, the pause after it in seconds. -/
structure PourStep where
  volume : ℤ
  temperature : ℤ
  flowRate : PyFloat := 3
  pausing : ℤ := 0
  pattern : PourPattern := .spiral
  vibration : VibrationPattern := .none
  deriving DecidableEq, Repr

namespace PourStep

/-- `PourStep.__post_init__`. -/
def postInit (p : PourStep) : Except PyErr PourStep :=
  if (p.flowRate.lt 3 || PyFloat.lt (.fin (7 / 2)) p.flowRate) && !p.flowRate.eq 0 then
    .error (.valueError [.lit "Flow rate ", .float p.flowRate, .lit " out of range (3.0-3.5)"])
  else if p.temperature ≠ 0 ∧ (p.temperature < 40 ∨ 100 < p.temperature) then
    .error (.valueError [.lit "Temperature ", .int p.temperature, .lit " out of range (40-100)"])
  else if p.volume < 0 then
    .error (.valueError [.lit "Volume must be non-negative"])
  else if p.pausing < 0 then
    .error (.valueError [.lit "Pause must be non-negative"])
  else .ok p

/-- What the constructor checks. -/
structure Valid (p : PourStep) : Prop where
  flowRate : (p.flowRate.lt 3 = false ∧ PyFloat.lt (.fin (7 / 2)) p.flowRate = false) ∨
    p.flowRate.eq 0 = true
  temperature : p.temperature = 0 ∨ (40 ≤ p.temperature ∧ p.temperature ≤ 100)
  volume : 0 ≤ p.volume
  pausing : 0 ≤ p.pausing

/-- The constructor returns exactly the valid pours. -/
theorem postInit_eq_ok_iff (p q : PourStep) : p.postInit = .ok q ↔ q = p ∧ p.Valid := by
  unfold postInit
  constructor
  · intro h
    split at h
    · cases h
    · rename_i hflow
      split at h
      · cases h
      · rename_i htemp
        split at h
        · cases h
        · rename_i hvol
          split at h
          · cases h
          · rename_i hpause
            refine ⟨(Except.ok.inj h).symm, ?_, ?_, by omega, by omega⟩
            · -- the code excepts a flow of 0 from the range check
              simp only [Bool.and_eq_true, Bool.or_eq_true, Bool.not_eq_true', not_and,
                Bool.not_eq_false] at hflow
              by_cases hlow : p.flowRate.lt 3 = true ∨ PyFloat.lt (.fin (7 / 2)) p.flowRate = true
              · exact Or.inr (hflow hlow)
              · simp only [not_or, Bool.not_eq_true] at hlow
                exact Or.inl hlow
            · omega
  · rintro ⟨rfl, hflow, htemp, hvol, hpause⟩
    have h1 : ¬ ((q.flowRate.lt 3 || PyFloat.lt (.fin (7 / 2)) q.flowRate) && !q.flowRate.eq 0) =
        true := by
      rcases hflow with ⟨hlow, hhigh⟩ | hzero
      · simp only [hlow, hhigh, Bool.or_self, Bool.false_and]
        decide
      · simp only [hzero, Bool.not_true, Bool.and_false]
        decide
    rw [if_neg h1, if_neg (by omega), if_neg (by omega), if_neg (by omega)]

/-- A valid pour's finite flow is `0` or `3.0..3.5`. -/
theorem Valid.flow_fin {p : PourStep} (h : p.Valid) {q : ℚ} (hq : p.flowRate = .fin q) :
    q = 0 ∨ (3 ≤ q ∧ q ≤ 7 / 2) := by
  rcases h.flowRate with ⟨hlow, hhigh⟩ | hzero
  · rw [hq] at hlow hhigh
    simp only [PyFloat.ofNat_eq_fin, PyFloat.lt_fin, decide_eq_false_iff_not, not_lt,
      Nat.cast_ofNat] at hlow hhigh
    exact Or.inr ⟨hlow, hhigh⟩
  · rw [hq] at hzero
    simp only [PyFloat.ofNat_eq_fin, PyFloat.eq_fin, decide_eq_true_eq] at hzero
    exact Or.inl hzero

/-- Ten times a valid pour's finite flow is the exact product, `0..35`. -/
theorem Valid.flow_tenths {p : PourStep} (h : p.Valid) {q : ℚ} (hq : p.flowRate = .fin q) :
    p.flowRate.mul 10 = .fin (q * 10) ∧ 0 ≤ q * 10 ∧ q * 10 ≤ 35 := by
  have hrange : 0 ≤ q * 10 ∧ q * 10 ≤ 35 := by
    rcases h.flow_fin hq with rfl | ⟨hlow, hhigh⟩
    · norm_num
    · exact ⟨by linarith only [hlow], by linarith only [hhigh]⟩
  have hsmall : |q * 10| < PyFloat.overflowBound := by
    apply PyFloat.lt_overflowBound_of_le
    rw [abs_of_nonneg hrange.1]
    calc q * 10 ≤ 35 := hrange.2
      _ ≤ 10 ^ 100 := by norm_num
  rw [hq]
  exact ⟨PyFloat.ofRat_of_lt hsmall, hrange⟩

/-- A valid pour whose flow times ten truncates has a finite flow: the comparisons let `nan`
through, `int()` does not. -/
theorem Valid.flow_of_toInt {p : PourStep} (h : p.Valid) {n : ℤ}
    (hn : (p.flowRate.mul 10).toInt = .ok n) : ∃ q : ℚ, p.flowRate = .fin q := by
  cases hf : p.flowRate with
  | fin q => exact ⟨q, rfl⟩
  | nan =>
    rw [hf] at hn
    cases hn
  | inf neg =>
    rcases h.flowRate with ⟨hlow, hhigh⟩ | hzero
    · rw [hf] at hlow hhigh
      cases neg
      · cases hhigh
      · cases hlow
    · rw [hf] at hzero
      cases hzero

end PourStep

/-- A recipe as the BLE layer holds it.  `beanWeight` is the dose in grams, `cupType` the vessel's
integer code. -/
structure XBloomRecipe where
  grindSize : ℤ := 60
  totalWater : ℤ := 0
  rpm : ℤ := 60
  cupType : ℤ := 0
  name : String := "Unknown"
  beanWeight : PyFloat := 15
  pours : List PourStep := []
  deriving DecidableEq, Repr

namespace XBloomRecipe

/-- The grinder speeds the machine has; `0` is "no grinder". -/
def validRpms : List ℤ := [0, 60, 70, 80, 90, 100, 110, 120]

/-- `XBloomRecipe.__post_init__`. -/
def postInit (r : XBloomRecipe) : Except PyErr XBloomRecipe :=
  if ¬(0 ≤ r.grindSize ∧ r.grindSize ≤ 150) ∧ r.grindSize ≠ 0 then
    .error (.valueError [.lit "Grind size ", .int r.grindSize, .lit " out of range (1-150)"])
  else if r.rpm ∉ validRpms then
    .error (.valueError
      [.lit "RPM ", .int r.rpm, .lit " invalid (Must be multiple of 10 in 60-120)"])
  else if 20 < r.pours.length then
    .error (.valueError [.lit "Max 20 pours allowed"])
  else if r.beanWeight.lt 0 || PyFloat.lt 100 r.beanWeight then
    .error (.valueError [.lit "Bean weight ", .float r.beanWeight, .lit " invalid (0-100)"])
  else .ok r

/-- What the recipe's own constructor checks (its pours have passed theirs). -/
structure Valid (r : XBloomRecipe) : Prop where
  grindSize : 0 ≤ r.grindSize ∧ r.grindSize ≤ 150
  rpm : r.rpm ∈ validRpms
  pours : r.pours.length ≤ 20
  beanWeight : r.beanWeight.lt 0 = false ∧ PyFloat.lt 100 r.beanWeight = false

/-- The constructor returns exactly the valid recipes. -/
theorem postInit_eq_ok_iff (r s : XBloomRecipe) : r.postInit = .ok s ↔ s = r ∧ r.Valid := by
  unfold postInit
  constructor
  · intro h
    split at h
    · cases h
    · rename_i hgrind
      split at h
      · cases h
      · rename_i hrpm
        split at h
        · cases h
        · rename_i hpours
          split at h
          · cases h
          · rename_i hbean
            simp only [Bool.or_eq_true, not_or, Bool.not_eq_true] at hbean
            exact ⟨(Except.ok.inj h).symm, by omega, not_not.mp hrpm, by omega, hbean⟩
  · rintro ⟨rfl, hgrind, hrpm, hpours, hbean⟩
    rw [if_neg (by omega), if_neg (not_not.mpr hrpm), if_neg (by omega),
      if_neg (by simp only [hbean.1, hbean.2, Bool.or_self, Bool.false_eq_true, not_false_iff])]

theorem rpm_range {n : ℤ} (h : n ∈ validRpms) : 0 ≤ n ∧ n ≤ 120 := by
  simp only [validRpms, List.mem_cons, List.not_mem_nil, or_false] at h
  omega

end XBloomRecipe

/-- A recipe both constructors have accepted: what `PourStep(…)` and `XBloomRecipe(…)` return. -/
structure CheckedRecipe extends XBloomRecipe where
  valid : toXBloomRecipe.Valid
  poursValid : ∀ p ∈ toXBloomRecipe.pours, p.Valid

/-! ## `build_recipe_payload` -/

/-- The sub-steps of one pour: 127 ml chunks and the remainder, each with the pour's temperature,
pattern and vibration. -/
def subSteps (pour : PourStep) : Except PyErr (List (List UInt8)) :=
  if 127 < pour.volume then do
    let chunks := pour.volume / 127
    let remainder := pour.volume % 127
    let full ← (List.replicate chunks.toNat ()).mapM fun _ =>
      packBBBB 127 pour.temperature pour.pattern.code pour.vibration.code
    if 0 < remainder then
      return full ++
        [← packBBBB remainder pour.temperature pour.pattern.code pour.vibration.code]
    return full
  else do
    return [← packBBBB pour.volume pour.temperature pour.pattern.code pour.vibration.code]

/-- The timing block closing a pour: `[-pausing, 0, rpm (first pour only), flow × 10]`. -/
def timingBlock (rpm : ℤ) (i : ℕ) (pour : PourStep) : Except PyErr (List UInt8) := do
  let pauseByte := maskByte (-pour.pausing)
  let flowByte := maskByte (← (pour.flowRate.mul 10).toInt)
  let rpmByte := if i = 0 then maskByte rpm else 0
  return [pauseByte, 0, rpmByte, flowByte]

/-- The blocks of the pours from index `i` on. -/
def pourBlocks (rpm : ℤ) : ℕ → List PourStep → Except PyErr (List (List UInt8))
  | _, [] => return []
  | i, pour :: rest => do
    let steps ← subSteps pour
    let timing ← timingBlock rpm i pour
    return steps ++ [timing] ++ (← pourBlocks rpm (i + 1) rest)

/-- `build_recipe_payload`: `LENGTH | BODY | grind size, total_water × 10`. -/
def buildRecipePayload (recipe : XBloomRecipe) : Except PyErr (List UInt8) := do
  let body := (← pourBlocks recipe.rpm 0 recipe.pours).flatten
  let footer := [maskByte recipe.grindSize, maskByte (recipe.totalWater * 10)]
  return [← packB body.length] ++ body ++ footer

end XBloom.Ble
