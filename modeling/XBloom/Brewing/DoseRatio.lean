/-
# XBloom.Brewing.DoseRatio — the total the machine reconstructs from 8102 and the footer

The firmware multiplies the dose of the 8102 packet by the footer's ratio byte (in tenths) and skips
the grinder without a word when that lands below the pours' sum.  `_build_coffee_recipe_payload`
therefore rounds the ratio up.  But it divides by the *untruncated* dose while `_async_arm_coffee`
sends the dose in whole grams, so the fraction of a gram that is cut off can eat what the rounding
gained.  `reconstructs_pours_iff` says exactly when it does not.
-/
import XBloom.Brewing.Payload

namespace XBloom.Brewing

open XBloom.Py XBloom.Ble

/-! ## Rounding a quotient up -/

/-- `⌈t / w⌉` is the least integer whose multiple of `w` covers `t`. -/
theorem ceil_div_le_iff {t w : ℚ} (hw : 0 < w) (k : ℤ) : ⌈t / w⌉ ≤ k ↔ t ≤ k * w := by
  rw [Int.ceil_le, div_le_iff₀ hw]

/-- **Covering with a smaller unit.**  The least multiplier for `w` also covers `t` in the smaller
unit `d` exactly when every multiplier does. -/
theorem ceil_div_covers_iff {t w d : ℚ} (hw : 0 < w) (hd : 0 ≤ d) (hceil : 0 ≤ ⌈t / w⌉) :
    t ≤ ⌈t / w⌉ * d ↔ ∀ k : ℕ, t ≤ k * w → t ≤ k * d := by
  constructor
  · intro hcover k hk
    have hle : ⌈t / w⌉ ≤ (k : ℤ) := (ceil_div_le_iff hw k).mpr (by exact_mod_cast hk)
    have hle' : (⌈t / w⌉ : ℚ) ≤ k := by exact_mod_cast hle
    calc t ≤ ⌈t / w⌉ * d := hcover
      _ ≤ k * d := mul_le_mul_of_nonneg_right hle' hd
  · intro hall
    obtain ⟨k, hk⟩ := Int.eq_ofNat_of_zero_le hceil
    have hself : t ≤ ⌈t / w⌉ * w := (ceil_div_le_iff hw _).mp le_rfl
    rw [hk] at hself ⊢
    exact_mod_cast hall k (by exact_mod_cast hself)

/-- The overshoot stays below one smaller unit. -/
theorem ceil_div_mul_lt {t w d : ℚ} (ht : 0 ≤ t) (hd : 0 < d) (hdw : d ≤ w) :
    ⌈t / w⌉ * d < t + d := by
  have hw : 0 < w := lt_of_lt_of_le hd hdw
  have hstep : (⌈t / w⌉ : ℚ) < t / w + 1 := Int.ceil_lt_add_one _
  have hquot : t / w * d ≤ t := by
    rw [div_mul_eq_mul_div, div_le_iff₀ hw]
    exact mul_le_mul_of_nonneg_left hdw ht
  calc ⌈t / w⌉ * d < (t / w + 1) * d := mul_lt_mul_of_pos_right hstep hd
    _ = t / w * d + d := by ring
    _ ≤ t + d := by linarith only [hquot]

/-! ## What the builder computes -/

theorem subSteps_volume_nonneg {pour : PourStep} {steps : List (List UInt8)}
    (h : subSteps pour = .ok steps) : 0 ≤ pour.volume := by
  unfold subSteps at h
  split at h
  · omega
  · obtain ⟨block, hblock, _⟩ := bind_eq_ok.mp h
    obtain ⟨v, _, _, _, hv, _⟩ := packBBBB_eq_ok hblock
    exact (packB_eq_ok hv).1

/-- A payload exists only for pours of nonnegative volume. -/
theorem pourSum_nonneg {rpm : ℤ} {pours : List PourStep} :
    ∀ {i : ℕ} {blocks : List (List UInt8)}, pourBlocks rpm i pours = .ok blocks →
      0 ≤ (pours.map PourStep.volume).sum := by
  induction pours with
  | nil =>
    intro i blocks _
    simp
  | cons pour rest ih =>
    intro i blocks h
    unfold pourBlocks at h
    obtain ⟨steps, hsteps, h⟩ := bind_eq_ok.mp h
    obtain ⟨timing, _, h⟩ := bind_eq_ok.mp h
    obtain ⟨blocks', hrest, _⟩ := bind_eq_ok.mp h
    have hvol := subSteps_volume_nonneg hsteps
    have htail := ih hrest
    rw [List.map_cons, List.sum_cons]
    omega

/-- The ratio in tenths is the exact quotient rounded up. -/
theorem ratioTenths_eq_ok {recipe : XBloomRecipe} {w : ℚ} {tenths : ℤ}
    (hw : recipe.beanWeight = .fin w) (hpos : 0 < w) (h : ratioTenths recipe = .ok tenths) :
    tenths = ⌈(10 * pourSum recipe : ℚ) / w⌉ := by
  unfold ratioTenths coffeeRatio at h
  rw [hw] at h
  have hlt : PyFloat.lt 0 (.fin w) = true := by simpa using hpos
  rw [if_pos hlt] at h
  obtain ⟨ratio, hratio, hceil⟩ := bind_eq_ok.mp h
  obtain ⟨total, htotal, hdiv⟩ := bind_eq_ok.mp hratio
  rw [PyFloat.ofInt_eq_ok htotal, PyFloat.div_fin hpos.ne'] at hdiv
  -- the quotient and ten times it are finite, or `math.ceil` raises
  cases hq : ratio with
  | nan => rw [hq] at hceil; cases hceil
  | inf neg =>
    rw [hq] at hceil
    have hten : (10 : ℚ) ≠ 0 := by norm_num
    simp [PyFloat.mul, PyFloat.ceil, hten] at hceil
  | fin q =>
    rw [hq] at hdiv hceil
    obtain ⟨hval, _⟩ := PyFloat.ofRat_eq_fin_iff.mp (Except.ok.inj hdiv)
    simp only [PyFloat.mul] at hceil
    cases hm : PyFloat.ofRat (q * (10 : ℕ)) with
    | nan => rw [hm] at hceil; cases hceil
    | inf neg => rw [hm] at hceil; cases hceil
    | fin m =>
      rw [hm] at hceil
      obtain ⟨hmval, _⟩ := PyFloat.ofRat_eq_fin_iff.mp hm
      have htenths : ⌈m⌉ = tenths := Except.ok.inj hceil
      rw [← htenths, ← hmval, ← hval]
      congr 1
      push_cast
      ring

/-- A grinding recipe's weight is a positive finite number once a dose has been sent for it, and the
dose is its whole part. -/
theorem armDose_eq_ok {recipe : XBloomRecipe} {dose : ℤ} (hgrind : grinding recipe = true)
    (h : armDose recipe = .ok dose) :
    ∃ w : ℚ, recipe.beanWeight = .fin w ∧ 0 < w ∧ dose = ⌊w⌋ := by
  unfold grinding at hgrind
  rw [Bool.and_eq_true] at hgrind
  obtain ⟨_, hlt⟩ := hgrind
  unfold armDose at h
  rw [if_pos hlt] at h
  cases hw : recipe.beanWeight with
  | nan => rw [hw] at h; cases h
  | inf neg => rw [hw] at h; cases h
  | fin w =>
    rw [hw] at h hlt
    have hpos : 0 < w := by simpa using hlt
    rw [PyFloat.toInt_fin_of_nonneg hpos.le] at h
    exact ⟨w, rfl, hpos, (Except.ok.inj h).symm⟩

/-! ## The reconstructed total -/

/-- `dose × ratio_byte / 10`: what the firmware expects the pours to add up to. -/
def reconstructedTotal (dose : ℤ) (ratioByte : UInt8) : ℚ := dose * ratioByte.toNat / 10

/-- The reconstructed total covers the pours, and by less than a tenth of the dose too much. -/
structure ReconstructsPours (recipe : XBloomRecipe) (dose : ℤ) (ratioByte : UInt8) : Prop where
  covers : (pourSum recipe : ℚ) ≤ reconstructedTotal dose ratioByte
  tight : reconstructedTotal dose ratioByte - pourSum recipe < dose / 10

/-- The ratio fits its byte, so the clamp to 255 changes nothing. -/
def Unsaturated (recipe : XBloomRecipe) : Prop :=
  ∀ tenths, ratioTenths recipe = .ok tenths → tenths ≤ 255

/-- The dose has at least one whole gram, and every whole number of tenths that covers the pours at
the recipe's own dose covers them at its whole grams too: no multiplier `k` has
`k · ⌊dose⌋ < 10 · pours ≤ k · dose`. -/
def WholeGramsSuffice (recipe : XBloomRecipe) : Prop :=
  ∃ w : ℚ, recipe.beanWeight = .fin w ∧ 1 ≤ w ∧
    ∀ k : ℕ, (10 * pourSum recipe : ℚ) ≤ k * w → (10 * pourSum recipe : ℚ) ≤ k * (⌊w⌋ : ℤ)

/-- A dose of whole grams loses nothing to the truncation. -/
theorem wholeGramsSuffice_of_integral {recipe : XBloomRecipe} {g : ℕ} (hg : 0 < g)
    (hw : recipe.beanWeight = .fin g) : WholeGramsSuffice recipe := by
  refine ⟨g, hw, by exact_mod_cast hg, ?_⟩
  intro k hk
  rw [Int.floor_natCast]
  exact_mod_cast hk

/-- **The two numbers a chain sends.**  The dose of a grinding recipe's 8102 is the whole part of its
weight, and the last byte of its payload, unless clamped, the quotient of the pours by the *whole*
weight, rounded up. -/
theorem sent_dose_and_ratio {recipe : XBloomRecipe} {bypassVolume bypassTemperature : PyFloat}
    {args : List Arg} {payload : List UInt8} {dose : ℤ} {ratioByte : UInt8}
    (hgrind : grinding recipe = true)
    (hargs : coffeeBypassArgs recipe bypassVolume bypassTemperature = .ok args)
    (hdose : args[2]? = some (.int dose))
    (hpayload : buildCoffeeRecipePayload recipe = .ok payload)
    (hbyte : payload.getLast? = some ratioByte) (hunsat : Unsaturated recipe) :
    ∃ w : ℚ, recipe.beanWeight = .fin w ∧ 0 < w ∧ dose = ⌊w⌋ ∧ 0 ≤ pourSum recipe ∧
      (ratioByte.toNat : ℤ) = ⌈(10 * pourSum recipe : ℚ) / w⌉ := by
  unfold coffeeBypassArgs at hargs
  obtain ⟨dose', harm, hpack⟩ := bind_eq_ok.mp hargs
  have hsame : dose' = dose := by
    have hthird := bypassArgs_dose hpack
    rw [hdose] at hthird
    exact (Arg.int.inj (Option.some.inj hthird)).symm
  rw [hsame] at harm
  obtain ⟨w, hw, hpos, hfloor⟩ := armDose_eq_ok hgrind harm
  obtain ⟨blocks, len, tenths, last, hblocks, _, htenths, hlast, rfl⟩ :=
    buildCoffeeRecipePayload_eq_ok hpayload
  have hlastEq : last = ratioByte := by
    have hl : (len :: (blocks.flatten ++ [maskByte recipe.grindSize, last])).getLast? =
        some last := by
      rw [show len :: (blocks.flatten ++ [maskByte recipe.grindSize, last]) =
        (len :: (blocks.flatten ++ [maskByte recipe.grindSize])) ++ [last] by simp,
        List.getLast?_concat]
    rw [hl] at hbyte
    exact Option.some.inj hbyte
  rw [min_eq_left (hunsat tenths htenths), hlastEq] at hlast
  refine ⟨w, hw, hpos, hfloor, pourSum_nonneg hblocks, ?_⟩
  rw [← ratioTenths_eq_ok hw hpos htenths]
  exact toNat_of_packB hlast

/-- **The reconstructed total, exactly.**  For a grinding recipe whose ratio fits its byte, the dose
of its 8102 packet and the last byte of its payload reconstruct the pours if and only if the whole
grams of the dose suffice. -/
theorem reconstructs_pours_iff {recipe : XBloomRecipe} {bypassVolume bypassTemperature : PyFloat}
    {args : List Arg} {payload : List UInt8} {dose : ℤ} {ratioByte : UInt8}
    (hgrind : grinding recipe = true)
    (hargs : coffeeBypassArgs recipe bypassVolume bypassTemperature = .ok args)
    (hdose : args[2]? = some (.int dose))
    (hpayload : buildCoffeeRecipePayload recipe = .ok payload)
    (hbyte : payload.getLast? = some ratioByte) (hunsat : Unsaturated recipe) :
    ReconstructsPours recipe dose ratioByte ↔ WholeGramsSuffice recipe := by
  obtain ⟨w, hw, hpos, hfloor, hsum, hratio⟩ :=
    sent_dose_and_ratio hgrind hargs hdose hpayload hbyte hunsat
  have hsumQ : (0 : ℚ) ≤ 10 * pourSum recipe := by
    have hz : (0 : ℚ) ≤ pourSum recipe := by exact_mod_cast hsum
    linarith only [hz]
  have hdoseNonneg : (0 : ℚ) ≤ dose := by
    have hz : 0 ≤ dose := by
      rw [hfloor]
      exact Int.floor_nonneg.mpr hpos.le
    exact_mod_cast hz
  have hdoseLe : (dose : ℚ) ≤ w := by
    rw [hfloor]
    exact Int.floor_le w
  have htotal : reconstructedTotal dose ratioByte =
      (⌈(10 * pourSum recipe : ℚ) / w⌉ : ℤ) * dose / 10 := by
    unfold reconstructedTotal
    rw [← hratio, mul_comm]
    push_cast
    rfl
  have hceil : 0 ≤ ⌈(10 * pourSum recipe : ℚ) / w⌉ := by
    rw [← hratio]
    exact Int.natCast_nonneg _
  have hcovers := ceil_div_covers_iff hpos hdoseNonneg hceil
  constructor
  · rintro ⟨hcover, htight⟩
    rw [htotal] at hcover htight
    refine ⟨w, hw, ?_, ?_⟩
    · -- a dose of zero grams reconstructs zero, which is never tight
      by_contra hlt
      have hzero : dose = 0 := by
        rw [hfloor]
        exact Int.floor_eq_zero_iff.mpr ⟨hpos.le, not_le.mp hlt⟩
      rw [hzero, Int.cast_zero, mul_zero, zero_div] at hcover htight
      linarith only [htight, hcover]
    · rw [← hfloor]
      exact hcovers.mp (by linarith only [hcover])
  · rintro ⟨w', hw', hone, hall⟩
    rw [hw] at hw'
    cases hw'
    have hdosePos : (0 : ℚ) < dose := by
      have hge : 1 ≤ dose := by
        rw [hfloor]
        exact Int.le_floor.mpr (by exact_mod_cast hone)
      exact_mod_cast hge
    rw [← hfloor] at hall
    have hcover := hcovers.mpr hall
    have hover := ceil_div_mul_lt hsumQ hdosePos hdoseLe
    refine ⟨?_, ?_⟩
    · rw [htotal]
      linarith only [hcover]
    · rw [htotal]
      linarith only [hover]

/-- 15.5 g over one pour of 250 ml: a recipe like any other, with half a gram to lose. -/
def halfGramRecipe : XBloomRecipe where
  grindSize := 50
  totalWater := 250
  rpm := 80
  cupType := 2
  name := "V60"
  beanWeight := .fin (31 / 2)
  pours := [{ volume := 250, temperature := 93 }]

/-- The same recipe with 18 g. -/
def wholeGramRecipe : XBloomRecipe := { halfGramRecipe with beanWeight := .fin 18 }

/-- Whole grams reconstruct their pours: 18 g over 250 ml sends 139 tenths. -/
theorem whole_grams_reconstruct : ReconstructsPours wholeGramRecipe 18 139 := by
  have hargs : coffeeBypassArgs wholeGramRecipe (.fin 0) (.fin 0) =
      .ok [.f32 (.fin 0), .f32 (.fin 0), .int 18] := by decide +kernel
  have hpayload : buildCoffeeRecipePayload wholeGramRecipe =
      .ok [12, 127, 93, 2, 0, 123, 93, 2, 0, 0, 0, 80, 30, 50, 139] := by decide +kernel
  have htenths : ratioTenths wholeGramRecipe = .ok 139 := by decide +kernel
  have hunsat : Unsaturated wholeGramRecipe := by
    intro tenths h
    rw [htenths] at h
    cases h
    decide
  have hsuffice : WholeGramsSuffice wholeGramRecipe :=
    wholeGramsSuffice_of_integral (by decide : 0 < 18) rfl
  exact (reconstructs_pours_iff (by decide +kernel) hargs rfl hpayload rfl hunsat).mpr hsuffice

/-- **Half a gram is enough to undershoot.**  The constructors accept the 15.5 g recipe; its chain
sends 15 g and 162 tenths, which reconstruct 243 ml of 250. -/
theorem half_gram_undershoots :
    halfGramRecipe.postInit = .ok halfGramRecipe ∧
      (∀ p ∈ halfGramRecipe.pours, p.postInit = .ok p) ∧ grinding halfGramRecipe = true ∧
      coffeeBypassArgs halfGramRecipe (.fin 0) (.fin 0) =
        .ok [.f32 (.fin 0), .f32 (.fin 0), .int 15] ∧
      buildCoffeeRecipePayload halfGramRecipe =
        .ok [12, 127, 93, 2, 0, 123, 93, 2, 0, 0, 0, 80, 30, 50, 162] ∧
      ratioTenths halfGramRecipe = .ok 162 ∧
      ¬ ReconstructsPours halfGramRecipe 15 162 := by
  refine ⟨by decide +kernel, by decide +kernel, by decide +kernel, by decide +kernel,
    by decide +kernel, by decide +kernel, ?_⟩
  rintro ⟨hcover, _⟩
  have hlt : reconstructedTotal 15 162 < (pourSum halfGramRecipe : ℚ) := by decide +kernel
  exact absurd hcover (not_le.mpr hlt)

end XBloom.Brewing
