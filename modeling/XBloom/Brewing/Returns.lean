/-
# XBloom.Brewing.Returns — when the payload builders return

The builders raise in three ways: `struct.pack` on a number outside its byte, `int()`/`math.ceil()`
on a float that is not finite, and `OverflowError` on an `int` no double holds.  For pours the
constructors accept, with finite flows, only two of these are left: the one-byte length of the body,
and the floats the footer is computed from.  `coffee_payload_returns` and `tea_payload_returns` say
what it takes.
-/
import XBloom.Brewing.Payload

namespace XBloom.Brewing

open XBloom.Py XBloom.Ble

/-! ## Pours that can be packed -/

/-- A pour the constructor accepts, with a finite flow. -/
structure Packable (pour : PourStep) : Prop where
  valid : pour.Valid
  flow : ∃ q : ℚ, pour.flowRate = .fin q

/-- The four blocks of a body share a length. -/
theorem length_flatten_of_all {blocks : List (List UInt8)} (h : ∀ b ∈ blocks, b.length = 4) :
    blocks.flatten.length = 4 * blocks.length := by
  induction blocks with
  | nil => rfl
  | cons b rest ih =>
    have hb := h b List.mem_cons_self
    have hrest := ih fun c hc => h c (List.mem_cons_of_mem _ hc)
    rw [List.flatten_cons, List.length_append, List.length_cons]
    omega

theorem Packable.temperature_range {pour : PourStep} (h : Packable pour) :
    0 ≤ pour.temperature ∧ pour.temperature ≤ 255 := by
  have ht := h.valid.temperature
  omega

theorem patternCode_range (p : PourPattern) : 0 ≤ p.code ∧ p.code ≤ 255 := by
  cases p <;> decide

theorem vibrationCode_range (v : VibrationPattern) : 0 ≤ v.code ∧ v.code ≤ 255 := by
  cases v <;> decide

/-- Four numbers that fit a byte pack into a block of four. -/
theorem packBBBB_returns {a b c d : ℤ} (ha : 0 ≤ a ∧ a ≤ 255) (hb : 0 ≤ b ∧ b ≤ 255)
    (hc : 0 ≤ c ∧ c ≤ 255) (hd : 0 ≤ d ∧ d ≤ 255) :
    ∃ block, packBBBB a b c d = .ok block ∧ block.length = 4 :=
  ⟨_, packBBBB_of_ok (packB_of_range ha.1 ha.2) (packB_of_range hb.1 hb.2)
    (packB_of_range hc.1 hc.2) (packB_of_range hd.1 hd.2), rfl⟩

/-- The flow of a packable pour truncates to an integer. -/
theorem Packable.flow_returns {pour : PourStep} (h : Packable pour) :
    ∃ n, (pour.flowRate.mul 10).toInt = .ok n := by
  obtain ⟨q, hq⟩ := h.flow
  rw [(h.valid.flow_tenths hq).1]
  exact ⟨_, rfl⟩

/-! ## Coffee -/

/-- How many sub-steps a volume takes. -/
def subStepCount (volume : ℤ) : ℕ :=
  if 127 < volume then (volume / 127).toNat + (if 0 < volume % 127 then 1 else 0) else 1

/-- How many 4-byte blocks the body of pours of these volumes takes: the sub-steps and a timing block
per pour. -/
def bodyBlocks (volumes : List ℤ) : ℕ := (volumes.map fun v => subStepCount v + 1).sum

/-- The blocks bound the volume: 127 ml each. -/
theorem sum_le_bodyBlocks (volumes : List ℤ) : volumes.sum ≤ 127 * bodyBlocks volumes := by
  induction volumes with
  | nil => exact le_rfl
  | cons v rest ih =>
    have hv : v ≤ 127 * subStepCount v := by
      unfold subStepCount
      split
      · split <;> push_cast <;> omega
      · omega
    have hcons : bodyBlocks (v :: rest) = subStepCount v + 1 + bodyBlocks rest := List.sum_cons
    rw [List.sum_cons, hcons]
    push_cast
    omega

theorem mapM_replicate_returns {ε α : Type} {x : Except ε α} {a : α} (hx : x = .ok a) (n : ℕ) :
    ((List.replicate n ()).mapM fun _ => x) = .ok (List.replicate n a) := by
  induction n with
  | zero => rfl
  | succ n ih =>
    rw [List.replicate_succ, List.mapM_cons, hx]
    rw [hx] at ih
    exact bind_eq_ok.mpr ⟨a, rfl, bind_eq_ok.mpr ⟨_, ih, rfl⟩⟩

theorem subSteps_returns {pour : PourStep} (h : Packable pour) :
    ∃ steps, subSteps pour = .ok steps ∧ (∀ b ∈ steps, b.length = 4) ∧
      steps.length = subStepCount pour.volume := by
  have hpattern := patternCode_range pour.pattern
  have hvibration := vibrationCode_range pour.vibration
  have htemp := h.temperature_range
  have hvol := h.valid.volume
  unfold subSteps subStepCount
  -- whole blocks of 127 ml, then what remains; a small pour is one block
  by_cases hbig : 127 < pour.volume
  · rw [if_pos hbig, if_pos hbig]
    obtain ⟨full, hfull, hfullLen⟩ := packBBBB_returns (by decide : (0 : ℤ) ≤ 127 ∧ (127 : ℤ) ≤ 255)
      htemp hpattern hvibration
    have hmany := mapM_replicate_returns hfull (pour.volume / 127).toNat
    have hlens : ∀ b ∈ List.replicate (pour.volume / 127).toNat full, b.length = 4 := by
      intro b hb
      rw [(List.mem_replicate.mp hb).2]
      exact hfullLen
    by_cases hrem : 0 < pour.volume % 127
    · obtain ⟨last, hlast, hlastLen⟩ := packBBBB_returns
        (show 0 ≤ pour.volume % 127 ∧ pour.volume % 127 ≤ 255 by omega) htemp hpattern hvibration
      refine ⟨List.replicate (pour.volume / 127).toNat full ++ [last], ?_, ?_, ?_⟩
      · refine bind_eq_ok.mpr ⟨_, hmany, ?_⟩
        rw [if_pos hrem]
        exact bind_eq_ok.mpr ⟨_, hlast, rfl⟩
      · intro b hb
        rcases List.mem_append.mp hb with hb | hb
        · exact hlens b hb
        · rw [List.mem_singleton.mp hb]
          exact hlastLen
      · rw [if_pos hrem, List.length_append, List.length_replicate, List.length_singleton]
    · refine ⟨List.replicate (pour.volume / 127).toNat full, ?_, hlens, ?_⟩
      · refine bind_eq_ok.mpr ⟨_, hmany, ?_⟩
        rw [if_neg hrem]
        rfl
      · rw [if_neg hrem, List.length_replicate, Nat.add_zero]
  · rw [if_neg hbig, if_neg hbig]
    obtain ⟨block, hblock, hlen⟩ := packBBBB_returns
      (show 0 ≤ pour.volume ∧ pour.volume ≤ 255 by omega) htemp hpattern hvibration
    refine ⟨[block], bind_eq_ok.mpr ⟨_, hblock, rfl⟩, ?_, rfl⟩
    intro b hb
    rw [List.mem_singleton.mp hb]
    exact hlen

theorem timingBlock_returns (rpm : ℤ) (i : ℕ) {pour : PourStep} (h : Packable pour) :
    ∃ block, timingBlock rpm i pour = .ok block ∧ block.length = 4 := by
  obtain ⟨n, hn⟩ := h.flow_returns
  exact ⟨_, bind_eq_ok.mpr ⟨n, hn, rfl⟩, rfl⟩

/-- **The body of a coffee payload is always built**, in `bodyBlocks` blocks. -/
theorem pourBlocks_returns (rpm : ℤ) {pours : List PourStep} (h : ∀ p ∈ pours, Packable p) :
    ∀ i, ∃ blocks, pourBlocks rpm i pours = .ok blocks ∧ (∀ b ∈ blocks, b.length = 4) ∧
      blocks.length = bodyBlocks (pours.map PourStep.volume) := by
  induction pours with
  | nil =>
    intro i
    exact ⟨[], rfl, fun b hb => absurd hb List.not_mem_nil, rfl⟩
  | cons pour rest ih =>
    intro i
    have hpour := h pour List.mem_cons_self
    obtain ⟨steps, hsteps, hstepLens, hstepCount⟩ := subSteps_returns hpour
    obtain ⟨timing, htiming, htimingLen⟩ := timingBlock_returns rpm i hpour
    obtain ⟨blocks, hblocks, hlens, hcount⟩ :=
      ih (fun p hp => h p (List.mem_cons_of_mem _ hp)) (i + 1)
    refine ⟨steps ++ [timing] ++ blocks, ?_, ?_, ?_⟩
    · exact bind_eq_ok.mpr ⟨_, hsteps, bind_eq_ok.mpr ⟨_, htiming, bind_eq_ok.mpr
        ⟨_, hblocks, rfl⟩⟩⟩
    · intro b hb
      rcases List.mem_append.mp hb with hb | hb
      · rcases List.mem_append.mp hb with hb | hb
        · exact hstepLens b hb
        · rw [List.mem_singleton.mp hb]
          exact htimingLen
      · exact hlens b hb
    · rw [List.length_append, List.length_append, List.length_singleton, hstepCount, hcount]
      rfl

/-- Without a positive dose the ratio is 0. -/
theorem ratioTenths_of_not_lt {recipe : XBloomRecipe} (h : PyFloat.lt 0 recipe.beanWeight = false) :
    ratioTenths recipe = .ok 0 := by
  unfold ratioTenths coffeeRatio
  rw [if_neg (by rw [h]; decide)]
  decide +kernel

/-- The ratio in tenths is computed when no float overflows on the way. -/
theorem ratioTenths_returns {recipe : XBloomRecipe} {w : ℚ}
    (hw : recipe.beanWeight = .fin w ∨ recipe.beanWeight = .nan) (hsum : 0 ≤ pourSum recipe)
    (hsumFin : |(pourSum recipe : ℚ)| < PyFloat.overflowBound)
    (hratioFin : 0 < w → |(pourSum recipe : ℚ) / w * 10| < PyFloat.overflowBound) :
    ∃ n, ratioTenths recipe = .ok n ∧ 0 ≤ n := by
  have hsumQ : (0 : ℚ) ≤ pourSum recipe := by exact_mod_cast hsum
  rcases hw with hw | hnan
  case inr =>
    exact ⟨0, ratioTenths_of_not_lt (by rw [hnan]; exact PyFloat.lt_nan_right 0), le_rfl⟩
  by_cases hpos : 0 < w
  · unfold ratioTenths coffeeRatio
    rw [hw]
    have hlt : PyFloat.lt 0 (.fin w) = true := by simpa using hpos
    rw [if_pos hlt, PyFloat.ofInt_of_lt hsumFin]
    have hquot : 0 ≤ (pourSum recipe : ℚ) / w := div_nonneg hsumQ hpos.le
    have hten := hratioFin hpos
    have hquotFin : |(pourSum recipe : ℚ) / w| < PyFloat.overflowBound := by
      rw [abs_of_nonneg (by positivity)] at hten
      rw [abs_of_nonneg hquot]
      linarith only [hten, hquot]
    have hdiv : (PyFloat.fin (pourSum recipe)).div (.fin w) =
        .ok (.fin ((pourSum recipe : ℚ) / w)) := by
      rw [PyFloat.div_fin hpos.ne', PyFloat.ofRat_of_lt hquotFin]
    have hmul : (PyFloat.fin ((pourSum recipe : ℚ) / w)).mul 10 =
        .fin ((pourSum recipe : ℚ) / w * 10) := PyFloat.ofRat_of_lt hten
    refine ⟨⌈(pourSum recipe : ℚ) / w * 10⌉, ?_, Int.ceil_nonneg (by positivity)⟩
    refine bind_eq_ok.mpr ⟨_, bind_eq_ok.mpr ⟨_, rfl, hdiv⟩, ?_⟩
    rw [hmul]
    rfl
  · refine ⟨0, ratioTenths_of_not_lt ?_, le_rfl⟩
    rw [hw]
    simpa using hpos

/-- **A coffee payload is returned** for packable pours whose body fits its length byte and whose
ratio stays a finite float. -/
theorem coffee_payload_returns {recipe : XBloomRecipe} {w : ℚ}
    (hpours : ∀ p ∈ recipe.pours, Packable p) (hsize : 4 * bodyBlocks (recipe.pours.map PourStep.volume) ≤ 255)
    (hw : recipe.beanWeight = .fin w ∨ recipe.beanWeight = .nan)
    (hratioFin : 0 < w → |(pourSum recipe : ℚ) / w * 10| < PyFloat.overflowBound) :
    ∃ payload, buildCoffeeRecipePayload recipe = .ok payload := by
  obtain ⟨blocks, hblocks, hlens, hcount⟩ := pourBlocks_returns recipe.rpm hpours 0
  have hlength : blocks.flatten.length ≤ 255 := by
    rw [length_flatten_of_all hlens, hcount]
    exact hsize
  have hpack := packB_of_range (Int.natCast_nonneg blocks.flatten.length) (by exact_mod_cast hlength)
  have hsum : 0 ≤ pourSum recipe := by
    apply List.sum_nonneg
    intro v hv
    obtain ⟨p, hp, rfl⟩ := List.mem_map.mp hv
    exact (hpours p hp).valid.volume
  have hsumFin : |(pourSum recipe : ℚ)| < PyFloat.overflowBound := by
    apply PyFloat.lt_overflowBound_of_le
    -- the length byte holds 63 blocks at most
    have hle : pourSum recipe ≤ 127 * 63 := by
      have hblocks := sum_le_bodyBlocks (recipe.pours.map PourStep.volume)
      have hdef : pourSum recipe = (recipe.pours.map PourStep.volume).sum := rfl
      omega
    have hleQ : (pourSum recipe : ℚ) ≤ 127 * 63 := by exact_mod_cast hle
    rw [abs_of_nonneg (by exact_mod_cast hsum)]
    exact hleQ.trans (by norm_num)
  obtain ⟨tenths, htenths, hnonneg⟩ := ratioTenths_returns hw hsum hsumFin hratioFin
  have hratio := packB_of_range (show 0 ≤ min tenths 255 by omega) (min_le_right tenths 255)
  have hbody : ∀ len water : UInt8, ((len :: (blocks.flatten ++
      [maskByte recipe.grindSize, water])).drop 1).dropLast.dropLast = blocks.flatten := by
    intro len water
    rw [List.drop_succ_cons, List.drop_zero, dropLast_dropLast_append_pair]
  have hvendored : buildRecipePayload recipe = .ok (_ :: (blocks.flatten ++
      [maskByte recipe.grindSize, maskByte (recipe.totalWater * 10)])) :=
    bind_eq_ok.mpr ⟨_, hblocks, bind_eq_ok.mpr ⟨_, hpack, rfl⟩⟩
  unfold buildCoffeeRecipePayload
  refine returns_bind hvendored ?_
  simp only [hbody]
  exact returns_bind htenths (returns_bind hratio (returns_bind hpack ⟨_, rfl⟩))

/-! ## Tea -/

theorem teaSubSteps_returns {pour : PourStep} (h : Packable pour) :
    ∃ steps, teaSubSteps pour (min pour.volume teaSiphonCap) = .ok steps ∧
      (∀ b ∈ steps, b.length = 4) ∧ steps.length ≤ 1 := by
  have hcap : min pour.volume teaSiphonCap ≤ 90 := min_le_right _ _
  have hvibration := vibrationCode_range pour.vibration
  unfold teaSubSteps
  rw [if_neg (by omega)]
  by_cases hpos : 0 < min pour.volume teaSiphonCap
  · rw [if_pos hpos]
    obtain ⟨block, hblock, hlen⟩ := packBBBB_returns
      (show 0 ≤ min pour.volume teaSiphonCap ∧ min pour.volume teaSiphonCap ≤ 255 by omega)
      h.temperature_range (by decide : 0 ≤ teaPatternByte ∧ teaPatternByte ≤ 255) hvibration
    refine ⟨[block], bind_eq_ok.mpr ⟨_, hblock, rfl⟩, ?_, le_rfl⟩
    intro b hb
    rw [List.mem_singleton.mp hb]
    exact hlen
  · rw [if_neg hpos]
    exact ⟨[], rfl, fun b hb => absurd hb List.not_mem_nil, Nat.zero_le _⟩

/-- A pause a double can hold has a soak byte. -/
theorem soakByte_returns {pausing : ℤ} (h0 : 0 ≤ pausing)
    (h : |(pausing : ℚ)| < PyFloat.overflowBound) :
    ∃ n, soakByte pausing = .ok n ∧ 0 ≤ n ∧ n ≤ 255 := by
  have hp : (0 : ℚ) ≤ pausing := by exact_mod_cast h0
  have hscaled : |(pausing : ℚ) * (3 / 5)| < PyFloat.overflowBound := by
    rw [abs_of_nonneg hp] at h
    rw [abs_of_nonneg (by positivity)]
    linarith only [h, hp]
  have hmul : (PyFloat.fin (pausing : ℚ)).mul (.fin (3 / 5)) = .fin ((pausing : ℚ) * (3 / 5)) :=
    PyFloat.ofRat_of_lt hscaled
  refine ⟨max 1 (min (PyFloat.roundHalfEven ((pausing : ℚ) * (3 / 5))) 255), ?_, by omega, by omega⟩
  refine bind_eq_ok.mpr ⟨_, PyFloat.ofInt_of_lt h, ?_⟩
  rw [hmul]
  rfl

theorem teaTimingBlock_returns (rpm : ℤ) (i : ℕ) {pour : PourStep} (h : Packable pour)
    (hpause : |(pour.pausing : ℚ)| < PyFloat.overflowBound) :
    ∃ block, teaTimingBlock rpm i pour = .ok block ∧ block.length = 4 := by
  obtain ⟨n, hn⟩ := h.flow_returns
  obtain ⟨soak, hsoak, hlow, hhigh⟩ := soakByte_returns h.valid.pausing hpause
  exact ⟨_, bind_eq_ok.mpr ⟨_, hsoak, bind_eq_ok.mpr ⟨_, hn, bind_eq_ok.mpr
    ⟨_, packB_of_range hlow hhigh, rfl⟩⟩⟩, rfl⟩

/-- The body of a tea payload is always built, in at most two blocks per steep. -/
theorem teaBlocks_returns {rpm : ℤ} {pours : List PourStep} (h : ∀ p ∈ pours, Packable p)
    (hpause : ∀ p ∈ pours, |(p.pausing : ℚ)| < PyFloat.overflowBound) :
    ∀ i, ∃ blocks, teaBlocks rpm i pours = .ok blocks ∧ (∀ b ∈ blocks, b.length = 4) ∧
      blocks.length ≤ 2 * pours.length := by
  induction pours with
  | nil =>
    intro i
    exact ⟨[], rfl, fun b hb => absurd hb List.not_mem_nil, le_rfl⟩
  | cons pour rest ih =>
    intro i
    have hpour := h pour List.mem_cons_self
    obtain ⟨steps, hsteps, hstepLens, hstepCount⟩ := teaSubSteps_returns hpour
    obtain ⟨timing, htiming, htimingLen⟩ :=
      teaTimingBlock_returns rpm i hpour (hpause pour List.mem_cons_self)
    obtain ⟨blocks, hblocks, hlens, hcount⟩ := ih (fun p hp => h p (List.mem_cons_of_mem _ hp))
      (fun p hp => hpause p (List.mem_cons_of_mem _ hp)) (i + 1)
    refine ⟨steps ++ [timing] ++ blocks, ?_, ?_, ?_⟩
    · exact bind_eq_ok.mpr ⟨_, hsteps, bind_eq_ok.mpr ⟨_, htiming, bind_eq_ok.mpr
        ⟨_, hblocks, rfl⟩⟩⟩
    · intro b hb
      rcases List.mem_append.mp hb with hb | hb
      · rcases List.mem_append.mp hb with hb | hb
        · exact hstepLens b hb
        · rw [List.mem_singleton.mp hb]
          exact htimingLen
      · exact hlens b hb
    · rw [List.length_append, List.length_append, List.length_singleton, List.length_cons]
      omega

theorem teaRatioByte_returns {recipe : XBloomRecipe} {w : ℚ} (hw : recipe.beanWeight = .fin w)
    (hwn : 0 ≤ w)
    (hratioFin : 1 ≤ w → |(recipe.totalWater : ℚ) / ⌊w⌋ * 10| < PyFloat.overflowBound) :
    ∃ b, teaRatioByte recipe = .ok b := by
  unfold teaRatioByte
  rw [hw, PyFloat.toInt_fin_of_nonneg hwn]
  by_cases hpos : 0 < ⌊w⌋
  · have hone : 1 ≤ w := by exact_mod_cast Int.le_floor.mp (show (1 : ℤ) ≤ ⌊w⌋ by omega)
    have hten := hratioFin hone
    have hquotFin : |(recipe.totalWater : ℚ) / (⌊w⌋ : ℤ)| < PyFloat.overflowBound := by
      rw [abs_mul, abs_of_pos (by norm_num : (0 : ℚ) < 10)] at hten
      linarith only [hten, abs_nonneg ((recipe.totalWater : ℚ) / (⌊w⌋ : ℤ))]
    have hdiv : PyFloat.divInt recipe.totalWater ⌊w⌋ =
        .ok (.fin ((recipe.totalWater : ℚ) / (⌊w⌋ : ℤ))) := by
      unfold PyFloat.divInt
      rw [if_neg (by omega), if_pos hquotFin]
    have hmul : (PyFloat.fin ((recipe.totalWater : ℚ) / (⌊w⌋ : ℤ))).mul 10 =
        .fin ((recipe.totalWater : ℚ) / (⌊w⌋ : ℤ) * 10) := PyFloat.ofRat_of_lt hten
    refine returns_bind rfl ?_
    rw [if_pos hpos]
    refine returns_bind hdiv ?_
    rw [hmul]
    exact ⟨_, rfl⟩
  · refine returns_bind rfl ?_
    rw [if_neg hpos]
    exact ⟨0, rfl⟩

/-- **A tea payload is returned** for at most twenty packable steeps whose pauses a double holds, with
a finite ratio. -/
theorem tea_payload_returns {recipe : XBloomRecipe} {w : ℚ}
    (hpours : ∀ p ∈ recipe.pours, Packable p) (hcount : recipe.pours.length ≤ 20)
    (hpause : ∀ p ∈ recipe.pours, |(p.pausing : ℚ)| < PyFloat.overflowBound)
    (hw : recipe.beanWeight = .fin w) (hwn : 0 ≤ w)
    (hratioFin : 1 ≤ w → |(recipe.totalWater : ℚ) / ⌊w⌋ * 10| < PyFloat.overflowBound) :
    ∃ payload, buildTeaPayload recipe = .ok payload := by
  obtain ⟨blocks, hblocks, hlens, hblockCount⟩ := teaBlocks_returns hpours hpause 0
  have hlength : blocks.flatten.length ≤ 255 := by
    rw [length_flatten_of_all hlens]
    omega
  have hpack := packB_of_range (Int.natCast_nonneg blocks.flatten.length) (by exact_mod_cast hlength)
  obtain ⟨ratio, hratio⟩ := teaRatioByte_returns hw hwn hratioFin
  unfold buildTeaPayload
  exact returns_bind hblocks (returns_bind hratio (returns_bind hpack ⟨_, rfl⟩))

end XBloom.Brewing
