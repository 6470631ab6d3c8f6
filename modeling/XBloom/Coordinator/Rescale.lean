/-
# XBloom.Coordinator.Rescale — whether rescaled pours sum to their target

`scale_pours_to_total` rounds every pour but the last to a whole ml, at least one, and lets the last
absorb the residue "so the sum is exact".  The last pour has a floor of one ml too, so it cannot absorb
a residue that is larger than itself: four equal pours scaled to 6 ml come out as 2, 2, 2 and 1.
-/
import Mathlib.Algebra.BigOperators.Ring.List
import Mathlib.Algebra.Order.BigOperators.Group.List
import XBloom.Coordinator.Prepare
import XBloom.Logic.Apportion

namespace XBloom.Coordinator

open XBloom.Py XBloom.Recipe XBloom.Logic

/-! ## The exact sum -/

/-- The volume of the pours. -/
def totalMl (pours : List PourDict) : ℤ := (pours.map PourDict.volumeMl).sum

theorem totalMl_cast (pours : List PourDict) :
    (totalMl pours : ℚ) = (pours.map fun p => (p.volumeMl : ℚ)).sum := by
  induction pours with
  | nil => rfl
  | cons p rest ih =>
    simp only [totalMl, List.map_cons, List.sum_cons, Int.cast_add] at ih ⊢
    rw [ih]

/-- Every volume of such a sum is a finite float. -/
theorem ofInt_of_sumVolumes {pours : List PourDict} {acc total : PyFloat}
    (h : sumVolumes acc pours = .ok total) :
    ∀ p ∈ pours, PyFloat.ofInt p.volumeMl = .ok (.fin p.volumeMl) := by
  induction pours generalizing acc with
  | nil => simp
  | cons p rest ih =>
    obtain ⟨x, hx, h⟩ := bind_eq_ok.mp h
    intro p' hp'
    rcases List.mem_cons.mp hp' with rfl | hp'
    · obtain rfl := PyFloat.ofInt_eq_ok hx
      exact hx
    · exact ih h p' hp'

/-! ## The shares -/

/-- The exact share of each pour in `target` ml. -/
def shares (pours : List PourDict) (target : ℚ) : List ℚ :=
  pours.map fun p => p.volumeMl * (target / totalMl pours)

/-- The pours with the volumes given. -/
def withVolumes (pours : List PourDict) (volumes : List ℤ) : List PourDict :=
  List.zipWith (fun p volume => { p with volumeMl := volume }) pours volumes

/-- What the statement of exactness is about: numbers that stay exact, so a finite sum, factor and shares. -/
structure Exact (pours : List PourDict) (target : ℚ) : Prop where
  total : sumVolumes 0 pours = .ok (.fin (totalMl pours))
  factor : |target / totalMl pours| < PyFloat.overflowBound
  share : ∀ q ∈ shares pours target, |q| < PyFloat.overflowBound

theorem scalePours_eq_ok {pours : List PourDict} {factor : ℚ} (target : ℚ) (running : ℤ)
    (hvolumes : ∀ p ∈ pours, PyFloat.ofInt p.volumeMl = .ok (.fin p.volumeMl))
    (hshares : ∀ p ∈ pours, |p.volumeMl * factor| < PyFloat.overflowBound) :
    scalePours (.fin factor) (.fin target) running pours =
      .ok (withVolumes pours (apportion PyFloat.roundHalfEven (PyFloat.roundHalfEven target) running
        (pours.map fun p => p.volumeMl * factor))) := by
  induction pours generalizing running with
  | nil => rfl
  | cons p rest ih =>
    cases rest with
    | nil => rfl
    | cons next rest =>
      have hshare : PyFloat.mul (.fin p.volumeMl) (.fin factor) = .fin (p.volumeMl * factor) :=
        PyFloat.ofRat_of_lt (hshares p List.mem_cons_self)
      have hrest := ih (running + wholePart PyFloat.roundHalfEven (p.volumeMl * factor))
        (fun p' hp' => hvolumes p' (List.mem_cons_of_mem _ hp'))
        (fun p' hp' => hshares p' (List.mem_cons_of_mem _ hp'))
      refine bind_eq_ok.mpr ⟨_, hvolumes p List.mem_cons_self, ?_⟩
      rw [hshare]
      refine bind_eq_ok.mpr ⟨_, PyFloat.round_fin _, ?_⟩
      refine bind_eq_ok.mpr ⟨_, hrest, ?_⟩
      rfl

theorem nonpositive_fin (q : ℚ) : nonpositive (.fin q) = decide (q ≤ 0) := by
  unfold nonpositive
  rw [PyFloat.ofNat_eq_fin, PyFloat.lt_fin, PyFloat.eq_fin, Nat.cast_zero, ← Bool.decide_or]
  exact decide_eq_decide.mpr le_iff_lt_or_eq.symm

variable {pours : List PourDict} {target : ℚ}

/-- **What the rescaling returns**: the pours with the apportioned volumes. -/
theorem scalePoursToTotal_eq_ok (hpours : pours ≠ []) (hexact : Exact pours target)
    (htotal : 0 < totalMl pours) (htarget : 0 < target) :
    scalePoursToTotal pours (.fin target) =
      .ok (withVolumes pours (apportion PyFloat.roundHalfEven (PyFloat.roundHalfEven target) 0
        (shares pours target))) := by
  have hpositive : (0 : ℚ) < totalMl pours := by exact_mod_cast htotal
  have hdiv : PyFloat.div (.fin target) (.fin (totalMl pours)) =
      .ok (.fin (target / totalMl pours)) := by
    rw [PyFloat.div_fin hpositive.ne', PyFloat.ofRat_of_lt hexact.factor]
  have hempty : pours.isEmpty = false := by simpa using hpours
  have hscale := scalePours_eq_ok target 0 (ofInt_of_sumVolumes hexact.total)
    (fun p hp => hexact.share _ (List.mem_map_of_mem hp))
  unfold scalePoursToTotal
  rw [hempty]
  refine bind_eq_ok.mpr ⟨_, hexact.total, ?_⟩
  rw [nonpositive_fin, nonpositive_fin, decide_eq_false hpositive.not_ge,
    decide_eq_false htarget.not_ge]
  exact bind_eq_ok.mpr ⟨_, hdiv, hscale⟩

/-! ## Pours with new volumes -/

@[simp] theorem withVolumes_length {volumes : List ℤ} (h : volumes.length = pours.length) :
    (withVolumes pours volumes).length = pours.length := by
  simp [withVolumes, h]

theorem withVolumes_volumes {volumes : List ℤ} (h : volumes.length = pours.length) :
    (withVolumes pours volumes).map PourDict.volumeMl = volumes := by
  induction pours generalizing volumes with
  | nil => exact (List.length_eq_zero_iff.mp h).symm
  | cons p rest ih =>
    cases volumes with
    | nil => cases h
    | cons v vs =>
      have hvs : vs.length = rest.length := by simpa using h
      simpa [withVolumes] using ih hvs

/-- Every other field of a pour is what it was. -/
def SameButVolume (p scaled : PourDict) : Prop := { scaled with volumeMl := p.volumeMl } = p

theorem withVolumes_same {volumes : List ℤ} (h : volumes.length = pours.length) :
    List.Forall₂ SameButVolume pours (withVolumes pours volumes) := by
  induction pours generalizing volumes with
  | nil => exact .nil
  | cons p rest ih =>
    cases volumes with
    | nil => cases h
    | cons v vs => exact .cons rfl (ih (by simpa using h))

/-! ## The property and its condition -/

/-- What "the residue is absorbed by the last pour so the sum is exact" says of a result. -/
structure Rescaled (pours : List PourDict) (target : ℚ) (scaled : List PourDict) : Prop where
  sameLength : scaled.length = pours.length
  notEmpty : ∀ p ∈ scaled, 1 ≤ p.volumeMl
  sameFields : List.Forall₂ SameButVolume pours scaled
  exactSum : totalMl scaled = PyFloat.roundHalfEven target

/-- **Exact rescaling**: the call returns such a result.  The dicts it is given are values here, so it
cannot mutate them. -/
def RescalesExactly (pours : List PourDict) (target : ℚ) : Prop :=
  ∃ scaled, scalePoursToTotal pours (.fin target) = .ok scaled ∧ Rescaled pours target scaled

/-- What the pours before the last have over their exact shares, for being rounded and at least 1 ml. -/
def roundingGains (pours : List PourDict) (target : ℚ) : ℚ :=
  gains PyFloat.roundHalfEven (shares pours target)

/-- The exact share of the last pour. -/
def lastShare (pours : List PourDict) (target : ℚ) : ℚ := (shares pours target).getLastD 0

/-- The gains of the others are at most what the last pour's share has above 1 ml, up to the rounding of
the target. -/
def ResidueFits (pours : List PourDict) (target : ℚ) : Prop :=
  roundingGains pours target ≤
    lastShare pours target - 1 + (PyFloat.roundHalfEven target - target)

instance : Decidable (ResidueFits pours target) := inferInstanceAs (Decidable (_ ≤ _))

theorem shares_sum (htotal : 0 < totalMl pours) : (shares pours target).sum = target := by
  have hpositive : (0 : ℚ) < totalMl pours := by exact_mod_cast htotal
  have hfactor : (shares pours target).sum = totalMl pours * (target / totalMl pours) := by
    unfold shares
    rw [List.sum_map_mul_right, totalMl_cast]
  rw [hfactor, mul_div_cancel₀ _ hpositive.ne']

theorem shares_ne_nil (target : ℚ) (hpours : pours ≠ []) : shares pours target ≠ [] := by
  simpa [shares] using hpours

theorem lastShare_eq (hpours : pours ≠ []) :
    lastShare pours target = (shares pours target).getLast (shares_ne_nil target hpours) := by
  unfold lastShare
  rw [List.getLastD_eq_getLast?, List.getLast?_eq_some_getLast (shares_ne_nil target hpours)]
  rfl

/-! ## When the sum is exact -/

/-- The volumes a rescaling returns are the apportioned ones. -/
theorem rescaled_iff (hpours : pours ≠ []) (hexact : Exact pours target)
    (htotal : 0 < totalMl pours) (htarget : 0 < target) :
    RescalesExactly pours target ↔
      (apportion PyFloat.roundHalfEven (PyFloat.roundHalfEven target) 0 (shares pours target)).sum =
        PyFloat.roundHalfEven target := by
  have hscale := scalePoursToTotal_eq_ok hpours hexact htotal htarget
  have hlength : (apportion PyFloat.roundHalfEven (PyFloat.roundHalfEven target) 0
      (shares pours target)).length = pours.length := by
    simp [shares]
  have hvolumes := withVolumes_volumes hlength
  constructor
  · rintro ⟨scaled, hscaled, hresult⟩
    obtain rfl := Except.ok.inj (hscale.symm.trans hscaled)
    have hsum := hresult.exactSum
    unfold totalMl at hsum
    rwa [hvolumes] at hsum
  · intro hsum
    refine ⟨_, hscale, withVolumes_length hlength, ?_, withVolumes_same hlength, ?_⟩
    · intro p hp
      have hmem : p.volumeMl ∈ (withVolumes pours _).map PourDict.volumeMl := List.mem_map_of_mem hp
      rw [hvolumes] at hmem
      exact one_le_of_mem_apportion _ _ hmem
    · unfold totalMl
      rwa [hvolumes]

/-- **Rescaling is exact** when, and only when, the residue fits in the last pour. -/
theorem rescales_exactly_iff (hpours : pours ≠ []) (hexact : Exact pours target)
    (htotal : 0 < totalMl pours) (htarget : (pours.length : ℚ) ≤ target) :
    RescalesExactly pours target ↔ ResidueFits pours target := by
  have hpositive : 0 < target := by
    refine lt_of_lt_of_le ?_ htarget
    exact_mod_cast List.length_pos_iff.mpr hpours
  rw [rescaled_iff hpours hexact htotal hpositive,
    apportion_sum_eq_iff _ (shares_ne_nil target hpours), shares_sum htotal]
  unfold ResidueFits roundingGains
  rw [lastShare_eq hpours]

theorem sumVolumes_returns {a : ℚ} (hvolumes : ∀ p ∈ pours, 0 ≤ p.volumeMl) (ha : 0 ≤ a)
    (hfinite : a + totalMl pours < PyFloat.overflowBound) :
    sumVolumes (.fin a) pours = .ok (.fin (a + totalMl pours)) := by
  induction pours generalizing a with
  | nil => simp [sumVolumes, totalMl]
  | cons p rest ih =>
    have hrest : ∀ p ∈ rest, 0 ≤ p.volumeMl := fun p' hp' => hvolumes p' (List.mem_cons_of_mem _ hp')
    have hp : (0 : ℚ) ≤ p.volumeMl := by exact_mod_cast hvolumes p List.mem_cons_self
    have htotal : (0 : ℚ) ≤ totalMl rest := by
      exact_mod_cast List.sum_nonneg (by simpa using hrest)
    have hcons : (totalMl (p :: rest) : ℚ) = p.volumeMl + totalMl rest := by simp [totalMl]
    rw [hcons] at hfinite ⊢
    have hvolume : PyFloat.ofInt p.volumeMl = .ok (.fin p.volumeMl) := by
      refine PyFloat.ofInt_of_lt ?_
      rw [abs_of_nonneg hp]
      linarith only [ha, hp, htotal, hfinite]
    have hadd : PyFloat.add (.fin a) (.fin p.volumeMl) = .fin (a + p.volumeMl) := by
      refine PyFloat.ofRat_of_lt ?_
      rw [abs_of_nonneg (by linarith only [ha, hp])]
      linarith only [htotal, hfinite]
    refine bind_eq_ok.mpr ⟨_, hvolume, ?_⟩
    rw [hadd, ih hrest (by linarith only [ha, hp]) (by linarith only [hfinite]), add_assoc]

/-- Accepted volumes with a total and a target that are finite floats stay exact. -/
theorem exact_of_volumes (hvolumes : ∀ p ∈ pours, 0 ≤ p.volumeMl) (htotal : 0 < totalMl pours)
    (hfinite : (totalMl pours : ℚ) < PyFloat.overflowBound) (hpositive : 0 ≤ target)
    (htarget : target < PyFloat.overflowBound) : Exact pours target := by
  have hone : (1 : ℚ) ≤ totalMl pours := by exact_mod_cast htotal
  have hpos : (0 : ℚ) < totalMl pours := by linarith only [hone]
  have hfactor : 0 ≤ target / totalMl pours := div_nonneg hpositive hpos.le
  refine ⟨?_, ?_, ?_⟩
  · have hsum := sumVolumes_returns (a := 0) hvolumes le_rfl (by simpa using hfinite)
    rw [zero_add] at hsum
    exact hsum
  · rw [abs_of_nonneg hfactor]
    exact (div_le_self hpositive hone).trans_lt htarget
  · intro q hq
    obtain ⟨p, hp, rfl⟩ := List.mem_map.mp hq
    have hvolume : (0 : ℚ) ≤ p.volumeMl := by exact_mod_cast hvolumes p hp
    have hle : p.volumeMl ≤ totalMl pours :=
      List.single_le_sum (by simpa using hvolumes) _ (List.mem_map_of_mem hp)
    have hle' : (p.volumeMl : ℚ) ≤ totalMl pours := by exact_mod_cast hle
    rw [abs_of_nonneg (mul_nonneg hvolume hfactor)]
    calc (p.volumeMl : ℚ) * (target / totalMl pours)
        ≤ totalMl pours * (target / totalMl pours) := mul_le_mul_of_nonneg_right hle' hfactor
      _ = target := mul_div_cancel₀ _ hpos.ne'
      _ < PyFloat.overflowBound := htarget

/-- **Large pours are safe.**  Every share is half a ml or more, and the last one has half a ml for every
pour before it and one and a half for itself. -/
theorem residueFits_of_large (hshares : ∀ q ∈ shares pours target, 1 / 2 ≤ q)
    (hlast : (pours.length - 1 : ℕ) / 2 + 3 / 2 ≤ lastShare pours target) :
    ResidueFits pours target := by
  have hgains := gains_le_half PyFloat.roundHalfEven (fun q _ => PyFloat.roundHalfEven_le q) hshares
  have hround := PyFloat.le_roundHalfEven target
  have hlength : (shares pours target).length = pours.length := List.length_map _
  rw [hlength] at hgains
  unfold ResidueFits roundingGains
  linarith only [hgains, hround, hlast]

/-! ## Four equal pours -/

/-- Four pours of 30 ml. -/
def fourPours : List PourDict := List.replicate 4 { volumeMl := 30, temperatureC := 92 }

/-- Scaled to 100 ml they come out as 25 each. -/
theorem four_pours_to_hundred : RescalesExactly fourPours 100 := by
  have hexact : Exact fourPours 100 :=
    exact_of_volumes (by decide) (by decide) (by decide +kernel) (by norm_num) (by decide +kernel)
  exact (rescales_exactly_iff (by decide) hexact (by decide) (by decide +kernel)).mpr
    (by decide +kernel)

/-- **A residue that does not fit.**  Scaled to 6 ml, 1.5 each, the first three are rounded to 2 and the
last cannot be 0: 7 ml. -/
theorem four_pours_to_six : totalMl fourPours = 120 ∧ (fourPours.length : ℚ) ≤ 6 ∧
    ¬ RescalesExactly fourPours 6 := by
  have hscale : (scalePoursToTotal fourPours (.fin 6)).toOption.map totalMl = some 7 := by
    decide +kernel
  refine ⟨by decide, by norm_num [fourPours], ?_⟩
  rintro ⟨scaled, hscaled, hresult⟩
  rw [hscaled] at hscale
  have hseven : totalMl scaled = 7 := Option.some.inj hscale
  have hsix : totalMl scaled = PyFloat.roundHalfEven 6 := hresult.exactSum
  rw [hseven] at hsix
  exact absurd hsix (by decide +kernel)

end XBloom.Coordinator
