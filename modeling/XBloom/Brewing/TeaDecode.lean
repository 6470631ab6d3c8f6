/-
# XBloom.Brewing.TeaDecode — the steeps of a tea payload, read back

A tea body is a run of 4-byte blocks like a coffee one: a pour `[volume, temperature, 1, vibration]`,
unless its volume is zero, then a timing block `[0, soak, rpm, flow × 10]`.  Byte 0 tells them apart: a
pour's volume on the wire is never zero.

`steeps` reads a body so, and `teaPayload_separates` says what it finds: one group per pour, in order,
whatever their number, volumes and pauses.  The soak byte is the pause times 0.6, rounded, between 1 and
255; no pause falls on a half there, so the float product and the exact one round alike.
-/
import XBloom.Brewing.Decode

namespace XBloom.Brewing

open XBloom.Py XBloom.Ble XBloom.Codec

/-! ## Reading a body -/

/-- Byte 0 is zero: the timing block of a steep. -/
def isTeaTiming (q : Quad UInt8) : Bool := q.b0 == 0

/-- A body in blocks of four, closed by timing blocks. -/
def steeps (body : List UInt8) : Option (List (BlockGroup (Quad UInt8))) :=
  (quads body).bind (splitGroups isTeaTiming)

/-- `round(0.6 * pausing)`, clamped to `1..255`. -/
def soakOf (pausing : ℤ) : ℤ :=
  max 1 (min (PyFloat.roundHalfEven ((pausing : ℚ) * (3 / 5))) 255)

/-- A pour's block: at most 90 ml of it, with its temperature and vibration. -/
structure IsTeaPour (pour : PourStep) (q : Quad UInt8) : Prop where
  volume : (q.b0.toNat : ℤ) = min pour.volume 90
  temperature : (q.b1.toNat : ℤ) = pour.temperature
  vibration : (q.b3.toNat : ℤ) = pour.vibration.code

/-- What stands between two timing blocks: one pour, and nothing when the volume is zero. -/
def PouredBefore (pour : PourStep) (items : List (Quad UInt8)) : Prop :=
  (pour.volume = 0 ∧ items = []) ∨ (pour.volume ≠ 0 ∧ ∃ q, items = [q] ∧ IsTeaPour pour q)

/-- **A steep**: its pour, and a timing block with a nonzero soak. -/
structure IsSteepOf (pour : PourStep) (g : BlockGroup (Quad UInt8)) : Prop where
  poured : PouredBefore pour g.items
  marker : g.closer.b0 = 0
  soak : (g.closer.b1.toNat : ℤ) = soakOf pour.pausing
  soakRange : 1 ≤ g.closer.b1.toNat ∧ g.closer.b1.toNat ≤ 255

/-! ## The soak -/

theorem soakOf_range (pausing : ℤ) : 1 ≤ soakOf pausing ∧ soakOf pausing ≤ 255 := by
  unfold soakOf
  omega

/-- **A longer pause never soaks less.** -/
theorem soakOf_mono {p q : ℤ} (h : p ≤ q) : soakOf p ≤ soakOf q := by
  have hround : PyFloat.roundHalfEven ((p : ℚ) * (3 / 5)) ≤
      PyFloat.roundHalfEven ((q : ℚ) * (3 / 5)) := by
    rcases h.eq_or_lt with rfl | hlt
    · exact le_rfl
    · -- the products are at least 3/5 apart, and rounding moves each by at most a half
      have hgap : (p : ℚ) + 1 ≤ q := by exact_mod_cast hlt
      have hp := PyFloat.roundHalfEven_le ((p : ℚ) * (3 / 5))
      have hq := PyFloat.le_roundHalfEven ((q : ℚ) * (3 / 5))
      have hlt' : (PyFloat.roundHalfEven ((p : ℚ) * (3 / 5)) : ℚ) <
          PyFloat.roundHalfEven ((q : ℚ) * (3 / 5)) + 1 := by linarith only [hgap, hp, hq]
      exact Int.lt_add_one_iff.mp (by exact_mod_cast hlt')
  unfold soakOf
  omega

/-- What `float(n)` returned is no infinity. -/
theorem lt_overflowBound_of_ofInt {n : ℤ} {x : PyFloat} (h : PyFloat.ofInt n = .ok x) :
    |(n : ℚ)| < PyFloat.overflowBound := by
  unfold PyFloat.ofInt at h
  split at h
  · assumption
  · cases h

theorem soakByte_eq_ok {pausing n : ℤ} (h0 : 0 ≤ pausing) (h : soakByte pausing = .ok n) :
    n = soakOf pausing := by
  unfold soakByte at h
  obtain ⟨seconds, hseconds, h⟩ := bind_eq_ok.mp h
  obtain ⟨scaled, hround, h⟩ := bind_eq_ok.mp h
  have hbound := lt_overflowBound_of_ofInt hseconds
  cases PyFloat.ofInt_eq_ok hseconds
  have hp : (0 : ℚ) ≤ pausing := by exact_mod_cast h0
  have hsmall : |(pausing : ℚ) * (3 / 5)| < PyFloat.overflowBound := by
    rw [abs_of_nonneg hp] at hbound
    rw [abs_of_nonneg (by positivity)]
    linarith only [hbound, hp]
  have hmul : (PyFloat.fin (pausing : ℚ)).mul (.fin (3 / 5)) = .fin ((pausing : ℚ) * (3 / 5)) :=
    PyFloat.ofRat_of_lt hsmall
  rw [hmul, PyFloat.round_fin] at hround
  cases hround
  exact (Except.ok.inj h).symm

/-! ## What the encoder writes -/

/-- The sub-steps of a steep: at most one, of the capped volume. -/
theorem teaSubSteps_eq_ok {pour : PourStep} {steps : List (List UInt8)} (hvolume : 0 ≤ pour.volume)
    (h : teaSubSteps pour (min pour.volume teaSiphonCap) = .ok steps) :
    ∃ qs : List (Quad UInt8), steps = qs.map Quad.toList ∧ PouredBefore pour qs := by
  unfold teaSubSteps at h
  unfold teaSiphonCap at h
  rw [if_neg (by omega)] at h
  split at h
  · rename_i hpos
    obtain ⟨block, hblock, h⟩ := bind_eq_ok.mp h
    obtain ⟨v, t, p, vib, hv, ht, _, hvib, rfl⟩ := packBBBB_eq_ok hblock
    refine ⟨[⟨v, t, p, vib⟩], (Except.ok.inj h).symm, .inr ⟨by omega, _, rfl, ?_⟩⟩
    exact ⟨toNat_of_packB hv, toNat_of_packB ht, toNat_of_packB hvib⟩
  · exact ⟨[], (Except.ok.inj h).symm, .inl ⟨by omega, rfl⟩⟩

theorem teaTimingBlock_eq_ok {rpm : ℤ} {i : ℕ} {pour : PourStep} {block : List UInt8}
    (hpause : 0 ≤ pour.pausing) (h : teaTimingBlock rpm i pour = .ok block) :
    ∃ q : Quad UInt8, block = q.toList ∧ q.b0 = 0 ∧ (q.b1.toNat : ℤ) = soakOf pour.pausing ∧
      (i = 0 → q.b2 = maskByte rpm) := by
  unfold teaTimingBlock at h
  obtain ⟨soak, hsoak, h⟩ := bind_eq_ok.mp h
  obtain ⟨flow, _, h⟩ := bind_eq_ok.mp h
  obtain ⟨soak', hpacked, h⟩ := bind_eq_ok.mp h
  refine ⟨⟨0, soak', if i = 0 then maskByte rpm else 0, maskByte flow⟩, (Except.ok.inj h).symm, rfl,
    ?_, fun hi => if_pos hi⟩
  rw [← soakByte_eq_ok hpause hsoak]
  exact toNat_of_packB hpacked

/-- **The body, steep by steep**, with the rpm in the first timing block. -/
theorem teaBlocks_eq_ok {rpm : ℤ} {pours : List PourStep} (hvalid : ∀ p ∈ pours, p.Valid) :
    ∀ {i : ℕ} {blocks : List (List UInt8)}, teaBlocks rpm i pours = .ok blocks →
      ∃ gs : List (BlockGroup (Quad UInt8)),
        blocks = (gs.flatMap BlockGroup.blocks).map Quad.toList ∧
        List.Forall₂ IsSteepOf pours gs ∧
        (i = 0 → ∀ g ∈ gs.head?, g.closer.b2 = maskByte rpm) := by
  induction pours with
  | nil =>
    intro i blocks h
    refine ⟨[], (Except.ok.inj h).symm, .nil, ?_⟩
    intro _ g hg
    cases hg
  | cons pour rest ih =>
    intro i blocks h
    have hpour := hvalid pour List.mem_cons_self
    unfold teaBlocks at h
    obtain ⟨steps, hsteps, h⟩ := bind_eq_ok.mp h
    obtain ⟨timing, htiming, h⟩ := bind_eq_ok.mp h
    obtain ⟨blocks', hrest, h⟩ := bind_eq_ok.mp h
    obtain ⟨qs, rfl, hqs⟩ := teaSubSteps_eq_ok hpour.volume hsteps
    obtain ⟨closer, rfl, hmarker, hsoak, hrpm⟩ := teaTimingBlock_eq_ok hpour.pausing htiming
    obtain ⟨gs, rfl, hgs, _⟩ := ih (fun p hp => hvalid p (List.mem_cons_of_mem _ hp)) hrest
    -- the soak byte is clamped, so it is never 0
    have hrange := soakOf_range pour.pausing
    have hsoakRange : 1 ≤ closer.b1.toNat ∧ closer.b1.toNat ≤ 255 := by omega
    refine ⟨⟨qs, closer⟩ :: gs, ?_, .cons ⟨hqs, hmarker, hsoak, hsoakRange⟩ hgs, ?_⟩
    · rw [← Except.ok.inj h]
      simp [BlockGroup.blocks]
    · intro hi g hg
      rw [List.head?_cons, Option.mem_some_iff] at hg
      rw [← hg]
      exact hrpm hi

/-! ## Reading it back -/

/-- The marker finds the timing block of a steep, and no pour. -/
theorem IsSteepOf.closed {pour : PourStep} {g : BlockGroup (Quad UInt8)} (h : IsSteepOf pour g) :
    g.Closed isTeaTiming := by
  have hcap : pour.volume ≠ 0 → min pour.volume 90 ≠ 0 := by omega
  refine ⟨?_, beq_iff_eq.mpr h.marker⟩
  intro q hq
  rcases h.poured with ⟨_, hnone⟩ | ⟨hne, q', hitems, hpour⟩
  · rw [hnone] at hq
    cases hq
  · rw [hitems, List.mem_singleton] at hq
    have hbyte := hpour.volume
    rw [← hq] at hbyte
    refine beq_eq_false_iff_ne.mpr fun hzero => ?_
    rw [hzero] at hbyte
    exact hcap hne hbyte.symm

/-- Every group of the pours is closed. -/
theorem closed_of_steeps {pours : List PourStep} {gs : List (BlockGroup (Quad UInt8))}
    (h : List.Forall₂ IsSteepOf pours gs) : ∀ g ∈ gs, g.Closed isTeaTiming := by
  induction h with
  | nil => exact fun g hg => absurd hg List.not_mem_nil
  | cons hg _ ih =>
    intro g' hg'
    rcases List.mem_cons.mp hg' with rfl | hg'
    · exact hg.closed
    · exact ih g' hg'

/-- **Tea steeps stay separate on the wire.**  The payload of every tea recipe the constructors accept
is a length byte, a body of that length and a footer.  The body reads as one steep per pour, in order:
before each timing block stands the pour, at most 90 ml of it, and nothing when there is none; its second
byte is the pause times 0.6, rounded and clamped to `1..255`, and grows with the pause; and the first one
carries the rpm. -/
theorem teaPayload_separates (recipe : CheckedRecipe) {payload : List UInt8}
    (h : buildTeaPayload recipe.toXBloomRecipe = .ok payload) :
    (∃ len body grind ratio groups, payload = len :: (body ++ [grind, ratio]) ∧
        len.toNat = body.length ∧ steeps body = some groups ∧
        List.Forall₂ IsSteepOf recipe.pours groups ∧
        ∀ g ∈ groups.head?, (g.closer.b2.toNat : ℤ) = recipe.rpm) ∧
      ∀ p q : ℤ, p ≤ q → soakOf p ≤ soakOf q := by
  refine ⟨?_, fun p q => soakOf_mono⟩
  unfold buildTeaPayload at h
  obtain ⟨blocks, hblocks, h⟩ := bind_eq_ok.mp h
  obtain ⟨ratio, _, h⟩ := bind_eq_ok.mp h
  obtain ⟨len, hlen, h⟩ := bind_eq_ok.mp h
  obtain ⟨gs, rfl, hgs, hrpm⟩ := teaBlocks_eq_ok recipe.poursValid hblocks
  refine ⟨len, ((gs.flatMap BlockGroup.blocks).map Quad.toList).flatten, maskByte recipe.grindSize,
    ratio, gs, (Except.ok.inj h).symm, ?_, ?_, hgs, ?_⟩
  · have hcast := toNat_of_packB hlen
    omega
  · unfold steeps
    rw [← List.flatMap_def, quads_toList]
    exact splitGroups_blocks isTeaTiming (closed_of_steeps hgs)
  · intro g hg
    have hrange := XBloomRecipe.rpm_range recipe.valid.rpm
    rw [hrpm rfl g hg, maskByte_toNat, Int.emod_eq_of_lt hrange.1 (by omega)]

/-- Two steeps: one poured, and one that only soaks. -/
def twoSteeps : XBloomRecipe where
  grindSize := 50
  totalWater := 120
  rpm := 80
  cupType := 4
  name := "Sencha"
  pours :=
    [{ volume := 120, temperature := 80, pausing := 60 },
      { volume := 0, temperature := 80, pausing := 600 }]

/-- What the constructors make of them. -/
def twoSteepsChecked : CheckedRecipe where
  toXBloomRecipe := twoSteeps
  valid := by
    have h : twoSteeps.postInit = .ok twoSteeps := by decide +kernel
    exact ((XBloomRecipe.postInit_eq_ok_iff _ _).mp h).2
  poursValid := by
    have h : ∀ p ∈ twoSteeps.pours, p.postInit = .ok p := by decide +kernel
    intro p hp
    exact ((PourStep.postInit_eq_ok_iff p p).mp (h p hp)).2

/-- The capped pour, its soak of 36, and a soak of 255 behind no pour. -/
theorem twoSteeps_separate :
    ∃ len body grind ratio groups,
      [12, 90, 80, 1, 0, 0, 36, 80, 30, 0, 255, 0, 30, 50, 80] =
          len :: (body ++ [grind, ratio]) ∧
        len.toNat = body.length ∧ steeps body = some groups ∧
        List.Forall₂ IsSteepOf twoSteeps.pours groups ∧
        ∀ g ∈ groups.head?, (g.closer.b2.toNat : ℤ) = twoSteeps.rpm := by
  have hpayload : buildTeaPayload twoSteeps =
      .ok [12, 90, 80, 1, 0, 0, 36, 80, 30, 0, 255, 0, 30, 50, 80] := by decide +kernel
  exact (teaPayload_separates twoSteepsChecked hpayload).1

end XBloom.Brewing
