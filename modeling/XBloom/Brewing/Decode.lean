/-
# XBloom.Brewing.Decode — reading a coffee payload back

The body of a coffee payload is a run of 4-byte blocks without counts: a pour's sub-steps
`[volume, temperature, pattern, vibration]`, then its timing block `[-pausing, 0, rpm, flow × 10]`.
What tells them apart is byte 1 — a sub-step's temperature, a timing block's constant zero — so the
body is a group format with that marker, as long as no pour has temperature zero.

`decodeBody` reads it so.  **`payload_recovers_iff`**: the payload of a recipe gives back every field
that went into it exactly when no pour pauses longer than 255 seconds; a longer pause goes through
`(-pausing) & 0xFF` and comes back modulo 256.
-/
import XBloom.Brewing.DoseRatio
import XBloom.Codec.Groups

namespace XBloom.Brewing

open XBloom.Py XBloom.Ble XBloom.Codec

/-! ## The decoder -/

/-- A pour as read from its blocks. -/
structure DecodedPour where
  volume : ℕ
  temperature : ℕ
  pattern : ℕ
  vibration : ℕ
  pauseSeconds : ℕ
  rpm : ℕ
  flowTenths : ℕ
  deriving DecidableEq, Repr

/-- Byte 1 is zero: a timing block. -/
def isTiming (q : Quad UInt8) : Bool := q.b1 == 0

/-- Two sub-steps agree on everything but the volume. -/
def sameStep (a b : Quad UInt8) : Bool := a.b1 == b.b1 && a.b2 == b.b2 && a.b3 == b.b3

/-- The volumes of some sub-steps, added up. -/
def stepsVolume (steps : List (Quad UInt8)) : ℕ := (steps.map fun q => q.b0.toNat).sum

/-- A pour from its sub-steps (at least one, none above 127 ml, all alike but for the volume) and its
timing block, whose first byte is the pause in two's complement. -/
def decodePour (g : BlockGroup (Quad UInt8)) : Option DecodedPour :=
  match g.items with
  | [] => none
  | first :: rest =>
    if (first :: rest).all (fun q => sameStep first q && decide (q.b0 ≤ 127)) then
      some
        { volume := stepsVolume (first :: rest)
          temperature := first.b1.toNat
          pattern := first.b2.toNat
          vibration := first.b3.toNat
          pauseSeconds := (256 - g.closer.b0.toNat) % 256
          rpm := g.closer.b2.toNat
          flowTenths := g.closer.b3.toNat }
    else none

/-- The pours of a body. -/
def decodeBody (body : List UInt8) : Option (List DecodedPour) := do
  let blocks ← quads body
  let groups ← splitGroups isTiming blocks
  groups.mapM decodePour

/-! ## What a decoded payload has to say -/

/-- A decoded pour says what the pour said. -/
structure DecodedPour.Matches (pour : PourStep) (d : DecodedPour) : Prop where
  volume : (d.volume : ℤ) = pour.volume
  temperature : (d.temperature : ℤ) = pour.temperature
  pattern : (d.pattern : ℤ) = pour.pattern.code
  vibration : (d.vibration : ℤ) = pour.vibration.code
  pause : (d.pauseSeconds : ℤ) = pour.pausing
  flow : (pour.flowRate.mul 10).toInt = .ok d.flowTenths

/-- A payload gives its recipe back: the length byte counts the body, the body decodes to the pours
in order, the first pour carries the rpm, and the footer starts with the grind size. -/
def Recovers (recipe : XBloomRecipe) (payload : List UInt8) : Prop :=
  ∃ len body grind ratio pours, payload = len :: (body ++ [grind, ratio]) ∧
    len.toNat = body.length ∧ decodeBody body = some pours ∧
    List.Forall₂ DecodedPour.Matches recipe.pours pours ∧
    (∀ d ∈ pours.head?, (d.rpm : ℤ) = recipe.rpm) ∧ (grind.toNat : ℤ) = recipe.grindSize

/-! ## What the encoder writes -/

/-- A list of equal computations returns equal results. -/
theorem mapM_replicate_eq_ok {ε α : Type} {x : Except ε α} {n : ℕ} :
    ∀ {l : List α}, ((List.replicate n ()).mapM fun _ => x) = .ok l →
      l.length = n ∧ ∀ a ∈ l, x = .ok a := by
  induction n with
  | zero =>
    intro l h
    cases Except.ok.inj h
    exact ⟨rfl, fun a ha => absurd ha List.not_mem_nil⟩
  | succ n ih =>
    intro l h
    rw [List.replicate_succ, List.mapM_cons] at h
    obtain ⟨a, ha, h⟩ := bind_eq_ok.mp h
    obtain ⟨rest, hrest, h⟩ := bind_eq_ok.mp h
    cases Except.ok.inj h
    obtain ⟨hlen, hall⟩ := ih hrest
    refine ⟨by rw [List.length_cons, hlen], ?_⟩
    intro b hb
    rcases List.mem_cons.mp hb with rfl | hb
    · exact ha
    · exact hall b hb

/-- What a sub-step block of a pour looks like. -/
structure IsSubStep (pour : PourStep) (q : Quad UInt8) : Prop where
  volume : q.b0 ≤ 127
  temperature : (q.b1.toNat : ℤ) = pour.temperature
  pattern : (q.b2.toNat : ℤ) = pour.pattern.code
  vibration : (q.b3.toNat : ℤ) = pour.vibration.code

/-- A packed sub-step is the block of its four numbers. -/
theorem isSubStep_of_pack {pour : PourStep} {volume : ℤ} {block : List UInt8}
    (hle : volume ≤ 127)
    (h : packBBBB volume pour.temperature pour.pattern.code pour.vibration.code = .ok block) :
    ∃ q : Quad UInt8, block = q.toList ∧ IsSubStep pour q ∧ (q.b0.toNat : ℤ) = volume := by
  obtain ⟨v, t, p, vib, hv, ht, hp, hvib, rfl⟩ := packBBBB_eq_ok h
  have hnat : (v.toNat : ℤ) = volume := toNat_of_packB hv
  refine ⟨⟨v, t, p, vib⟩, rfl, ⟨?_, toNat_of_packB ht, toNat_of_packB hp, toNat_of_packB hvib⟩,
    hnat⟩
  rw [UInt8.le_iff_toNat_le]
  show v.toNat ≤ 127
  omega

/-- Blocks that are all sub-steps of `n` ml of a pour, as a list of `Quad`s. -/
theorem isSubStep_of_all {pour : PourStep} {volume : ℤ} (hle : volume ≤ 127) :
    ∀ {blocks : List (List UInt8)},
      (∀ b ∈ blocks, packBBBB volume pour.temperature pour.pattern.code pour.vibration.code =
        .ok b) →
      ∃ qs : List (Quad UInt8), blocks = qs.map Quad.toList ∧ (∀ q ∈ qs, IsSubStep pour q) ∧
        (stepsVolume qs : ℤ) = blocks.length * volume := by
  intro blocks
  induction blocks with
  | nil =>
    intro _
    exact ⟨[], rfl, fun q hq => absurd hq List.not_mem_nil, by simp [stepsVolume]⟩
  | cons block rest ih =>
    intro h
    obtain ⟨q, hblock, hq, hvol⟩ := isSubStep_of_pack hle (h block List.mem_cons_self)
    obtain ⟨qs, hrest, hqs, hsum⟩ := ih fun b hb => h b (List.mem_cons_of_mem _ hb)
    refine ⟨q :: qs, by rw [hblock, hrest, List.map_cons], ?_, ?_⟩
    · intro q' hq'
      rcases List.mem_cons.mp hq' with rfl | hq'
      · exact hq
      · exact hqs q' hq'
    · have hcons : stepsVolume (q :: qs) = q.b0.toNat + stepsVolume qs := List.sum_cons
      rw [hcons, List.length_cons]
      push_cast
      rw [hvol, hsum]
      ring

/-- **The sub-steps of a pour**: at least one, each a block of at most 127 ml with the pour's
temperature, pattern and vibration, and their volumes add up. -/
theorem subSteps_eq_ok {pour : PourStep} {steps : List (List UInt8)}
    (h : subSteps pour = .ok steps) :
    ∃ qs : List (Quad UInt8), steps = qs.map Quad.toList ∧ qs ≠ [] ∧
      (∀ q ∈ qs, IsSubStep pour q) ∧
      (stepsVolume qs : ℤ) = pour.volume := by
  unfold subSteps at h
  split at h
  · rename_i hbig
    obtain ⟨full, hfull, h⟩ := bind_eq_ok.mp h
    obtain ⟨hlen, hall⟩ := mapM_replicate_eq_ok hfull
    obtain ⟨qs, rfl, hqs, hsum⟩ := isSubStep_of_all le_rfl hall
    -- more than 127 ml fill one block at least
    have hne : qs ≠ [] := by
      intro hnil
      rw [hnil, List.map_nil, List.length_nil] at hlen
      omega
    split at h
    · obtain ⟨last, hlast, h⟩ := bind_eq_ok.mp h
      obtain ⟨q, rfl, hq, hvol⟩ := isSubStep_of_pack (by omega) hlast
      refine ⟨qs ++ [q], ?_, by simp, ?_, ?_⟩
      · rw [← Except.ok.inj h, List.map_append]
        rfl
      · intro q' hq'
        rcases List.mem_append.mp hq' with hq' | hq'
        · exact hqs q' hq'
        · rw [List.mem_singleton.mp hq']
          exact hq
      · have happend : stepsVolume (qs ++ [q]) = stepsVolume qs + q.b0.toNat := by
          simp [stepsVolume]
        rw [happend]
        push_cast
        rw [hsum, hvol, hlen]
        omega
    · refine ⟨qs, (Except.ok.inj h).symm, hne, hqs, ?_⟩
      rw [hsum, hlen]
      omega
  · rename_i hsmall
    obtain ⟨block, hblock, h⟩ := bind_eq_ok.mp h
    obtain ⟨q, rfl, hq, hvol⟩ := isSubStep_of_pack (not_lt.mp hsmall) hblock
    refine ⟨[q], (Except.ok.inj h).symm, by simp, ?_, by simpa [stepsVolume] using hvol⟩
    intro q' hq'
    rw [List.mem_singleton.mp hq']
    exact hq

/-- What the timing block of a pour looks like: byte 1 is the marker, the pause is modulo 256. -/
structure IsTimingOf (pour : PourStep) (q : Quad UInt8) : Prop where
  pause : (q.b0.toNat : ℤ) = (-pour.pausing) % 256
  marker : q.b1 = 0
  flow : (pour.flowRate.mul 10).toInt = .ok q.b3.toNat

/-- A flow the constructor accepts is `0` or `30..35` tenths, and survives its byte. -/
theorem flow_tenths_range {pour : PourStep} (hvalid : pour.Valid) {n : ℤ}
    (h : (pour.flowRate.mul 10).toInt = .ok n) : 0 ≤ n ∧ n ≤ 35 := by
  obtain ⟨q, hq⟩ := hvalid.flow_of_toInt h
  obtain ⟨hmul, hlow, hhigh⟩ := hvalid.flow_tenths hq
  rw [hmul, PyFloat.toInt_fin_of_nonneg hlow] at h
  have hn : ⌊q * 10⌋ = n := Except.ok.inj h
  rw [← hn]
  refine ⟨Int.floor_nonneg.mpr hlow, ?_⟩
  have h35 : q * 10 ≤ (35 : ℤ) := by exact_mod_cast hhigh
  exact (Int.floor_le_floor h35).trans (Int.floor_intCast 35).le

theorem timingBlock_eq_ok {rpm : ℤ} {i : ℕ} {pour : PourStep} {block : List UInt8}
    (hvalid : pour.Valid) (h : timingBlock rpm i pour = .ok block) :
    ∃ q : Quad UInt8, block = q.toList ∧ IsTimingOf pour q ∧ (i = 0 → q.b2 = maskByte rpm) := by
  unfold timingBlock at h
  obtain ⟨flow, hflow, h⟩ := bind_eq_ok.mp h
  obtain ⟨hlow, hhigh⟩ := flow_tenths_range hvalid hflow
  refine ⟨⟨maskByte (-pour.pausing), 0, if i = 0 then maskByte rpm else 0, maskByte flow⟩,
    (Except.ok.inj h).symm, ⟨maskByte_toNat _, rfl, ?_⟩, fun hi => if_pos hi⟩
  show (pour.flowRate.mul 10).toInt = .ok (maskByte flow).toNat
  rw [hflow, maskByte_toNat, Int.emod_eq_of_lt hlow (by omega)]

/-- What the blocks of a pour are: its sub-steps closed by its timing block. -/
structure IsGroupOf (pour : PourStep) (g : BlockGroup (Quad UInt8)) : Prop where
  nonempty : g.items ≠ []
  items : ∀ q ∈ g.items, IsSubStep pour q
  volume : (stepsVolume g.items : ℤ) = pour.volume
  closer : IsTimingOf pour g.closer

/-- **The body, pour by pour**: the blocks of a recipe are the groups of its pours in order, and the
rpm sits in the first one. -/
theorem pourBlocks_eq_ok {rpm : ℤ} {pours : List PourStep} (hvalid : ∀ p ∈ pours, p.Valid) :
    ∀ {i : ℕ} {blocks : List (List UInt8)}, pourBlocks rpm i pours = .ok blocks →
      ∃ gs : List (BlockGroup (Quad UInt8)),
        blocks = (gs.flatMap BlockGroup.blocks).map Quad.toList ∧
        List.Forall₂ IsGroupOf pours gs ∧
        (i = 0 → ∀ g ∈ gs.head?, g.closer.b2 = maskByte rpm) := by
  induction pours with
  | nil =>
    intro i blocks h
    refine ⟨[], (Except.ok.inj h).symm, .nil, ?_⟩
    intro _ g hg
    cases hg
  | cons pour rest ih =>
    intro i blocks h
    unfold pourBlocks at h
    obtain ⟨steps, hsteps, h⟩ := bind_eq_ok.mp h
    obtain ⟨timing, htiming, h⟩ := bind_eq_ok.mp h
    obtain ⟨blocks', hrest, h⟩ := bind_eq_ok.mp h
    obtain ⟨qs, rfl, hne, hqs, hsum⟩ := subSteps_eq_ok hsteps
    obtain ⟨closer, rfl, hcloser, hrpm⟩ := timingBlock_eq_ok (hvalid pour List.mem_cons_self) htiming
    obtain ⟨gs, rfl, hgs, _⟩ := ih (fun p hp => hvalid p (List.mem_cons_of_mem _ hp)) hrest
    refine ⟨⟨qs, closer⟩ :: gs, ?_, .cons ⟨hne, hqs, hsum, hcloser⟩ hgs, ?_⟩
    · rw [← Except.ok.inj h]
      simp [BlockGroup.blocks]
    · intro hi g hg
      rw [List.head?_cons, Option.mem_some_iff] at hg
      rw [← hg]
      exact hrpm hi

/-! ## Decoding what was written -/

/-- With a nonzero temperature the groups of the pours are what the marker finds. -/
theorem IsGroupOf.closed {pour : PourStep} {g : BlockGroup (Quad UInt8)} (h : IsGroupOf pour g)
    (htemp : pour.temperature ≠ 0) : g.Closed isTiming := by
  refine ⟨?_, ?_⟩
  · intro q hq
    have hbyte := (h.items q hq).temperature
    have hne : q.b1 ≠ 0 := by
      intro hzero
      rw [hzero] at hbyte
      exact htemp hbyte.symm
    exact beq_eq_false_iff_ne.mpr hne
  · exact beq_iff_eq.mpr h.closer.marker

theorem sameStep_of_isSubStep {pour : PourStep} {a b : Quad UInt8} (ha : IsSubStep pour a)
    (hb : IsSubStep pour b) : sameStep a b = true := by
  have h1 : a.b1 = b.b1 := UInt8.toNat_inj.mp (by
    have := ha.temperature.trans hb.temperature.symm
    omega)
  have h2 : a.b2 = b.b2 := UInt8.toNat_inj.mp (by
    have := ha.pattern.trans hb.pattern.symm
    omega)
  have h3 : a.b3 = b.b3 := UInt8.toNat_inj.mp (by
    have := ha.vibration.trans hb.vibration.symm
    omega)
  simp [sameStep, h1, h2, h3]

/-- What a pour's blocks read as: every field as it was, but for the pause, which is modulo 256. -/
structure ReadsAs (pour : PourStep) (d : DecodedPour) : Prop where
  pause : (d.pauseSeconds : ℤ) = pour.pausing % 256
  matches_of_pause : (d.pauseSeconds : ℤ) = pour.pausing → d.Matches pour

/-- **A pour reads back.**  -/
theorem decodePour_of_isGroupOf {pour : PourStep} {g : BlockGroup (Quad UInt8)}
    (h : IsGroupOf pour g) :
    ∃ d, decodePour g = some d ∧ d.rpm = g.closer.b2.toNat ∧ ReadsAs pour d := by
  obtain ⟨items, closer⟩ := g
  cases items with
  | nil => exact absurd rfl h.nonempty
  | cons first rest =>
    have hfirst := h.items first List.mem_cons_self
    have hall : (first :: rest).all (fun q => sameStep first q && decide (q.b0 ≤ 127)) = true := by
      rw [List.all_eq_true]
      intro q hq
      rw [Bool.and_eq_true, decide_eq_true_eq]
      exact ⟨sameStep_of_isSubStep hfirst (h.items q hq), (h.items q hq).volume⟩
    have hpause : ((((256 - closer.b0.toNat) % 256 : ℕ)) : ℤ) = pour.pausing % 256 := by
      have hbyte := h.closer.pause
      have hlt := closer.b0.toNat_lt
      simp only at hbyte
      omega
    refine ⟨_, if_pos hall, rfl, ⟨hpause, ?_⟩⟩
    intro heq
    exact ⟨h.volume, hfirst.temperature, hfirst.pattern, hfirst.vibration, heq, h.closer.flow⟩

/-- The groups of the pours all decode. -/
theorem mapM_decodePour {pours : List PourStep} {gs : List (BlockGroup (Quad UInt8))}
    (h : List.Forall₂ IsGroupOf pours gs) :
    ∃ ds, gs.mapM decodePour = some ds ∧
      List.Forall₂ ReadsAs pours ds ∧
      ds.head?.map DecodedPour.rpm = gs.head?.map (fun g => g.closer.b2.toNat) := by
  induction h with
  | nil => exact ⟨[], rfl, .nil, rfl⟩
  | cons hg _ ih =>
    obtain ⟨d, hd, hrpm, hreads⟩ := decodePour_of_isGroupOf hg
    obtain ⟨ds, hds, hall, _⟩ := ih
    refine ⟨d :: ds, ?_, .cons hreads hall, ?_⟩
    · rw [List.mapM_cons, hd, hds]
      rfl
    · rw [List.head?_cons, List.head?_cons, Option.map_some, Option.map_some, hrpm]

/-- **The body decodes**, whatever the pauses: to one pour per pour, each pause modulo 256. -/
theorem decodeBody_of_pourBlocks {rpm : ℤ} {pours : List PourStep} {blocks : List (List UInt8)}
    (hvalid : ∀ p ∈ pours, p.Valid) (htemp : ∀ p ∈ pours, p.temperature ≠ 0)
    (h : pourBlocks rpm 0 pours = .ok blocks) :
    ∃ ds, decodeBody blocks.flatten = some ds ∧
      List.Forall₂ ReadsAs pours ds ∧
      ∀ d ∈ ds.head?, d.rpm = (maskByte rpm).toNat := by
  obtain ⟨gs, rfl, hgs, hrpm⟩ := pourBlocks_eq_ok hvalid h
  obtain ⟨ds, hds, hall, hhead⟩ := mapM_decodePour hgs
  have hclosed : ∀ g ∈ gs, g.Closed isTiming := by
    clear hhead hall hds hrpm h
    induction hgs with
    | nil => exact fun g hg => absurd hg List.not_mem_nil
    | cons hg _ ih =>
      intro g' hg'
      rcases List.mem_cons.mp hg' with rfl | hg'
      · exact hg.closed (htemp _ List.mem_cons_self)
      · exact ih (fun p hp => hvalid p (List.mem_cons_of_mem _ hp))
          (fun p hp => htemp p (List.mem_cons_of_mem _ hp)) g' hg'
  refine ⟨ds, ?_, hall, ?_⟩
  · unfold decodeBody
    rw [← List.flatMap_def, quads_toList]
    show (splitGroups isTiming (gs.flatMap BlockGroup.blocks)).bind (·.mapM decodePour) = some ds
    rw [splitGroups_blocks isTiming hclosed]
    exact hds
  · intro d hd
    rw [Option.mem_def] at hd
    rw [hd, Option.map_some] at hhead
    obtain ⟨g, hg, hval⟩ := Option.map_eq_some_iff.mp hhead.symm
    rw [← hval, hrpm rfl g hg]

/-- Pours that read as themselves modulo 256 match exactly when no pause wraps. -/
theorem matches_iff_pausing_le {pours : List PourStep} {ds : List DecodedPour}
    (h : List.Forall₂ ReadsAs pours ds) (hnonneg : ∀ p ∈ pours, 0 ≤ p.pausing) :
    List.Forall₂ DecodedPour.Matches pours ds ↔ ∀ p ∈ pours, p.pausing ≤ 255 := by
  induction h with
  | nil => exact ⟨fun _ p hp => absurd hp List.not_mem_nil, fun _ => .nil⟩
  | @cons pour d rest ds hreads _ ih =>
    have hhead : d.Matches pour ↔ pour.pausing ≤ 255 := by
      have hge := hnonneg pour List.mem_cons_self
      have hmod := hreads.pause
      constructor
      · intro hd
        rw [hd.pause] at hmod
        omega
      · intro hle
        apply hreads.matches_of_pause
        omega
    rw [List.forall₂_cons, hhead, ih fun p hp => hnonneg p (List.mem_cons_of_mem _ hp),
      List.forall_mem_cons]

/-! ## The payload -/

/-- **What a coffee payload gives back, exactly.**  For every recipe the constructors accept whose
pours have a temperature, the payload recovers the recipe if and only if no pour pauses longer than
255 seconds. -/
theorem payload_recovers_iff (recipe : CheckedRecipe) {payload : List UInt8}
    (htemp : ∀ p ∈ recipe.pours, p.temperature ≠ 0)
    (h : buildCoffeeRecipePayload recipe.toXBloomRecipe = .ok payload) :
    Recovers recipe.toXBloomRecipe payload ↔ ∀ p ∈ recipe.pours, p.pausing ≤ 255 := by
  obtain ⟨blocks, len, tenths, ratioByte, hblocks, hlen, _, _, rfl⟩ :=
    buildCoffeeRecipePayload_eq_ok h
  obtain ⟨ds, hds, hreads, hrpm⟩ := decodeBody_of_pourBlocks recipe.poursValid htemp hblocks
  have hiff := matches_iff_pausing_le hreads fun p hp => (recipe.poursValid p hp).pausing
  constructor
  · rintro ⟨len', body, grind, ratio, pours, hpayload, _, hdecode, hmatch, _⟩
    -- both readings of the payload split it at the same place
    obtain ⟨_, htail⟩ := List.cons.inj hpayload
    obtain ⟨hbody, _⟩ := List.append_inj' htail rfl
    rw [← hbody, hds] at hdecode
    cases hdecode
    exact hiff.mp hmatch
  · intro hpause
    have hgrind : ((maskByte recipe.grindSize).toNat : ℤ) = recipe.grindSize := by
      obtain ⟨hlow, hhigh⟩ := recipe.valid.grindSize
      rw [maskByte_toNat, Int.emod_eq_of_lt hlow (by omega)]
    have hrpmByte : ((maskByte recipe.rpm).toNat : ℤ) = recipe.rpm := by
      obtain ⟨hlow, hhigh⟩ := XBloomRecipe.rpm_range recipe.valid.rpm
      rw [maskByte_toNat, Int.emod_eq_of_lt hlow (by omega)]
    have hlength : len.toNat = blocks.flatten.length := by
      have hcast := toNat_of_packB hlen
      omega
    refine ⟨len, blocks.flatten, maskByte recipe.grindSize, ratioByte, ds, rfl, hlength, hds,
      hiff.mpr hpause, ?_, hgrind⟩
    intro d hd
    rw [hrpm d hd, hrpmByte]

/-- A recipe with one pour that pauses for `seconds`. -/
def pausingRecipe (seconds : ℤ) : XBloomRecipe where
  grindSize := 50
  totalWater := 250
  rpm := 80
  cupType := 2
  name := "V60"
  pours := [{ volume := 250, temperature := 93, pausing := seconds }]

/-- What the constructors make of the longest pause that fits. -/
def longestPause : CheckedRecipe where
  toXBloomRecipe := pausingRecipe 255
  valid := by
    have h : (pausingRecipe 255).postInit = .ok (pausingRecipe 255) := by decide +kernel
    exact ((XBloomRecipe.postInit_eq_ok_iff _ _).mp h).2
  poursValid := by
    have h : ∀ p ∈ (pausingRecipe 255).pours, p.postInit = .ok p := by decide +kernel
    intro p hp
    exact ((PourStep.postInit_eq_ok_iff p p).mp (h p hp)).2

/-- A pause of 255 seconds still comes back. -/
theorem pause_255_recovers : Recovers (pausingRecipe 255)
    [12, 127, 93, 2, 0, 123, 93, 2, 0, 1, 0, 80, 30, 50, 167] := by
  have hpayload : buildCoffeeRecipePayload (pausingRecipe 255) =
      .ok [12, 127, 93, 2, 0, 123, 93, 2, 0, 1, 0, 80, 30, 50, 167] := by decide +kernel
  exact (payload_recovers_iff longestPause (by decide) hpayload).mpr (by decide)

/-- **A pause of five minutes is lost.**  The constructors accept 300 seconds; the payload reads back
as 44. -/
theorem pause_300_lost :
    (pausingRecipe 300).postInit = .ok (pausingRecipe 300) ∧
      (∀ p ∈ (pausingRecipe 300).pours, p.postInit = .ok p ∧ p.temperature ≠ 0) ∧
      buildCoffeeRecipePayload (pausingRecipe 300) =
        .ok [12, 127, 93, 2, 0, 123, 93, 2, 0, 212, 0, 80, 30, 50, 167] ∧
      ¬ Recovers (pausingRecipe 300)
        [12, 127, 93, 2, 0, 123, 93, 2, 0, 212, 0, 80, 30, 50, 167] := by
  refine ⟨by decide +kernel, by decide +kernel, by decide +kernel, ?_⟩
  rintro ⟨len, body, grind, ratio, pours, hpayload, _, hdecode, hmatch, _⟩
  have htail : [127, 93, 2, 0, 123, 93, 2, 0, 212, 0, 80, 30] ++ [50, 167] =
      body ++ [grind, ratio] := (List.cons.inj hpayload).2
  obtain ⟨hbody, _⟩ := List.append_inj' htail rfl
  have hread : decodeBody [127, 93, 2, 0, 123, 93, 2, 0, 212, 0, 80, 30] =
      some [⟨250, 93, 2, 0, 44, 80, 30⟩] := by decide +kernel
  rw [← hbody, hread] at hdecode
  cases hdecode
  have hpause := (List.forall₂_cons.mp hmatch).1.pause
  exact absurd hpause (by decide)

end XBloom.Brewing
