/-
# XBloom.Setup.Services — the services are there whenever a machine is

Whatever the interleaving of setups and unloads of different machines, and however many of them fail, the
services are all there or none are; they are there as long as a machine is set up, and a call that names
it reaches its coordinator; with the last machine they go (`services_follow_machines`).

What a segment does is read off the point it ends at (`Waits`, `Ends`); what holds between segments is
`Kept`, which needs of Home Assistant that it does one thing at a time with each entry.
-/
import XBloom.Setup.Machines

namespace XBloom.Setup

open XBloom.Py XBloom.Async XBloom.Logic

/-! ## The home -/

/-- **What holds of the machines and the services.** -/
structure Home.Sound (w : Home) : Prop where
  services : w.services = [] ∨ w.services = registeredServices
  ready : ∀ entryId ∈ w.ready,
    w.services = registeredServices ∧ (w.data.get? entryId).isSome = true
  empty : w.data.entries = [] → w.services = []

section
variable {w : Home} {entryId : String}

theorem sound_emptyHome : emptyHome.Sound :=
  ⟨Or.inl rfl, fun _ h => absurd h (Finset.notMem_empty _), fun _ => rfl⟩

/-- An entry whose coordinator is there leaves the dictionary nonempty. -/
theorem entries_ne_nil {data : Dict String ℕ} (h : (data.get? entryId).isSome = true) :
    data.entries ≠ [] := by
  intro hnil
  rw [Dict.get?, hnil] at h
  cases h

theorem get?_insert_isSome (data : Dict String ℕ) (c : ℕ) {id : String}
    (h : id = entryId ∨ (data.get? id).isSome = true) :
    ((data.insert entryId c).get? id).isSome = true := by
  rw [Dict.get?_insert]
  split
  · rfl
  · exact h.resolve_left ‹_›

theorem get?_erase_isSome (data : Dict String ℕ) {id : String} (hne : id ≠ entryId)
    (h : (data.get? id).isSome = true) : ((data.erase entryId).get? id).isSome = true := by
  rw [Dict.get?_erase, if_neg hne]
  exact h

theorem Home.Sound.added (h : w.Sound) (c : ℕ) :
    Home.Sound { w with data := w.data.insert entryId c } :=
  ⟨h.services, fun id hid => ⟨(h.ready id hid).1, get?_insert_isSome _ c (Or.inr (h.ready id hid).2)⟩,
    fun hnil => absurd hnil (entries_ne_nil (get?_insert_isSome w.data c (Or.inl rfl)))⟩

/-- The services are registered once, all of them. -/
theorem Home.Sound.register (h : w.Sound) (hdata : (w.data.get? entryId).isSome = true) :
    Home.Sound
      { w with services := registerServices w.services, ready := insert entryId w.ready } := by
  have hservices : registerServices w.services = registeredServices := by
    rcases h.services with hnone | hall
    · rw [hnone]
      decide
    · rw [hall]
      decide
  refine ⟨Or.inr hservices, fun id hid => ⟨hservices, ?_⟩, fun hnil => ?_⟩
  · rcases Finset.mem_insert.mp hid with rfl | hid
    · exact hdata
    · exact (h.ready id hid).2
  · exact absurd hnil (entries_ne_nil hdata)

/-- A machine goes, others stay. -/
theorem Home.Sound.erase (h : w.Sound) (hothers : (w.data.erase entryId).entries ≠ []) :
    Home.Sound { w with data := w.data.erase entryId, ready := w.ready.erase entryId } := by
  refine ⟨h.services, fun id hid => ?_, fun hnil => absurd hnil hothers⟩
  obtain ⟨hne, hid⟩ := Finset.mem_erase.mp hid
  exact ⟨(h.ready id hid).1, get?_erase_isSome _ hne (h.ready id hid).2⟩

/-- The last machine goes, and the services with it. -/
theorem Home.Sound.eraseLast (h : w.Sound) (hlast : (w.data.erase entryId).entries = []) :
    Home.Sound { w with
      data := w.data.erase entryId
      ready := w.ready.erase entryId
      services := removeServices w.services } := by
  have hservices : removeServices w.services = [] := by
    rcases h.services with hnone | hall
    · rw [hnone]
      decide
    · rw [hall]
      decide +kernel
  rw [hservices]
  refine ⟨Or.inl rfl, fun id hid => ?_, fun _ => rfl⟩
  obtain ⟨hne, hid⟩ := Finset.mem_erase.mp hid
  exact absurd hlast (entries_ne_nil (get?_erase_isSome w.data hne (h.ready id hid).2))

end

/-! ## Segments -/

/-- A segment of a setup or an unload. -/
abbrev HomePassage := Segment Home HomeEvent HomePoint HomeAnswer

/-- What a segment has done that ends at a point. -/
def Does (σ : HomePassage) : HomePoint → Prop
  | .loadingPods _ => ∃ n, σ.now = { σ.before with made := n }
  | .describingServices entryId =>
    ∃ c, σ.now = { σ.before with data := σ.before.data.insert entryId c }
  | .forwarding entryId =>
    σ.now = σ.before ∧ ∃ r, σ.resumed = some (.describingServices entryId, r)
  | .describingOthers entryId =>
    (∃ r, σ.resumed = some (.unloadingPlatforms entryId, r)) ∧
      (σ.before.data.erase entryId).entries ≠ [] ∧
        σ.now = { σ.before with
          data := σ.before.data.erase entryId
          ready := σ.before.ready.erase entryId }
  | _ => σ.now = σ.before

/-- **How a segment ends that waits**: at a point of the same entry. -/
def Waits (l : HomePoint) (σ : HomePassage) : Prop :=
  (∀ l' r, σ.resumed = some (l', r) → l'.entry = l.entry) ∧ Does σ l

/-- **How a call ends**: an entry is set up, the last machine goes, or nothing has happened. -/
def Ends (σ : HomePassage) : Prop :=
  σ.now = σ.before ∨
    (∃ entryId r, σ.resumed = some (.forwarding entryId, r) ∧
      σ.now = { σ.before with
        services := registerServices σ.before.services
        ready := insert entryId σ.before.ready }) ∨
    ∃ entryId r, σ.resumed = some (.unloadingPlatforms entryId, r) ∧
      (σ.before.data.erase entryId).entries = [] ∧
        σ.now = { σ.before with
          data := σ.before.data.erase entryId
          ready := σ.before.ready.erase entryId
          services := removeServices σ.before.services }

/-- A segment that begins at a point. -/
def From (l : HomePoint) (σ : HomePassage) : Prop :=
  σ.now = σ.before ∧ ∃ r, σ.resumed = some (l, r)

/-- Waiting at points of one entry. -/
def WaitsOf (entryId : String) (l : HomePoint) (σ : HomePassage) : Prop :=
  Waits l σ ∧ l.entry = entryId

section
variable {entryId : String} {l l' : HomePoint} {σ : HomePassage}

/-- From one point of an entry to another. -/
theorem From.waits (h : From l σ) (hl : l.entry = entryId) (hl' : l'.entry = entryId)
    (hdoes : Does σ l') : WaitsOf entryId l' σ := by
  refine ⟨⟨fun l₀ r hr => ?_, hdoes⟩, hl'⟩
  obtain ⟨r', hr'⟩ := h.2
  rw [hr] at hr'
  rw [(Prod.mk.inj (Option.some.inj hr')).1, hl, hl']

theorem awaiting_passes {A : HomePassage → Prop} {X : PyErr → HomePassage → Prop}
    (hA : ∀ σ, A σ → WaitsOf entryId l σ) (hX : ∀ e σ, From l σ → X e σ) :
    Passes (WaitsOf entryId) A (awaiting l) (fun _ => From l) X := by
  refine .bind (Q := fun _ => From l) (.await hA fun r w => ⟨rfl, r, rfl⟩) fun r => ?_
  split
  · exact .throw (hX _)
  · exact .pure fun σ h => h

/-- Every segment of a setup. -/
theorem asyncSetupEntry_passes :
    Passes (WaitsOf entryId) (fun σ => σ.now = σ.before ∧ σ.resumed = none) (asyncSetupEntry entryId)
      (fun _ => Ends) fun _ => Ends := by
  have hfailed : ∀ l (e : PyErr) (σ : HomePassage), From l σ → Ends σ := fun l e σ h => Or.inl h.1
  refine .world fun w => .bind (Q := fun _ σ => (∃ n, σ.now = { σ.before with made := n }) ∧
    σ.resumed = none) (.assign ?_) fun _ => ?_
  · rintro σ ⟨⟨hworld, hstart⟩, -⟩
    exact ⟨⟨_, by rw [hworld]⟩, hstart⟩
  refine .bind (awaiting_passes (fun σ h => ?_) (hfailed (.loadingPods entryId))) fun _ => ?_
  · refine ⟨⟨fun l' r hr => ?_, h.1⟩, rfl⟩
    rw [h.2] at hr
    cases hr
  refine .bind (awaiting_passes (fun σ h => h.waits rfl rfl h.1) (hfailed _)) fun _ => ?_
  refine .bind (Q := fun _ σ => (∃ c, σ.now = { σ.before with data := σ.before.data.insert entryId c }) ∧
    ∃ r, σ.resumed = some (.refreshing entryId, r)) (.assign ?_) fun _ => ?_
  · rintro σ ⟨hworld, hresumed⟩
    exact ⟨⟨_, by rw [hworld]⟩, hresumed⟩
  refine .bind (awaiting_passes (fun σ h => ?_) (hfailed (.describingServices entryId))) fun _ => ?_
  · obtain ⟨hdoes, r', hr'⟩ := h
    refine ⟨⟨fun l' r hr => ?_, hdoes⟩, rfl⟩
    rw [hr] at hr'
    rw [(Prod.mk.inj (Option.some.inj hr')).1]
    rfl
  refine .bind (awaiting_passes (fun σ h => h.waits rfl rfl ⟨h.1, h.2⟩) (hfailed _)) fun _ => ?_
  refine .bind (Q := fun _ => Ends) (.assign fun σ h => ?_) fun _ => .emit fun σ h => h
  obtain ⟨hworld, r, hr⟩ := h
  exact Or.inr (Or.inl ⟨entryId, r, hr, by rw [hworld]⟩)

/-- Every segment of an unload. -/
theorem asyncUnloadEntry_passes :
    Passes (WaitsOf entryId) (fun σ => σ.now = σ.before ∧ σ.resumed = none) (asyncUnloadEntry entryId)
      (fun _ => Ends) fun _ => Ends := by
  have hfailed : ∀ l (e : PyErr) (σ : HomePassage), From l σ → Ends σ := fun l e σ h => Or.inl h.1
  refine .world fun w => ?_
  split
  · exact .throw fun σ h => Or.inl h.1.1
  refine .bind (awaiting_passes (fun σ h => ?_) (hfailed (.disconnecting entryId))) fun _ => ?_
  · refine ⟨⟨fun l' r hr => ?_, h.1.1⟩, rfl⟩
    rw [h.1.2] at hr
    cases hr
  refine .bind (Q := fun _ => From (.unloadingPlatforms entryId))
    (.await (fun σ h => h.waits rfl rfl h.1) fun r w => ⟨rfl, r, rfl⟩) fun r => ?_
  cases r with
  | failed => exact .throw fun σ h => Or.inl h.1
  | refused => exact .emit fun σ h => Or.inl h.1
  | succeeded =>
    refine .bind (Q := fun _ σ => (∃ r, σ.resumed = some (.unloadingPlatforms entryId, r)) ∧
      σ.now = { σ.before with
        data := σ.before.data.erase entryId
        ready := σ.before.ready.erase entryId }) (.assign ?_) fun _ => .world fun w => ?_
    · rintro σ ⟨hworld, hresumed⟩
      exact ⟨hresumed, by rw [hworld]⟩
    split
    · rename_i hempty
      refine .bind (Q := fun _ => Ends) (.assign ?_) fun _ => .emit fun σ h => h
      rintro σ ⟨⟨⟨r, hr⟩, hworld⟩, rfl⟩
      rw [hworld] at hempty
      exact Or.inr (Or.inr ⟨entryId, r, hr, List.isEmpty_iff.mp hempty, by rw [hworld]⟩)
    · rename_i hothers
      refine .bind (awaiting_passes (fun σ h => ?_) (hfailed (.describingOthers entryId))) fun _ =>
        .emit fun σ h => Or.inl h.1
      obtain ⟨⟨⟨r', hr'⟩, hworld⟩, rfl⟩ := h
      refine ⟨⟨fun l' r hr => ?_, ⟨r', hr'⟩, fun hnil => hothers ?_, hworld⟩, rfl⟩
      · rw [hr] at hr'
        rw [(Prod.mk.inj (Option.some.inj hr')).1]
        rfl
      · rw [hworld]
        exact List.isEmpty_iff.mpr hnil

theorem serviceCall_passes (name : String) (configEntryId : Option String) :
    Passes (WaitsOf entryId) (fun σ => σ.now = σ.before ∧ σ.resumed = none)
      (serviceCall name configEntryId) (fun _ => Ends) fun _ => Ends := by
  refine .world fun w => ?_
  split
  · exact .emit fun σ h => Or.inl h.1.1
  · exact .emit fun σ h => Or.inl h.1.1

end

/-! ## Steps -/

variable {p : HomePool}

/-- The entry a call is about. -/
def HomeCall.entry : HomeCall → Option String
  | .setup entryId => some entryId
  | .unload entryId => some entryId
  | .service _ _ => none

/-- The first segment of a call, and all others. -/
theorem program_passes (c : HomeCall) (w : Home) (entryId : String)
    (hentry : ∀ id, c.entry = some id → id = entryId) :
    (homeSystem.program c).AllSegments (WaitsOf entryId) Ends (.start none w) := by
  have hpasses : Passes (WaitsOf entryId) (fun σ => σ.now = σ.before ∧ σ.resumed = none) c.routine
      (fun _ => Ends) fun _ => Ends := by
    cases c with
    | setup id => exact hentry id rfl ▸ asyncSetupEntry_passes
    | unload id => exact hentry id rfl ▸ asyncUnloadEntry_passes
    | service name configEntryId => exact serviceCall_passes name configEntryId
  exact hpasses.allSegments ⟨rfl, rfl⟩

theorem program_waits (c : HomeCall) (w : Home) :
    (homeSystem.program c).AllSegments Waits Ends (.start none w) :=
  Co.AllSegments.mono (program_passes c w (c.entry.getD "") fun id hid => by rw [hid]; rfl)
    (fun _ _ h => h.1) fun _ h => h

/-- **What holds between segments**: one call at a time waits for an entry, and the coordinator of a
machine whose platforms are set up is there. -/
structure Kept (p : HomePool) : Prop where
  segments : PoolPasses Waits Ends p
  numbered : Numbered p
  sound : p.world.Sound
  alone : ∀ {t t' l l'}, p.At t l → p.At t' l' → l.entry = l'.entry → t = t'
  held : ∀ {t entryId}, p.At t (.describingServices entryId) ∨ p.At t (.forwarding entryId) →
    (p.world.data.get? entryId).isSome = true

theorem kept_emptyHome : Kept (Pool.idle emptyHome : HomePool) :=
  ⟨poolPasses_idle _, numbered_idle _, sound_emptyHome,
    (fun hat => by
      obtain ⟨τ, hτ, _⟩ := hat
      cases hτ),
    (fun hat => by
      rcases hat with ⟨τ, hτ, _⟩ | ⟨τ, hτ, _⟩
      all_goals cases hτ)⟩

/-- Nothing goes on with an entry that is at rest. -/
theorem AtRest.not_at {entryId : String} (h : AtRest p entryId) (hnumbered : Numbered p) {t : ℕ}
    {l : HomePoint} (hat : p.At t l) : l.entry ≠ entryId := by
  obtain ⟨τ, hτ, rfl⟩ := hat
  exact h t (hnumbered.tasks t τ hτ) τ.label (by rw [hτ]; rfl)

section
variable {a : HomeAction} {turn : Turn Home HomeEvent HomePoint HomeAnswer HomeCall}

/-- **No other call waits for the entry of the point a turn ends at.** -/
theorem Kept.apart (h : Kept p) (ha : Managed p a) (hturn : p.turn homeSystem a = some turn)
    {τ : Suspended Home HomeEvent HomePoint HomeAnswer HomeCall}
    (hτ : (p.step homeSystem a).tasks turn.task = some τ)
    (hwaits : Waits τ.label (p.passage homeSystem a turn)) {t : ℕ} {l : HomePoint} (hat : p.At t l)
    (hentry : l.entry = τ.label.entry) : t = turn.task := by
  rcases Pool.turn_cases hturn with ⟨htask, hresumed, hbody, rfl⟩ | ⟨τ', r, hτ', _, hresumed, _, _⟩
  · -- a call that begins finds nothing going on with its entry
    exfalso
    have hrest : AtRest p τ.label.entry := by
      cases hcall : turn.call with
      | setup id =>
        rw [hcall] at ha
        have hfirst := (passage_of_turn hturn (hbody ▸ hresumed ▸
          program_passes turn.call p.world id fun id' hid' => by
            rw [hcall] at hid'
            exact (Option.some.inj hid').symm)).1 τ hτ
        rw [hfirst.1.2]
        exact ha
      | unload id =>
        rw [hcall] at ha
        have hfirst := (passage_of_turn hturn (hbody ▸ hresumed ▸
          program_passes turn.call p.world id fun id' hid' => by
            rw [hcall] at hid'
            exact (Option.some.inj hid').symm)).1 τ hτ
        rw [hfirst.1.2]
        exact ha.1
      | service name configEntryId =>
        -- a service call does not wait
        have hfirst := fun id => (passage_of_turn hturn (hbody ▸ hresumed ▸
          program_passes turn.call p.world id fun id' hid' => by
            rw [hcall] at hid'
            cases hid')).1 τ hτ
        have htwo : "" = "x" := (hfirst "").1.2.symm.trans (hfirst "x").1.2
        exact absurd htwo (by decide)
    exact hrest.not_at h.numbered hat hentry
  · have hsame := hwaits.1 τ'.label r hresumed
    exact h.alone hat ⟨τ', hτ', rfl⟩ (hentry.trans hsame.symm)

/-- What a segment makes of the machines and the services, when it ends in waiting. -/
theorem Kept.sound_of_waits (h : Kept p) {l : HomePoint}
    (hdoes : Does (p.passage homeSystem a turn) l) : (p.step homeSystem a).world.Sound := by
  have hsame : (p.step homeSystem a).world = p.world → (p.step homeSystem a).world.Sound :=
    fun hworld => hworld ▸ h.sound
  cases l with
  | loadingPods id =>
    obtain ⟨n, hworld⟩ := hdoes
    show (p.passage homeSystem a turn).now.Sound
    rw [hworld]
    exact ⟨h.sound.services, h.sound.ready, h.sound.empty⟩
  | refreshing id => exact hsame hdoes
  | describingServices id =>
    obtain ⟨c, hworld⟩ := hdoes
    show (p.passage homeSystem a turn).now.Sound
    rw [hworld]
    exact h.sound.added c
  | forwarding id => exact hsame hdoes.1
  | disconnecting id => exact hsame hdoes
  | unloadingPlatforms id => exact hsame hdoes
  | describingOthers id =>
    show (p.passage homeSystem a turn).now.Sound
    rw [hdoes.2.2]
    exact h.sound.erase hdoes.2.1

theorem Kept.sound_of_ends (h : Kept p) (hturn : p.turn homeSystem a = some turn)
    (hends : Ends (p.passage homeSystem a turn)) : (p.step homeSystem a).world.Sound := by
  rcases hends with hworld | ⟨id, r, hresumed, hworld⟩ | ⟨id, r, _, hlast, hworld⟩
  · have hsame : (p.step homeSystem a).world = p.world := hworld
    exact hsame ▸ h.sound
  · have hat := (Pool.at_of_resumed hturn hresumed).1
    show (p.passage homeSystem a turn).now.Sound
    rw [hworld]
    exact h.sound.register (h.held (Or.inr hat))
  · show (p.passage homeSystem a turn).now.Sound
    rw [hworld]
    exact h.sound.eraseLast hlast

/-- A coordinator that is there stays there, unless its own entry is unloaded. -/
theorem stays_of_waits {l : HomePoint} (hdoes : Does (p.passage homeSystem a turn) l) {id : String}
    (hid : l.entry ≠ id) (hdata : (p.world.data.get? id).isSome = true) :
    ((p.step homeSystem a).world.data.get? id).isSome = true := by
  have hsame : (p.step homeSystem a).world = p.world →
      ((p.step homeSystem a).world.data.get? id).isSome = true := fun hworld => hworld ▸ hdata
  cases l with
  | loadingPods id' =>
    obtain ⟨n, hworld⟩ := hdoes
    exact congrArg (fun w : Home => (w.data.get? id).isSome) hworld |>.trans hdata
  | refreshing id' => exact hsame hdoes
  | describingServices id' =>
    obtain ⟨c, hworld⟩ := hdoes
    exact congrArg (fun w : Home => (w.data.get? id).isSome) hworld |>.trans
      (get?_insert_isSome _ c (Or.inr hdata))
  | forwarding id' => exact hsame hdoes.1
  | disconnecting id' => exact hsame hdoes
  | unloadingPlatforms id' => exact hsame hdoes
  | describingOthers id' =>
    exact congrArg (fun w : Home => (w.data.get? id).isSome) hdoes.2.2 |>.trans
      (get?_erase_isSome _ (Ne.symm hid) hdata)

theorem stays_of_ends (hends : Ends (p.passage homeSystem a turn)) {id : String}
    (hid : ∀ l r, turn.resumed = some (l, r) → l.entry ≠ id)
    (hdata : (p.world.data.get? id).isSome = true) :
    ((p.step homeSystem a).world.data.get? id).isSome = true := by
  rcases hends with hworld | ⟨id', r, _, hworld⟩ | ⟨id', r, hresumed, _, hworld⟩
  · exact congrArg (fun w : Home => (w.data.get? id).isSome) hworld |>.trans hdata
  · exact congrArg (fun w : Home => (w.data.get? id).isSome) hworld |>.trans hdata
  · exact congrArg (fun w : Home => (w.data.get? id).isSome) hworld |>.trans
      (get?_erase_isSome _ (Ne.symm (hid _ r hresumed)) hdata)

end

/-- **A step keeps what holds between segments.** -/
theorem Kept.step (h : Kept p) {a : HomeAction} (ha : Managed p a) :
    Kept (p.step homeSystem a) := by
  obtain ⟨hsegments, hpasses⟩ := h.segments.step program_waits a
  cases hturn : p.turn homeSystem a with
  | none =>
    obtain ⟨_, htasks⟩ := Pool.step_of_no_turn hturn
    have hat : ∀ t l, (p.step homeSystem a).At t l ↔ p.At t l := fun t l => by
      unfold Pool.At
      rw [htasks]
    have hworld : (p.step homeSystem a).world = p.world := by
      rcases Pool.world_of_no_turn hturn with ⟨m, _, _⟩ | hworld
      · cases m
      · exact hworld
    refine ⟨hsegments, h.numbered.step a, hworld ▸ h.sound, fun h₁ h₂ => ?_, fun h₁ => ?_⟩
    · exact h.alone ((hat _ _).mp h₁) ((hat _ _).mp h₂)
    · rw [hworld]
      exact h.held (h₁.imp (hat _ _).mp (hat _ _).mp)
  | some turn =>
    -- the others wait where they did
    have hothers : ∀ t l, t ≠ turn.task → (p.step homeSystem a).At t l → p.At t l := by
      rintro t l ht ⟨τ, hτ, hl⟩
      rw [(Pool.step_of_turn hturn).2.2, Function.update_of_ne ht] at hτ
      exact ⟨τ, hτ, hl⟩
    cases htask : (p.step homeSystem a).tasks turn.task with
    | none =>
      have hends := (hpasses turn hturn).2 htask
      have hgone : ∀ t l, (p.step homeSystem a).At t l → t ≠ turn.task := by
        rintro t l ⟨τ, hτ, _⟩ rfl
        cases htask.symm.trans hτ
      refine ⟨hsegments, h.numbered.step a, h.sound_of_ends hturn hends, fun h₁ h₂ => ?_, fun {t id} h₁ => ?_⟩
      · exact h.alone (hothers _ _ (hgone _ _ h₁) h₁) (hothers _ _ (hgone _ _ h₂) h₂)
      · have ht : t ≠ turn.task := h₁.elim (hgone _ _) (hgone _ _)
        have hold := h₁.imp (hothers _ _ ht) (hothers _ _ ht)
        refine stays_of_ends hends (fun l r hresumed heq => ht ?_) (h.held hold)
        have hat := (Pool.at_of_resumed hturn hresumed).1
        rcases hold with hold | hold
        · exact h.alone hold hat heq.symm
        · exact h.alone hold hat heq.symm
    | some τ =>
      have hwaits := (hpasses turn hturn).1 τ htask
      have hapart : ∀ {t l}, p.At t l → l.entry = τ.label.entry → t = turn.task :=
        fun hat hentry => h.apart ha hturn htask hwaits hat hentry
      have hself : ∀ {l}, (p.step homeSystem a).At turn.task l → l = τ.label := by
        rintro l ⟨τ', hτ', rfl⟩
        rw [Option.some.inj (hτ'.symm.trans htask)]
      refine ⟨hsegments, h.numbered.step a, h.sound_of_waits hwaits.2, fun {t t' l l'} h₁ h₂ heq => ?_,
        fun {t id} h₁ => ?_⟩
      · by_cases ht : t = turn.task
        · by_cases ht' : t' = turn.task
          · rw [ht, ht']
          · subst ht
            rw [hself h₁] at heq
            exact (hapart (hothers _ _ ht' h₂) heq.symm).symm
        · by_cases ht' : t' = turn.task
          · subst ht'
            rw [hself h₂] at heq
            exact hapart (hothers _ _ ht h₁) heq
          · exact h.alone (hothers _ _ ht h₁) (hothers _ _ ht' h₂) heq
      · by_cases ht : t = turn.task
        · subst ht
          rcases h₁ with h₁ | h₁
          · have hdoes := hwaits.2
            rw [← hself h₁] at hdoes
            obtain ⟨c, hworld⟩ := hdoes
            exact congrArg (fun w : Home => (w.data.get? id).isSome) hworld |>.trans
              (get?_insert_isSome _ c (Or.inl rfl))
          · have hdoes := hwaits.2
            rw [← hself h₁] at hdoes
            obtain ⟨hworld, r, hresumed⟩ := hdoes
            have hat := (Pool.at_of_resumed hturn hresumed).1
            exact congrArg (fun w : Home => (w.data.get? id).isSome) hworld |>.trans
              (h.held (Or.inl hat))
        · have hold := h₁.imp (hothers _ _ ht) (hothers _ _ ht)
          refine stays_of_waits hwaits.2 (fun heq => ht ?_) (h.held hold)
          rcases hold with hold | hold
          · exact hapart hold heq.symm
          · exact hapart hold heq.symm

/-! ## Runs -/

/-- **The services follow the machines.**  In every run in which Home Assistant keeps its promise, at
every moment: the services are all there or none are; as long as a machine is set up they are there, and
a call that names it reaches its coordinator and no other; when no machine is left, there are none. -/
theorem services_follow_machines (as : List HomeAction)
    (hmanaged : AllSteps (Pool.step homeSystem) Managed (Pool.idle emptyHome) as) :
    let w := (run (Pool.step homeSystem) (Pool.idle emptyHome) as).world
    (w.services = [] ∨ w.services = registeredServices) ∧
      (∀ entryId ∈ w.ready, w.services = registeredServices ∧
        ∃ coordinator, w.data.get? entryId = some coordinator ∧
          (entryId ≠ "" → coordinatorsForCall w.data (some entryId) = [coordinator])) ∧
      (w.data.entries = [] → w.services = []) := by
  have hkept : Kept (run (Pool.step homeSystem) (Pool.idle emptyHome) as) :=
    run_invariant (fun _ _ h ha => h.step ha) kept_emptyHome hmanaged
  refine ⟨hkept.sound.services, fun entryId hready => ?_, hkept.sound.empty⟩
  obtain ⟨hservices, hdata⟩ := hkept.sound.ready entryId hready
  obtain ⟨coordinator, hcoordinator⟩ := Option.isSome_iff_exists.mp hdata
  refine ⟨hservices, coordinator, hcoordinator, fun hnamed => ?_⟩
  rw [coordinatorsForCall, if_neg hnamed, hcoordinator]
  rfl

/-- Two machines are set up beside one another, and the first is unloaded again. -/
def twoMachines : List HomeAction :=
  [.spawn (.setup "kitchen"), .spawn (.setup "office"), .resume 0 .succeeded, .resume 1 .succeeded,
    .resume 1 .succeeded, .resume 0 .succeeded, .resume 0 .succeeded, .resume 1 .succeeded,
    .resume 0 .succeeded, .resume 1 .succeeded, .spawn (.unload "kitchen"), .resume 2 .succeeded,
    .resume 2 .succeeded]

/-- What it leads to. -/
def officeLeft : HomePool := run (Pool.step homeSystem) (Pool.idle emptyHome) twoMachines

theorem two_machines_served :
    (officeLeft.world.services = [] ∨ officeLeft.world.services = registeredServices) ∧
      (∀ entryId ∈ officeLeft.world.ready, officeLeft.world.services = registeredServices ∧
        ∃ coordinator, officeLeft.world.data.get? entryId = some coordinator ∧
          (entryId ≠ "" → coordinatorsForCall officeLeft.world.data (some entryId) = [coordinator])) ∧
      (officeLeft.world.data.entries = [] → officeLeft.world.services = []) :=
  services_follow_machines twoMachines (by decide +kernel)

end XBloom.Setup
