/-
# XBloom.Telemetry.Ranges — whether the manual setpoints stay in their ranges

The number entities show grind size 1–80, rpm 60–120, temperature 39–96 and volume 30–500.  The knob
mirrors keep to these ranges.  Three other writers do not: an idle poll copies the last temperature
reading as it is (20 at room temperature, 98 at the boiling point), a selection sets any grind size a
recipe may have (up to 150), and the pour tool takes any volume from 10 ml.
-/
import XBloom.Coordinator.Callers
import XBloom.Telemetry.Setpoints

namespace XBloom.Telemetry

open XBloom.Py XBloom.Ble XBloom.Recipe XBloom.Coordinator XBloom.Logic

/-! ## The ranges -/

/-- **The ranges of the number entities.** -/
structure Sliders.InRange (x : Sliders) : Prop where
  grindSize : 1 ≤ x.grindSize ∧ x.grindSize ≤ 80
  rpm : 60 ≤ x.rpm ∧ x.rpm ≤ 120
  temperature : 39 ≤ x.temperature ∧ x.temperature ≤ 96
  volume : 30 ≤ x.volume ∧ x.volume ≤ 500

instance (x : Sliders) : Decidable x.InRange :=
  decidable_of_iff ((1 ≤ x.grindSize ∧ x.grindSize ≤ 80) ∧ (60 ≤ x.rpm ∧ x.rpm ≤ 120) ∧
    (39 ≤ x.temperature ∧ x.temperature ≤ 96) ∧ (30 ≤ x.volume ∧ x.volume ≤ 500))
    ⟨fun h => ⟨h.1, h.2.1, h.2.2.1, h.2.2.2⟩, fun h => ⟨h.grindSize, h.rpm, h.temperature, h.volume⟩⟩

/-! ## The writers -/

/-- A call of `xbloom__grind`. -/
structure GrindTool where
  grindSize : Option ℤ := none
  rpm : Option ℤ := none
  deriving DecidableEq, Repr

/-- A call of `xbloom__pour`. -/
structure PourTool where
  temperature : Option ℚ := none
  boiling : Bool := false
  volume : ℤ
  flowRate : Option PyFloat := none
  deriving DecidableEq, Repr

/-- `TEMPERATURE_BOILING_C`. -/
def temperatureBoiling : ℚ := 96

/-- The temperature of `XBloomPourTool.async_call`, if it has one. -/
def PourTool.water (tool : PourTool) : Option ℚ :=
  if tool.boiling then some temperatureBoiling else tool.temperature

/-- The sliders after `XBloomGrindTool.async_call`, once it has a link. -/
def GrindTool.apply (tool : GrindTool) (w : World) : World :=
  { w with grindSize := tool.grindSize.getD w.grindSize, rpm := tool.rpm.getD w.rpm }

/-- The sliders after `XBloomPourTool.async_call`: a call without a temperature is answered.  A tool that
finds no link and cannot make one returns `connect_failed` before it writes a slider; the coordinator here
is connected. -/
def PourTool.apply (tool : PourTool) (w : World) : World :=
  match tool.water with
  | some temperature =>
    { w with
      temperature := PyFloat.roundHalfEven temperature
      volume := tool.volume
      flowRate := tool.flowRate.getD w.flowRate }
  | none => w

/-- What happens to the sliders of a connected coordinator, and around them: polls and frames, a
selection, an entity's write, a tool's call, a change of the stored recipes, and whatever a call does to
the flags of arms and runs. -/
inductive Change where
  | telemetry (a : Act)
  | select (name : String)
  | grindSize (value : ℤ)
  | rpm (value : ℤ)
  | temperature (value : ℤ)
  | volume (value : ℤ)
  | grindTool (tool : GrindTool)
  | pourTool (tool : PourTool)
  | store (op : StoreOp)
  | flags (armed : Option Armed) (active : Option Operation) (manualPaused : Bool)

/-- The state with another world. -/
def State.setWorld (st : State) (w : World) : State := { st with world := w }

section
variable (I : Identifiers) (yaml : YamlLayer)

/-- One change.  The coordinator is connected throughout, so no tool returns `connect_failed`; a call
that does leaves the sliders alone. -/
def State.change (st : State) : Change → State
  | .telemetry a => st.step a
  | .select name => st.setWorld (st.world.selectRecipe yaml (some name))
  | .grindSize value => st.setWorld { st.world with grindSize := value }
  | .rpm value => st.setWorld { st.world with rpm := value }
  | .temperature value => st.setWorld { st.world with temperature := value }
  | .volume value => st.setWorld { st.world with volume := value }
  | .grindTool tool => st.setWorld (tool.apply st.world)
  | .pourTool tool => st.setWorld (tool.apply st.world)
  | .store op => st.setWorld { st.world with store := st.world.store.step I yaml op }
  | .flags armed active manualPaused => st.setWorld
      { st.world with armedOperation := armed, activeOperation := active, manualPaused := manualPaused }

/-- **What the writers' own checks let through**: a selected recipe is one the constructors accept, an
entity's value lies in the entity's range, and a tool's arguments lie in the tool's. -/
def Accepts (st : State) : Change → Prop
  | .select name => ∀ stored, st.world.named yaml (some name) = some stored →
    ∃ built, buildRecipeFromYaml stored = .ok built
  | .grindSize value => 1 ≤ value ∧ value ≤ 80
  | .rpm value => 60 ≤ value ∧ value ≤ 120
  | .temperature value => 39 ≤ value ∧ value ≤ 96
  | .volume value => 30 ≤ value ∧ value ≤ 500
  | .grindTool tool => (∀ n ∈ tool.grindSize, 1 ≤ n ∧ n ≤ 80) ∧ ∀ n ∈ tool.rpm, 60 ≤ n ∧ n ≤ 120
  | .pourTool tool => (∀ t ∈ tool.temperature, 40 ≤ t ∧ t ≤ 95) ∧ 10 ≤ tool.volume ∧ tool.volume ≤ 500
  | _ => True

/-- **What the ranges need beyond that**: an idle poll copies no reading off the temperature's range, a
selection sets no grind size above 80, and the pour tool is asked for at least 30 ml. -/
def Fits (st : State) : Change → Prop
  | .telemetry (.poll sinceNotification sinceActivity) => ∀ c ∈ st.client,
    st.copies c sinceNotification sinceActivity → c.status.brewer.temperature ≠ 0 →
      39 ≤ PyFloat.roundHalfEven c.status.brewer.temperature ∧
        PyFloat.roundHalfEven c.status.brewer.temperature ≤ 96
  | .select name => ∀ stored ∈ st.world.named yaml (some name), Grinds stored → stored.grindSize ≤ 80
  | .pourTool tool => tool.water ≠ none → 30 ≤ tool.volume
  | _ => True

end

/-! ## The mirrors -/

theorem sliderOf_range (t : ℚ) : 39 ≤ sliderOf t ∧ sliderOf t ≤ 96 := by
  unfold sliderOf
  split_ifs with hlow hhigh
  · decide
  · decide
  · have hup := PyFloat.roundHalfEven_le t
    have hdown := PyFloat.le_roundHalfEven t
    have hlow' : (39 : ℚ) ≤ PyFloat.roundHalfEven t := by linarith
    have hhigh' : (PyFloat.roundHalfEven t : ℚ) ≤ 96 := by linarith
    exact ⟨by exact_mod_cast hlow', by exact_mod_cast hhigh'⟩

theorem applyBrewerValues_inRange {w : World} (h : (sliders w).InRange) (temperature : Option ℚ)
    (pattern : Option ℕ) : (sliders (applyBrewerValues w temperature pattern)).InRange := by
  have htemperature : ∀ t : ℚ, (sliders { w with temperature := sliderOf t }).InRange :=
    fun t => ⟨h.grindSize, h.rpm, sliderOf_range t, h.volume⟩
  have hpattern : ∀ (v : World) (p : ℤ), (sliders v).InRange →
      (sliders { v with pourPattern := p }).InRange :=
    fun v p hv => ⟨hv.grindSize, hv.rpm, hv.temperature, hv.volume⟩
  unfold applyBrewerValues
  dsimp only
  cases temperature with
  | none =>
    cases pattern with
    | none => exact h
    | some p =>
      dsimp only
      split
      · exact hpattern _ _ h
      · exact h
  | some t =>
    have hset : (sliders (if 15 ≤ t ∧ t ≤ 100 then { w with temperature := sliderOf t } else w)).InRange := by
      split
      · exact htemperature t
      · exact h
    cases pattern with
    | none => exact hset
    | some p =>
      dsimp only
      split
      · exact hpattern _ _ hset
      · exact hset

theorem applyGrinderKnob_inRange (s : DeviceStatus) {w : World} (h : (sliders w).InRange)
    (size : Option ℤ) (rpm : Option ℕ) : (sliders (applyGrinderKnob s w size rpm)).InRange := by
  have hrpm : ∀ v : World, (sliders v).InRange → ∀ n : ℕ,
      (sliders (if 60 ≤ n ∧ n ≤ 120 then { v with rpm := (n : ℤ) } else v)).InRange := by
    intro v hv n
    split
    · rename_i hn
      have hrange : 60 ≤ (n : ℤ) ∧ (n : ℤ) ≤ 120 := by omega
      exact ⟨hv.grindSize, hrange, hv.temperature, hv.volume⟩
    · exact hv
  have hsize : ∀ n : ℤ,
      (sliders (if 1 ≤ n ∧ n ≤ 80 then { w with grindSize := n } else w)).InRange := by
    intro n
    split
    · rename_i hn
      exact ⟨hn, h.rpm, h.temperature, h.volume⟩
    · exact h
  unfold applyGrinderKnob
  split
  · exact h
  · -- either reading may be missing
    rcases size with _ | n <;> rcases rpm with _ | k
    · exact h
    · exact hrpm w h k
    · exact hsize n
    · exact hrpm _ (hsize n) k

/-- **Every event keeps the ranges.** -/
theorem dispatch_inRange (s : DeviceStatus) {w : World} (h : (sliders w).InRange) (e : Event) :
    (sliders (dispatch s w e)).InRange := by
  cases e with
  | grinderKnob size rpm => exact applyGrinderKnob_inRange s h size rpm
  | brewerKnob temperature pattern =>
    show (sliders (applyBrewerKnob s w temperature pattern)).InRange
    unfold applyBrewerKnob
    split
    · exact h
    · exact applyBrewerValues_inRange h _ _
  | brewerPageEntry volume temperature pattern =>
    show (sliders (applyBrewerPageEntry s w volume temperature pattern)).InRange
    have hvalues := applyBrewerValues_inRange h (some (temperature : ℚ)) (some pattern)
    unfold applyBrewerPageEntry
    split
    · exact h
    · split
      · exact h
      · dsimp only
        split
        · rename_i hvolume
          have hrange : 30 ≤ (volume : ℤ) ∧ (volume : ℤ) ≤ 500 := by omega
          exact ⟨hvalues.grindSize, hvalues.rpm, hvalues.temperature, hrange⟩
        · exact hvalues
  | unitChange weightUnit tempUnit waterSource => exact h
  | notification e => exact (sliders_dispatchEvent w e.bleEvent) ▸ h
  | error e => exact (sliders_dispatchEvent w e.bleEvent) ▸ h

/-- **Every frame keeps the ranges.** -/
theorem receive_inRange {st : State} (h : (sliders st.world).InRange) (frame : Bytes) :
    (sliders (st.receive frame).world).InRange := by
  unfold State.receive
  cases st.client with
  | none => exact h
  | some c =>
    dsimp only
    cases Received.receive { client := c } frame with
    | error e => exact h
    | ok r =>
      show (sliders (r.events.foldl (dispatch r.client.status) st.world)).InRange
      generalize r.events = events
      generalize st.world = w at h
      induction events generalizing w with
      | nil => exact h
      | cons e rest ih => exact ih _ (dispatch_inRange _ h e)

/-! ## The other writers -/

/-- What an idle poll copies. -/
theorem sliders_of_copyReadings (w : World) (s : DeviceStatus) : sliders (copyReadings w s) =
    { sliders w with
      temperature := if s.brewer.temperature ≠ 0 then PyFloat.roundHalfEven s.brewer.temperature
        else w.temperature
      pourPattern := (s.pourPatternLive.map Nat.cast).getD w.pourPattern } := by
  unfold copyReadings
  cases s.pourPatternLive <;> dsimp only <;> split_ifs <;> rfl

/-- It stays in range exactly when the reading, if there is one, rounds into it. -/
theorem copyReadings_inRange_iff {w : World} (h : (sliders w).InRange) (s : DeviceStatus) :
    (sliders (copyReadings w s)).InRange ↔ (s.brewer.temperature ≠ 0 →
      39 ≤ PyFloat.roundHalfEven s.brewer.temperature ∧
        PyFloat.roundHalfEven s.brewer.temperature ≤ 96) := by
  rw [sliders_of_copyReadings]
  by_cases hreading : s.brewer.temperature ≠ 0
  · simp only [if_pos hreading]
    exact ⟨fun hafter _ => hafter.temperature,
      fun hrange => ⟨h.grindSize, h.rpm, hrange hreading, h.volume⟩⟩
  · simp only [if_neg hreading]
    exact iff_of_true ⟨h.grindSize, h.rpm, h.temperature, h.volume⟩ fun hne => absurd hne hreading

theorem poll_inRange_iff {st : State} (h : (sliders st.world).InRange)
    (sinceNotification sinceActivity : ℚ) :
    (sliders (st.poll sinceNotification sinceActivity).world).InRange ↔ ∀ c ∈ st.client,
      st.copies c sinceNotification sinceActivity → c.status.brewer.temperature ≠ 0 →
        39 ≤ PyFloat.roundHalfEven c.status.brewer.temperature ∧
          PyFloat.roundHalfEven c.status.brewer.temperature ≤ 96 := by
  rw [poll_sliders]
  cases st.client with
  | none => exact iff_of_true h (fun c hc => by cases hc)
  | some c =>
    dsimp only
    simp only [Option.mem_def, Option.some.injEq, forall_eq']
    split
    · rename_i hcopies
      rw [copyReadings_inRange_iff h]
      simp only [hcopies, forall_const]
    · rename_i hcopies
      exact iff_of_true h fun hc => absurd hc hcopies

/-- What a selection sets. -/
theorem sliders_of_selectRecipe {yaml : YamlLayer} {w : World} {name : String} {stored : RecipeDict}
    (hname : w.named yaml (some name) = some stored) :
    sliders (w.selectRecipe yaml (some name)) =
      { sliders w with
        grindSize := if Grinds stored then stored.grindSize else w.grindSize
        rpm := if Grinds stored ∧ stored.rpm ≠ 0 then stored.rpm else w.rpm } := by
  obtain ⟨hgrind, hrpm⟩ := selectRecipe_sliders hname
  have hothers : (w.selectRecipe yaml (some name)).temperature = w.temperature ∧
      (w.selectRecipe yaml (some name)).volume = w.volume ∧
      (w.selectRecipe yaml (some name)).pourPattern = w.pourPattern := by
    obtain ⟨_, _, hwrites⟩ := w.selectRecipe_writes yaml (some name)
    rw [hwrites]
    exact ⟨rfl, rfl, rfl⟩
  obtain ⟨htemperature, hvolume, hpattern⟩ := hothers
  unfold sliders
  rw [hgrind, hrpm, htemperature, hvolume, hpattern]

theorem sliders_of_selectRecipe_none {yaml : YamlLayer} {w : World} {name : String}
    (hname : w.named yaml (some name) = none) :
    sliders (w.selectRecipe yaml (some name)) = sliders w := by
  have hsame : World.named yaml
      { w with store := { w.store with selectedRecipe := some name } } (some name) = none := hname
  unfold World.selectRecipe
  simp only [hsame]
  rfl

/-- A selection of a recipe that the constructors accept. -/
theorem select_inRange_iff {yaml : YamlLayer} {w : World} (h : (sliders w).InRange) {name : String}
    (haccepts : ∀ stored, w.named yaml (some name) = some stored →
      ∃ built, buildRecipeFromYaml stored = .ok built) :
    (sliders (w.selectRecipe yaml (some name))).InRange ↔
      ∀ stored ∈ w.named yaml (some name), Grinds stored → stored.grindSize ≤ 80 := by
  cases hname : w.named yaml (some name) with
  | none =>
    rw [sliders_of_selectRecipe_none hname]
    exact iff_of_true h fun stored hs => by cases hs
  | some stored =>
    obtain ⟨built, hbuilt⟩ := haccepts stored hname
    obtain ⟨_, hstoredRpm⟩ := grinder_of_built hbuilt
    -- a recipe's rpm is 0, which is not set, or one of the machine's
    have hrpm : 60 ≤ (if Grinds stored ∧ stored.rpm ≠ 0 then stored.rpm else w.rpm) ∧
        (if Grinds stored ∧ stored.rpm ≠ 0 then stored.rpm else w.rpm) ≤ 120 := by
      split
      · rename_i hset
        simp only [XBloomRecipe.validRpms, List.mem_cons, List.not_mem_nil, or_false] at hstoredRpm
        omega
      · exact h.rpm
    rw [sliders_of_selectRecipe hname]
    simp only [Option.mem_def, Option.some.injEq, forall_eq']
    generalize (if Grinds stored ∧ stored.rpm ≠ 0 then stored.rpm else w.rpm) = rpm at hrpm ⊢
    by_cases hgrinds : Grinds stored
    · have hpositive : 1 ≤ stored.grindSize := hgrinds.2
      simp only [if_pos hgrinds]
      exact ⟨fun hafter _ => hafter.grindSize.2,
        fun hsize => ⟨⟨hpositive, hsize hgrinds⟩, hrpm, h.temperature, h.volume⟩⟩
    · simp only [if_neg hgrinds]
      exact iff_of_true ⟨h.grindSize, hrpm, h.temperature, h.volume⟩ fun hset => absurd hset hgrinds

theorem grindTool_inRange {w : World} (h : (sliders w).InRange) {tool : GrindTool}
    (haccepts : (∀ n ∈ tool.grindSize, 1 ≤ n ∧ n ≤ 80) ∧ ∀ n ∈ tool.rpm, 60 ≤ n ∧ n ≤ 120) :
    (sliders (tool.apply w)).InRange := by
  refine ⟨?_, ?_, h.temperature, h.volume⟩
  · show 1 ≤ tool.grindSize.getD w.grindSize ∧ tool.grindSize.getD w.grindSize ≤ 80
    cases hsize : tool.grindSize with
    | none => exact h.grindSize
    | some n => exact haccepts.1 n hsize
  · show 60 ≤ tool.rpm.getD w.rpm ∧ tool.rpm.getD w.rpm ≤ 120
    cases hrpm : tool.rpm with
    | none => exact h.rpm
    | some n => exact haccepts.2 n hrpm

theorem pourTool_inRange_iff {w : World} (h : (sliders w).InRange) {tool : PourTool}
    (haccepts : (∀ t ∈ tool.temperature, 40 ≤ t ∧ t ≤ 95) ∧ 10 ≤ tool.volume ∧ tool.volume ≤ 500) :
    (sliders (tool.apply w)).InRange ↔ (tool.water ≠ none → 30 ≤ tool.volume) := by
  unfold PourTool.apply
  cases hwater : tool.water with
  | none => exact iff_of_true h (fun hne => absurd rfl hne)
  | some t =>
    have ht : 40 ≤ t ∧ t ≤ 96 := by
      unfold PourTool.water at hwater
      split at hwater
      · obtain rfl := Option.some.inj hwater
        unfold temperatureBoiling
        norm_num
      · obtain ⟨hlow, hhigh⟩ := haccepts.1 t hwater
        exact ⟨hlow, by linarith⟩
    have hup := PyFloat.roundHalfEven_le t
    have hdown := PyFloat.le_roundHalfEven t
    have hlow : (39 : ℚ) ≤ PyFloat.roundHalfEven t := by linarith
    have hhigh : (PyFloat.roundHalfEven t : ℚ) < 97 := by linarith
    have hlow' : 39 ≤ PyFloat.roundHalfEven t := by exact_mod_cast hlow
    have hhigh' : PyFloat.roundHalfEven t < 97 := by exact_mod_cast hhigh
    constructor
    · intro hafter _
      exact hafter.volume.1
    · intro hvolume
      have henough := hvolume (by simp)
      have hrange : 39 ≤ PyFloat.roundHalfEven t ∧ PyFloat.roundHalfEven t ≤ 96 := by omega
      exact ⟨h.grindSize, h.rpm, hrange, ⟨henough, haccepts.2.2⟩⟩

/-! ## Runs -/

variable {I : Identifiers} {yaml : YamlLayer}

/-- **A change keeps the ranges** exactly when it fits. -/
theorem change_inRange_iff {st : State} {change : Change} (h : (sliders st.world).InRange)
    (haccepts : Accepts yaml st change) :
    (sliders (st.change I yaml change).world).InRange ↔ Fits yaml st change := by
  cases change with
  | telemetry a =>
    cases a with
    | poll sinceNotification sinceActivity => exact poll_inRange_iff h _ _
    | frame frame => exact iff_of_true (receive_inRange h frame) trivial
    | disconnected => exact iff_of_true h trivial
    | connected => exact iff_of_true h trivial
  | select name => exact select_inRange_iff h haccepts
  | grindSize value => exact iff_of_true ⟨haccepts, h.rpm, h.temperature, h.volume⟩ trivial
  | rpm value => exact iff_of_true ⟨h.grindSize, haccepts, h.temperature, h.volume⟩ trivial
  | temperature value => exact iff_of_true ⟨h.grindSize, h.rpm, haccepts, h.volume⟩ trivial
  | volume value => exact iff_of_true ⟨h.grindSize, h.rpm, h.temperature, haccepts⟩ trivial
  | grindTool tool => exact iff_of_true (grindTool_inRange h haccepts) trivial
  | pourTool tool => exact pourTool_inRange_iff h haccepts
  | store op => exact iff_of_true h trivial
  | flags armed active manualPaused => exact iff_of_true h trivial

/-- **When the setpoints stay in their ranges.**  From any state with the setpoints in range, along any
changes the writers' checks let through: they are in range after every change, exactly when every change
fits. -/
theorem setpoints_in_range_iff {st : State} {changes : List Change}
    (hstart : (sliders st.world).InRange)
    (haccepts : AllSteps (State.change I yaml) (Accepts yaml) st changes) :
    AllSteps (State.change I yaml) (fun s c => (sliders (s.change I yaml c).world).InRange) st changes ↔
      AllSteps (State.change I yaml) (Fits yaml) st changes := by
  have hstep : ∀ (s : State) c, (sliders s.world).InRange → Accepts yaml s c →
      ((sliders (s.change I yaml c).world).InRange ↔ Fits yaml s c) ∧
        ((sliders (s.change I yaml c).world).InRange → (sliders (s.change I yaml c).world).InRange) :=
    fun s c hinv hc => ⟨change_inRange_iff hinv hc, id⟩
  exact AllSteps.iff_while hstep hstart haccepts

/-! ## In range, and out of it -/

/-- A reading of 90 °C and a poll, then a pour of 200 ml at 85 °C. -/
def gentleChanges : List Change :=
  [.telemetry (.frame (wordFrame 0xAC 0x1F 90)), .telemetry (.poll 0 0),
    .pourTool { temperature := some 85, volume := 200 }]

-- the reading alone changes nothing before the next poll
example : (sliders (State.fresh.change plainIdentifiers morningYaml
    (.telemetry (.frame (wordFrame 0xAC 0x1F 90)))).world).InRange := by decide +kernel

/-- A coordinator after start-up that has a recipe. -/
def State.stocked (recipe : RecipeDict) : State where
  world := selecting recipe
  client := some {}
  connected := true

/-- A coffee for the coarsest grind the constructors accept. -/
def coarseCoffee : RecipeDict := { bypassCoffee with grindSize := 150 }

theorem coarse_builds : ∃ built, buildRecipeFromYaml coarseCoffee = .ok built :=
  returns_of_isSome (by decide +kernel)

theorem pour_accepted {st : State} {t : ℚ} (ht : 40 ≤ t ∧ t ≤ 95) {volume : ℤ}
    (hvolume : 10 ≤ volume ∧ volume ≤ 500) :
    Accepts morningYaml st (.pourTool { temperature := some t, volume := volume }) := by
  refine ⟨fun u hu => ?_, hvolume⟩
  obtain rfl : t = u := Option.some.inj hu
  exact ht

theorem gentle_changes_fit :
    AllSteps (State.change plainIdentifiers morningYaml) (Fits morningYaml) State.fresh
      gentleChanges := by
  have haccepts : AllSteps (State.change plainIdentifiers morningYaml) (Accepts morningYaml)
      State.fresh gentleChanges :=
    ⟨trivial, trivial, pour_accepted (by norm_num) (by decide), trivial⟩
  exact (setpoints_in_range_iff (by decide) haccepts).mp (by decide +kernel)

/-- **Three ways out.**  A reading of 98 °C that an idle poll copies, a recipe for grind size 150 that is
selected, and a pour of 20 ml that the tool is asked for. -/
theorem setpoints_leave_ranges :
    (∀ run ∈ [[Change.telemetry (.frame (wordFrame 0xAC 0x1F 98)), .telemetry (.poll 0 0)],
        [.select "V60"], [.pourTool { temperature := some 85, volume := 20 }]],
      AllSteps (State.change plainIdentifiers morningYaml) (Accepts morningYaml)
          (State.stocked coarseCoffee) run ∧
        ¬ AllSteps (State.change plainIdentifiers morningYaml)
          (fun s c => (sliders (s.change plainIdentifiers morningYaml c).world).InRange)
          (State.stocked coarseCoffee) run) ∧
      (sliders (State.stocked coarseCoffee).world).InRange := by
  refine ⟨?_, by decide⟩
  simp only [List.forall_mem_cons, List.not_mem_nil, false_implies, implies_true, and_true]
  refine ⟨⟨⟨trivial, trivial, trivial⟩, by decide +kernel⟩, ⟨⟨fun stored hs => ?_, trivial⟩,
    by decide +kernel⟩, ⟨⟨pour_accepted (by norm_num) (by decide), trivial⟩, by decide +kernel⟩⟩
  have hstored : (State.stocked coarseCoffee).world.named morningYaml (some "V60") =
      some coarseCoffee := by decide +kernel
  obtain rfl := Option.some.inj (hstored.symm.trans hs)
  exact coarse_builds

end XBloom.Telemetry
