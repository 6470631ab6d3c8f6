/-
# XBloom.Advanced.Plan — what a settings call may write

The levels of a call and the center of its machine say what it writes, and in which order: that is its
plan.  A call keeps to it whatever happens while it waits (`settingsTalk`): it writes nothing before its
levels are checked and, for a pour radius, before the cloud has named the center; then the plan from the
front, nothing twice and nothing else; and it goes home once, when all is written.  What it answers tells
how far it came, which `XBloom.Advanced.Outcomes` reads off.
-/
import XBloom.Advanced.Settings
import XBloom.Coordinator.Footprints

namespace XBloom.Advanced

open XBloom.Async XBloom.Py XBloom.Ble XBloom.Recipe XBloom.Coordinator XBloom.Llm

/-! ## The plan -/

/-- The raw value of a checked brightness level. -/
def brightnessValue (level : ℤ) : ℤ := if level = 1 then 1 else if level = 2 then 8 else 15

/-- The parts of a plan. -/
def radiusStep (args : SettingsArgs) (center : ℤ) : List (Setting × ℤ) :=
  args.pourRadiusLevel.toList.map fun l => (.pourRadius, pourRadiusLevelToRaw l center)

def amplitudeStep (args : SettingsArgs) : List (Setting × ℤ) :=
  args.vibrationAmplitudeLevel.toList.map fun l => (.vibrationAmplitude, vibrationLevelToRaw l)

def brightnessStep (args : SettingsArgs) : List (Setting × ℤ) :=
  args.displayBrightnessLevel.toList.map fun l => (.displayBrightness, brightnessValue l)

/-- What a call is to write, in its order. -/
def plan (args : SettingsArgs) (center : ℤ) : List (Setting × ℤ) :=
  radiusStep args center ++ (amplitudeStep args ++ brightnessStep args)

/-- The levels of a call are those of the app's pickers. -/
structure SettingsArgs.InRange (args : SettingsArgs) : Prop where
  pourRadius : ∀ l, args.pourRadiusLevel = some l → 0 ≤ l ∧ l ≤ 4
  vibrationAmplitude : ∀ l, args.vibrationAmplitudeLevel = some l → 0 ≤ l ∧ l ≤ 5
  displayBrightness : ∀ l, args.displayBrightnessLevel = some l → 1 ≤ l ∧ l ≤ 3

theorem within_iff {low high : ℤ} {level : Option ℤ} :
    within low high level = true ↔ ∀ l, level = some l → low ≤ l ∧ l ≤ high := by
  cases level with
  | none => simp [within]
  | some l => simp [within]

/-- The range checks of a call. -/
def SettingsArgs.inRange (args : SettingsArgs) : Bool :=
  within 0 4 args.pourRadiusLevel && within 0 5 args.vibrationAmplitudeLevel &&
    within 1 3 args.displayBrightnessLevel

theorem inRange_iff {args : SettingsArgs} : args.inRange = true ↔ args.InRange := by
  unfold SettingsArgs.inRange
  rw [Bool.and_eq_true, Bool.and_eq_true, within_iff, within_iff, within_iff]
  exact ⟨fun h => ⟨h.1.1, h.1.2, h.2⟩, fun h => ⟨⟨h.pourRadius, h.vibrationAmplitude⟩, h.displayBrightness⟩⟩

/-- Levels that pass the checks are in range. -/
theorem inRange_of_checked {args : SettingsArgs} {loggedIn : Bool}
    (h : checkLevels args loggedIn = none) : args.InRange := by
  unfold checkLevels at h
  split at h
  · cases h
  split at h
  · cases h
  rename_i _ hradius
  split at h
  · cases h
  rename_i hamplitude
  split at h
  · cases h
  rename_i hbrightness
  exact ⟨within_iff.mp ((Bool.not_eq_false _).mp hradius),
    within_iff.mp ((Bool.not_eq_false _).mp hamplitude),
    within_iff.mp ((Bool.not_eq_false _).mp hbrightness)⟩

/-- The brightness levels in range have their values. -/
theorem displayBrightnessRaw_of_range {level : ℤ} (h : 1 ≤ level ∧ level ≤ 3) :
    displayBrightnessRaw level = .ok (brightnessValue level) := by
  obtain rfl | rfl | rfl : level = 1 ∨ level = 2 ∨ level = 3 := by omega
  · rfl
  · rfl
  · rfl

/-- What a setting of the machine may be set to, for a machine with this center. -/
def Setting.Legal (center : ℤ) : Setting → ℤ → Prop
  | .pourRadius, raw => center - 160 ≤ raw ∧ raw ≤ center + 160
  | .vibrationAmplitude, raw => 1000 ≤ raw ∧ raw ≤ 1500
  | .displayBrightness, raw => raw = 1 ∨ raw = 8 ∨ raw = 15

/-- **Plans are legal.** -/
theorem plan_legal {args : SettingsArgs} (h : args.InRange) (center : ℤ) :
    ∀ p ∈ plan args center, p.1.Legal center p.2 := by
  intro p hp
  simp only [plan, radiusStep, amplitudeStep, brightnessStep, List.mem_append, List.mem_map,
    Option.mem_toList] at hp
  rcases hp with ⟨l, hl, rfl⟩ | ⟨l, hl, rfl⟩ | ⟨l, hl, rfl⟩
  · have hrange := h.pourRadius l hl
    constructor
    · show center - 160 ≤ center - (2 - l) * 80
      omega
    · show center - (2 - l) * 80 ≤ center + 160
      omega
  · have hrange := h.vibrationAmplitude l hl
    constructor
    · show 1000 ≤ 1000 + l * 100
      omega
    · show 1000 + l * 100 ≤ 1500
      omega
  · show brightnessValue l = 1 ∨ brightnessValue l = 8 ∨ brightnessValue l = 15
    unfold brightnessValue
    split
    · exact Or.inl rfl
    · split
      · exact Or.inr (Or.inl rfl)
      · exact Or.inr (Or.inr rfl)

/-! ## The protocol -/

/-- How far a call is. -/
inductive Phase where
  /-- It has said nothing but what a connect sends. -/
  | connecting
  /-- It has asked for the radius. -/
  | asked
  /-- It waits for the cloud. -/
  | querying
  /-- The cloud had no center. -/
  | uncentered
  /-- It has this left to write. -/
  | writing (rest : List (Setting × ℤ))
  /-- It has sent the machine home. -/
  | homing
  | finished
  deriving DecidableEq, Repr

/-- The next write of a plan. -/
def writeNext (s : Setting) (raw : ℤ) : List (Setting × ℤ) → Option Phase
  | [] => none
  | p :: rest => if p = (s, raw) then some (.writing rest) else none

/-- What a connect sends, with its push of unit changes. -/
def startsLink : HomeEvent → Bool
  | .coordinator (.sent _ packet) =>
    ([Command.handshake, .recipeStop, .brewerQuit, .grinderQuit] ++ pushCommands).contains packet.command
  | .coordinator (.connecting _) => true
  | _ => false

/-- The machine is called home. -/
def callsHome : HomeEvent → Bool
  | .coordinator (.sent _ packet) => packet.command == .backToHome
  | _ => false

/-- **What a call may answer**, from its phase. -/
def Phase.mayReply : Phase → SettingsReply → Bool
  | .connecting, .success => false
  | .connecting, .cloudCenterUnavailable => false
  | .connecting, _ => true
  | .asked, .success => false
  | .asked, .cloudCenterUnavailable => false
  | .asked, _ => true
  | .querying, .writeFailed _ => true
  | .uncentered, .cloudCenterUnavailable => true
  | .writing _, .writeFailed _ => true
  | .writing rest, .success => rest.isEmpty
  | .homing, .success => true
  | _, _ => false

/-- What a call may say of its settings while it has written nothing. -/
def asks (args : SettingsArgs) : SettingsEvent → Option Phase
  | .get _ s => if s = .pourRadius ∧ args.pourRadiusLevel.isSome = true then some .asked else none
  | .asked _ _ => if args.pourRadiusLevel.isSome = true then some .querying else none
  | .set _ s raw =>
    if args.pourRadiusLevel = none ∧ args.inRange = true then writeNext s raw (plan args 0) else none
  | _ => none

/-- **What a call with these levels may say.** -/
def settingsTalk (args : SettingsArgs) : Protocol Phase SettingsEvent
  | .connecting, .home e => if startsLink e = true then some .connecting else none
  | .querying, .centered (some center) =>
    if args.inRange = true then some (.writing (plan args center)) else none
  | .querying, .centered none => some .uncentered
  | .writing rest, .set _ s raw => writeNext s raw rest
  | .writing rest, .home e =>
    if rest = [] ∧ args.displayBrightnessLevel.isSome = true ∧ callsHome e = true then some .homing
    else none
  | phase, .replied reply => if phase.mayReply reply = true then some .finished else none
  | .connecting, e => asks args e
  | .asked, e => asks args e
  | _, _ => none

/-- A reply ends the call. -/
theorem settingsTalk_replied {args : SettingsArgs} (phase : Phase) (reply : SettingsReply) :
    settingsTalk args phase (.replied reply) = if phase.mayReply reply = true then some .finished else none := by
  cases phase <;> rfl

/-! ## Keeping to it -/

section Talks

variable {args : SettingsArgs} {α : Type}

/-- A call in one phase, whatever the world. -/
def At (phase : Phase) : Phase → SettingsWorld → Prop := fun s _ => s = phase

/-- A call that has written nothing and not asked the cloud. -/
def Early : Phase → SettingsWorld → Prop := fun s _ => s = .connecting ∨ s = .asked

/-- A call that has this to write: it is writing, or its plan knows of no center. -/
def Ready (args : SettingsArgs) (rest : List (Setting × ℤ)) : Phase → SettingsWorld → Prop :=
  fun s w => s = .writing rest ∨ (Early s w ∧ args.pourRadiusLevel = none ∧ rest = plan args 0)

/-- A call that may answer this. -/
def MayReply (reply : SettingsReply) : Phase → SettingsWorld → Prop :=
  fun s _ => s.mayReply reply = true

/-- A call that may fail. -/
def Failing : Phase → SettingsWorld → Prop := fun s _ => ∀ e, s.mayReply (.writeFailed e) = true

/-- So far it asks as it may. -/
theorem settingsTalk_early {s : Phase} {w : SettingsWorld} (h : Early s w) {e : SettingsEvent} {next : Phase}
    (hnext : asks args e = some next) : settingsTalk args s e = some next := by
  cases e with
  | home e => cases hnext
  | centered value => cases hnext
  | replied reply => cases hnext
  | _ => rcases h with rfl | rfl <;> exact hnext

theorem failing_of_early : ∀ s w, Early s w → Failing s w := by
  rintro _ _ (rfl | rfl) e
  · rfl
  · rfl

theorem failing_at_writing {rest : List (Setting × ℤ)} : ∀ s w, At (.writing rest) s w → Failing s w := by
  rintro _ _ rfl e
  rfl

theorem failing_of_ready {rest : List (Setting × ℤ)} : ∀ s w, Ready args rest s w → Failing s w := by
  rintro s w (rfl | ⟨hearly, _⟩)
  · exact fun e => rfl
  · exact failing_of_early s w hearly

theorem onClient_talks {A : Phase → SettingsWorld → Prop} {Q : α → Phase → SettingsWorld → Prop}
    {X : PyErr → Phase → SettingsWorld → Prop} {f : ℕ → Settling α}
    (h : ∀ c, Says (settingsTalk args) A (f c) Q X) (hX : ∀ e s w, A s w → X e s w) :
    Says (settingsTalk args) A (onClient f) Q X := by
  refine .world fun w => ?_
  split
  · exact (h _).pre fun _ _ h => h.1
  · exact .throw fun s w h => hX _ s w h.1

/-- What the coordinator's coroutines say is heard as it is. -/
theorem onMachine_talks {A : Phase → Prop} {Q : α → Phase → Prop} {X : PyErr → Phase → Prop}
    {x : Coordinator.Async α}
    (h : Says (((settingsTalk args).through household).through hearing) (fun s _ => A s) x
      (fun a s _ => Q a s) fun e s _ => X e s) :
    Says (settingsTalk args) (fun s _ => A s) (onMachine x) (fun a s _ => Q a s) fun e s _ => X e s :=
  Says.zoom household (settingsTalk args) (fun _ _ => rfl) (A := fun s _ => A s)
    (Q := fun a s _ => Q a s) (X := fun e s _ => X e s)
    (Says.zoom hearing ((settingsTalk args).through household) (fun _ _ => rfl) h)

/-- Before anything is written, the machine is connected. -/
theorem connect_talks {x : Coordinator.Async α} (hx : Within linkFootprint x) :
    Says (settingsTalk args) (At .connecting) (onMachine x) (fun _ => At .connecting)
      fun _ => At .connecting := by
  refine onMachine_talks (A := (· = Phase.connecting)) (Q := fun _ => (· = Phase.connecting))
    (X := fun _ => (· = Phase.connecting)) ?_
  refine (hx.talks (A := fun s : Phase => s = .connecting) fun s e hs he => ⟨Phase.connecting, ?_, rfl⟩)
  subst hs
  have hlink : startsLink (.coordinator e) = true := by
    cases e with
    | sent c packet => exact he
    | connecting armed => rfl
    | armed op => cases he
    | chain armed uid => cases he
    | confirming armed => cases he
    | naming uid => cases he
  exact if_pos hlink

/-- The radius is read. -/
theorem getSetting_talks (h : args.pourRadiusLevel.isSome = true) (c : ℕ) :
    Says (settingsTalk args) Early (getSetting .pourRadius c) (fun _ => Early) fun _ => Early := by
  refine .world fun w => .ite (fun _ => ?_) fun _ => .pure fun s w h => h.1
  exact .bind (Q := fun _ => Early)
    (.emit fun s w hs => ⟨.asked, settingsTalk_early hs.1 (if_pos ⟨rfl, h⟩), Or.inr rfl⟩) fun _ =>
    .bind (Q := fun _ => Early) (.await fun s w hs r w' => hs) fun r =>
      .ite (fun _ => .throw fun s w h => h) fun _ => .pure fun s w h => h

/-- **A write is the next of its plan.** -/
theorem setSetting_talks (hrange : args.inRange = true) {s : Setting} {raw : ℤ}
    {rest : List (Setting × ℤ)} (c : ℕ) :
    Says (settingsTalk args) (Ready args ((s, raw) :: rest)) (setSetting s raw c)
      (fun _ => At (.writing rest)) fun _ => Failing := by
  refine .world fun w => .ite (fun _ => ?_) fun _ => .throw fun s w h => failing_of_ready s w h.1
  refine .bind (Q := fun _ => Ready args ((s, raw) :: rest)) (.lift (fun _ _ s w h => h.1)
    fun _ _ s w h => failing_of_ready s w h.1) fun _ => ?_
  refine .bind (Q := fun _ => At (.writing rest)) (.emit fun phase w hphase => ⟨.writing rest, ?_, rfl⟩)
    fun _ => .bind (Q := fun _ => At (.writing rest)) (.await fun s w hs r w' => hs) fun r =>
      .ite (fun _ => .throw fun s w h => failing_at_writing s w h) fun _ => .assign fun s w h => h
  rcases hphase with rfl | ⟨hearly, hradius, hplan⟩
  · exact if_pos rfl
  · refine settingsTalk_early hearly ?_
    show (if args.pourRadiusLevel = none ∧ args.inRange = true then writeNext s raw (plan args 0)
      else none) = some (.writing rest)
    rw [if_pos ⟨hradius, hrange⟩, ← hplan]
    exact if_pos rfl

/-! ### The way home -/

/-- All is written, and the machine may have been called home. -/
def Written : Phase → SettingsWorld → Prop := fun s _ => s = .writing [] ∨ s = .homing

theorem returnMachineHome_talks (h : args.displayBrightnessLevel.isSome = true) (client : Option ℕ) :
    Says (settingsTalk args) (At (.writing [])) (onMachine (returnMachineHome client)) (fun _ => Written)
      fun _ _ _ => False := by
  refine onMachine_talks (A := (· = .writing [])) (Q := fun _ s => s = .writing [] ∨ s = .homing)
    (X := fun _ _ => False) ?_
  refine .bind (Q := fun _ s _ => s = .writing []) (.await fun s w hs r w' => hs) fun _ =>
    .bind (Q := fun _ s _ => s = .writing [] ∨ s = .homing) (.attempt ?_) fun _ => .pure fun s w h => h
  cases client with
  | none => exact .throw fun s w h => Or.inl h
  | some c =>
    refine .bind (Q := fun _ s _ => s = .homing) (.world fun w => .ite (fun _ => ?_)
      fun _ => .throw fun s w h => Or.inl h.1) fun _ => .bind (Q := fun _ s _ => s = .homing)
        (.await fun s w hs r w' => hs) fun r => .ite (fun _ => .throw fun s w h => Or.inr h)
          fun _ => .pure fun s w h => Or.inr h
    refine .bind (Q := fun _ s _ => s = .homing) (.emit fun s w hs => ⟨.homing, ?_, rfl⟩) fun _ =>
      .bind (Q := fun _ s _ => s = .homing) (.await fun s w hs r w' => hs) fun r =>
        .ite (fun _ => .throw fun s w h => Or.inr h) fun _ => .pure fun s w h => h
    obtain ⟨rfl, _⟩ := hs
    exact if_pos ⟨rfl, h, rfl⟩

/-! ### The parts of the service -/

theorem currentRadius_talks (h : args.pourRadiusLevel.isSome = true) :
    Says (settingsTalk args) Early currentRadius (fun _ => Early) fun _ => Early := by
  refine .world fun w => ?_
  split
  · exact .pure fun s w h => h.1
  · refine .bind (Q := fun _ => Early) ((onClient_talks (getSetting_talks h)
      fun _ _ _ h => h).pre fun _ _ h => h.1) fun _ => .bind (Q := fun _ => Early)
        (.await fun s w hs r w' => hs) fun _ => .world fun w => .pure fun s w h => h.1

/-- Where the cloud's answer leaves a call. -/
def centeredAt (args : SettingsArgs) : Option ℤ → Phase
  | none => .uncentered
  | some center => .writing (plan args center)

theorem getPourRadiusInitCenter_talks (h : args.pourRadiusLevel.isSome = true)
    (hrange : args.inRange = true) (serial : String) (current : ℤ) :
    Says (settingsTalk args) Early (getPourRadiusInitCenter serial current)
      (fun center => At (centeredAt args center)) fun _ => Failing := by
  refine .bind (Q := fun _ => At .querying) (.emit fun s w hs => ⟨.querying, ?_, rfl⟩) fun _ =>
    .bind (Q := fun _ => At .querying) (.await fun s w hs r w' => hs) fun answer =>
      .bind (Q := fun _ => At .querying) (.lift (fun _ _ s w h => h) fun _ _ s w h => ?_) fun center =>
        .bind (Q := fun _ => At (centeredAt args center)) (.emit fun s w hs => ?_) fun _ =>
          .pure fun s w h => h
  · exact settingsTalk_early hs (if_pos h)
  · subst h
    exact fun e => rfl
  · subst hs
    refine ⟨centeredAt args center, ?_, rfl⟩
    cases center with
    | none => rfl
    | some center => exact if_pos hrange

/-- How a part of the service ends a call, or lets it go on. -/
def Goes (args : SettingsArgs) (rest : List (Setting × ℤ)) :
    Option SettingsReply → Phase → SettingsWorld → Prop
  | some reply => MayReply reply
  | none => Ready args rest

theorem writePourRadius_talks {level : ℤ} (h : args.pourRadiusLevel = some level)
    (hrange : args.inRange = true) :
    Says (settingsTalk args) Early (writePourRadius level)
      (Goes args (amplitudeStep args ++ brightnessStep args)) fun _ => Failing := by
  have hsome : args.pourRadiusLevel.isSome = true := by rw [h]; rfl
  refine .bind (Q := fun _ => Early) ((currentRadius_talks hsome).weaken (fun _ _ h => h)
    (fun _ _ _ h => h) fun _ => failing_of_early) fun current => ?_
  cases current with
  | none =>
    refine .pure fun s w hs => ?_
    rcases hs with rfl | rfl
    · rfl
    · rfl
  | some current =>
    refine .world fun w => .ite (fun _ => .pure fun s w hs => ?_) fun _ => ?_
    · obtain ⟨rfl | rfl, _⟩ := hs
      · rfl
      · rfl
    · refine .bind ((getPourRadiusInitCenter_talks hsome hrange _ current).pre fun _ _ h => h.1)
        fun center => ?_
      cases center with
      | none =>
        refine .pure fun s w hs => ?_
        subst hs
        rfl
      | some center =>
        have hplan : plan args center = (Setting.pourRadius, pourRadiusLevelToRaw level center) ::
            (amplitudeStep args ++ brightnessStep args) := by
          simp [plan, radiusStep, h]
        refine .bind (Q := fun _ => At (.writing (amplitudeStep args ++ brightnessStep args)))
          (onClient_talks (fun c => (setSetting_talks hrange c).pre fun s w hs => ?_)
            fun _ s w h => failing_at_writing s w h) fun _ =>
          .bind (Q := fun _ => At (.writing (amplitudeStep args ++ brightnessStep args)))
            (.await fun s w hs r w' => hs) fun _ => .pure fun s w hs => Or.inl hs
        left
        rw [← hplan]
        exact hs

theorem writeVibrationAmplitude_talks (hrange : args.inRange = true) :
    Says (settingsTalk args) (Ready args (amplitudeStep args ++ brightnessStep args))
      (writeVibrationAmplitude args.vibrationAmplitudeLevel)
      (fun _ => Ready args (brightnessStep args)) fun _ => Failing := by
  cases hlevel : args.vibrationAmplitudeLevel with
  | none =>
    have hstep : amplitudeStep args = [] := by simp [amplitudeStep, hlevel]
    rw [hstep]
    exact .pure fun s w h => h
  | some level =>
    have hstep : amplitudeStep args = [(.vibrationAmplitude, vibrationLevelToRaw level)] := by
      simp [amplitudeStep, hlevel]
    rw [hstep]
    exact .bind (Q := fun _ => At (.writing (brightnessStep args)))
      (onClient_talks (setSetting_talks hrange) fun _ => failing_of_ready) fun _ =>
        .bind (Q := fun _ => At (.writing (brightnessStep args))) (.await fun s w hs r w' => hs)
          fun _ => .pure fun s w hs => Or.inl hs

theorem writeDisplayBrightness_talks (hrange : args.inRange = true) (hplan : plan args 0 ≠ []) :
    Says (settingsTalk args) (Ready args (brightnessStep args))
      (writeDisplayBrightness args.displayBrightnessLevel) (fun _ => MayReply .success)
      fun _ => Failing := by
  cases hlevel : args.displayBrightnessLevel with
  | none =>
    have hstep : brightnessStep args = [] := by simp [brightnessStep, hlevel]
    rw [hstep]
    refine .pure fun s w h => ?_
    rcases h with rfl | ⟨_, _, hempty⟩
    · rfl
    · exact absurd hempty.symm hplan
  | some level =>
    have hstep : brightnessStep args = [(.displayBrightness, brightnessValue level)] := by
      simp [brightnessStep, hlevel]
    have hraw := displayBrightnessRaw_of_range ((inRange_iff.mp hrange).displayBrightness level hlevel)
    rw [hstep]
    refine .bind (Q := fun _ => At (.writing [])) (onClient_talks (fun c => ?_)
      fun _ => failing_of_ready) fun _ => .world fun w => ?_
    · refine .bind (Q := fun raw s w => raw = brightnessValue level ∧
        Ready args [(.displayBrightness, brightnessValue level)] s w)
        (.lift (fun raw hok s w h => ⟨?_, h⟩) fun _ _ => failing_of_ready) fun raw => ?_
      · exact (Except.ok.inj (hraw.symm.trans hok)).symm
      · intro s w h
        obtain ⟨rfl, hready⟩ := h
        exact setSetting_talks hrange c s w hready
    · refine ((returnMachineHome_talks (by rw [hlevel]; rfl) _).pre fun _ _ h => h.1).weaken
        (fun _ _ h => h) (fun _ s w h => ?_) fun _ _ _ h => h.elim
      rcases h with rfl | rfl
      · rfl
      · rfl

/-- A call without its radius writes nothing before its plan. -/
theorem ready_of_early (h : args.pourRadiusLevel = none) :
    ∀ s w, Early s w → Ready args (amplitudeStep args ++ brightnessStep args) s w := by
  intro s w hearly
  refine Or.inr ⟨hearly, h, ?_⟩
  simp [plan, radiusStep, h]

theorem writeSettings_talks (hrange : args.inRange = true) (hplan : plan args 0 ≠ []) :
    Says (settingsTalk args) Early (writeSettings args)
      (fun early => MayReply (early.getD .success)) fun _ => Failing := by
  refine .bind (Q := Goes args (amplitudeStep args ++ brightnessStep args)) ?_ fun early => ?_
  · split
    · exact writePourRadius_talks ‹_› hrange
    · exact .pure (ready_of_early ‹_›)
  · cases early with
    | some reply => exact .pure fun s w h => h
    | none =>
      exact .bind (writeVibrationAmplitude_talks hrange) fun _ =>
        .bind (writeDisplayBrightness_talks hrange hplan) fun _ => .pure fun s w h => h

/-- What the checks answer may be answered at once. -/
theorem checkLevels_reply {loggedIn : Bool} {reply : SettingsReply}
    (h : checkLevels args loggedIn = some reply) : Phase.connecting.mayReply reply = true := by
  unfold checkLevels at h
  split at h
  · cases h
    rfl
  split at h
  · cases h
    rfl
  split at h
  · cases h
    rfl
  split at h
  · cases h
    rfl
  split at h
  · cases h
    rfl
  · cases h

/-- A call that passes the checks has something to write. -/
theorem plan_of_checked {loggedIn : Bool} (h : checkLevels args loggedIn = none) (center : ℤ) :
    plan args center ≠ [] := by
  intro hempty
  unfold checkLevels at h
  split at h
  · cases h
  · rename_i hsome
    refine hsome ?_
    simp only [plan, radiusStep, amplitudeStep, brightnessStep, List.append_eq_nil_iff,
      List.map_eq_nil_iff, Option.toList_eq_nil_iff] at hempty
    exact ⟨hempty.1, hempty.2.1, hempty.2.2⟩

/-- **The service keeps to its protocol**, and answers what it may. -/
theorem asyncSetAdvancedSettings_talks :
    Says (settingsTalk args) (At .connecting) (asyncSetAdvancedSettings args) MayReply
      fun _ _ _ => True := by
  refine .world fun w => ?_
  split
  · refine .pure fun s w h => ?_
    obtain ⟨rfl, _⟩ := h
    exact checkLevels_reply ‹_›
  · rename_i hchecked
    have hrange := inRange_iff.mpr (inRange_of_checked hchecked)
    refine .bind (Q := fun _ => At .connecting) ((connect_talks ensureConnected_within).weaken
      (fun _ _ h => h.1) (fun _ _ _ h => h) fun _ _ _ _ => trivial) fun connected =>
        .ite (fun _ => ?_) fun _ => .pure fun s w h => ?_
    · refine .bind
        (Q := spoken (fun early : Option SettingsReply => MayReply (early.getD .success)) fun _ => Failing)
        (.attempt ((writeSettings_talks hrange (plan_of_checked hchecked 0)).pre
          fun _ _ h => Or.inl h)) fun wrote => ?_
      cases wrote with
      | error e => exact .pure fun s w h => h e
      | ok early =>
        cases early with
        | some reply => exact .pure fun s w h => h
        | none =>
          exact .bind (Q := fun _ => MayReply .success) (.await fun s w h r w' => h) fun _ =>
            .pure fun s w h => h
    · subst h
      rfl

end Talks

/-! ## Every call -/

/-- The other calls set nothing. -/
def setsNothing : Protocol Phase SettingsEvent
  | s, .home _ => some s
  | s, .get _ _ => some s
  | _, _ => none

/-- What a call may say. -/
def SettingsCall.talk : SettingsCall → Protocol Phase SettingsEvent
  | .setAdvanced args => settingsTalk args
  | _ => setsNothing

theorem getSetting_setsNothing {Q : Phase → SettingsWorld → Prop} (s : Setting) (c : ℕ)
    (hQ : ∀ s w, Q s w) :
    Says setsNothing (fun _ _ => True) (getSetting s c) (fun _ => Q) fun _ => Q := by
  refine .world fun w => .ite (fun _ => ?_) fun _ => .pure fun s w _ => hQ s w
  exact .bind (Q := fun _ _ _ => True) (.emit fun s w _ => ⟨s, rfl, trivial⟩) fun _ =>
    .bind (Q := fun _ _ _ => True) (.await fun s w h r w' => trivial) fun r =>
      .ite (fun _ => .throw fun s w _ => hQ s w) fun _ => .pure fun s w _ => hQ s w

section
variable (I : Identifiers) (yaml : YamlLayer)

theorem settingsRoutine_speaks (c : SettingsCall) (w : SettingsWorld) :
    (c.routine I yaml).run.Speaks c.talk (fun _ _ _ => True) .connecting w := by
  cases c with
  | home c =>
    -- whatever a call at home says, it says no setting
    have hfree : (c.routine I yaml).run.Speaks (setsNothing.through household) (fun _ _ _ => True)
        .connecting (household.part w) := Co.speaks_free _
    exact hfree.zoom fun _ _ => rfl
  | setAdvanced args =>
    have h : Says (settingsTalk args) (At .connecting) ((SettingsCall.setAdvanced args).routine I yaml)
        (fun _ _ _ => True) fun _ _ _ => True :=
      .bind asyncSetAdvancedSettings_talks fun reply => .emit fun s w hreply =>
        ⟨.finished, (settingsTalk_replied s reply).trans (if_pos hreply), trivial⟩
    exact (h .connecting w rfl).mono fun _ _ _ _ => trivial
  | refreshAdvanced client =>
    have h : Says setsNothing (fun _ _ => True) (asyncRefreshAdvancedSettings client)
        (fun _ _ _ => True) fun _ _ _ => True := by
      refine .world fun w => ?_
      split
      · exact .pure fun _ _ _ => trivial
      · refine .bind (Q := fun _ _ _ => True) (.attempt ?_) fun _ => .pure fun _ _ _ => trivial
        exact .bind (Q := fun _ _ _ => True) ((getSetting_setsNothing _ _ fun _ _ => trivial).pre
          fun _ _ _ => trivial) fun _ => .bind (Q := fun _ _ _ => True)
            (.await fun s w h r w' => trivial) fun _ => getSetting_setsNothing _ _ fun _ _ => trivial
    exact (h .connecting w trivial).mono fun _ _ _ _ => trivial

/-- What every call has said in a run is what it may say. -/
theorem settings_protocol (w : SettingsWorld) (as : List SettingsAction) :
    ∀ e ∈ (settingsRun I yaml w as).trace, ∃ s,
      e.call.talk.after .connecting (saidBy e.task (settingsRun I yaml w as).trace) = some s := by
  refine protocol_kept (fun _ => Phase.connecting) (fun c w => ?_) w as
  show ((c.routine I yaml).run.bind fun _ => .ret ()).Speaks _ _ _ _
  rw [Co.speaks_bind]
  exact (settingsRoutine_speaks I yaml c w).mono fun _ _ _ _ => trivial

end

end XBloom.Advanced
