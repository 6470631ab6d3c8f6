/-
# XBloom.Telemetry.Setpoints — how long a setpoint the user sets holds

`number.temperature` and the pour-pattern select promise to hold what the user sets until the next
knob turn.  The event-driven mirror keeps to that: without a brewer frame nothing it does touches the
two setpoints (`receive_setpoints`).  The poll does not: on every idle tick it copies the last reading
the client holds, which may be from before the user's change or from the middle of a brew.

So the setpoint holds exactly as long as no poll copies a reading other than it
(`setpoints_hold_iff`).
-/
import XBloom.Logic.Runs
import XBloom.Telemetry.Mirror

namespace XBloom.Telemetry

open XBloom.Py XBloom.Ble XBloom.Coordinator XBloom.Logic

/-! ## Runs -/

/-- What happens to a coordinator: a poll, so long after the last notification and activity; a frame
of its client; its client gone, or a new one in its place. -/
inductive Act where
  | poll (sinceNotification sinceActivity : ℚ)
  | frame (frame : Bytes)
  | disconnected
  | connected

/-- One step. -/
def State.step (st : State) : Act → State
  | .poll sinceNotification sinceActivity => st.poll sinceNotification sinceActivity
  | .frame frame => st.receive frame
  | .disconnected => { st with client := none, connected := false }
  | .connected => { st with client := some {}, connected := true }

/-- The commands of the frames that count as a knob turn: BREWER_TEMPERATURE, BREWER_MODE and the
pour page's entry snapshot. -/
def knobCommands : List ℕ := [8108, 8107, 9001]

/-- No knob turn. -/
def Act.Quiet : Act → Prop
  | .frame bytes => ∀ cmd, frameCommand bytes = .ok cmd → cmd ∉ knobCommands
  | _ => True

/-- `XBloomTemperatureNumber.async_set_native_value`. -/
def State.setTemperature (st : State) (value : ℤ) : State :=
  { st with world := { st.world with temperature := value } }

/-- `XBloomPourPatternSelect.async_select_option`. -/
def State.selectPattern (st : State) (value : ℤ) : State :=
  { st with world := { st.world with pourPattern := value } }

/-! ## What a step does to the setpoints -/

/-- What the number entities and the pour-pattern select show. -/
structure Sliders where
  grindSize : ℤ
  rpm : ℤ
  temperature : ℤ
  volume : ℤ
  pourPattern : ℤ
  deriving DecidableEq, Repr

/-- The sliders of a coordinator. -/
def sliders (w : World) : Sliders where
  grindSize := w.grindSize
  rpm := w.rpm
  temperature := w.temperature
  volume := w.volume
  pourPattern := w.pourPattern

/-- The two setpoints. -/
def setpoints (w : World) : ℤ × ℤ := (w.temperature, w.pourPattern)

/-- The setpoints are two of the sliders. -/
theorem setpoints_of_sliders {w w' : World} (h : sliders w' = sliders w) :
    setpoints w' = setpoints w :=
  congrArg (fun x : Sliders => (x.temperature, x.pourPattern)) h

theorem sliders_noteProgress (w : World) (e : BleEvent) :
    sliders (w.noteProgress e) = sliders w := by
  unfold World.noteProgress
  split
  · split
    · split <;> rfl
    · rfl
  all_goals first | rfl | (split <;> rfl)

theorem sliders_noteStart (w : World) (e : BleEvent) : sliders (w.noteStart e) = sliders w := by
  unfold World.noteStart
  split
  · rfl
  · split <;> rfl
  · split <;> rfl
  · rfl

theorem sliders_notePod (w : World) (e : BleEvent) : sliders (w.notePod e) = sliders w := by
  unfold World.notePod
  split <;> rfl

theorem sliders_noteWater (w : World) (e : BleEvent) : sliders (w.noteWater e) = sliders w := by
  unfold World.noteWater
  split <;> rfl

/-- **No notification or error moves a slider.** -/
theorem sliders_dispatchEvent (w : World) (e : BleEvent) :
    sliders (w.dispatchEvent e) = sliders w := by
  unfold World.dispatchEvent
  rw [sliders_noteProgress, sliders_noteStart, sliders_notePod, sliders_noteWater]

theorem sliders_reconcileArmed (w : World) (s : Coordinator.DeviceStatus) :
    sliders (w.reconcileArmedWithScreen s) = sliders w := by
  unfold World.reconcileArmedWithScreen
  dsimp only
  split
  · split <;> rfl
  · rfl

theorem sliders_trackManualRun (w : World) (page : Screen) (op : Operation) :
    sliders (w.trackManualRun page op) = sliders w := by
  unfold World.trackManualRun
  dsimp only
  split_ifs <;> rfl

theorem sliders_endManualRun (w : World) (s : Coordinator.DeviceStatus) :
    sliders (w.endManualRun s) = sliders w := by
  unfold World.endManualRun
  split
  · rfl
  · split_ifs <;> rfl

/-- **The reconciliations move no slider.** -/
theorem sliders_reconcile (w : World) (s : DeviceStatus) : sliders (reconcile w s) = sliders w := by
  unfold reconcile World.reconcileManualOperation
  rw [← sliders_reconcileArmed w s.bookkeeping]
  split
  · exact sliders_endManualRun _ _
  · split
    · exact sliders_endManualRun _ _
    · split
      · exact sliders_trackManualRun _ _ _
      · exact sliders_endManualRun _ _

/-- An event that is none of the brewer's moves neither setpoint. -/
theorem setpoints_dispatch {s : DeviceStatus} {w : World} {e : Event} (h : ¬ e.IsBrewer) :
    setpoints (dispatch s w e) = setpoints w := by
  cases e with
  | brewerKnob temperature pattern => exact absurd trivial h
  | brewerPageEntry volume temperature pattern => exact absurd trivial h
  | grinderKnob size rpm =>
    show setpoints (applyGrinderKnob s w size rpm) = setpoints w
    unfold applyGrinderKnob
    split
    · rfl
    · dsimp only
      cases size <;> cases rpm <;> dsimp only <;> split_ifs <;> rfl
  | unitChange weightUnit tempUnit waterSource => rfl
  | notification e => exact setpoints_of_sliders (sliders_dispatchEvent w e.bleEvent)
  | error e => exact setpoints_of_sliders (sliders_dispatchEvent w e.bleEvent)

/-- The events of a frame. -/
theorem receive_events {c : Client} {frame : Bytes} {r : Received}
    (h : Received.receive { client := c } frame = .ok r) :
    ∃ cmd, frameCommand frame = .ok cmd ∧
      (r.events = [] ∨ ∃ response, Response.ofCode cmd = some response ∧
        r.events = (handleResponse (c.scanForStatusFrame frame).status response frame).2.toList) := by
  unfold Received.receive Received.parseResponse at h
  obtain ⟨cmd, hcmd, h⟩ := bind_eq_ok.mp h
  refine ⟨cmd, hcmd, ?_⟩
  cases hresponse : Response.ofCode cmd with
  | none =>
    simp only [hresponse] at h
    rw [← Except.ok.inj h]
    exact Or.inl rfl
  | some response =>
    simp only [hresponse] at h
    rw [← Except.ok.inj h]
    exact Or.inr ⟨response, rfl, rfl⟩

/-- The brewer's responses are those of the knob commands. -/
theorem not_mem_brewerResponses {cmd : ℕ} {response : Response}
    (hcode : Response.ofCode cmd = some response) (h : cmd ∉ knobCommands) :
    response ∉ brewerResponses := by
  have hall : ∀ e ∈ responseCodes, e.2 ∈ brewerResponses → e.1 ∈ knobCommands := by decide
  intro hresponse
  obtain ⟨before, after, hsplit, _⟩ := List.lookup_eq_some_iff.mp hcode
  refine h (hall (cmd, response) ?_ hresponse)
  rw [hsplit]
  exact List.mem_append_right before List.mem_cons_self

/-- **A frame that is no knob turn moves neither setpoint.** -/
theorem receive_setpoints {st : State} {frame : Bytes} (h : (Act.frame frame).Quiet) :
    setpoints (st.receive frame).world = setpoints st.world := by
  unfold State.receive
  cases st.client with
  | none => rfl
  | some c =>
    cases hreceive : Received.receive { client := c } frame with
    | error e => simp only [hreceive]
    | ok r =>
      obtain ⟨cmd, hcmd, hevents | ⟨response, hcode, hevents⟩⟩ := receive_events hreceive
      · simp only [hreceive, hevents, List.foldl_nil]
      · have hother := not_mem_brewerResponses hcode (h cmd hcmd)
        simp only [hreceive, hevents]
        cases hevent :
            (handleResponse (c.scanForStatusFrame frame).status response frame).2 with
        | none => rfl
        | some e => exact setpoints_dispatch (handleResponse_not_brewer hother hevent)

/-! ## What a poll copies -/

/-- This poll ends in copying the readings: the client is connected, the link is neither dropped nor
sent into standby, and the state derived is "idle". -/
def State.copies (st : State) (c : Client) (sinceNotification sinceActivity : ℚ) : Bool :=
  st.connected && !st.silent c.status sinceNotification && !st.idleTooLong sinceActivity &&
    decide (deriveStateString (reconcile st.world c.status) c.status = .state .idle)

theorem sliders_copyReadings {w w' : World} (h : sliders w' = sliders w) (s : DeviceStatus) :
    sliders (copyReadings w' s) = sliders (copyReadings w s) := by
  obtain ⟨hgrind, hrpm, htemperature, hvolume, hpattern⟩ := Sliders.mk.inj h
  unfold copyReadings
  cases s.pourPatternLive <;> dsimp only <;> split_ifs <;>
    simp only [sliders, hgrind, hrpm, htemperature, hvolume, hpattern]

/-- **What a poll does to the sliders**: it copies the readings, or nothing. -/
theorem poll_sliders (st : State) (sinceNotification sinceActivity : ℚ) :
    sliders (st.poll sinceNotification sinceActivity).world =
      match st.client with
      | some c =>
        if st.copies c sinceNotification sinceActivity then sliders (copyReadings st.world c.status)
        else sliders st.world
      | none => sliders st.world := by
  unfold State.poll
  cases st.client with
  | none => rfl
  | some c =>
    dsimp only
    unfold State.copies
    have hreconcile := sliders_reconcile st.world c.status
    have hcopy := sliders_copyReadings hreconcile c.status
    cases st.connected with
    | false => simp
    | true =>
      cases st.silent c.status sinceNotification with
      | true => simp [sliders]
      | false =>
        cases st.idleTooLong sinceActivity with
        | true => simp [sliders]
        | false =>
          by_cases hidle :
              deriveStateString (reconcile st.world c.status) c.status = .state .idle
          · simp [hidle, hcopy]
          · simp [hidle, hreconcile]

theorem copyReadings_temperature (w : World) (s : DeviceStatus) :
    (copyReadings w s).temperature =
      if s.brewer.temperature ≠ 0 then PyFloat.roundHalfEven s.brewer.temperature
      else w.temperature := by
  unfold copyReadings
  cases s.pourPatternLive <;> dsimp only <;> split_ifs <;> rfl

theorem copyReadings_pourPattern (w : World) (s : DeviceStatus) :
    (copyReadings w s).pourPattern = (s.pourPatternLive.map Nat.cast).getD w.pourPattern := by
  unfold copyReadings
  cases s.pourPatternLive with
  | none =>
    dsimp only
    split_ifs <;> rfl
  | some p => rfl

/-! ## Setpoints hold -/

/-- Unless the poll copies the readings, or the last temperature reading is the setpoint. -/
def LeavesTemperature (st : State) : Act → Prop
  | .poll sinceNotification sinceActivity => ∀ c, st.client = some c →
    st.copies c sinceNotification sinceActivity → c.status.brewer.temperature ≠ 0 →
      PyFloat.roundHalfEven c.status.brewer.temperature = st.world.temperature
  | _ => True

/-- Unless the poll copies the readings, or the last pattern reading is the setpoint. -/
def LeavesPattern (st : State) : Act → Prop
  | .poll sinceNotification sinceActivity => ∀ c, st.client = some c →
    st.copies c sinceNotification sinceActivity → ∀ p, c.status.pourPatternLive = some p →
      (p : ℤ) = st.world.pourPattern
  | _ => True

/-- **A step keeps the temperature** exactly when it leaves it. -/
theorem step_temperature_iff {st : State} {a : Act} (h : a.Quiet) :
    (st.step a).world.temperature = st.world.temperature ↔ LeavesTemperature st a := by
  cases a with
  | poll sinceNotification sinceActivity =>
    have hpoll := congrArg Sliders.temperature (poll_sliders st sinceNotification sinceActivity)
    show (st.poll sinceNotification sinceActivity).world.temperature = _ ↔
      ∀ c, st.client = some c → _
    rw [show (st.poll sinceNotification sinceActivity).world.temperature = _ from hpoll]
    cases st.client with
    | none => simp [sliders]
    | some c =>
      simp only [Option.some.injEq, forall_eq']
      by_cases hcopies : st.copies c sinceNotification sinceActivity = true
      · rw [if_pos hcopies]
        show (copyReadings st.world c.status).temperature = _ ↔ _
        rw [copyReadings_temperature]
        by_cases hreading : c.status.brewer.temperature = 0
        · simp [hreading]
        · simp [hreading, hcopies]
      · rw [if_neg hcopies]
        exact ⟨fun _ hc => absurd hc hcopies, fun _ => rfl⟩
  | frame frame => exact ⟨fun _ => trivial, fun _ => congrArg Prod.fst (receive_setpoints h)⟩
  | disconnected => exact ⟨fun _ => trivial, fun _ => rfl⟩
  | connected => exact ⟨fun _ => trivial, fun _ => rfl⟩

/-- **A step keeps the pattern** exactly when it leaves it. -/
theorem step_pourPattern_iff {st : State} {a : Act} (h : a.Quiet) :
    (st.step a).world.pourPattern = st.world.pourPattern ↔ LeavesPattern st a := by
  cases a with
  | poll sinceNotification sinceActivity =>
    have hpoll := congrArg Sliders.pourPattern (poll_sliders st sinceNotification sinceActivity)
    show (st.poll sinceNotification sinceActivity).world.pourPattern = _ ↔
      ∀ c, st.client = some c → _
    rw [show (st.poll sinceNotification sinceActivity).world.pourPattern = _ from hpoll]
    cases st.client with
    | none => simp [sliders]
    | some c =>
      simp only [Option.some.injEq, forall_eq']
      by_cases hcopies : st.copies c sinceNotification sinceActivity = true
      · rw [if_pos hcopies]
        show (copyReadings st.world c.status).pourPattern = _ ↔ _
        rw [copyReadings_pourPattern]
        cases c.status.pourPatternLive with
        | none => simp
        | some p => simp [hcopies]
      · rw [if_neg hcopies]
        exact ⟨fun _ hc => absurd hc hcopies, fun _ => rfl⟩
  | frame frame => exact ⟨fun _ => trivial, fun _ => congrArg Prod.snd (receive_setpoints h)⟩
  | disconnected => exact ⟨fun _ => trivial, fun _ => rfl⟩
  | connected => exact ⟨fun _ => trivial, fun _ => rfl⟩

/-- **A setpoint the user sets holds exactly as long as no poll copies a reading other than it.**
From any state, along any polls, reconnects and frames that are no knob turn: the temperature the user
sets is the setpoint after every step, exactly when every poll leaves it; and so is the pattern. -/
theorem setpoints_hold_iff (st : State) (value pattern : ℤ) (acts : List Act)
    (hquiet : ∀ a ∈ acts, a.Quiet) :
    (AllSteps State.step (fun s a => (s.step a).world.temperature = value)
        (st.setTemperature value) acts ↔
      AllSteps State.step LeavesTemperature (st.setTemperature value) acts) ∧
    (AllSteps State.step (fun s a => (s.step a).world.pourPattern = pattern)
        (st.selectPattern pattern) acts ↔
      AllSteps State.step LeavesPattern (st.selectPattern pattern) acts) := by
  constructor
  · have hstep : ∀ (s : State) a, s.world.temperature = value → a.Quiet →
        ((s.step a).world.temperature = value ↔ LeavesTemperature s a) ∧
          ((s.step a).world.temperature = value → (s.step a).world.temperature = value) := by
      rintro s a rfl ha
      exact ⟨step_temperature_iff ha, id⟩
    exact AllSteps.iff_while hstep rfl (AllSteps.of_forall hquiet)
  · have hstep : ∀ (s : State) a, s.world.pourPattern = pattern → a.Quiet →
        ((s.step a).world.pourPattern = pattern ↔ LeavesPattern s a) ∧
          ((s.step a).world.pourPattern = pattern → (s.step a).world.pourPattern = pattern) := by
      rintro s a rfl ha
      exact ⟨step_pourPattern_iff ha, id⟩
    exact AllSteps.iff_while hstep rfl (AllSteps.of_forall hquiet)

/-! ## A reading from before -/

/-- A coordinator after start-up, connected. -/
def State.fresh : State where
  world := { store := ⟨Dict.empty, none⟩ }
  client := some {}
  connected := true

/-- A frame as the machine sends it, with a 4-byte word for its payload. -/
def wordFrame (commandLow commandHigh wordLow : UInt8) : Bytes :=
  [0x58, 0x01, 0x01, commandLow, commandHigh, 0x10, 0x00, 0x00, 0x00, 0xC1, wordLow, 0x00, 0x00,
    0x00, 0x00, 0x00]

/-- A BREWER_TEMPERATURE frame that reads 90, and a BREWER_MODE frame that reads 2. -/
def earlierFrames : List Act := [.frame (wordFrame 0xAC 0x1F 90), .frame (wordFrame 0xAB 0x1F 2)]

/-- Polls that find the readings the user's setpoints agree with. -/
theorem setpoints_hold_after_two_polls :
    (AllSteps State.step (fun s a => (s.step a).world.temperature = 90)
        ((run State.step State.fresh earlierFrames).setTemperature 90) [.poll 0 0, .poll 1 1] ↔
      AllSteps State.step LeavesTemperature
        ((run State.step State.fresh earlierFrames).setTemperature 90) [.poll 0 0, .poll 1 1]) ∧
    (AllSteps State.step (fun s a => (s.step a).world.pourPattern = 2)
        ((run State.step State.fresh earlierFrames).selectPattern 2) [.poll 0 0, .poll 1 1] ↔
      AllSteps State.step LeavesPattern
        ((run State.step State.fresh earlierFrames).selectPattern 2) [.poll 0 0, .poll 1 1]) :=
  setpoints_hold_iff (run State.step State.fresh earlierFrames) 90 2 [.poll 0 0, .poll 1 1]
    (by simp [Act.Quiet])

/-- The machine reports 90 °C and pattern 2; then the user sets 60 °C, or pattern 1; and the next poll
takes either back. -/
theorem setpoints_lost_on_poll :
    ¬ AllSteps State.step (fun s a => (s.step a).world.temperature = 60)
        ((run State.step State.fresh earlierFrames).setTemperature 60) [.poll 0 0] ∧
      ¬ AllSteps State.step (fun s a => (s.step a).world.pourPattern = 1)
        ((run State.step State.fresh earlierFrames).selectPattern 1) [.poll 0 0] := by
  decide +kernel

end XBloom.Telemetry
