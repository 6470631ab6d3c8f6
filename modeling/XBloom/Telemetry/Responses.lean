/-
# XBloom.Telemetry.Responses — what a response does to the status, and the event it fires

`_handle_response`, response by response.  Each frame fires at most one event, after everything it
changes in the status, so an event is returned next to the status it is fired with.
-/
import XBloom.Py.Value
import XBloom.Telemetry.Status

namespace XBloom.Telemetry

open XBloom.Py XBloom.Ble

/-! ## Response ids -/

/-- The members of `Response`. -/
inductive Response where
  | machineSleeping
  | machineNotSleeping
  | unitChange
  | machineActivity
  | grinderSize
  | grinderSpeed
  | brewerMode
  | brewerTemperature
  | easymodeBegin
  | teaRecipeChangeSoakTime
  | abnormalGearPosition
  | abnormalDoseOrWater
  | inGrinder
  | inBrewer
  | inScale
  | grinderBegin
  | outGrinder
  | brewerBegin
  | outBrewer
  | outScale
  | grinderPause
  | brewerPause
  | teaRecipeRestart
  | teaRecipeSoak
  | currentWeight
  | easymodeType
  | easymodeRecipeState
  | currentWeight2
  | pods
  | brewerCoffeeStart
  | gearReport
  | grinderRunBegin
  | grinderStop
  | bloom
  | brewerStop
  | enjoy
  | enjoy2
  | teaRecipePause
  | errorIdling
  | bypass
  | machineInfo
  | errorLackOfWater
  | waterVolume
  | easymodeRecipeNum
  | currentGrinder
  | beforeVibration
  | calibrateStart
  | calibrating
  deriving DecidableEq, Repr

/-- The ids of the responses. -/
def responseCodes : List (ℕ × Response) :=
  [(8009, .machineSleeping), (8011, .machineNotSleeping), (8015, .unitChange),
    (8023, .machineActivity), (8105, .grinderSize), (8106, .grinderSpeed), (8107, .brewerMode),
    (8108, .brewerTemperature), (8111, .easymodeBegin), (8113, .teaRecipeChangeSoakTime),
    (8203, .abnormalGearPosition), (8204, .abnormalDoseOrWater), (9000, .inGrinder),
    (9001, .inBrewer), (9002, .inScale), (9003, .grinderBegin), (9004, .outGrinder),
    (9005, .brewerBegin), (9006, .outBrewer), (9008, .outScale), (9009, .grinderPause),
    (9010, .brewerPause), (9011, .teaRecipeRestart), (9012, .teaRecipeSoak),
    (10507, .currentWeight), (11511, .easymodeType), (11518, .easymodeRecipeState),
    (20501, .currentWeight2), (40501, .pods), (40502, .brewerCoffeeStart), (40505, .gearReport),
    (40506, .grinderRunBegin), (40507, .grinderStop), (40510, .bloom), (40511, .brewerStop),
    (40512, .enjoy), (40513, .enjoy2), (40515, .teaRecipePause), (40517, .errorIdling),
    (40520, .bypass), (40521, .machineInfo), (40522, .errorLackOfWater), (40523, .waterVolume),
    (40525, .easymodeRecipeNum), (40526, .currentGrinder), (40527, .beforeVibration),
    (50038, .calibrateStart), (50039, .calibrating)]

/-- `Response(cmd)`; `none` for its `ValueError`. -/
def Response.ofCode (cmd : ℕ) : Option Response := responseCodes.lookup cmd

/-! ## Events -/

/-- The event types of the `notification` category. -/
inductive Notification where
  | grindingStarted
  | grindingComplete
  | brewingStarted
  | pourComplete
  | bloom (pourIndex : Option ℕ)
  | paused
  | recipeComplete
  | teaSoaking
  | teaSoakTimeChanged
  | teaResumed
  | podDetected (xid : String)
  | easySlotStarted (slot : Option ℕ)
  | grinderCalibrationProgress
  | grinderCalibrationComplete
  | waterRefilled
  deriving DecidableEq, Repr

/-- The event types of the `error` category; an alarm frame's carries its code. -/
inductive MachineError where
  | noBeans
  | abnormalDoseOrWater
  | abnormalGearPosition
  | waterShortage
  | alarm (eventType : String) (code : ℕ)
  deriving DecidableEq, Repr

/-- What `_fire_event` is called with. -/
inductive Event where
  | brewerKnob (temperature : Option ℚ) (pattern : Option ℕ)
  | brewerPageEntry (volume temperature pattern : ℕ)
  | grinderKnob (size : Option ℤ) (rpm : Option ℕ)
  | unitChange (weightUnit tempUnit waterSource : ℕ)
  | notification (e : Notification)
  | error (e : MachineError)
  deriving DecidableEq, Repr

/-! ## The fields of a payload -/

/-- The 4-byte word at an offset of a payload. -/
def word (payload : Bytes) (offset : ℕ) : ℕ := ofLittleEndian ((payload.drop offset).take 4)

/-- `strict_ascii`: the printable characters, trimmed. -/
def strictAscii (data : Bytes) : String :=
  strip (String.ofList ((data.filter fun b => decide (0x20 ≤ b ∧ b < 0x7F)).map
    fun b => Char.ofNat b.toNat))

/-- A reading of the brewer's thermometer: literal, or in tenths above 150. -/
def brewerReading (raw : ℕ) : ℚ := if 150 < raw then raw / 10 else raw

/-- `max(raw - _GRIND_SIZE_RAW_OFFSET, 1)`. -/
def grindSizeOf (raw : ℕ) : ℤ := max ((raw : ℤ) - 30) 1

/-- `_VALID_POUR_PATTERNS`. -/
def validPourPatterns : List ℕ := [0, 1, 2]

/-! ## `_handle_response` -/

/-- `RD_MachineInfo`. -/
def DeviceStatus.onMachineInfo (s : DeviceStatus) (payload : Bytes) : DeviceStatus :=
  let s := if 29 ≤ payload.length then { s with
      serialNumber := strictAscii (payload.take 13)
      version := strictAscii ((payload.take 29).drop 19) } else s
  let s := if 34 ≤ payload.length then { s with
      waterLevelOk := decide (payload.getD 33 0 = 1) } else s
  let s := { s with modeBytes := some payload }
  if 37 < payload.length then { s with
      grinder := { s.grinder with size := grindSizeOf (payload.getD 37 0).toNat } } else s

/-- The branches of `_handle_response` that are chained by `elif`, with the event they fire. -/
def DeviceStatus.onResponse (s : DeviceStatus) (payload : Bytes) :
    Response → DeviceStatus × Option Event
  | .machineInfo => (s.onMachineInfo payload, none)
  | .brewerTemperature =>
    if 4 ≤ payload.length then
      let reading := brewerReading (word payload 0)
      ({ s with brewer := { s.brewer with temperature := reading } },
        some (.brewerKnob (some reading) none))
    else (s, none)
  | .grinderBegin | .grinderRunBegin =>
    ({ s with grinder := { s.grinder with isRunning := true }, state := .grinding }, none)
  | .grinderStop =>
    ({ s with grinder := { s.grinder with isRunning := false, speed := 0 }, state := .idle }, none)
  | .brewerBegin | .brewerCoffeeStart =>
    ({ s with brewer := { s.brewer with isRunning := true }, state := .brewing }, none)
  | .brewerStop =>
    ({ s with brewer := { s.brewer with isRunning := false }, state := .idle }, none)
  | .bloom => ({ s with state := .brewing }, none)
  | .brewerPause => ({ s with state := .paused }, none)
  | .inBrewer =>
    let s := { s with screen := some Page.pour }
    if 12 ≤ payload.length then
      ({ s with brewer := { s.brewer with temperature := word payload 4 } },
        some (.brewerPageEntry (word payload 0) (word payload 4) (word payload 8)))
    else (s, none)
  | .inGrinder =>
    let s := { s with screen := some Page.grind }
    if 8 ≤ payload.length then
      let size := word payload 0
      ({ s with grinder := { s.grinder with size := if size ≠ 0 then size else s.grinder.size } },
        some (.grinderKnob (some size) (some (word payload 4))))
    else (s, none)
  | .inScale => ({ s with screen := some .scale }, none)
  | .outGrinder | .outBrewer | .outScale => ({ s with screen := some .home }, none)
  | .grinderSize =>
    if 4 ≤ payload.length then
      let size := grindSizeOf (word payload 0)
      ({ s with grinder := { s.grinder with size := size } }, some (.grinderKnob (some size) none))
    else (s, none)
  | .grinderSpeed =>
    if 4 ≤ payload.length then
      let speed := word payload 0
      ({ s with grinder := { s.grinder with speed := speed } },
        some (.grinderKnob none (some speed)))
    else (s, none)
  | .currentGrinder =>
    if 4 ≤ payload.length then
      let raw := word payload 0
      let s := { s with grinder := { s.grinder with size := grindSizeOf raw } }
      -- 85 is the end of a calibration sweep, and only of one
      if s.isCalibratingGrinder ∧ raw = 85 then
        ({ s with isCalibratingGrinder := false }, some (.notification .grinderCalibrationComplete))
      else (s, none)
    else (s, none)
  | .calibrateStart => ({ s with isCalibratingGrinder := true }, none)
  | .machineSleeping => ({ s with isSleeping := true }, none)
  | .machineNotSleeping | .machineActivity => ({ s with isSleeping := false }, none)
  | .brewerMode =>
    if 4 ≤ payload.length ∧ word payload 0 ∈ validPourPatterns then
      ({ s with pourPatternLive := some (word payload 0) },
        some (.brewerKnob none (some (word payload 0))))
    else (s, none)
  | .unitChange =>
    if 12 ≤ payload.length then
      (s, some (.unitChange (word payload 0) (word payload 4) (word payload 8)))
    else (s, none)
  | _ => (s, none)

/-- `_NOTIFICATION_MAP`, with the attributes of the event. -/
def notificationMap (payload : Bytes) : Response → Option Notification
  | .grinderBegin | .grinderRunBegin => some .grindingStarted
  | .grinderStop => some .grindingComplete
  | .brewerBegin | .brewerCoffeeStart => some .brewingStarted
  | .brewerStop => some .pourComplete
  | .bloom => some (.bloom (if 4 ≤ payload.length then some (word payload 0) else none))
  | .brewerPause | .teaRecipePause => some .paused
  | .enjoy | .enjoy2 => some .recipeComplete
  | .teaRecipeSoak => some .teaSoaking
  | .teaRecipeChangeSoakTime => some .teaSoakTimeChanged
  | .teaRecipeRestart => some .teaResumed
  | .pods => some (.podDetected (strictAscii (payload.take 6)))
  | .easymodeBegin =>
    some (.easySlotStarted
      (if 4 ≤ payload.length ∧ word payload 0 ≤ 2 then some (word payload 0) else none))
  | .calibrating => some .grinderCalibrationProgress
  | _ => none

/-- `_ERROR_MAP`. -/
def errorMap : Response → Option MachineError
  | .errorIdling => some .noBeans
  | .abnormalDoseOrWater => some .abnormalDoseOrWater
  | .abnormalGearPosition => some .abnormalGearPosition
  | _ => none

/-- The end of `_handle_response`: the event a response stands for, if the branches fired none. -/
def DeviceStatus.onMapped (s : DeviceStatus) (payload : Bytes) (response : Response) :
    DeviceStatus × Option Event :=
  match notificationMap payload response with
  | some e =>
    -- a calibration sweep starts and stops the motor several times
    if (e = .grindingStarted ∨ e = .grindingComplete) ∧ s.isCalibratingGrinder then (s, none)
    else (s, some (.notification e))
  | none =>
    if response = .errorLackOfWater then
      let value := if 4 ≤ payload.length then word payload 0 else 0
      ({ s with waterLevelOk := decide (value = 1) },
        some (if value = 1 then .notification .waterRefilled else .error .waterShortage))
    else (s, (errorMap response).map .error)

/-- The acknowledgement of a mode switch. -/
def DeviceStatus.onModeAck (s : DeviceStatus) (payload : Bytes) (response : Response) :
    DeviceStatus :=
  if response = .easymodeType ∧ 4 ≤ payload.length then
    { s with modeAckHex := some (payload.take 4) }
  else s

/-- `_handle_response`: the status it leaves, and the event it fires. -/
def handleResponse (s : DeviceStatus) (response : Response) (data : Bytes) :
    DeviceStatus × Option Event :=
  let payload := framePayload data
  let branch := s.onResponse payload response
  let mapped := (branch.1.onModeAck payload response).onMapped payload response
  (mapped.1, branch.2.or mapped.2)

/-! ## What a response leaves alone -/

theorem onMachineInfo_modeAckHex (s : DeviceStatus) (payload : Bytes) :
    (s.onMachineInfo payload).modeAckHex = s.modeAckHex := by
  unfold DeviceStatus.onMachineInfo
  dsimp only
  split_ifs <;> rfl

theorem onResponse_modeAckHex (s : DeviceStatus) (payload : Bytes) (response : Response) :
    (s.onResponse payload response).1.modeAckHex = s.modeAckHex := by
  unfold DeviceStatus.onResponse
  split
  case h_1 => exact onMachineInfo_modeAckHex s payload
  all_goals first | rfl | (split_ifs <;> rfl) | (dsimp only; split_ifs <;> rfl)

theorem onMapped_modeAckHex (s : DeviceStatus) (payload : Bytes) (response : Response) :
    (s.onMapped payload response).1.modeAckHex = s.modeAckHex := by
  unfold DeviceStatus.onMapped
  split
  · split_ifs <;> rfl
  · split_ifs <;> rfl

/-- **Only a mode acknowledgement sets the latched mode**, and to its first four payload bytes. -/
theorem handleResponse_modeAckHex (s : DeviceStatus) (response : Response) (data : Bytes) :
    (handleResponse s response data).1.modeAckHex =
      if response = .easymodeType ∧ 4 ≤ (framePayload data).length then
        some ((framePayload data).take 4)
      else s.modeAckHex := by
  unfold handleResponse
  dsimp only
  rw [onMapped_modeAckHex]
  unfold DeviceStatus.onModeAck
  split
  · rfl
  · exact onResponse_modeAckHex s _ response

/-- The responses whose events the brewer mirrors act on. -/
def brewerResponses : List Response := [.brewerTemperature, .brewerMode, .inBrewer]

/-- An event of the brewer's knobs or of its page. -/
def Event.IsBrewer : Event → Prop
  | .brewerKnob _ _ => True
  | .brewerPageEntry _ _ _ => True
  | _ => False

theorem onResponse_not_brewer {s : DeviceStatus} {payload : Bytes} {response : Response} {e : Event}
    (hresponse : response ∉ brewerResponses) (h : (s.onResponse payload response).2 = some e) :
    ¬ e.IsBrewer := by
  unfold DeviceStatus.onResponse at h
  split at h
  case h_2 => exact absurd (by decide) hresponse
  all_goals first
    | cases h
    | exact absurd (by decide) hresponse
    | (split_ifs at h; cases h; exact id)
    | (dsimp only at h; split_ifs at h; cases h; exact id)

/-- **No other response fires a brewer event.** -/
theorem handleResponse_not_brewer {s : DeviceStatus} {response : Response} {data : Bytes} {e : Event}
    (hresponse : response ∉ brewerResponses) (h : (handleResponse s response data).2 = some e) :
    ¬ e.IsBrewer := by
  unfold handleResponse at h
  dsimp only at h
  rcases Option.or_eq_some_iff.mp h with h | ⟨_, h⟩
  · exact onResponse_not_brewer hresponse h
  · unfold DeviceStatus.onMapped at h
    split at h
    · split at h
      · cases h
      · rw [← Option.some.inj h]
        exact id
    · split at h
      · rw [← Option.some.inj h]
        split_ifs <;> exact id
      · obtain ⟨err, _, rfl⟩ := Option.map_eq_some_iff.mp h
        exact id

end XBloom.Telemetry
