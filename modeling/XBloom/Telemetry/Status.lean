/-
# XBloom.Telemetry.Status — what the client keeps of the machine, and the status frame

`DeviceStatus` is the record the client parses the machine's frames into, next to two latches of the
client's own.  Status frames (type byte 0x57) carry one code: either an activity, which
`_RAW_STATE_LABEL_MAP` names, or a page, which `_SCREEN_CODE_MAP` does.  Code 0x3B is ambiguous between
brewing and a step of a scale calibration; the latches tell them apart.

Readings no modelled function uses are left out: weight, water volume, voltage, the gear position.
Temperatures are exact; a reading divided by ten is the nearest float there, which neither the
comparisons with whole degrees nor the rounding to them can tell from the exact value.
-/
import XBloom.Ble.Scanner

namespace XBloom.Telemetry

open XBloom.Py XBloom.Ble

/-! ## Labels -/

/-- `DeviceState`. -/
inductive DeviceState where
  | unknown
  | idle
  | grinding
  | brewing
  | paused
  | error
  | sleeping
  deriving DecidableEq, Repr

/-- The labels of `_RAW_STATE_LABEL_MAP`, and the one of the calibration latch. -/
inductive StateLabel where
  | waterShortage
  | noBeans
  | awaitingConfirm
  | recipeLoaded
  | starting
  | brewing
  | ready
  | calibratingGrinder
  | descaling
  | calibratingScale
  deriving DecidableEq, Repr

/-- The pages of `_SCREEN_CODE_MAP`. -/
inductive Page where
  | home
  | grind
  | pour
  | scale
  | settings
  deriving DecidableEq, Repr

/-- `_RAW_STATE_LABEL_MAP`. -/
def rawStateLabelMap : List (UInt8 × StateLabel) :=
  [(0x0C, .waterShortage), (0x0F, .noBeans), (0x1E, .awaitingConfirm), (0x1F, .recipeLoaded),
    (0x22, .starting), (0x10, .brewing), (0x23, .brewing), (0x3B, .brewing), (0x45, .brewing),
    (0x24, .ready), (0x26, .calibratingGrinder), (0x27, .calibratingGrinder), (0x2F, .descaling),
    (0x32, .descaling), (0x39, .calibratingScale), (0x3A, .calibratingScale)]

/-- `_SCREEN_CODE_MAP`. -/
def screenCodeMap : List (UInt8 × Page) :=
  [(0x01, .home), (0x41, .home), (0x02, .grind), (0x06, .grind), (0x07, .grind), (0x03, .pour),
    (0x08, .pour), (0x09, .pour), (0x04, .scale), (0x05, .scale), (0x17, .settings),
    (0x18, .settings), (0x19, .settings)]

/-- `_SCALE_CAL_ARMING_CODES`: the entry codes and the step codes. -/
def scaleCalArmingCodes : List UInt8 := [0x39, 0x3A, 0x3C, 0x3F]

/-- `_CALIBRATION_DONE_CODE`. -/
def calibrationDoneCode : UInt8 := 0x25

/-- `_SCALE_CAL_AMBIGUOUS_CODES`. -/
def scaleCalAmbiguousCodes : List UInt8 := [0x3B]

/-- `_BREW_CONTEXT_CODES`. -/
def brewContextCodes : List UInt8 := [0x1E, 0x1F, 0x22, 0x10, 0x23]

/-- `_ENDS_BREW_CONTEXT_LABELS`. -/
def endsBrewContextLabels : List StateLabel :=
  [.ready, .descaling, .calibratingGrinder, .calibratingScale]

/-- `_ends_scale_calibration`. -/
def endsScaleCalibration (code : UInt8) : Bool :=
  if code = calibrationDoneCode then true
  else if code ∈ scaleCalArmingCodes ∨ code ∈ scaleCalAmbiguousCodes then false
  else (rawStateLabelMap.lookup code).isSome || (screenCodeMap.lookup code).isSome

/-- `_ends_brew_context`. -/
def endsBrewContext (code : UInt8) : Bool :=
  if code = calibrationDoneCode ∨ (screenCodeMap.lookup code).isSome then true
  else (rawStateLabelMap.lookup code).any fun label => decide (label ∈ endsBrewContextLabels)

/-! ## The client's record -/

/-- `GrinderStatus`. -/
structure GrinderStatus where
  isRunning : Bool := false
  speed : ℕ := 0
  size : ℤ := 0
  deriving DecidableEq, Repr

/-- `BrewerStatus`. -/
structure BrewerStatus where
  isRunning : Bool := false
  temperature : ℚ := 0
  deriving DecidableEq, Repr

/-- `DeviceStatus`; the hex text of a mode acknowledgement is kept as the bytes it shows. -/
structure DeviceStatus where
  state : DeviceState := .unknown
  grinder : GrinderStatus := {}
  brewer : BrewerStatus := {}
  serialNumber : String := ""
  version : String := ""
  waterLevelOk : Bool := false
  modeBytes : Option Bytes := none
  modeAckHex : Option Bytes := none
  rawStateLabel : Option StateLabel := none
  isCalibratingGrinder : Bool := false
  isSleeping : Bool := false
  pourRadius : Option ℕ := none
  vibrationAmplitude : Option ℕ := none
  pourPatternLive : Option ℕ := none
  screenCode : Option UInt8 := none
  screen : Option Page := none
  lastPage : Option Page := none
  deriving DecidableEq, Repr

/-- `XBloomClient`: the status and the latches `_scale_calibrating` and `_brew_context`. -/
structure Client where
  status : DeviceStatus := {}
  scaleCalibrating : Bool := false
  brewContext : Bool := false
  deriving DecidableEq, Repr

/-! ## Status frames -/

namespace Client

/-- The calibration latch of `_scan_for_status_frame`. -/
def updateScaleCalibrating (c : Client) (code : UInt8) : Client :=
  if code ∈ scaleCalArmingCodes then { c with scaleCalibrating := true }
  else if c.scaleCalibrating ∧ endsScaleCalibration code then { c with scaleCalibrating := false }
  else c

/-- `_update_brew_context`. -/
def updateBrewContext (c : Client) (code : UInt8) : Client :=
  if c.scaleCalibrating then { c with brewContext := false }
  else if code ∈ brewContextCodes then { c with brewContext := true }
  else if endsBrewContext code then { c with brewContext := false }
  else c

/-- `_state_label_for`. -/
def stateLabelFor (c : Client) (code : UInt8) : Option StateLabel :=
  if c.scaleCalibrating then some .calibratingScale
  else if code ∈ scaleCalAmbiguousCodes ∧ c.brewContext = false ∧
      c.status.brewer.isRunning = false ∧ c.status.grinder.isRunning = false then none
  else rawStateLabelMap.lookup code

end Client

/-- The status a page leaves: no run is active there. -/
def DeviceStatus.onPage (s : DeviceStatus) (page : Page) : DeviceStatus :=
  { s with
    lastPage := some page
    grinder := { s.grinder with isRunning := false }
    brewer := { s.brewer with isRunning := false }
    state := if s.state ∈ [DeviceState.grinding, .brewing, .paused] then .idle else s.state }

/-- The body of `_scan_for_status_frame`, for a status code. -/
def Client.onStatusCode (c : Client) (code : UInt8) : Client :=
  let c := (c.updateScaleCalibrating code).updateBrewContext code
  let s := { c.status with
    rawStateLabel := c.stateLabelFor code
    screenCode := some code
    screen := screenCodeMap.lookup code }
  match s.screen with
  | some page => { c with status := s.onPage page }
  | none => { c with status := s }

/-- `_STATUS_FRAME_TYPE_BYTE`. -/
def statusFrameTypeByte : UInt8 := 0x57

/-- `_scan_for_status_frame`. -/
def Client.scanForStatusFrame (c : Client) (raw : Bytes) : Client :=
  if raw.length ≤ 12 ∨ raw.getD 3 0 ≠ statusFrameTypeByte then c
  else
    match (raw.take (raw.length - 2)).drop 10 with
    | [] => c
    | code :: _ => c.onStatusCode code

/-- What a status frame leaves alone: everything but the labels, the pages and what a page ends. -/
structure Client.SameReadings (c c' : Client) : Prop where
  temperature : c'.status.brewer.temperature = c.status.brewer.temperature
  pourPatternLive : c'.status.pourPatternLive = c.status.pourPatternLive
  modeAckHex : c'.status.modeAckHex = c.status.modeAckHex
  isSleeping : c'.status.isSleeping = c.status.isSleeping

namespace Client.SameReadings

theorem refl (c : Client) : c.SameReadings c := ⟨rfl, rfl, rfl, rfl⟩

theorem trans {c c' c'' : Client} (h : c.SameReadings c') (h' : c'.SameReadings c'') :
    c.SameReadings c'' :=
  ⟨h'.temperature.trans h.temperature, h'.pourPatternLive.trans h.pourPatternLive,
    h'.modeAckHex.trans h.modeAckHex, h'.isSleeping.trans h.isSleeping⟩

end Client.SameReadings

theorem Client.updateScaleCalibrating_status (c : Client) (code : UInt8) :
    (c.updateScaleCalibrating code).status = c.status := by
  unfold Client.updateScaleCalibrating
  split
  · rfl
  · split <;> rfl

theorem Client.updateBrewContext_status (c : Client) (code : UInt8) :
    (c.updateBrewContext code).status = c.status := by
  unfold Client.updateBrewContext
  split
  · rfl
  · split
    · rfl
    · split <;> rfl

theorem Client.onStatusCode_sameReadings (c : Client) (code : UInt8) :
    c.SameReadings (c.onStatusCode code) := by
  have hstatus : ((c.updateScaleCalibrating code).updateBrewContext code).status = c.status := by
    rw [updateBrewContext_status, updateScaleCalibrating_status]
  unfold Client.onStatusCode
  dsimp only
  split
  · simp only [DeviceStatus.onPage, hstatus]
    exact ⟨rfl, rfl, rfl, rfl⟩
  · simp only [hstatus]
    exact ⟨rfl, rfl, rfl, rfl⟩

/-- **A status frame changes no reading.** -/
theorem Client.scanForStatusFrame_sameReadings (c : Client) (raw : Bytes) :
    c.SameReadings (c.scanForStatusFrame raw) := by
  unfold Client.scanForStatusFrame
  split
  · exact .refl c
  · split
    · exact .refl c
    · exact c.onStatusCode_sameReadings _

end XBloom.Telemetry
