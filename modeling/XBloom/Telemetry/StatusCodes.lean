/-
# XBloom.Telemetry.StatusCodes — what a status code means after others

Code 0x3B is brewing or a step of a scale calibration, and two latches of the client decide which: the
calibration latch, set by the codes that only such a run sends, and the brew context.  Both follow the
last code that moved them (`Tracks`), for any codes in any order, mapped or not, and whatever the run
flags are set to between them.
-/
import XBloom.Telemetry.Status
import XBloom.Logic.Runs

namespace XBloom.Telemetry

open XBloom.Py XBloom.Ble XBloom.Logic

/-! ## The codes -/

/-- The codes that arm a scale calibration. -/
def arms (code : UInt8) : Bool := decide (code ∈ scaleCalArmingCodes)

/-- The codes that end one: the done code, and every other code with a known label or page but 0x3B and
the arming ones. -/
def ends (code : UInt8) : Bool :=
  code == 0x25 ||
    (((rawStateLabelMap.lookup code).isSome || (screenCodeMap.lookup code).isSome) &&
      !decide (code = 0x3B) && !arms code)

/-- The codes of a brew. -/
def brews (code : UInt8) : Bool := decide (code ∈ brewContextCodes)

/-- The codes that end a brew context or arm a calibration. -/
def endsBrewOrArms (code : UInt8) : Bool := endsBrewContext code || arms code

theorem endsScaleCalibration_eq (code : UInt8) : endsScaleCalibration code = ends code := by
  unfold endsScaleCalibration ends arms
  by_cases hdone : code = calibrationDoneCode
  · rw [if_pos hdone, hdone]
    rfl
  · have hne : (code == 0x25) = false := beq_eq_false_iff_ne.mpr hdone
    rw [if_neg hdone, hne, Bool.false_or]
    by_cases hkept : code ∈ scaleCalArmingCodes ∨ code ∈ scaleCalAmbiguousCodes
    · rw [if_pos hkept]
      rcases hkept with harm | hamb
      · simp [harm]
      · simp [List.mem_singleton.mp hamb]
    · rw [if_neg hkept]
      obtain ⟨harm, hamb⟩ := not_or.mp hkept
      have h3B : code ≠ 0x3B := fun h => hamb (List.mem_singleton.mpr h)
      simp [harm, h3B]

theorem mem_of_lookup {α : Type} {l : List (UInt8 × α)} {code : UInt8} {v : α}
    (h : l.lookup code = some v) : (code, v) ∈ l := by
  obtain ⟨l₁, l₂, rfl, _⟩ := List.lookup_eq_some_iff.mp h
  exact List.mem_append_right l₁ List.mem_cons_self

/-- The code of a brew also ends a calibration, and none of them arms one. -/
theorem brews_ends {code : UInt8} (h : brews code = true) : ends code = true ∧ arms code = false := by
  have hall : (brewContextCodes.all fun code => ends code && !arms code) = true := by decide +kernel
  have hcode := List.all_eq_true.mp hall code (of_decide_eq_true h)
  simpa using hcode

/-- Only an arming code is mapped to the label of a scale calibration. -/
theorem arms_of_lookup {code : UInt8} (h : rawStateLabelMap.lookup code = some .calibratingScale) :
    arms code = true := by
  have hall : (rawStateLabelMap.all fun p => p.2 != .calibratingScale || arms p.1) = true := by
    decide +kernel
  have hcode := List.all_eq_true.mp hall _ (mem_of_lookup h)
  simpa using hcode

/-- No code has a label and a page. -/
theorem screen_none_of_label {code : UInt8} (h : (rawStateLabelMap.lookup code).isSome) :
    screenCodeMap.lookup code = none := by
  have hall : (rawStateLabelMap.all fun p => screenCodeMap.lookup p.1 == none) = true := by
    decide +kernel
  obtain ⟨label, hlabel⟩ := Option.isSome_iff_exists.mp h
  have hcode := List.all_eq_true.mp hall _ (mem_of_lookup hlabel)
  simpa using hcode

/-- Every page ends a calibration, and none arms one. -/
theorem ends_of_screen {code : UInt8} (h : (screenCodeMap.lookup code).isSome) :
    ends code = true ∧ arms code = false := by
  have hall : (screenCodeMap.all fun p => ends p.1 && !arms p.1) = true := by decide +kernel
  obtain ⟨page, hpage⟩ := Option.isSome_iff_exists.mp h
  have hcode := List.all_eq_true.mp hall _ (mem_of_lookup hpage)
  simpa using hcode

/-! ## One code -/

namespace Client

variable {c : Client}

/-- `_scale_calibrating` is a latch. -/
theorem updateScaleCalibrating_eq (c : Client) (code : UInt8) :
    (c.updateScaleCalibrating code).scaleCalibrating = latch arms ends c.scaleCalibrating code := by
  unfold updateScaleCalibrating latch
  rw [endsScaleCalibration_eq]
  by_cases harm : code ∈ scaleCalArmingCodes
  · simp [arms, harm]
  · rw [if_neg harm]
    by_cases hend : ends code = true
    · by_cases hon : c.scaleCalibrating = true
      · simp [arms, harm, hend, hon]
      · simp [arms, harm, hend, hon]
    · simp [arms, harm, hend]

/-- **`_brew_context` is a latch too**, while the two are not both set: what arms a calibration clears
it, and while one runs it is clear. -/
theorem updateBrewContext_eq (h : ¬ (c.scaleCalibrating = true ∧ c.brewContext = true)) (code : UInt8) :
    ((c.updateScaleCalibrating code).updateBrewContext code).brewContext =
      latch brews endsBrewOrArms c.brewContext code := by
  have hcal := updateScaleCalibrating_eq c code
  have hcontext : (c.updateScaleCalibrating code).brewContext = c.brewContext := by
    unfold updateScaleCalibrating
    split
    · rfl
    · split <;> rfl
  unfold updateBrewContext
  rw [hcal]
  by_cases hbrew : brews code = true
  · -- a brew's code ends the calibration before the context is looked at
    obtain ⟨hend, harm⟩ := brews_ends hbrew
    have hmem : code ∈ brewContextCodes := of_decide_eq_true hbrew
    simp [latch, hbrew, hend, harm, hmem]
  · have hmem : code ∉ brewContextCodes := fun hmem => hbrew (decide_eq_true hmem)
    unfold latch endsBrewOrArms
    by_cases harm : arms code = true
    · simp [hbrew, harm]
    · by_cases hend : ends code = true
      · by_cases hends : endsBrewContext code = true
        · simp [hbrew, harm, hend, hmem, hends]
        · simp [hbrew, harm, hend, hmem, hends, hcontext]
      · by_cases hon : c.scaleCalibrating = true
        · have hclear : c.brewContext = false := by simpa [hon] using h
          simp [hbrew, harm, hend, hon, hclear]
        · by_cases hends : endsBrewContext code = true
          · simp [hbrew, harm, hend, hmem, hends, hon]
          · simp [hbrew, harm, hend, hmem, hends, hon, hcontext]

/-- The brew context moves alone. -/
@[simp] theorem updateBrewContext_calibrating (c : Client) (code : UInt8) :
    (c.updateBrewContext code).scaleCalibrating = c.scaleCalibrating := by
  unfold updateBrewContext
  split
  · rfl
  · split
    · rfl
    · split <;> rfl

/-- The latches a status code leaves. -/
theorem onStatusCode_latches (c : Client) (code : UInt8) :
    (c.onStatusCode code).scaleCalibrating =
        (c.updateScaleCalibrating code).scaleCalibrating ∧
      (c.onStatusCode code).brewContext =
        ((c.updateScaleCalibrating code).updateBrewContext code).brewContext := by
  have hkept := updateBrewContext_calibrating (c.updateScaleCalibrating code) code
  unfold onStatusCode
  dsimp only
  split
  · exact ⟨hkept, rfl⟩
  · exact ⟨hkept, rfl⟩

/-- The label and the screen a status code leaves. -/
theorem onStatusCode_label (c : Client) (code : UInt8) :
    (c.onStatusCode code).status.rawStateLabel =
        ((c.updateScaleCalibrating code).updateBrewContext code).stateLabelFor code ∧
      (c.onStatusCode code).status.screen = screenCodeMap.lookup code := by
  unfold onStatusCode
  dsimp only
  split <;> exact ⟨rfl, rfl⟩

end Client

/-! ## Runs -/

/-- What reaches the client: a frame, or the run flags set and cleared in any way. -/
inductive Input where
  | frame (raw : Bytes)
  | runFlags (grinder brewer : Bool)
  deriving DecidableEq, Repr

/-- The status code of a frame, if it has one. -/
def statusCode (raw : Bytes) : Option UInt8 :=
  if raw.length ≤ 12 ∨ raw.getD 3 0 ≠ statusFrameTypeByte then none
  else ((raw.take (raw.length - 2)).drop 10).head?

/-- The status codes of a run, in order. -/
def statusCodes (inputs : List Input) : List UInt8 :=
  inputs.filterMap fun
    | .frame raw => statusCode raw
    | .runFlags _ _ => none

namespace Client

/-- One input. -/
def onInput (c : Client) : Input → Client
  | .frame raw => c.scanForStatusFrame raw
  | .runFlags grinder brewer =>
    { c with status := { c.status with
        grinder := { c.status.grinder with isRunning := grinder }
        brewer := { c.status.brewer with isRunning := brewer } } }

theorem scanForStatusFrame_of_code {c : Client} {raw : Bytes} {code : UInt8}
    (h : statusCode raw = some code) : c.scanForStatusFrame raw = c.onStatusCode code := by
  unfold statusCode at h
  unfold scanForStatusFrame
  split at h
  · cases h
  · rename_i hstatus
    rw [if_neg hstatus]
    cases hpayload : (raw.take (raw.length - 2)).drop 10 with
    | nil =>
      rw [hpayload] at h
      cases h
    | cons first rest =>
      rw [hpayload] at h
      cases h
      rfl

theorem scanForStatusFrame_of_none {c : Client} {raw : Bytes} (h : statusCode raw = none) :
    c.scanForStatusFrame raw = c := by
  unfold statusCode at h
  unfold scanForStatusFrame
  split at h
  · rename_i hshort
    rw [if_pos hshort]
  · rename_i hstatus
    rw [if_neg hstatus, List.head?_eq_none_iff.mp h]

/-- **What a client knows after some codes**: each latch says which kind the last code was that moved
it, they are not both set, and label and screen belong to the last code. -/
structure Tracks (codes : List UInt8) (c : Client) : Prop where
  calibrating : c.scaleCalibrating = true ↔ LastSets arms ends codes
  context : c.brewContext = true ↔ LastSets brews endsBrewOrArms codes
  notBoth : ¬ (c.scaleCalibrating = true ∧ c.brewContext = true)
  label : c.status.rawStateLabel = some .calibratingScale ↔ c.scaleCalibrating = true
  separate : ¬ (c.status.rawStateLabel.isSome ∧ c.status.screen.isSome)

theorem tracks_new : Tracks [] {} where
  calibrating := by simp [LastSets]
  context := by simp [LastSets]
  notBoth := by simp
  label := by simp
  separate := by simp

/-- **One more status code.** -/
theorem Tracks.onStatusCode {codes : List UInt8} {c : Client} (h : Tracks codes c) (code : UInt8) :
    Tracks (codes ++ [code]) (c.onStatusCode code) := by
  obtain ⟨hcalKept, hcontextKept⟩ := onStatusCode_latches c code
  obtain ⟨hlabel, hscreen⟩ := onStatusCode_label c code
  have hcal : (c.onStatusCode code).scaleCalibrating = latch arms ends c.scaleCalibrating code :=
    hcalKept.trans (updateScaleCalibrating_eq c code)
  have hcontext : (c.onStatusCode code).brewContext = latch brews endsBrewOrArms c.brewContext code :=
    hcontextKept.trans (updateBrewContext_eq h.notBoth code)
  have hkept : ((c.updateScaleCalibrating code).updateBrewContext code).scaleCalibrating =
      (c.onStatusCode code).scaleCalibrating :=
    (updateBrewContext_calibrating _ code).trans hcalKept.symm
  have hnotBoth : ¬ ((c.onStatusCode code).scaleCalibrating = true ∧
      (c.onStatusCode code).brewContext = true) := by
    rintro ⟨hon, hbrewing⟩
    rw [hcontextKept] at hbrewing
    unfold updateBrewContext at hbrewing
    rw [if_pos (hcalKept ▸ hon)] at hbrewing
    cases hbrewing
  have hlabelIff : (c.onStatusCode code).status.rawStateLabel = some .calibratingScale ↔
      (c.onStatusCode code).scaleCalibrating = true := by
    rw [hlabel]
    unfold stateLabelFor
    rw [hkept]
    by_cases hon : (c.onStatusCode code).scaleCalibrating = true
    · simp [hon]
    · rw [if_neg hon]
      refine iff_of_false ?_ hon
      -- a code mapped to that label would have armed the latch
      have hnone : rawStateLabelMap.lookup code ≠ some .calibratingScale := by
        intro hmapped
        have harm := arms_of_lookup hmapped
        rw [hcal] at hon
        exact hon (by simp [latch, harm])
      split
      · simp
      · exact hnone
  refine ⟨?_, ?_, hnotBoth, hlabelIff, ?_⟩
  · rw [hcal]
    exact latch_eq_true_iff arms ends h.calibrating
  · rw [hcontext]
    exact latch_eq_true_iff brews endsBrewOrArms h.context
  · rintro ⟨hlabelled, hpage⟩
    rw [hscreen] at hpage
    -- a page ends a calibration, and has no label of its own
    obtain ⟨hend, harm⟩ := ends_of_screen hpage
    have hoff : (c.onStatusCode code).scaleCalibrating = false := by
      rw [hcal]
      simp [latch, hend, harm]
    rw [hlabel] at hlabelled
    unfold stateLabelFor at hlabelled
    rw [hkept, hoff] at hlabelled
    have hmapped : (rawStateLabelMap.lookup code).isSome := by
      rw [if_neg (by simp)] at hlabelled
      split at hlabelled
      · cases hlabelled
      · exact hlabelled
    rw [screen_none_of_label hmapped] at hpage
    cases hpage

/-- **One more input.** -/
theorem Tracks.onInput {inputs : List Input} {c : Client} (h : Tracks (statusCodes inputs) c)
    (input : Input) : Tracks (statusCodes (inputs ++ [input])) (c.onInput input) := by
  unfold statusCodes at h ⊢
  rw [List.filterMap_append]
  cases input with
  | frame raw =>
    show Tracks _ (c.scanForStatusFrame raw)
    cases hcode : statusCode raw with
    | none =>
      rw [scanForStatusFrame_of_none hcode]
      simpa [hcode] using h
    | some code =>
      rw [scanForStatusFrame_of_code hcode]
      simpa [hcode] using h.onStatusCode code
  | runFlags grinder brewer =>
    have hsame : Tracks (inputs.filterMap _) (c.onInput (.runFlags grinder brewer)) :=
      ⟨h.calibrating, h.context, h.notBoth, h.label, h.separate⟩
    simpa using hsame

theorem tracks_run (inputs : List Input) : Tracks (statusCodes inputs) (run onInput {} inputs) := by
  induction inputs using List.reverseRecOn with
  | nil => exact tracks_new
  | append_singleton inputs input ih =>
    rw [run_append]
    exact ih.onInput input

/-- **The ambiguous status code is read by context**, for every sequence of frames and any run flags
between them:

* the label is that of a scale calibration exactly when the last code that arms or ends one arms it;
* 0x3B is labelled brewing only when a brew's code came since the last code that ends a brew context or
  arms a calibration, or a run flag is set;
* the two latches are never both set;
* the label and the screen are never both set. -/
theorem statusCodes_read_by_context (inputs : List Input) :
    ((run onInput {} inputs).status.rawStateLabel = some .calibratingScale ↔
        LastSets arms ends (statusCodes inputs)) ∧
      (∀ raw, statusCode raw = some 0x3B →
        ((run onInput {} inputs).onInput (.frame raw)).status.rawStateLabel = some .brewing →
          LastSets brews endsBrewOrArms (statusCodes inputs) ∨
            (run onInput {} inputs).status.grinder.isRunning = true ∨
            (run onInput {} inputs).status.brewer.isRunning = true) ∧
      ¬ ((run onInput {} inputs).scaleCalibrating = true ∧
        (run onInput {} inputs).brewContext = true) ∧
      ¬ ((run onInput {} inputs).status.rawStateLabel.isSome ∧
        (run onInput {} inputs).status.screen.isSome) := by
  have htracks := tracks_run inputs
  refine ⟨htracks.label.trans htracks.calibrating, ?_, htracks.notBoth, htracks.separate⟩
  intro raw hcode hbrewing
  generalize run onInput {} inputs = c at htracks hbrewing ⊢
  change (c.scanForStatusFrame raw).status.rawStateLabel = some .brewing at hbrewing
  rw [scanForStatusFrame_of_code hcode, (onStatusCode_label c 0x3B).1] at hbrewing
  -- 0x3B moves neither latch
  have hcontext : ((c.updateScaleCalibrating 0x3B).updateBrewContext 0x3B).brewContext = c.brewContext :=
    updateBrewContext_eq htracks.notBoth 0x3B
  have hstatus : ((c.updateScaleCalibrating 0x3B).updateBrewContext 0x3B).status = c.status := by
    rw [updateBrewContext_status, updateScaleCalibrating_status]
  unfold stateLabelFor at hbrewing
  split at hbrewing
  · cases hbrewing
  · split at hbrewing
    · cases hbrewing
    · rename_i hknown
      rw [hcontext, hstatus] at hknown
      rw [← htracks.context]
      by_cases hon : c.brewContext = true
      · exact .inl hon
      · by_cases hgrinder : c.status.grinder.isRunning = true
        · exact .inr (.inl hgrinder)
        · by_cases hbrewer : c.status.brewer.isRunning = true
          · exact .inr (.inr hbrewer)
          · exact absurd ⟨by decide, by simpa using hon, by simpa using hbrewer, by simpa using hgrinder⟩
              hknown

end Client

end XBloom.Telemetry
