/-
# XBloom.Telemetry.ModeAck — what sets the latched mode

A mode switch is acknowledged by a frame of its own command, 11511, whose first four payload bytes are the
new mode.  `mode_ack_hex` keeps the last of them (`receive_modeAckHex`), and nothing else in the client
writes it: not the scans of the raw buffer (`preScan_modeAckHex`), not the other responses, and nothing
clears it.
-/
import XBloom.Telemetry.Notification

namespace XBloom.Telemetry

open XBloom.Py XBloom.Ble

/-! ## The scans of the raw buffer -/

theorem onMachineInfoHit_modeAckHex (s : DeviceStatus) (payload : Bytes) :
    (s.onMachineInfoHit payload).modeAckHex = s.modeAckHex := by
  unfold DeviceStatus.onMachineInfoHit
  dsimp only
  split <;> rfl

theorem scanForMachineInfo_modeAckHex (raw : Bytes) (s : DeviceStatus) (idx : ℕ) (rest : Bytes) :
    (scanForMachineInfo raw s idx rest).modeAckHex = s.modeAckHex := by
  fun_induction scanForMachineInfo raw s idx rest with
  | case1 => rfl
  | case2 _ _ _ _ _ _ _ ih => exact ih
  | case3 _ _ _ _ _ _ _ _ ih => exact ih
  | case4 => exact onMachineInfoHit_modeAckHex s _
  | case5 _ _ _ _ _ ih => exact ih
  | case6 => rfl

theorem onAdvancedSetting_modeAckHex (s : DeviceStatus) (cmd value : ℕ) :
    (s.onAdvancedSetting cmd value).modeAckHex = s.modeAckHex := by
  unfold DeviceStatus.onAdvancedSetting
  split
  · rfl
  · split <;> rfl

theorem scanForAdvancedSettings_modeAckHex (s : DeviceStatus) (rest : Bytes) :
    (scanForAdvancedSettings s rest).modeAckHex = s.modeAckHex := by
  fun_induction scanForAdvancedSettings s rest with
  | case1 => rfl
  | case2 s a tail hheader ih => exact ih
  | case3 s a tail _ hshort => rw [if_pos hshort]
  | case4 s a tail _ hlong hlength ih =>
    rw [if_neg hlong, if_pos hlength]
    exact ih
  | case5 s a tail _ hlong hlength hmarker ih =>
    rw [if_neg hlong, if_neg hlength, if_pos hmarker]
    exact ih
  | case6 s a tail _ hlong hlength hmarker hends =>
    rw [if_neg hlong, if_neg hlength, if_neg hmarker]
    simp only [if_pos hends]
    exact onAdvancedSetting_modeAckHex s _ _
  | case7 s a tail _ hlong hlength hmarker _ hgoes ih =>
    rw [if_neg hlong, if_neg hlength, if_neg hmarker]
    simp only [if_neg hgoes]
    exact ih.trans (onAdvancedSetting_modeAckHex s _ _)

/-- **The scans leave the latched mode alone.** -/
theorem preScan_modeAckHex (c : Client) (raw : Bytes) :
    (preScan c raw).client.status.modeAckHex = c.status.modeAckHex := by
  show (scanForAdvancedSettings _ raw).modeAckHex = c.status.modeAckHex
  rw [scanForAdvancedSettings_modeAckHex]
  split
  · exact scanForMachineInfo_modeAckHex raw c.status 0 raw
  · rfl

/-! ## Frames -/

/-- The command of a mode switch and of its acknowledgement. -/
def modeCommand : ℕ := 11511

/-- **A frame acknowledges a mode**: its command is a mode switch's, and its payload begins with the mode. -/
def acknowledges (mode frame : Bytes) : Bool :=
  match frameCommand frame with
  | .ok cmd => decide (cmd = modeCommand ∧ 4 ≤ (framePayload frame).length ∧
      (framePayload frame).take 4 = mode)
  | .error _ => false

/-- One response has the command of a mode switch. -/
theorem ofCode_eq_easymodeType {cmd : ℕ} (h : Response.ofCode cmd = some .easymodeType) :
    cmd = modeCommand := by
  have hall : ∀ e ∈ responseCodes, e.2 = .easymodeType → e.1 = modeCommand := by decide
  obtain ⟨before, after, hsplit, _⟩ := List.lookup_eq_some_iff.mp h
  refine hall (cmd, .easymodeType) ?_ rfl
  rw [hsplit]
  exact List.mem_append_right before List.mem_cons_self

/-- **What is latched after a frame was latched before, or the frame acknowledges it.** -/
theorem receive_modeAckHex {r r' : Received} {frame mode : Bytes} (h : r.receive frame = .ok r')
    (hmode : r'.client.status.modeAckHex = some mode) :
    r.client.status.modeAckHex = some mode ∨ acknowledges mode frame = true := by
  unfold Received.receive Received.parseResponse at h
  obtain ⟨cmd, hcmd, h⟩ := bind_eq_ok.mp h
  have hscan := (r.client.scanForStatusFrame_sameReadings frame).modeAckHex
  cases hresponse : Response.ofCode cmd with
  | none =>
    simp only [hresponse] at h
    rw [← Except.ok.inj h] at hmode
    exact Or.inl (hscan ▸ hmode)
  | some response =>
    simp only [hresponse] at h
    rw [← Except.ok.inj h] at hmode
    have hhandled : (handleResponse (r.client.scanForStatusFrame frame).status response
        frame).1.modeAckHex = some mode := hmode
    rw [handleResponse_modeAckHex] at hhandled
    split at hhandled
    · rename_i hack
      obtain ⟨rfl, hlong⟩ := hack
      right
      unfold acknowledges
      rw [hcmd]
      exact decide_eq_true ⟨ofCode_eq_easymodeType hresponse, hlong, Option.some.inj hhandled⟩
    · exact Or.inl (hscan ▸ hhandled)

end XBloom.Telemetry
