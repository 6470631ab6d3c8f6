/-
# XBloom.Telemetry.Notification — from a notification buffer to the status

`_on_notification` first scans the raw buffer for what the framing loop would discard (MachineInfo,
the advanced settings, alarms), then runs `_scan_for_status_frame` and `_parse_response` on every frame
`iter_frames` yields.  The only thing in it that raises is `frame_command`, on a frame without a
command.

`notification_safe_iff` says for which buffers all of that goes well: those in which the scan never
comes to a header and a marker around a length field below 12 (`ShortFrame`).
-/
import XBloom.Telemetry.Responses

namespace XBloom.Telemetry

open XBloom.Py XBloom.Ble XBloom.Codec

/-! ## The scans of the raw buffer -/

/-- The body of `_scan_for_machine_info` at a hit of `raw.find`. -/
def DeviceStatus.onMachineInfoHit (s : DeviceStatus) (payload : Bytes) : DeviceStatus :=
  let serial := strictAscii (payload.take 13)
  if serial = "" then s
  else { s with
    serialNumber := serial
    version := strictAscii ((payload.take 29).drop 19)
    modeBytes := some payload }

/-- `_scan_for_machine_info` of `raw`, from `idx` on, where `raw[idx:]` is left. -/
def scanForMachineInfo (raw : Bytes) (s : DeviceStatus) : ℕ → Bytes → DeviceStatus
  | idx, b₀ :: b₁ :: rest =>
    if b₀ = 0x49 ∧ b₁ = 0x9E then
      if idx < 3 then s
      else if raw.getD (idx - 3) 0 ∉ headerBytes then scanForMachineInfo raw s (idx + 1) (b₁ :: rest)
      else if (raw.drop (idx + 7)).length < 34 then scanForMachineInfo raw s (idx + 2) rest
      else s.onMachineInfoHit (raw.drop (idx + 7))
    else scanForMachineInfo raw s (idx + 1) (b₁ :: rest)
  | _, _ => s

/-- The commands of `_scan_for_advanced_settings`: 11506 and 11507, 11508 and 11509. -/
def DeviceStatus.onAdvancedSetting (s : DeviceStatus) (cmd value : ℕ) : DeviceStatus :=
  if cmd = 11506 ∨ cmd = 11507 then { s with pourRadius := some value }
  else if cmd = 11508 ∨ cmd = 11509 then { s with vibrationAmplitude := some value }
  else s

/-- `_scan_for_advanced_settings`, with `rest` for `raw[offset:]`. -/
def scanForAdvancedSettings (s : DeviceStatus) (rest : Bytes) : DeviceStatus :=
  match rest with
  | [] => s
  | a :: tail =>
    if a ∉ headerBytes then scanForAdvancedSettings s tail
    else if rest.length < 14 then s
    else if maxPacketLen < lengthField rest then scanForAdvancedSettings s tail
    else if rest.getD 9 0 ≠ 0xC2 then scanForAdvancedSettings s tail
    else
      let s := s.onAdvancedSetting (ofLittleEndian ((rest.drop 3).take 2)) (word rest 10)
      if rest.length < lengthField rest ∨ lengthField rest = 0 then s
      else scanForAdvancedSettings s (tail.drop (lengthField rest - 1))
termination_by rest.length
decreasing_by
  all_goals simp only [List.length_cons, List.length_drop]
  all_goals omega

/-- `_ALARM_CODE_EVENTS`. -/
def alarmCodeEvents : List (List ℕ × String) :=
  [([8449, 8450, 4355, 4356, 4357, 4358, 4359, 4360, 4361, 4362], "mismatched_power"),
    ([513, 4610, 5633, 5637, 6148, 6401, 6402, 6403, 6404, 6405, 9730, 9732, 10241, 10242, 10243,
      10245, 13827, 14342, 14598, 14599, 14600, 14601, 14602, 14603], "brewing_error"),
    ([8961, 8962, 8963, 4868, 4869, 4871, 4873, 4874, 4875, 13062, 13064], "dock_moving_error"),
    ([1025, 5123, 5124, 5379, 9218, 9473, 9474, 9477, 9478, 13317, 13572], "grinding_error"),
    ([1793, 1795, 1796, 5890], "scale_overload"), ([7169, 7170], "upgrade_failed")]

/-- The event of an alarm code, if it has one. -/
def alarmEvent (code : ℕ) : Option Event :=
  (alarmCodeEvents.find? fun e => decide (code ∈ e.1)).map fun e => .error (.alarm e.2 code)

/-- `_scan_for_alarm_frame`, with `rest` for `raw[offset:]`: the events it fires. -/
def scanForAlarmFrame (rest : Bytes) : List Event :=
  match rest with
  | [] => []
  | a :: tail =>
    if rest.length < 16 then []
    else if a = 0x58 ∧ (rest.drop 3).take 2 = [0xFE, 0xFF] ∧ rest.getD 9 0 = 0xCD then
      (alarmEvent (word rest 10)).toList ++ scanForAlarmFrame (tail.drop 15)
    else scanForAlarmFrame tail
termination_by rest.length
decreasing_by
  all_goals simp only [List.length_cons, List.length_drop]
  all_goals omega

/-! ## `_on_notification` -/

/-- What a notification does: the client it leaves, the events it fires, and what it hands to
`_resolve_pending_acks`, a command and its frame for each `_parse_response`. -/
structure Received where
  client : Client
  events : List Event := []
  echoes : List (ℕ × Bytes) := []

/-- `_parse_response`. -/
def Received.parseResponse (r : Received) (frame : Bytes) : Except PyErr Received := do
  let cmd ← frameCommand frame
  let echoes := r.echoes ++ [(cmd, frame)]
  match Response.ofCode cmd with
  | none => return { r with echoes := echoes }
  | some response =>
    let handled := handleResponse r.client.status response frame
    return { client := { r.client with status := handled.1 }
             events := r.events ++ handled.2.toList
             echoes := echoes }

/-- The body of `_on_notification`'s loop. -/
def Received.receive (r : Received) (frame : Bytes) : Except PyErr Received :=
  Received.parseResponse { r with client := r.client.scanForStatusFrame frame } frame

/-- The client when the loop begins, and the alarms already fired. -/
def preScan (c : Client) (raw : Bytes) : Received :=
  let s := if c.status.serialNumber = "" then scanForMachineInfo raw c.status 0 raw else c.status
  { client := { c with status := scanForAdvancedSettings s raw }, events := scanForAlarmFrame raw }

/-- `_on_notification` ends like this: with what it did, or with what it raised. -/
def OnNotification (c : Client) (raw : Bytes) (r : Except PyErr Received) : Prop :=
  Loops iterFrames Received.receive raw (preScan c raw) r

/-! ## Whole frames -/

/-- A whole frame. -/
structure WholeFrame (frame : Bytes) : Prop where
  long : 12 ≤ frame.length
  short : frame.length ≤ maxPacketLen
  header : frame.headD 0 ∈ headerBytes
  marker : frame.getD 9 0 ∈ validMarkerBytes
  length : lengthField frame = frame.length

/-- What begins here looks like a frame, and its length field leaves no room for one. -/
structure ShortFrame (rest : Bytes) : Prop where
  header : rest.headD 0 ∈ headerBytes
  fields : 10 ≤ rest.length
  short : lengthField rest < 12
  marker : rest.getD 9 0 ∈ validMarkerBytes
  fits : lengthField rest ≤ rest.length

/-- **When the scanner takes a frame**, and how much of the buffer. -/
theorem frameVerdict_eq_take_iff {rest : Bytes} {n : ℕ} :
    frameVerdict rest = .take n ↔ rest.headD 0 ∈ headerBytes ∧ 10 ≤ rest.length ∧
      lengthField rest ≤ maxPacketLen ∧ rest.getD 9 0 ∈ validMarkerBytes ∧
      lengthField rest ≤ rest.length ∧ lengthField rest = n := by
  unfold frameVerdict
  split_ifs with hheader hfields hbound hmarker hfits
  · exact ⟨nofun, fun h => absurd h.2.1 (not_le.mpr hfields)⟩
  · exact ⟨nofun, fun h => absurd h.2.2.1 (not_le.mpr hbound)⟩
  · exact ⟨nofun, fun h => absurd h.2.2.2.2.1 (not_le.mpr hfits)⟩
  · constructor
    · intro h
      exact ⟨hheader, not_lt.mp hfields, not_lt.mp hbound, hmarker, not_lt.mp hfits,
        Verdict.take.inj h⟩
    · rintro ⟨_, _, _, _, _, rfl⟩
      rfl
  · exact ⟨nofun, fun h => absurd h.2.2.2.1 hmarker⟩
  · exact ⟨nofun, fun h => absurd h.1 hheader⟩

/-- What the scanner takes is as long as its length field says. -/
theorem lengthField_take {rest : Bytes} {n : ℕ} (hn : 9 ≤ n) :
    lengthField (rest.take n) = lengthField rest := by
  unfold lengthField
  rw [List.drop_take, List.take_take, min_eq_left (by omega)]

/-- **A frame that is taken is whole**, unless its length field is short. -/
theorem wholeFrame_of_take {rest : Bytes} {n : ℕ} (h : frameVerdict rest = .take n)
    (hshort : ¬ ShortFrame rest) : WholeFrame (rest.take n) := by
  obtain ⟨hheader, hfields, hbound, hmarker, hfits, rfl⟩ := frameVerdict_eq_take_iff.mp h
  have hlong : 12 ≤ lengthField rest := by
    by_contra hlt
    exact hshort ⟨hheader, hfields, not_le.mp hlt, hmarker, hfits⟩
  have hlength : (rest.take (lengthField rest)).length = lengthField rest :=
    List.length_take_of_le hfits
  refine ⟨hlength.symm ▸ hlong, hlength.symm ▸ hbound, ?_, ?_, ?_⟩
  · rw [List.headD_eq_head?_getD, List.head?_take, if_neg (by omega), ← List.headD_eq_head?_getD]
    exact hheader
  · rw [List.getD_eq_getElem?_getD, List.getElem?_take_of_lt (by omega),
      ← List.getD_eq_getElem?_getD]
    exact hmarker
  · rw [lengthField_take (by omega), hlength]

theorem WholeFrame.command {frame : Bytes} (h : WholeFrame frame) :
    ∃ cmd, frameCommand frame = .ok cmd := by
  have hlong := h.long
  refine ⟨_, if_pos ?_⟩
  rw [List.length_take, List.length_drop]
  omega

/-! ## Every buffer -/

/-- `_parse_response` raises on no frame that has a command, and hands it on. -/
theorem receive_ok {frame : Bytes} {cmd : ℕ} (h : frameCommand frame = .ok cmd) (r : Received) :
    ∃ r', r.receive frame = .ok r' ∧ r'.echoes = r.echoes ++ [(cmd, frame)] := by
  cases hresponse : Response.ofCode cmd with
  | none =>
    refine ⟨{ r with
      client := r.client.scanForStatusFrame frame, echoes := r.echoes ++ [(cmd, frame)] }, ?_, rfl⟩
    simp only [Received.receive, Received.parseResponse, h, bind, Except.bind, hresponse]
    rfl
  | some response =>
    let client := r.client.scanForStatusFrame frame
    let handled := handleResponse client.status response frame
    refine ⟨⟨{ client with status := handled.1 }, r.events ++ handled.2.toList,
      r.echoes ++ [(cmd, frame)]⟩, ?_, rfl⟩
    simp only [Received.receive, Received.parseResponse, h, bind, Except.bind, hresponse]
    rfl

/-- Frames with commands are all received, in order. -/
theorem foldlM_receive {frames : List Bytes} (h : ∀ f ∈ frames, ∃ cmd, frameCommand f = .ok cmd)
    (r : Received) : ∃ r', frames.foldlM Received.receive r = .ok r' ∧
      r'.echoes.map Prod.snd = r.echoes.map Prod.snd ++ frames := by
  induction frames generalizing r with
  | nil => exact ⟨r, rfl, by rw [List.append_nil]⟩
  | cons f frames ih =>
    obtain ⟨cmd, hcmd⟩ := h f List.mem_cons_self
    obtain ⟨r₁, hreceive, hechoes⟩ := receive_ok hcmd r
    obtain ⟨r₂, hfold, hall⟩ := ih (fun f hf => h f (List.mem_cons_of_mem _ hf)) r₁
    refine ⟨r₂, ?_, ?_⟩
    · rw [List.foldlM_cons, hreceive]
      exact hfold
    · rw [hall, hechoes, List.map_append, List.append_assoc]
      rfl

/-- The frame scanner is safe on a buffer: it yields consecutive whole frames and ends, and
`_on_notification` ends without raising and parses each of them. -/
def SafeOn (raw : Bytes) : Prop :=
  ∃ frames, Yields iterFrames raw frames ∧ Slices frames raw ∧ (∀ f ∈ frames, WholeFrame f) ∧
    ∀ c, ∃ r, OnNotification c raw (.ok r) ∧ r.echoes.map Prod.snd = frames

/-- A short length field makes the scanner yield less than a frame, or stand still. -/
theorem not_shortFrame_of_safeOn {raw : Bytes} (h : SafeOn raw) {rest : Bytes}
    (hcomes : Comes frameVerdict raw rest) : ¬ ShortFrame rest := by
  obtain ⟨frames, hyields, _, hwhole, _⟩ := h
  intro hshort
  -- from there the scan takes fewer than twelve bytes
  obtain ⟨pieces, hscans, hsub⟩ := Scans.of_comes hcomes hyields
  have htake : frameVerdict rest = .take (lengthField rest) := by
    have hlt := hshort.short
    refine frameVerdict_eq_take_iff.mpr ⟨hshort.header, hshort.fields, ?_, hshort.marker,
      hshort.fits, rfl⟩
    unfold maxPacketLen
    omega
  cases rest with
  | nil => exact absurd hshort.fields (by simp)
  | cons a tail =>
    have hnext := nextPiece_take htake
    cases hscans with
    | ends hnone => exact absurd (hnone.symm.trans hnext) (by simp)
    | item hsome _ =>
      obtain ⟨rfl, _⟩ := Prod.mk.inj (Option.some.inj (hsome.symm.trans hnext))
      have hlong := (hwhole _ (hsub List.mem_cons_self)).long
      have hlt := hshort.short
      rw [List.length_take] at hlong
      omega

/-- Where the scan comes to no short length field, it moves on and yields whole frames. -/
theorem safeOn_of_not_shortFrame {raw : Bytes}
    (hnone : ∀ rest, Comes frameVerdict raw rest → ¬ ShortFrame rest) : SafeOn raw := by
  have hprogress : ∀ a rest n, Comes frameVerdict raw (a :: rest) →
      frameVerdict (a :: rest) = .take n → 0 < n := by
    intro a rest n hcomes htake
    have hlong := (wholeFrame_of_take htake (hnone _ hcomes)).long
    rw [List.length_take] at hlong
    omega
  obtain ⟨frames, hscans⟩ := scans_of_progress hprogress
  have hwhole : ∀ f ∈ frames, WholeFrame f := by
    intro f hf
    obtain ⟨a, rest, n, hcomes, htake, rfl⟩ := hscans.mem hf
    exact wholeFrame_of_take htake (hnone _ hcomes)
  refine ⟨frames, hscans, hscans.slices, hwhole, fun c => ?_⟩
  obtain ⟨r, hfold, hechoes⟩ := foldlM_receive (fun f hf => (hwhole f hf).command) (preScan c raw)
  refine ⟨r, ?_, hechoes⟩
  have hloops : Loops iterFrames Received.receive raw (preScan c raw) _ := Yields.loops hscans
  rw [hfold] at hloops
  exact hloops

/-- **The scanner is safe exactly on the buffers in which it comes to no short length field.** -/
theorem notification_safe_iff (raw : Bytes) :
    SafeOn raw ↔ ∀ rest, Comes frameVerdict raw rest → ¬ ShortFrame rest :=
  ⟨fun h _ hcomes => not_shortFrame_of_safeOn h hcomes, safeOn_of_not_shortFrame⟩

/-- A header and a marker around a length field of zero: the scanner stands still, and takes the
empty frame again and again. -/
theorem notification_zero_length_unsafe :
    ¬ SafeOn [0x58, 0x01, 0x01, 0x9C, 0x1F, 0x00, 0x00, 0x00, 0x00, 0xC1] :=
  fun h => not_shortFrame_of_safeOn h (.here _) ⟨by decide, by decide, by decide, by decide,
    by decide⟩

end XBloom.Telemetry
