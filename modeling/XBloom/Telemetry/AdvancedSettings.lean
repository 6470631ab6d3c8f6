/-
# XBloom.Telemetry.AdvancedSettings — the pre-scan for settings beside the frame scan

`_scan_for_advanced_settings` and `iter_frames` walk the same buffer by different rules.  The pre-scan
wants fourteen bytes behind a header where the frame scan wants the whole frame, it passes over the
headers of 0xC1 frames, and so looks for its own inside them, and it reads a value before it has looked
whether the length field leaves room for one.

Both are scanners (`settingsVerdict`, `frameVerdict`), so both have heads: the places where they take
something, told by what is left of the buffer there.  `updatesAgree_iff` says for which buffers they read
the same settings from the same places: the settings the pre-scan stops at are frames the frame scan
comes to, whole and with a value, and none of its stops elsewhere reaches over one.
-/
import XBloom.Telemetry.Resync
import Mathlib.Data.List.Sort

namespace XBloom.Telemetry

open XBloom.Py XBloom.Ble XBloom.Codec

/-! ## The two readings -/

/-- `POUR_RADIUS_GET`, `POUR_RADIUS_SET`, `VIBRATION_AMPLITUDE_GET`, `VIBRATION_AMPLITUDE_SET`. -/
def settingCommands : List ℕ := [11506, 11507, 11508, 11509]

/-- How far `_scan_for_advanced_settings` goes from a header it stops at: as far as the length field
says, and to the end of the buffer when that does not fit. -/
def settingsReach (rest : Bytes) : ℕ :=
  if rest.length < lengthField rest ∨ lengthField rest = 0 then rest.length else lengthField rest

/-- The loop of `_scan_for_advanced_settings` at a place. -/
def settingsVerdict (rest : Bytes) : Verdict :=
  if rest.headD 0 ∉ headerBytes then .skip
  else if rest.length < 14 then .leave
  else if maxPacketLen < lengthField rest then .skip
  else if rest.getD 9 0 ≠ 0xC2 then .skip
  else .take (settingsReach rest)

/-- The command behind a header. -/
def commandAt (rest : Bytes) : ℕ := ofLittleEndian ((rest.drop 3).take 2)

/-- What the pre-scan reads at a place it stops at: the command and the four bytes at offset 10. -/
def headSetting (head : Bytes) : Option (ℕ × ℕ) :=
  if commandAt head ∈ settingCommands then some (commandAt head, word head 10) else none

/-- What a frame says of a setting: marker 0xC2, one of the commands, and a value in its payload. -/
def frameSetting (frame : Bytes) : Option (ℕ × ℕ) :=
  match frameCommand frame with
  | .ok cmd =>
    if frame.getD 9 0 = 0xC2 ∧ cmd ∈ settingCommands ∧ 4 ≤ (framePayload frame).length then
      some (cmd, word (framePayload frame) 0)
    else none
  | .error _ => none

/-- A setting is read: where, by which command, and its value. -/
structure SettingUpdate where
  offset : ℕ
  command : ℕ
  value : ℕ
  deriving DecidableEq, Repr

/-- What is read at a place of a buffer, as an update. -/
def updateAt (raw head : Bytes) (setting : Option (ℕ × ℕ)) : Option SettingUpdate :=
  setting.map fun s => { offset := raw.length - head.length, command := s.1, value := s.2 }

/-- An update of the status. -/
def DeviceStatus.onSetting (s : DeviceStatus) (setting : ℕ × ℕ) : DeviceStatus :=
  s.onAdvancedSetting setting.1 setting.2

/-- **The two scans agree**: both end, and the updates of the pre-scan are those of the frames, at the
same places and in the same order. -/
def UpdatesAgree (raw : Bytes) : Prop :=
  ∃ reads heads, Heads settingsVerdict raw reads ∧ Heads frameVerdict raw heads ∧
    reads.filterMap (fun head => updateAt raw head (headSetting head)) =
      heads.filterMap fun head => updateAt raw head (frameSetting (pieceAt frameVerdict head))

/-! ## The pre-scan as a scanner -/

/-- **When the pre-scan stops**, and how far it goes on. -/
theorem settingsVerdict_eq_take_iff {rest : Bytes} {n : ℕ} :
    settingsVerdict rest = .take n ↔ rest.headD 0 ∈ headerBytes ∧ 14 ≤ rest.length ∧
      lengthField rest ≤ maxPacketLen ∧ rest.getD 9 0 = 0xC2 ∧ settingsReach rest = n := by
  unfold settingsVerdict
  split_ifs with hheader hroom hbound hmarker
  · exact ⟨nofun, fun h => absurd h.2.1 (not_le.mpr hroom)⟩
  · exact ⟨nofun, fun h => absurd h.2.2.1 (not_le.mpr hbound)⟩
  · exact ⟨nofun, fun h => absurd h.2.2.2.1 hmarker⟩
  · constructor
    · intro h
      exact ⟨hheader, not_lt.mp hroom, not_lt.mp hbound, not_not.mp hmarker, Verdict.take.inj h⟩
    · rintro ⟨_, _, _, _, rfl⟩
      rfl
  · exact ⟨nofun, fun h => absurd h.1 hheader⟩

theorem settingsReach_range {rest : Bytes} (h : 14 ≤ rest.length) :
    0 < settingsReach rest ∧ settingsReach rest ≤ rest.length := by
  unfold settingsReach
  split_ifs with hhalts
  · omega
  · omega

/-- **The pre-scan ends.** -/
theorem exists_reads (raw : Bytes) : ∃ reads, Heads settingsVerdict raw reads := by
  have hprogress : ∀ a rest n, Comes settingsVerdict raw (a :: rest) →
      settingsVerdict (a :: rest) = .take n → 0 < n := by
    intro a rest n _ htake
    obtain ⟨_, hroom, _, _, rfl⟩ := settingsVerdict_eq_take_iff.mp htake
    exact (settingsReach_range hroom).1
  obtain ⟨pieces, hscans⟩ := scans_of_progress hprogress
  obtain ⟨reads, hreads, _⟩ := Heads.of_scans hscans
  exact ⟨reads, hreads⟩

/-- A command that is none of the four changes nothing. -/
theorem onAdvancedSetting_of_not_mem {s : DeviceStatus} {cmd value : ℕ} (h : cmd ∉ settingCommands) :
    s.onAdvancedSetting cmd value = s := by
  simp only [settingCommands, List.mem_cons, List.not_mem_nil, or_false, not_or] at h
  unfold DeviceStatus.onAdvancedSetting
  rw [if_neg (by omega), if_neg (by omega)]

/-- One stop of the pre-scan. -/
theorem onAdvancedSetting_eq (s : DeviceStatus) (head : Bytes) :
    s.onAdvancedSetting (commandAt head) (word head 10) =
      (headSetting head).elim s s.onSetting := by
  unfold headSetting
  split
  · rfl
  · rename_i hother
    exact onAdvancedSetting_of_not_mem hother

/-- **`_scan_for_advanced_settings` makes the updates it reads at its stops**, in order. -/
theorem scanForAdvancedSettings_eq {rest : Bytes} {reads : List Bytes}
    (h : Heads settingsVerdict rest reads) (s : DeviceStatus) :
    scanForAdvancedSettings s rest = (reads.filterMap headSetting).foldl DeviceStatus.onSetting s := by
  induction hlength : rest.length using Nat.strongRecOn generalizing rest reads s with
  | _ k ih =>
    cases rest with
    | nil =>
      unfold scanForAdvancedSettings
      cases h with
      | ends _ => rfl
      | item hsome _ => cases hsome
    | cons a tail =>
      rw [List.length_cons] at hlength
      -- where the pre-scan skips a byte, and where it reads and goes on behind
      have hskip : settingsVerdict (a :: tail) = .skip →
          scanForAdvancedSettings s tail = (reads.filterMap headSetting).foldl DeviceStatus.onSetting s :=
        fun hlook => ih tail.length (by omega) ((Heads.skip_iff hlook).mp h) s rfl
      have htake : settingsVerdict (a :: tail) = .take (settingsReach (a :: tail)) → ∃ reads',
          Heads settingsVerdict ((a :: tail).drop (settingsReach (a :: tail))) reads' ∧
          (reads.filterMap headSetting).foldl DeviceStatus.onSetting s =
            (reads'.filterMap headSetting).foldl DeviceStatus.onSetting
              (s.onAdvancedSetting (commandAt (a :: tail)) (word (a :: tail) 10)) := by
        intro hlook
        obtain ⟨reads', rfl, hbehind⟩ := (Heads.take_iff hlook).mp h
        refine ⟨reads', hbehind, ?_⟩
        rw [onAdvancedSetting_eq, List.filterMap_cons]
        cases headSetting (a :: tail) <;> rfl
      have hlook : settingsVerdict (a :: tail) = settingsVerdict (a :: tail) := rfl
      unfold scanForAdvancedSettings
      conv at hlook => rhs; unfold settingsVerdict
      rw [List.headD_cons] at hlook
      by_cases hheader : a ∉ headerBytes
      · rw [if_pos hheader] at hlook ⊢
        exact hskip hlook
      rw [if_neg hheader] at hlook ⊢
      by_cases hroom : (a :: tail).length < 14
      · rw [if_pos hroom] at hlook ⊢
        cases h with
        | ends _ => rfl
        | item hsome _ => exact absurd (hsome.symm.trans (nextHead_leave hlook)) (by simp)
      rw [if_neg hroom] at hlook ⊢
      by_cases hbound : maxPacketLen < lengthField (a :: tail)
      · rw [if_pos hbound] at hlook ⊢
        exact hskip hlook
      rw [if_neg hbound] at hlook ⊢
      by_cases hmarker : (a :: tail).getD 9 0 ≠ 0xC2
      · rw [if_pos hmarker] at hlook ⊢
        exact hskip hlook
      rw [if_neg hmarker] at hlook ⊢
      obtain ⟨reads', hbehind, heq⟩ := htake hlook
      rw [heq]
      unfold settingsReach at hbehind
      by_cases hhalts : (a :: tail).length < lengthField (a :: tail) ∨ lengthField (a :: tail) = 0
      · rw [if_pos hhalts, List.drop_length] at hbehind
        rw [if_pos hhalts]
        cases hbehind with
        | ends _ => rfl
        | item hsome _ => cases hsome
      · rw [if_neg hhalts] at hbehind ⊢
        have hpos : 0 < lengthField (a :: tail) := by omega
        have hdrop : (a :: tail).drop (lengthField (a :: tail)) =
            tail.drop (lengthField (a :: tail) - 1) := by
          conv_lhs => rw [← Nat.sub_add_cancel hpos, List.drop_succ_cons]
        rw [hdrop] at hbehind
        refine ih _ ?_ hbehind _ rfl
        rw [List.length_drop]
        omega

/-! ## What a frame says -/

/-- A frame with a setting in its payload is at least sixteen bytes long. -/
theorem four_le_framePayload_iff (frame : Bytes) :
    4 ≤ (framePayload frame).length ↔ 16 ≤ frame.length := by
  unfold framePayload
  split_ifs with hlong
  · rw [List.length_drop, List.length_take]
    omega
  · simp only [List.length_nil]
    omega

/-- **A frame and the place it is taken at say the same of a setting**, when the frame has a value. -/
theorem frameSetting_take {head : Bytes} {n : ℕ} (hn : 16 ≤ n) (hfits : n ≤ head.length) :
    frameSetting (head.take n) = if head.getD 9 0 = 0xC2 then headSetting head else none := by
  have hlength : (head.take n).length = n := List.length_take_of_le hfits
  have hcmd : frameCommand (head.take n) = .ok (commandAt head) := by
    have hbytes : ((head.take n).drop 3).take 2 = (head.drop 3).take 2 := by
      rw [List.drop_take, List.take_take, min_eq_left (by omega)]
    unfold frameCommand commandAt unpackLE
    rw [hbytes, if_pos]
    rw [List.length_take, List.length_drop]
    omega
  have hmarker : (head.take n).getD 9 0 = head.getD 9 0 := by
    rw [List.getD_eq_getElem?_getD, List.getElem?_take_of_lt (by omega), ← List.getD_eq_getElem?_getD]
  have hvalue : word (framePayload (head.take n)) 0 = word head 10 := by
    unfold framePayload word
    rw [if_pos (by omega), hlength, List.drop_zero, List.take_take, List.drop_take, List.take_take,
      min_eq_left (by omega)]
  have hpayload : 4 ≤ (framePayload (head.take n)).length :=
    (four_le_framePayload_iff _).mpr (by omega)
  unfold frameSetting headSetting
  rw [hcmd]
  simp only [hmarker, hvalue, hpayload, and_true]
  by_cases htype2 : head.getD 9 0 = 0xC2
  · rw [if_pos htype2]
    simp only [htype2, true_and]
  · rw [if_neg htype2, if_neg fun h => htype2 h.1]

/-- A frame without a value says nothing of a setting. -/
theorem frameSetting_eq_none {frame : Bytes} (h : frame.length < 16) : frameSetting frame = none := by
  unfold frameSetting
  split
  · refine if_neg fun hall => ?_
    have hlong := (four_le_framePayload_iff frame).mp hall.2.2
    omega
  · rfl

/-- **What the frame taken at a place says.** -/
theorem frameSetting_pieceAt {head : Bytes} {n : ℕ} (htake : frameVerdict head = .take n)
    {setting : ℕ × ℕ} (h : frameSetting (pieceAt frameVerdict head) = some setting) :
    16 ≤ n ∧ head.getD 9 0 = 0xC2 ∧ headSetting head = some setting := by
  obtain ⟨_, _, _, _, hfits, hn⟩ := frameVerdict_eq_take_iff.mp htake
  unfold pieceAt at h
  rw [htake] at h
  have hlong : 16 ≤ n := by
    by_contra hshort
    rw [frameSetting_eq_none] at h
    · cases h
    · rw [List.length_take]
      omega
  rw [frameSetting_take hlong (by omega)] at h
  split_ifs at h with hmarker
  exact ⟨hlong, hmarker, h⟩

/-! ## Agreement -/

/-- A header the pre-scan reads a setting at. -/
structure SettingsHeader (head : Bytes) : Prop where
  header : head.headD 0 ∈ headerBytes
  room : 14 ≤ head.length
  bound : lengthField head ≤ maxPacketLen
  marker : head.getD 9 0 = 0xC2
  command : commandAt head ∈ settingCommands

/-- A settings frame: whole, of type 2, and with a value. -/
structure SettingsFrame (frame : Bytes) : Prop where
  whole : WholeFrame frame
  setting : (frameSetting frame).isSome

/-- **The two scans are in step on a buffer**:

* the frame scan comes to no frame of length zero, which would hold it;
* every settings header the pre-scan stops at is one the frame scan comes to as well, of a whole frame
  with a value in its payload;
* and where the pre-scan stops at a 0xC2 header the frame scan does not come to, the length field there
  reaches over no settings frame that the frame scan comes to. -/
structure InStep (raw : Bytes) : Prop where
  moves : ∀ rest, Comes frameVerdict raw rest → frameVerdict rest ≠ .take 0
  whole : ∀ head, Comes settingsVerdict raw head → SettingsHeader head →
    Comes frameVerdict raw head ∧ 16 ≤ lengthField head ∧ lengthField head ≤ head.length
  clear : ∀ head n, Comes settingsVerdict raw head → settingsVerdict head = .take n →
    ¬ Comes frameVerdict raw head → ∀ gap frame behind, head = gap ++ (frame ++ behind) →
      Comes frameVerdict raw (frame ++ behind) → SettingsFrame frame → n ≤ gap.length

/-- Places of one buffer with as much left are one place. -/
theorem eq_of_suffix {raw head head' : Bytes} (h : head <:+ raw) (h' : head' <:+ raw)
    (hlength : raw.length - head.length = raw.length - head'.length) : head = head' := by
  have hle := h.length_le
  have hle' := h'.length_le
  obtain ⟨before, rfl⟩ := h
  obtain ⟨before', heq⟩ := h'
  exact (List.append_inj' heq (by omega)).2.symm

/-- An update made at a place. -/
theorem updateAt_eq_some {raw head : Bytes} {setting : Option (ℕ × ℕ)} {u : SettingUpdate}
    (h : updateAt raw head setting = some u) :
    u.offset = raw.length - head.length ∧ setting = some (u.command, u.value) := by
  obtain ⟨s, hs, rfl⟩ := Option.map_eq_some_iff.mp h
  exact ⟨rfl, hs⟩

/-- Updates read at heads come in the order of their offsets. -/
theorem updates_pairwise {raw : Bytes} {look : Bytes → Verdict} {heads : List Bytes}
    (h : Heads look raw heads) (read : Bytes → Option (ℕ × ℕ)) :
    (heads.filterMap fun head => updateAt raw head (read head)).Pairwise
      fun u u' => u.offset < u'.offset := by
  refine List.pairwise_filterMap.mpr ?_
  refine h.pairwise.imp_of_mem fun hmem hmem' hlt => ?_
  intro u hu u' hu'
  have hle := ((h.mem_iff).mp hmem).2.1.suffix.length_le
  rw [(updateAt_eq_some hu).1, (updateAt_eq_some hu').1]
  omega

section

variable {raw : Bytes} {reads heads : List Bytes}

/-- An update of the pre-scan: a settings header it comes to. -/
theorem mem_reads_iff (hreads : Heads settingsVerdict raw reads) (u : SettingUpdate) :
    u ∈ reads.filterMap (fun head => updateAt raw head (headSetting head)) ↔
      ∃ head, Comes settingsVerdict raw head ∧ SettingsHeader head ∧
        updateAt raw head (headSetting head) = some u := by
  rw [List.mem_filterMap]
  constructor
  · rintro ⟨head, hmem, hu⟩
    obtain ⟨_, hcomes, n, htake⟩ := hreads.mem_iff.mp hmem
    obtain ⟨hheader, hroom, hbound, hmarker, _⟩ := settingsVerdict_eq_take_iff.mp htake
    have hcommand : commandAt head ∈ settingCommands := by
      by_contra hother
      have hnone : headSetting head = none := if_neg hother
      rw [hnone] at hu
      cases hu
    exact ⟨head, hcomes, ⟨hheader, hroom, hbound, hmarker, hcommand⟩, hu⟩
  · rintro ⟨head, hcomes, hsettings, hu⟩
    refine ⟨head, hreads.mem_iff.mpr ⟨?_, hcomes, settingsReach head, ?_⟩, hu⟩
    · have hroom := hsettings.room
      exact List.ne_nil_of_length_pos (by omega)
    · exact settingsVerdict_eq_take_iff.mpr
        ⟨hsettings.header, hsettings.room, hsettings.bound, hsettings.marker, rfl⟩

/-- An update of the frame scan: a settings frame it comes to. -/
theorem mem_heads_iff (hheads : Heads frameVerdict raw heads) (u : SettingUpdate) :
    u ∈ heads.filterMap (fun head => updateAt raw head (frameSetting (pieceAt frameVerdict head))) ↔
      ∃ head, Comes frameVerdict raw head ∧ SettingsHeader head ∧ 16 ≤ lengthField head ∧
        lengthField head ≤ head.length ∧ updateAt raw head (headSetting head) = some u := by
  rw [List.mem_filterMap]
  constructor
  · rintro ⟨head, hmem, hu⟩
    obtain ⟨_, hcomes, n, htake⟩ := hheads.mem_iff.mp hmem
    obtain ⟨hoffset, hsetting⟩ := updateAt_eq_some hu
    obtain ⟨hlong, hmarker, hhead⟩ := frameSetting_pieceAt htake hsetting
    obtain ⟨hheader, _, hbound, _, hfits, rfl⟩ := frameVerdict_eq_take_iff.mp htake
    -- only the settings commands make an update
    have hcommand : commandAt head ∈ settingCommands := by
      by_contra hother
      have hnone : headSetting head = none := if_neg hother
      rw [hnone] at hhead
      cases hhead
    refine ⟨head, hcomes, ⟨hheader, by omega, hbound, hmarker, hcommand⟩, hlong, hfits, ?_⟩
    rw [hhead, ← hsetting]
    exact hu
  · rintro ⟨head, hcomes, hsettings, hlong, hfits, hu⟩
    have htake : frameVerdict head = .take (lengthField head) :=
      frameVerdict_eq_take_iff.mpr ⟨hsettings.header, by omega, hsettings.bound,
        hsettings.marker ▸ by decide, hfits, rfl⟩
    refine ⟨head, hheads.mem_iff.mpr ⟨?_, hcomes, _, htake⟩, ?_⟩
    · exact List.ne_nil_of_length_pos (by omega)
    · unfold pieceAt
      rw [htake]
      show updateAt raw head (frameSetting (head.take (lengthField head))) = some u
      rw [frameSetting_take hlong hfits, if_pos hsettings.marker]
      exact hu

/-- **Scans that agree are in step.** -/
theorem UpdatesAgree.inStep (h : UpdatesAgree raw) : InStep raw := by
  obtain ⟨reads, heads, hreads, hheads, heq⟩ := h
  refine ⟨?_, ?_, ?_⟩
  · intro rest hcomes hstill
    obtain ⟨_, hroom, _⟩ := frameVerdict_eq_take_iff.mp hstill
    have hne : rest ≠ [] := List.ne_nil_of_length_pos (by omega)
    exact absurd (hheads.take_pos hcomes hne hstill) (lt_irrefl 0)
  · intro head hcomes hsettings
    have hread : headSetting head = some (commandAt head, word head 10) := if_pos hsettings.command
    have hu : updateAt raw head (headSetting head) =
        some ⟨raw.length - head.length, commandAt head, word head 10⟩ := by rw [hread]; rfl
    have hmem := (mem_reads_iff hreads _).mpr ⟨head, hcomes, hsettings, hu⟩
    rw [heq] at hmem
    obtain ⟨head', hcomes', _, hlong, hfits, hu'⟩ := (mem_heads_iff hheads _).mp hmem
    obtain rfl := eq_of_suffix hcomes.suffix hcomes'.suffix (updateAt_eq_some hu').1
    exact ⟨hcomes', hlong, hfits⟩
  · intro head n hcomes htake hnot gap frame behind hhead hplace hframe
    by_contra hover
    have htaken := hframe.whole.verdict behind
    obtain ⟨setting, hsetting⟩ := Option.isSome_iff_exists.mp hframe.setting
    have hpiece : pieceAt frameVerdict (frame ++ behind) = frame := by
      unfold pieceAt
      rw [htaken]
      exact List.take_left
    have hheads' : frame ++ behind ∈ heads := by
      have hlong := hframe.whole.long
      refine hheads.mem_iff.mpr ⟨List.ne_nil_of_length_pos ?_, hplace, _, htaken⟩
      rw [List.length_append]
      omega
    -- the frame's update is one of the pre-scan's, so the pre-scan comes to the frame
    have hu : updateAt raw (frame ++ behind)
        (frameSetting (pieceAt frameVerdict (frame ++ behind))) =
          some ⟨raw.length - (frame ++ behind).length, setting.1, setting.2⟩ := by
      rw [hpiece, hsetting]
      rfl
    have hmem : ⟨raw.length - (frame ++ behind).length, setting.1, setting.2⟩ ∈ heads.filterMap
        fun head => updateAt raw head (frameSetting (pieceAt frameVerdict head)) :=
      List.mem_filterMap.mpr ⟨_, hheads', hu⟩
    rw [← heq] at hmem
    obtain ⟨head', hcomes', _, hu'⟩ := (mem_reads_iff hreads _).mp hmem
    obtain rfl := eq_of_suffix hplace.suffix hcomes'.suffix (updateAt_eq_some hu').1
    cases gap with
    | nil =>
      rw [hhead] at hnot
      exact hnot hplace
    | cons a gap =>
      rw [List.length_cons] at hover
      rw [hhead, List.cons_append] at hcomes htake
      have hmisses : Misses settingsVerdict raw (frame ++ behind) := .covers hcomes htake (by omega)
      refine hmisses.not_comes ?_ hcomes'
      have hlong := hframe.whole.long
      exact List.ne_nil_of_length_pos (by rw [List.length_append]; omega)

/-- A settings frame the frame scan comes to is one the pre-scan comes to, when they are in step. -/
theorem InStep.comes (h : InStep raw) {place : Bytes} (hcomes : Comes frameVerdict raw place)
    (hsettings : SettingsHeader place) (hlong : 16 ≤ lengthField place)
    (hfits : lengthField place ≤ place.length) : Comes settingsVerdict raw place := by
  obtain ⟨before, hraw⟩ := hcomes.suffix
  have hne : place ≠ [] := List.ne_nil_of_length_pos (by omega)
  have hreach : Comes settingsVerdict (before ++ place) place ∨
      Misses settingsVerdict (before ++ place) place := comes_or_misses before place
  rw [hraw] at hreach
  rcases hreach with hreach | hmisses
  · exact hreach
  · exfalso
    cases hmisses with
    | @leave a gap hstop hlook =>
      -- there is room for a header before the place
      unfold settingsVerdict at hlook
      simp only [List.length_cons, List.length_append] at hlook
      split_ifs at hlook with hheader hroom hbound hmarker
      omega
    | @still a gap hstop hlook =>
      obtain ⟨_, hroom, _, _, hzero⟩ := settingsVerdict_eq_take_iff.mp hlook
      have hpos := (settingsReach_range hroom).1
      omega
    | @covers a gap n hstop hlook hn =>
      obtain ⟨hheader, hroom, hbound, hmarker, hreach⟩ := settingsVerdict_eq_take_iff.mp hlook
      by_cases hboth : Comes frameVerdict raw (a :: (gap ++ place))
      · -- the frame scan goes as far from there, if it goes on at all
        by_cases hhalts : (a :: (gap ++ place)).length < lengthField (a :: (gap ++ place)) ∨
            lengthField (a :: (gap ++ place)) = 0
        · have hfalse : FalseHeader (a :: (gap ++ place)) :=
            ⟨hheader, by omega, hbound, hmarker ▸ by decide, hhalts⟩
          rcases hfalse.verdict with hleave | hstill
          · exact (Misses.leave hboth hleave).not_comes hne hcomes
          · exact h.moves _ hboth hstill
        · obtain ⟨hshort, hpos⟩ := not_or.mp hhalts
          unfold settingsReach at hreach
          rw [if_neg hhalts] at hreach
          have htake : frameVerdict (a :: (gap ++ place)) = .take n :=
            frameVerdict_eq_take_iff.mpr ⟨hheader, by omega, hbound, hmarker ▸ by decide,
              not_lt.mp hshort, hreach⟩
          exact (Misses.covers hboth htake hn).not_comes hne hcomes
      · have hwhole : WholeFrame (place.take (lengthField place)) := by
          refine wholeFrame_of_take (frameVerdict_eq_take_iff.mpr ⟨hsettings.header, by omega,
            hsettings.bound, hsettings.marker ▸ by decide, hfits, rfl⟩) fun hshort => ?_
          have hlt := hshort.short
          omega
        have hsetting : (frameSetting (place.take (lengthField place))).isSome := by
          rw [frameSetting_take hlong hfits, if_pos hsettings.marker]
          unfold headSetting
          rw [if_pos hsettings.command]
          rfl
        have hsplit : a :: (gap ++ place) = (a :: gap) ++ (place.take (lengthField place) ++
            place.drop (lengthField place)) := by rw [List.take_append_drop, List.cons_append]
        have hover := h.clear _ n hstop hlook hboth (a :: gap) _ _ hsplit
          (by rw [List.take_append_drop]; exact hcomes) ⟨hwhole, hsetting⟩
        rw [List.length_cons] at hover
        omega

/-- **Scans that are in step agree.** -/
theorem InStep.updatesAgree (h : InStep raw) : UpdatesAgree raw := by
  obtain ⟨reads, hreads⟩ := exists_reads raw
  have hprogress : ∀ a rest n, Comes frameVerdict raw (a :: rest) →
      frameVerdict (a :: rest) = .take n → 0 < n := by
    intro a rest n hcomes htake
    rcases Nat.eq_zero_or_pos n with rfl | hpos
    · exact absurd htake (h.moves _ hcomes)
    · exact hpos
  obtain ⟨frames, hscans⟩ := scans_of_progress hprogress
  obtain ⟨heads, hheads, _⟩ := Heads.of_scans hscans
  have hirrefl : Std.Irrefl fun u u' : SettingUpdate => u.offset < u'.offset :=
    ⟨fun u => lt_irrefl u.offset⟩
  have hantisymm : Std.Antisymm fun u u' : SettingUpdate => u.offset < u'.offset :=
    ⟨fun u u' hlt hgt => absurd (lt_trans hlt hgt) (lt_irrefl u.offset)⟩
  refine ⟨reads, heads, hreads, hheads,
    (updates_pairwise hreads _).eq_of_mem_iff (updates_pairwise hheads _) fun u => ?_⟩
  rw [mem_reads_iff hreads, mem_heads_iff hheads]
  constructor
  · rintro ⟨head, hcomes, hsettings, hu⟩
    obtain ⟨hcomes', hlong, hfits⟩ := h.whole head hcomes hsettings
    exact ⟨head, hcomes', hsettings, hlong, hfits, hu⟩
  · rintro ⟨head, hcomes, hsettings, hlong, hfits, hu⟩
    exact ⟨head, h.comes hcomes hsettings hlong hfits, hsettings, hu⟩

/-- **The pre-scan's updates are those of the frames, exactly when** the two scans are in step; and then
the pre-scan leaves the status that folding over the frames would. -/
theorem updatesAgree_iff (raw : Bytes) :
    (UpdatesAgree raw ↔ InStep raw) ∧
      (UpdatesAgree raw → ∀ s, ∃ frames, Yields iterFrames raw frames ∧
        scanForAdvancedSettings s raw =
          (frames.filterMap frameSetting).foldl DeviceStatus.onSetting s) := by
  refine ⟨⟨UpdatesAgree.inStep, InStep.updatesAgree⟩, ?_⟩
  rintro ⟨reads, heads, hreads, hheads, heq⟩ s
  refine ⟨heads.map (pieceAt frameVerdict), hheads.scans, ?_⟩
  -- the updates without their offsets
  have hdrop : ∀ (l : List Bytes) (read : Bytes → Option (ℕ × ℕ)),
      (l.filterMap fun head => updateAt raw head (read head)).map (fun u => (u.command, u.value)) =
        l.filterMap read := by
    intro l read
    rw [List.map_filterMap]
    congr 1
    funext head
    unfold updateAt
    cases read head <;> rfl
  have hsettings := congrArg (List.map fun u : SettingUpdate => (u.command, u.value)) heq
  rw [hdrop reads headSetting, hdrop heads fun head => frameSetting (pieceAt frameVerdict head)]
    at hsettings
  rw [scanForAdvancedSettings_eq hreads, hsettings, List.filterMap_map]
  rfl

/-- **An acknowledgement without a value is read as one**: the two bytes of its checksum and the first
two of the next frame. -/
theorem empty_ack_read :
    ¬ UpdatesAgree ([0x58, 0x01, 0x02, 0xF3, 0x2C, 0x0C, 0x00, 0x00, 0x00, 0xC2, 0x80, 0x41] ++
      [0x58, 0x01, 0x01, 0x56, 0x1F, 0x0C, 0x00, 0x00, 0x00, 0xC1, 0xC0, 0x15]) := by
  intro h
  have hlong := (h.inStep.whole _ (.here _)
    ⟨by decide, by decide, by decide, by decide, by decide⟩).2.1
  exact absurd hlong (by decide)

end

end XBloom.Telemetry
