/-
# XBloom.Ble.Scanner — reading the machine's frames out of a notification

`iter_frames` walks a notification buffer byte by byte for a header, reads a length behind it, and
takes the frame when the length is within bounds, the marker is a response's and the buffer holds it
whole.  Everything it looks at lies at the offset it stands at, so what is left of the buffer is its
whole state, and its loop body is a verdict on that (`frameVerdict`).

`scans_notification` is the round trip: frames of the machine's shape, with noise between them and a frame
cut off at the end, are read back one by one.
-/
import XBloom.Ble.Framing
import XBloom.Codec.Scans

namespace XBloom.Ble

open XBloom.Py XBloom.Codec

/-! ## The source's functions -/

/-- `_HEADER_BYTES`. -/
def headerBytes : List UInt8 := [0x58, 0x02]

/-- `_VALID_MARKER_BYTES`. -/
def validMarkerBytes : List UInt8 := [0xC1, 0xC2]

/-- `MAX_PACKET_LEN`. -/
def maxPacketLen : ℕ := 256

/-- The length field of a frame that starts here. -/
def lengthField (rest : Bytes) : ℕ := ofLittleEndian ((rest.drop 5).take 4)

/-- The body of `iter_frames`' loop, with `rest` for `raw_data[offset:]`. -/
def frameVerdict (rest : Bytes) : Verdict :=
  if rest.headD 0 ∉ headerBytes then .skip
  else if rest.length < 10 then .leave
  else if maxPacketLen < lengthField rest then .skip
  else if rest.getD 9 0 ∉ validMarkerBytes then .skip
  else if rest.length < lengthField rest then .leave
  else .take (lengthField rest)

/-- `iter_frames`: its next frame, with what is left of the buffer behind it. -/
def iterFrames (rawData : Bytes) : Option (Bytes × Bytes) := nextPiece frameVerdict rawData

/-- `struct.unpack` of a number that is `k` bytes wide. -/
def unpackLE (k : ℕ) (data : Bytes) : Except PyErr ℕ :=
  if data.length = k then .ok (ofLittleEndian data) else .error .structError

/-- `frame_command`. -/
def frameCommand (frame : Bytes) : Except PyErr ℕ := unpackLE 2 ((frame.drop 3).take 2)

/-- `frame_payload`: `frame[10:-2]`. -/
def framePayload (frame : Bytes) : Bytes :=
  if 12 < frame.length then (frame.take (frame.length - 2)).drop 10 else []

/-! ## What the machine answers -/

/-- A packet as `build_packet_raw` makes it, with a response's marker in place of its constant: a
frame of the machine's, with what it was built from. -/
structure Answer where
  command : ℕ
  typeCode : UInt8
  deviceId : UInt8
  payload : Bytes
  marker : UInt8
  command_lt : command < 65536
  payload_le : payload.length ≤ 244
  marker_mem : marker ∈ validMarkerBytes

namespace Answer

/-- The packet an answer is made from. -/
def packet (a : Answer) : Except PyErr Bytes :=
  buildPacketRaw a.command a.payload a.typeCode.toNat a.deviceId.toNat

/-- The answer on the wire: the packet with byte 9 replaced. -/
def frame (a : Answer) : Bytes :=
  match a.packet with
  | .ok packet => packet.set 9 a.marker
  | .error _ => []

theorem length_lt (a : Answer) : 12 + a.payload.length < 256 ^ 4 := by
  have h := a.payload_le
  omega

end Answer

theorem packLE_of_lt {k n : ℕ} (h : n < 256 ^ k) : packLE k n = .ok (littleEndian k n) := by
  unfold packLE
  rw [if_pos ⟨Int.natCast_nonneg n, by exact_mod_cast h⟩, Int.toNat_natCast]

theorem appendByte_toNat (b : UInt8) : appendByte b.toNat = .ok b := by
  unfold appendByte
  have hlt : (b.toNat : ℤ) < 256 := by exact_mod_cast b.toNat_lt
  rw [if_pos ⟨Int.natCast_nonneg _, hlt⟩, Int.toNat_natCast, UInt8.ofNat_toNat]

/-- **A packet is always built** from a command, two bytes and a payload of this size. -/
theorem Answer.packet_eq (a : Answer) : ∃ crc : Bytes, crc.length = 2 ∧
    a.packet = .ok (0x58 :: a.deviceId :: a.typeCode :: littleEndian 2 a.command ++
      littleEndian 4 (12 + a.payload.length) ++ [0x01] ++ a.payload ++ crc) := by
  have hcommand : a.command < 256 ^ 2 := lt_of_lt_of_eq a.command_lt (by norm_num)
  have hlength := a.length_lt
  have htotal : (12 + (a.payload.length : ℤ)) = ((12 + a.payload.length : ℕ) : ℤ) := by
    push_cast
    rfl
  let covered := 0x58 :: a.deviceId :: a.typeCode :: littleEndian 2 a.command ++
    littleEndian 4 (12 + a.payload.length) ++ [0x01] ++ a.payload
  have hcrc : packLE 2 (crc16 covered : ℤ) = .ok (littleEndian 2 (crc16 covered)) :=
    packLE_of_lt (lt_of_lt_of_eq (crc16_lt covered) (by norm_num))
  refine ⟨littleEndian 2 (crc16 covered), length_littleEndian 2 _, ?_⟩
  unfold Answer.packet buildPacketRaw
  refine bind_eq_ok.mpr ⟨_, appendByte_toNat a.deviceId, ?_⟩
  refine bind_eq_ok.mpr ⟨_, appendByte_toNat a.typeCode, ?_⟩
  refine bind_eq_ok.mpr ⟨_, packLE_of_lt hcommand, ?_⟩
  refine bind_eq_ok.mpr ⟨_, htotal ▸ packLE_of_lt hlength, ?_⟩
  exact bind_eq_ok.mpr ⟨_, hcrc, rfl⟩

namespace Answer

/-- The ten bytes in front of an answer's payload. -/
def preamble (a : Answer) : Bytes :=
  0x58 :: a.deviceId :: a.typeCode :: (littleEndian 2 a.command ++
    littleEndian 4 (12 + a.payload.length) ++ [a.marker])

variable (a : Answer)

@[simp] theorem length_preamble : a.preamble.length = 10 := rfl

theorem frame_eq : ∃ crc : Bytes, crc.length = 2 ∧ a.frame = a.preamble ++ a.payload ++ crc := by
  obtain ⟨crc, hcrc, hpacket⟩ := a.packet_eq
  refine ⟨crc, hcrc, ?_⟩
  unfold frame
  rw [hpacket]
  rfl

@[simp] theorem length_frame : a.frame.length = 12 + a.payload.length := by
  obtain ⟨crc, hcrc, hframe⟩ := a.frame_eq
  rw [hframe, List.length_append, List.length_append, length_preamble, hcrc]
  omega

theorem frame_ne_nil : a.frame ≠ [] := by
  intro hnil
  have hlength := a.length_frame
  rw [hnil, List.length_nil] at hlength
  omega

/-! ## What the scanner makes of it -/

/-- The checks that come before the last one pass on anything that starts like an answer. -/
theorem frameVerdict_preamble (rest : Bytes) :
    frameVerdict (a.preamble ++ rest) =
      if 10 + rest.length < 12 + a.payload.length then .leave else .take (12 + a.payload.length) := by
  -- the fields are where the scanner looks for them
  have hfield : lengthField (a.preamble ++ rest) = 12 + a.payload.length := by
    show ofLittleEndian (littleEndian 4 (12 + a.payload.length)) = _
    exact ofLittleEndian_littleEndian a.length_lt
  have hmarker : (a.preamble ++ rest).getD 9 0 = a.marker := rfl
  have hhead : (a.preamble ++ rest).headD 0 = 0x58 := rfl
  have htotal : (a.preamble ++ rest).length = 10 + rest.length := by
    rw [List.length_append, length_preamble]
  have hbound : ¬ maxPacketLen < 12 + a.payload.length := by
    have h := a.payload_le
    unfold maxPacketLen
    omega
  unfold frameVerdict
  rw [hfield, hmarker, hhead, htotal, if_neg (by simp [headerBytes]), if_neg (by omega),
    if_neg hbound, if_neg (not_not.mpr a.marker_mem)]

/-- **An answer is taken whole**, whatever comes behind it. -/
theorem frameVerdict_frame (rest : Bytes) :
    frameVerdict (a.frame ++ rest) = .take a.frame.length := by
  obtain ⟨crc, hcrc, hframe⟩ := a.frame_eq
  have hverdict := a.frameVerdict_preamble (a.payload ++ crc ++ rest)
  rw [a.length_frame, hframe, List.append_assoc, List.append_assoc, ← List.append_assoc a.payload,
    hverdict, if_neg]
  simp only [List.length_append, hcrc]
  omega

/-- **A cut-off answer is left alone**, and so is all that is behind it: nothing. -/
theorem scans_cut {cut rest : Bytes} (hcut : cut ++ rest = a.frame) (hrest : rest ≠ []) :
    Scans frameVerdict cut [] := by
  refine .ends ?_
  obtain ⟨crc, hcrc, hframe⟩ := a.frame_eq
  have hlength : cut.length + rest.length = 12 + a.payload.length := by
    rw [← a.length_frame, ← hcut, List.length_append]
  have hpos : 0 < rest.length := List.length_pos_iff.mpr hrest
  cases hshape : cut with
  | nil => rfl
  | cons b tail =>
    refine nextPiece_leave ?_
    rw [← hshape]
    by_cases hshort : cut.length < 10
    · -- the header byte is there, but not the fields
      have hb : b = 0x58 := by
        rw [hshape, hframe] at hcut
        exact (List.cons.inj hcut).1
      unfold frameVerdict
      rw [hshape, hb, if_neg (by simp [headerBytes]), ← hb, ← hshape, if_pos hshort]
    · -- the fields are there, but not all of the frame
      obtain ⟨after, hafter⟩ : ∃ after, cut = a.preamble ++ after := by
        refine ⟨cut.drop 10, ?_⟩
        have htake : cut.take 10 = a.preamble := by
          have h := congrArg (List.take 10) hcut
          rw [List.take_append_of_le_length (by omega), hframe, List.append_assoc] at h
          rw [h, List.take_left' a.length_preamble]
        rw [← htake, List.take_append_drop]
      rw [hafter, a.frameVerdict_preamble, if_pos]
      rw [hafter, List.length_append, length_preamble] at hlength
      omega

/-- `frame_command` gives back the command. -/
theorem frameCommand_frame : frameCommand a.frame = .ok a.command := by
  obtain ⟨crc, _, hframe⟩ := a.frame_eq
  rw [hframe]
  show Except.ok (ofLittleEndian (littleEndian 2 a.command)) = _
  rw [ofLittleEndian_littleEndian (lt_of_lt_of_eq a.command_lt (by norm_num))]

/-- `frame_payload` gives back the payload. -/
theorem framePayload_frame : framePayload a.frame = a.payload := by
  obtain ⟨crc, hcrc, hframe⟩ := a.frame_eq
  have hlength := a.length_frame
  unfold framePayload
  split
  · rw [hlength, hframe, List.take_left' (by simp; omega), List.drop_left' a.length_preamble]
  · symm
    rw [← List.length_eq_zero_iff]
    omega

end Answer

/-! ## A whole notification -/

/-- A notification: noise and an answer, again and again, noise, and the start of one more answer. -/
def notification (answers : List (Bytes × Answer)) (noise cut : Bytes) : Bytes :=
  answers.flatMap (fun e => e.1 ++ e.2.frame) ++ (noise ++ cut)

/-- Bytes that no frame starts with. -/
def Noise (bytes : Bytes) : Prop := ∀ b ∈ bytes, b ∉ headerBytes

instance (bytes : Bytes) : Decidable (Noise bytes) :=
  List.decidableBAll _ bytes

theorem frameVerdict_noise {b : UInt8} (h : b ∉ headerBytes) (tail : Bytes) :
    frameVerdict (b :: tail) = .skip := by
  unfold frameVerdict
  exact if_pos h

/-- **Decoding inverts encoding over a whole notification**: with noise around the answers and a
proper prefix of one more behind them, `iter_frames` yields exactly the answers, in order, and ends;
and each gives back its command and its payload. -/
theorem scans_notification (answers : List (Bytes × Answer)) (noise cut : Bytes) (last : Answer)
    (hgaps : ∀ e ∈ answers, Noise e.1) (hnoise : Noise noise) (hcut : cut <+: last.frame)
    (hproper : cut ≠ last.frame) :
    Yields iterFrames (notification answers noise cut) (answers.map fun e => e.2.frame) ∧
      ∀ e ∈ answers, frameCommand e.2.frame = .ok e.2.command ∧
        framePayload e.2.frame = e.2.payload := by
  refine ⟨?_, fun e _ => ⟨e.2.frameCommand_frame, e.2.framePayload_frame⟩⟩
  obtain ⟨rest, hrest⟩ := hcut
  have hne : rest ≠ [] := by
    rintro rfl
    exact hproper (by rw [← hrest, List.append_nil])
  induction answers with
  | nil =>
    have hcut := last.scans_cut hrest hne
    show Scans frameVerdict (noise ++ cut) []
    exact hcut.append_gap fun b hb => frameVerdict_noise (hnoise b hb)
  | cons e answers ih =>
    obtain ⟨gap, answer⟩ := e
    have htail : Scans frameVerdict (notification answers noise cut) _ :=
      ih fun e he => hgaps e (List.mem_cons_of_mem _ he)
    have hgap : Noise gap := hgaps (gap, answer) List.mem_cons_self
    have hsplit : notification ((gap, answer) :: answers) noise cut =
        gap ++ (answer.frame ++ notification answers noise cut) := by
      simp only [notification, List.flatMap_cons, List.append_assoc]
    rw [hsplit]
    have hframe := htail.append_piece answer.frame_ne_nil (answer.frameVerdict_frame _)
    exact hframe.append_gap fun b hb => frameVerdict_noise (hgap b hb)

/-- The machine's answer to a command without words. -/
def echo (command : ℕ) (h : command < 65536) : Answer where
  command := command
  typeCode := 1
  deviceId := 1
  payload := []
  marker := 0xC1
  command_lt := h
  payload_le := by decide
  marker_mem := by decide

/-- Two echoes with noise around them, and the first three bytes of a third. -/
theorem scans_two_echoes :
    Yields iterFrames (notification [([0xFF], echo 8022 (by decide)), ([0, 1], echo 8102 (by decide))]
        [0xC1] ((echo 8104 (by decide)).frame.take 3))
      [(echo 8022 (by decide)).frame, (echo 8102 (by decide)).frame] :=
  (scans_notification [([0xFF], echo 8022 (by decide)), ([0, 1], echo 8102 (by decide))] [0xC1]
    ((echo 8104 (by decide)).frame.take 3) (echo 8104 (by decide)) (by simp [Noise, headerBytes])
    (by decide) (List.take_prefix 3 _) (fun h => by simpa [echo] using congrArg List.length h)).1

end XBloom.Ble
