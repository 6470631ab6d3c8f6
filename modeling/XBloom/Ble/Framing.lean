/-
# XBloom.Ble.Framing — outbound packets, their checksum and their split into writes

    header(0x58) | dev_id | type | cmd(2 LE) | len(4 LE) | const(0x01) | payload | crc(2)

The length counts the whole packet, so a reader needs nothing but the header to find its end
(`takePacket_append`), however the packet was cut into writes.
-/
import XBloom.Py.Number
import Mathlib.Algebra.Order.Floor.Defs
import Mathlib.Data.Nat.Bitwise

namespace XBloom.Ble

open XBloom.Py

/-- Byte strings. -/
abbrev Bytes := List UInt8

/-! ## Little-endian words -/

/-- The `k` low bytes of a number, lowest first. -/
def littleEndian : ℕ → ℕ → Bytes
  | 0, _ => []
  | k + 1, n => UInt8.ofNat n :: littleEndian k (n / 256)

/-- The number that bytes stand for, lowest first. -/
def ofLittleEndian : Bytes → ℕ
  | [] => 0
  | b :: rest => b.toNat + 256 * ofLittleEndian rest

/-- `struct.pack` of a number that is `k` bytes wide: `<H` for two, `<I` for four. -/
def packLE (k : ℕ) (n : ℤ) : Except PyErr Bytes :=
  if 0 ≤ n ∧ n < 256 ^ k then .ok (littleEndian k n.toNat) else .error .structError

@[simp] theorem length_littleEndian (k n : ℕ) : (littleEndian k n).length = k := by
  induction k generalizing n with
  | zero => rfl
  | succ k ih => simp only [littleEndian, List.length_cons, ih]

/-- **A word round trips** when it fits its width. -/
theorem ofLittleEndian_littleEndian {k n : ℕ} (h : n < 256 ^ k) :
    ofLittleEndian (littleEndian k n) = n := by
  induction k generalizing n with
  | zero => simp_all [littleEndian, ofLittleEndian]
  | succ k ih =>
    have hrest : n / 256 < 256 ^ k := by
      rw [pow_succ] at h
      exact Nat.div_lt_of_lt_mul (by omega)
    show (UInt8.ofNat n).toNat + 256 * ofLittleEndian (littleEndian k (n / 256)) = n
    rw [ih hrest, UInt8.toNat_ofNat']
    omega

theorem packLE_eq_ok {k : ℕ} {n : ℤ} {bytes : Bytes} (h : packLE k n = .ok bytes) :
    bytes.length = k ∧ (ofLittleEndian bytes : ℤ) = n := by
  unfold packLE at h
  split at h
  · rename_i hrange
    obtain rfl : littleEndian k n.toNat = bytes := Except.ok.inj h
    have hfits : n.toNat < 256 ^ k :=
      (Int.toNat_lt hrange.1).mpr (by exact_mod_cast hrange.2)
    rw [length_littleEndian, ofLittleEndian_littleEndian hfits]
    exact ⟨rfl, Int.toNat_of_nonneg hrange.1⟩
  · cases h

/-! ## The checksum -/

/-- One bit of `crc16`. -/
def crcBit (crc : ℕ) : ℕ := if crc &&& 1 ≠ 0 then (crc >>> 1) ^^^ 0x8408 else crc >>> 1

/-- One byte of `crc16`. -/
def crcByte (crc : ℕ) (byte : UInt8) : ℕ := crcBit^[8] (crc ^^^ byte.toNat)

/-- `crc16`. -/
def crc16 (data : Bytes) : ℕ := data.foldl crcByte 0

theorem crcBit_lt {crc : ℕ} (h : crc < 2 ^ 16) : crcBit crc < 2 ^ 16 := by
  have hshift : crc >>> 1 < 2 ^ 16 := by
    rw [Nat.shiftRight_one]
    omega
  unfold crcBit
  split
  · exact Nat.xor_lt_two_pow hshift (by norm_num)
  · exact hshift

theorem crcByte_lt {crc : ℕ} (h : crc < 2 ^ 16) (byte : UInt8) : crcByte crc byte < 2 ^ 16 := by
  have hbits : ∀ n c, c < 2 ^ 16 → crcBit^[n] c < 2 ^ 16 := by
    intro n
    induction n with
    | zero => exact fun c hc => hc
    | succ n ih => exact fun c hc => ih _ (crcBit_lt hc)
  have hbyte : byte.toNat < 2 ^ 16 := lt_trans byte.toNat_lt (by norm_num)
  exact hbits 8 _ (Nat.xor_lt_two_pow h hbyte)

/-- **The checksum fits its two bytes**, so packing it never fails. -/
theorem crc16_lt (data : Bytes) : crc16 data < 2 ^ 16 := by
  have hfold : ∀ (data : Bytes) c, c < 2 ^ 16 → data.foldl crcByte c < 2 ^ 16 := by
    intro data
    induction data with
    | nil => exact fun c hc => hc
    | cons byte rest ih => exact fun c hc => ih _ (crcByte_lt hc byte)
  exact hfold data 0 (by norm_num)

/-! ## Packets -/

/-- `bytearray.append`. -/
def appendByte (n : ℤ) : Except PyErr UInt8 :=
  if 0 ≤ n ∧ n < 256 then .ok (UInt8.ofNat n.toNat)
  else .error (.valueError [.lit "byte must be in range(0, 256)"])

/-- `build_packet_raw`. -/
def buildPacketRaw (command : ℤ) (data : Bytes) (typeCode deviceId : ℤ) : Except PyErr Bytes := do
  let device ← appendByte deviceId
  let type ← appendByte typeCode
  let commandBytes ← packLE 2 command
  let length ← packLE 4 (12 + data.length)
  let packet := 0x58 :: device :: type :: commandBytes ++ length ++ [0x01] ++ data
  let crc ← packLE 2 (crc16 packet)
  return packet ++ crc

/-- `build_packet`. -/
def buildPacket (command : ℤ) (data : List ℤ) (typeCode deviceId : ℤ) : Except PyErr Bytes := do
  let words ← data.mapM (packLE 4)
  buildPacketRaw command words.flatten typeCode deviceId

/-- What a packet is made of. -/
theorem buildPacketRaw_eq_ok {command : ℤ} {data : Bytes} {typeCode deviceId : ℤ} {packet : Bytes}
    (h : buildPacketRaw command data typeCode deviceId = .ok packet) :
    ∃ device type commandBytes length crc, packet =
        0x58 :: device :: type :: commandBytes ++ length ++ [0x01] ++ data ++ crc ∧
      commandBytes.length = 2 ∧ length.length = 4 ∧ crc.length = 2 ∧
      ofLittleEndian length = 12 + data.length := by
  unfold buildPacketRaw at h
  obtain ⟨device, _, h⟩ := bind_eq_ok.mp h
  obtain ⟨type, _, h⟩ := bind_eq_ok.mp h
  obtain ⟨commandBytes, hcommand, h⟩ := bind_eq_ok.mp h
  obtain ⟨length, hlength, h⟩ := bind_eq_ok.mp h
  obtain ⟨crc, hcrc, h⟩ := bind_eq_ok.mp h
  obtain ⟨hlength, hvalue⟩ := packLE_eq_ok hlength
  exact ⟨device, type, commandBytes, length, crc, (Except.ok.inj h).symm, (packLE_eq_ok hcommand).1,
    hlength, (packLE_eq_ok hcrc).1, by exact_mod_cast hvalue⟩

/-- A byte string that one of the two builders returns. -/
def IsPacket (packet : Bytes) : Prop :=
  ∃ command data typeCode deviceId, buildPacketRaw command data typeCode deviceId = .ok packet

theorem isPacket_of_buildPacket {command : ℤ} {data : List ℤ} {typeCode deviceId : ℤ}
    {packet : Bytes} (h : buildPacket command data typeCode deviceId = .ok packet) :
    IsPacket packet := by
  unfold buildPacket at h
  obtain ⟨words, _, h⟩ := bind_eq_ok.mp h
  exact ⟨command, words.flatten, typeCode, deviceId, h⟩

/-! ## Reading packets off a stream -/

/-- Cut the first packet off a stream by its header and its length alone. -/
def takePacket (stream : Bytes) : Bytes × Bytes :=
  stream.splitAt (ofLittleEndian ((stream.drop 5).take 4))

/-- **A packet is found whole** at the head of any stream that starts with it. -/
theorem takePacket_append {packet : Bytes} (h : IsPacket packet) (rest : Bytes) :
    takePacket (packet ++ rest) = (packet, rest) := by
  obtain ⟨command, data, typeCode, deviceId, h⟩ := h
  obtain ⟨device, type, commandBytes, length, crc, rfl, hcommand, hlength, hcrc, hvalue⟩ :=
    buildPacketRaw_eq_ok h
  match commandBytes, hcommand with
  | [c₀, c₁], _ =>
    match length, hlength with
    | [l₀, l₁, l₂, l₃], _ =>
      have htotal : (0x58 :: device :: type :: [c₀, c₁] ++ [l₀, l₁, l₂, l₃] ++ [0x01] ++ data ++
          crc : Bytes).length = ofLittleEndian [l₀, l₁, l₂, l₃] := by
        rw [hvalue]
        simp only [List.length_append, List.length_cons, List.length_nil, hcrc]
        omega
      unfold takePacket
      rw [show ((0x58 :: device :: type :: [c₀, c₁] ++ [l₀, l₁, l₂, l₃] ++ [0x01] ++ data ++ crc ++
        rest : Bytes).drop 5).take 4 = [l₀, l₁, l₂, l₃] from rfl, ← htotal, List.splitAt_eq]
      simp only [List.take_left', List.drop_left']

theorem IsPacket.ne_nil {packet : Bytes} (h : IsPacket packet) : packet ≠ [] := by
  obtain ⟨command, data, typeCode, deviceId, h⟩ := h
  obtain ⟨device, type, commandBytes, length, crc, rfl, _⟩ := buildPacketRaw_eq_ok h
  simp

/-! ## Splitting into writes -/

/-- The size of a write: `min(100, mtu-3)`, with the floor of 20. -/
def chunkSize (mtuSize : ℤ) : ℕ := (max 20 (min 100 (mtuSize - 3))).toNat

/-- `split_write_chunks`. -/
def splitWriteChunks (data : Bytes) (mtuSize : ℤ) : List Bytes :=
  (List.range ((data.length + chunkSize mtuSize - 1) / chunkSize mtuSize)).map fun i =>
    (data.drop (i * chunkSize mtuSize)).take (chunkSize mtuSize)

theorem chunkSize_pos (mtuSize : ℤ) : 0 < chunkSize mtuSize := by
  unfold chunkSize
  omega

/-- The first `m` slices of a list are what it starts with. -/
theorem slices_flatten {α : Type} (data : List α) (k m : ℕ) :
    ((List.range m).map fun i => (data.drop (i * k)).take k).flatten = data.take (m * k) := by
  induction m with
  | zero => simp
  | succ m ih =>
    rw [List.range_succ, List.map_append, List.flatten_append, ih, Nat.succ_mul, List.take_add]
    simp

theorem le_ceil_mul {n k : ℕ} (hk : 0 < k) : n ≤ (n + k - 1) / k * k := by
  have hdiv := Nat.div_add_mod (n + k - 1) k
  have hmod := Nat.mod_lt (n + k - 1) hk
  rw [Nat.mul_comm] at hdiv
  omega

/-- **A packet is the concatenation of its chunks.** -/
theorem splitWriteChunks_flatten (data : Bytes) (mtuSize : ℤ) :
    (splitWriteChunks data mtuSize).flatten = data := by
  unfold splitWriteChunks
  rw [slices_flatten]
  exact List.take_of_length_le (le_ceil_mul (chunkSize_pos mtuSize))

/-- **Every chunk has between 1 and `max(20, min(100, mtu-3))` bytes.** -/
theorem splitWriteChunks_length {data chunk : Bytes} {mtuSize : ℤ}
    (h : chunk ∈ splitWriteChunks data mtuSize) :
    1 ≤ chunk.length ∧ (chunk.length : ℤ) ≤ max 20 (min 100 (mtuSize - 3)) := by
  have hpos := chunkSize_pos mtuSize
  obtain ⟨i, hi, rfl⟩ := List.mem_map.mp h
  -- a slice that is taken starts before the end of the data
  have hstart : i * chunkSize mtuSize < data.length := by
    have hi := Nat.mul_le_mul_right (chunkSize mtuSize) (Nat.succ_le_of_lt (List.mem_range.mp hi))
    have hceil := Nat.div_mul_le_self (data.length + chunkSize mtuSize - 1) (chunkSize mtuSize)
    rw [Nat.succ_mul] at hi
    omega
  rw [List.length_take, List.length_drop]
  have hsize : (chunkSize mtuSize : ℤ) = max 20 (min 100 (mtuSize - 3)) := by
    unfold chunkSize
    omega
  omega

theorem splitWriteChunks_ne_nil {data : Bytes} (h : data ≠ []) (mtuSize : ℤ) :
    splitWriteChunks data mtuSize ≠ [] := by
  intro hnil
  have hflatten := splitWriteChunks_flatten data mtuSize
  rw [hnil] at hflatten
  exact h hflatten.symm

example : splitWriteChunks (List.replicate 25 0) 5 = [List.replicate 20 0, List.replicate 5 0] := by
  decide

end XBloom.Ble
