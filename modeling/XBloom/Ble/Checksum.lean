/-
# XBloom.Ble.Checksum — what `crc16` detects

`crc16` is a reflected CRC with the polynomial 0x8408: the register is shifted down eight times for every
byte (`crc16_eq_feed`).  A packet ends in its own checksum, low byte first, which empties the register; and
an error that lies within sixteen consecutive bits does not.
-/
import XBloom.Ble.Framing
import XBloom.Codec.ShiftRegister

namespace XBloom.Ble

open XBloom.Py XBloom.Codec

/-! ## The register -/

theorem crcBit_eq_shift : crcBit = shift 0x8408 := by
  funext crc
  have hbit : (crc &&& 1 ≠ 0) ↔ crc.testBit 0 = true := by
    rw [Nat.and_one_is_mod, Nat.testBit_zero, decide_eq_true_eq]
    omega
  unfold crcBit shift
  simp only [hbit]

/-- **The checksum is a shift register's**, fed a byte at a time. -/
theorem crc16_eq_feed (data : Bytes) : crc16 data = feed 0x8408 8 0 (data.map UInt8.toNat) := by
  unfold crc16 feed
  rw [List.foldl_map]
  unfold crcByte
  rw [crcBit_eq_shift]

/-- A byte string as one number is what `struct` reads of it. -/
theorem stacked_eq_ofLittleEndian (data : Bytes) :
    stacked 8 (data.map UInt8.toNat) = ofLittleEndian data := by
  induction data with
  | nil => rfl
  | cons b rest ih =>
    show b.toNat ^^^ (stacked 8 (rest.map UInt8.toNat) <<< 8) = b.toNat + 256 * ofLittleEndian rest
    rw [ih]
    refine Nat.eq_of_testBit_eq fun i => ?_
    have hsum := Nat.testBit_two_pow_mul_add (ofLittleEndian rest) (b.toNat_lt : b.toNat < 2 ^ 8) i
    rw [Nat.add_comm, hsum, Nat.testBit_xor, Nat.testBit_shiftLeft]
    by_cases hi : i < 8
    · simp [hi, Nat.not_le.mpr hi]
    · have hclear : b.toNat.testBit i = false :=
        Nat.testBit_eq_false_of_lt
          (lt_of_lt_of_le b.toNat_lt (Nat.pow_le_pow_right Nat.two_pos (Nat.not_lt.mp hi)))
      simp [hi, hclear, Nat.not_lt.mp hi]

/-! ## Packets -/

/-- The checksum of a packet is that of what stands before it. -/
theorem buildPacketRaw_checksum {command : ℤ} {data : Bytes} {typeCode deviceId : ℤ} {packet : Bytes}
    (h : buildPacketRaw command data typeCode deviceId = .ok packet) :
    ∃ body crc, packet = body ++ crc ∧ packLE 2 (crc16 body) = .ok crc := by
  unfold buildPacketRaw at h
  obtain ⟨device, _, h⟩ := bind_eq_ok.mp h
  obtain ⟨type, _, h⟩ := bind_eq_ok.mp h
  obtain ⟨commandBytes, _, h⟩ := bind_eq_ok.mp h
  obtain ⟨length, _, h⟩ := bind_eq_ok.mp h
  obtain ⟨crc, hcrc, h⟩ := bind_eq_ok.mp h
  exact ⟨_, crc, (Except.ok.inj h).symm, hcrc⟩

/-- **A byte string followed by its checksum has the checksum 0.** -/
theorem crc16_append_checksum {body crc : Bytes} (h : packLE 2 (crc16 body) = .ok crc) :
    crc16 (body ++ crc) = 0 := by
  have hvalue : ofLittleEndian crc = crc16 body := by exact_mod_cast (packLE_eq_ok h).2
  rw [crc16_eq_feed, List.map_append, feed_append, ← crc16_eq_feed]
  exact feed_self ((stacked_eq_ofLittleEndian crc).trans hvalue)

/-! ## Errors -/

/-- A byte string with some of its bits flipped. -/
def flipped (data errors : Bytes) : Bytes := List.zipWith (· ^^^ ·) data errors

/-- A bit of a byte string, bytes in order, the least significant bit first. -/
def bitAt (data : Bytes) (i : ℕ) : Bool := (data.getD (i / 8) 0).toNat.testBit (i % 8)

/-- **Some bits are set, and all of them within sixteen consecutive positions.** -/
structure Burst (errors : Bytes) : Prop where
  nonempty : ∃ i, bitAt errors i = true
  narrow : ∃ p, ∀ i, bitAt errors i = true → p ≤ i ∧ i < p + 16

theorem testBit_stacked_bytes (data : Bytes) (i : ℕ) :
    (stacked 8 (data.map UInt8.toNat)).testBit i = bitAt data i := by
  have hsmall : ∀ b ∈ data.map UInt8.toNat, b < 2 ^ 8 := by
    intro b hb
    obtain ⟨byte, _, rfl⟩ := List.mem_map.mp hb
    exact byte.toNat_lt
  rw [testBit_stacked hsmall (by omega)]
  unfold bitAt
  rw [List.getD_eq_getElem?_getD, List.getElem?_map, List.getD_eq_getElem?_getD]
  cases data[i / 8]? <;> rfl

theorem bitAt_lt {data : Bytes} {i : ℕ} (h : bitAt data i = true) : i < 8 * data.length := by
  by_contra hle
  have hpast : data.length ≤ i / 8 := by omega
  unfold bitAt at h
  rw [List.getD_eq_default _ _ hpast] at h
  simp at h

/-- The checksum of a flipped string is that of the string, and that of the flips. -/
theorem crc16_flipped {data errors : Bytes} (h : errors.length = data.length) :
    crc16 (flipped data errors) = crc16 data ^^^ crc16 errors := by
  have hmap : (flipped data errors).map UInt8.toNat =
      List.zipWith (· ^^^ ·) (data.map UInt8.toNat) (errors.map UInt8.toNat) := by
    unfold flipped
    rw [List.map_zipWith, List.zipWith_map]
    simp only [UInt8.toNat_xor]
  have hlength : (flipped data errors).length = data.length := by
    unfold flipped
    rw [List.length_zipWith, h, min_self]
  simp only [crc16_eq_feed, feed_eq, Nat.zero_xor, List.length_map, hlength, h]
  rw [hmap, stacked_zipWith_xor 8 (by simp [h]), shifts_xor]

/-- **A burst has a checksum of its own.** -/
theorem crc16_burst {errors : Bytes} (h : Burst errors) : crc16 errors ≠ 0 := by
  obtain ⟨i, hi⟩ := h.nonempty
  obtain ⟨p, hp⟩ := h.narrow
  have hbits : ∀ j, (stacked 8 (errors.map UInt8.toNat)).testBit j = true → p ≤ j ∧ j < p + (15 + 1) :=
    fun j hj => hp j ((testBit_stacked_bytes errors j) ▸ hj)
  have hne : stacked 8 (errors.map UInt8.toNat) ≠ 0 := by
    intro hzero
    have hbit := testBit_stacked_bytes errors i
    rw [hzero, hi, Nat.zero_testBit] at hbit
    cases hbit
  have hstart : p ≤ 8 * (errors.map UInt8.toNat).length := by
    have hlt := bitAt_lt hi
    have hle := (hp i hi).1
    rw [List.length_map]
    omega
  rw [crc16_eq_feed, feed_eq, Nat.zero_xor]
  exact shifts_ne_zero_of_burst (by norm_num) (by norm_num) hne hbits hstart

/-- **The checksum is a CRC.**  It is a 16-bit number; over a whole packet it is 0; and over a packet in
which a burst of bits was flipped it is not. -/
theorem checksum_detects_bursts :
    (∀ data : Bytes, crc16 data ≤ 65535) ∧
      ∀ (command : ℤ) (data : Bytes) (typeCode deviceId : ℤ) (packet : Bytes),
        buildPacketRaw command data typeCode deviceId = .ok packet →
        crc16 packet = 0 ∧
          ∀ errors : Bytes, errors.length = packet.length → Burst errors →
            crc16 (flipped packet errors) ≠ 0 := by
  refine ⟨fun data => Nat.le_of_lt_succ (crc16_lt data), fun command data typeCode deviceId packet h => ?_⟩
  obtain ⟨body, crc, rfl, hcrc⟩ := buildPacketRaw_checksum h
  have hzero := crc16_append_checksum hcrc
  refine ⟨hzero, fun errors hlength hburst => ?_⟩
  rw [crc16_flipped hlength, hzero, Nat.zero_xor]
  exact crc16_burst hburst

/-- 8022 with its device and its type byte damaged, in fifteen bits of the two. -/
theorem backToHome_damaged :
    crc16 [0x58, 1, 1, 86, 31, 12, 0, 0, 0, 1, 192, 21] = 0 ∧
      crc16 (flipped [0x58, 1, 1, 86, 31, 12, 0, 0, 0, 1, 192, 21]
        [0, 0xFF, 0x7F, 0, 0, 0, 0, 0, 0, 0, 0, 0]) ≠ 0 := by
  have hbuilt : buildPacketRaw 8022 [] 1 1 = .ok [0x58, 1, 1, 86, 31, 12, 0, 0, 0, 1, 192, 21] := by
    decide +kernel
  obtain ⟨hzero, hdetects⟩ := checksum_detects_bursts.2 8022 [] 1 1 _ hbuilt
  refine ⟨hzero, hdetects _ rfl ⟨⟨8, by decide⟩, 8, fun i hi => ?_⟩⟩
  -- outside its second and third byte the error is clear
  have hclear : ∀ k < 12, k ≠ 1 → k ≠ 2 →
      ([0, 0xFF, 0x7F, 0, 0, 0, 0, 0, 0, 0, 0, 0] : Bytes).getD k 0 = 0 := by decide
  have hlt : i < 8 * 12 := bitAt_lt hi
  by_contra hout
  unfold bitAt at hi
  rw [hclear (i / 8) (by omega) (by omega) (by omega)] at hi
  simp at hi

end XBloom.Ble
