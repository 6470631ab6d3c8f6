/-
# XBloom.Telemetry.MachineInfo — the fallback search for the MachineInfo frame

`_scan_for_machine_info` looks for the two bytes of command 40521 wherever they are, and reads the serial
number and the version of the frame around them, whatever its length field says.  A match whose header
byte is wrong, or with too few bytes behind it, moves the search on.  Two others end it: a match among the
first three bytes, which has no room for a header before it, and one whose serial field is blank.

`findsInfo_iff` says that these two are all that keeps the search from a frame the buffer holds.  The search
is a recursion over what is left of the buffer, so it ends for every one.
-/
import Mathlib.Data.List.TakeWhile
import XBloom.Telemetry.Notification

namespace XBloom.Telemetry

open XBloom.Py XBloom.Ble XBloom.Codec

/-! ## The text of a field -/

theorem strip_eq_empty_iff (s : String) : strip s = "" ↔ ∀ c ∈ s.toList, isSpace c = true := by
  have hempty : strip s = "" ↔ s.toList.dropWhile isSpace = [] := by
    unfold strip
    rw [show ("" : String) = String.ofList [] from rfl, String.ofList_inj, List.reverse_eq_nil_iff,
      List.dropWhile_eq_nil_iff]
    constructor
    · intro hall
      cases hrest : s.toList.dropWhile isSpace with
      | nil => rfl
      | cons c rest =>
        -- what is left of the text starts with something that is no space
        have hhead : ¬ isSpace c = true := by
          have hne : s.toList.dropWhile isSpace ≠ [] := by rw [hrest]; simp
          have hnot := List.head_dropWhile_not isSpace hne
          simpa [hrest] using hnot
        exact absurd (hall c (by rw [hrest]; simp)) hhead
    · intro hnil
      simp [hnil]
  rw [hempty, List.dropWhile_eq_nil_iff]

/-- A byte that shows: printable, and no blank. -/
def Shows (b : UInt8) : Prop := 0x21 ≤ b ∧ b < 0x7F

instance (b : UInt8) : Decidable (Shows b) := inferInstanceAs (Decidable (_ ∧ _))

/-- Of the printable characters only the blank is a space. -/
theorem isSpace_ofNat {n : ℕ} (hlow : 0x20 ≤ n) (hhigh : n < 0x7F) :
    isSpace (Char.ofNat n) = true ↔ n = 0x20 := by
  have hall : ∀ n < 0x7F, 0x20 ≤ n → (isSpace (Char.ofNat n) = true ↔ n = 0x20) := by decide +kernel
  exact hall n hhigh hlow

/-- **A field has a text exactly when one of its bytes shows.** -/
theorem strictAscii_ne_empty_iff (data : Bytes) : strictAscii data ≠ "" ↔ ∃ b ∈ data, Shows b := by
  unfold strictAscii
  rw [ne_eq, strip_eq_empty_iff, String.toList_ofList]
  constructor
  · intro hnot
    by_contra hnone
    refine hnot fun c hc => ?_
    obtain ⟨b, hb, rfl⟩ := List.mem_map.mp hc
    obtain ⟨hmem, hprintable⟩ := List.mem_filter.mp hb
    obtain ⟨hlow, hhigh⟩ := of_decide_eq_true hprintable
    have hblank : ¬ Shows b := fun hshows => hnone ⟨b, hmem, hshows⟩
    rw [UInt8.le_iff_toNat_le] at hlow
    rw [UInt8.lt_iff_toNat_lt] at hhigh
    -- printable and not shown, so the space itself
    refine (isSpace_ofNat hlow hhigh).mpr ?_
    unfold Shows at hblank
    rw [UInt8.le_iff_toNat_le, UInt8.lt_iff_toNat_lt] at hblank
    change ¬ (33 ≤ b.toNat ∧ b.toNat < 127) at hblank
    change 32 ≤ b.toNat at hlow
    change b.toNat < 127 at hhigh
    omega
  · rintro ⟨b, hmem, hlow, hhigh⟩ hall
    rw [UInt8.le_iff_toNat_le] at hlow
    rw [UInt8.lt_iff_toNat_lt] at hhigh
    change 33 ≤ b.toNat at hlow
    change b.toNat < 127 at hhigh
    have hprintable : b ∈ data.filter fun b => decide (0x20 ≤ b ∧ b < 0x7F) := by
      refine List.mem_filter.mpr ⟨hmem, decide_eq_true ⟨?_, ?_⟩⟩
      · rw [UInt8.le_iff_toNat_le]
        show 32 ≤ b.toNat
        omega
      · rw [UInt8.lt_iff_toNat_lt]
        exact hhigh
    have hspace := hall _ (List.mem_map_of_mem hprintable)
    have hblank := (isSpace_ofNat (by omega) hhigh).mp hspace
    omega

/-! ## Frames in a buffer -/

/-- The command's two bytes stand here. -/
def SignatureAt (raw : Bytes) (i : ℕ) : Prop := (raw.drop i).take 2 = [0x49, 0x9E]

instance (raw : Bytes) (i : ℕ) : Decidable (SignatureAt raw i) := inferInstanceAs (Decidable (_ = _))

/-- The payload of a frame that starts here, to the end of the buffer. -/
def infoPayload (raw : Bytes) (start : ℕ) : Bytes := raw.drop (start + 10)

/-- What looks like a MachineInfo frame: a header byte, the command at offset 3, and at least 34 bytes
from the payload on. -/
structure InfoHeader (raw : Bytes) (start : ℕ) : Prop where
  header : raw.getD start 0 ∈ headerBytes
  command : SignatureAt raw (start + 3)
  room : 34 ≤ (infoPayload raw start).length

/-- **A MachineInfo frame**: its serial field has a character that shows. -/
structure InfoFrame (raw : Bytes) (start : ℕ) : Prop extends InfoHeader raw start where
  serial : ∃ b ∈ (infoPayload raw start).take 13, Shows b

/-- **The search finds a frame where there is one**: with no serial number known, it sets the serial
number and the version to the fields of such a frame. -/
def FindsInfo (raw : Bytes) : Prop :=
  ∀ s : DeviceStatus, s.serialNumber = "" → (∃ start, InfoFrame raw start) →
    ∃ start, InfoFrame raw start ∧
      (scanForMachineInfo raw s 0 raw).serialNumber = strictAscii ((infoPayload raw start).take 13) ∧
      (scanForMachineInfo raw s 0 raw).version =
        strictAscii (((infoPayload raw start).take 29).drop 19)

/-! ## The search -/

/-- The two bytes the search looks at. -/
theorem signatureAt_iff {raw : Bytes} {i : ℕ} {b₀ b₁ : UInt8} {rest : Bytes}
    (h : raw.drop i = b₀ :: b₁ :: rest) : SignatureAt raw i ↔ b₀ = 0x49 ∧ b₁ = 0x9E := by
  unfold SignatureAt
  rw [h]
  simp

/-- Less than two bytes are no match. -/
theorem not_signatureAt {raw : Bytes} {i : ℕ} (h : (raw.drop i).length < 2) : ¬ SignatureAt raw i := by
  intro hsig
  have hlength := congrArg List.length hsig
  rw [List.length_take] at hlength
  simp only [List.length_cons, List.length_nil] at hlength
  omega

theorem drop_succ_of_drop {raw : Bytes} {i : ℕ} {b : UInt8} {rest : Bytes} (h : raw.drop i = b :: rest) :
    raw.drop (i + 1) = rest := by
  rw [← List.drop_drop, h]
  rfl

/-- The second byte of a match begins no other. -/
theorem not_signatureAt_succ {raw : Bytes} {i : ℕ} {b₀ b₁ : UInt8} {rest : Bytes}
    (h : raw.drop i = b₀ :: b₁ :: rest) (hsig : SignatureAt raw i) : ¬ SignatureAt raw (i + 1) := by
  intro hnext
  have hbyte := congrArg List.head? hnext
  rw [drop_succ_of_drop h, List.head?_take, ((signatureAt_iff h).mp hsig).2] at hbyte
  simp at hbyte

/-- **A match among the first three bytes ends the search**, whatever comes behind it. -/
theorem scanForMachineInfo_early {raw : Bytes} (s : DeviceStatus) {i : ℕ} (hi : i < 3)
    (hsig : SignatureAt raw i) (idx : ℕ) (hidx : idx ≤ i) :
    scanForMachineInfo raw s idx (raw.drop idx) = s := by
  obtain ⟨n, rfl⟩ := Nat.exists_eq_add_of_le hidx
  induction n generalizing idx with
  | zero =>
    cases hrest : raw.drop idx with
    | nil => rfl
    | cons b₀ tail =>
      cases tail with
      | nil => rfl
      | cons b₁ rest =>
        have hbytes := (signatureAt_iff hrest).mp hsig
        unfold scanForMachineInfo
        rw [if_pos hbytes, if_pos (by omega)]
  | succ n ih =>
    cases hrest : raw.drop idx with
    | nil => rfl
    | cons b₀ tail =>
      cases tail with
      | nil => rfl
      | cons b₁ rest =>
        have hnext := drop_succ_of_drop hrest
        unfold scanForMachineInfo
        -- a match before it ends the search sooner
        rw [if_pos (show idx < 3 by omega)]
        split
        · rfl
        · rw [← hnext]
          have hsame : idx + (n + 1) = idx + 1 + n := by omega
          exact ih (idx + 1) (by omega) (hsame ▸ hsig) (by omega)

/-- What the search comes to from an offset on: nothing that looks like a frame, and the status is
unchanged; or a first one, and its fields are read. -/
def SearchedFrom (raw : Bytes) (s : DeviceStatus) (idx : ℕ) (found : DeviceStatus) : Prop :=
  ((∀ start, idx ≤ start + 3 → ¬ InfoHeader raw start) ∧ found = s) ∨
    ∃ start, idx ≤ start + 3 ∧ InfoHeader raw start ∧
      (∀ before, idx ≤ before + 3 → before < start → ¬ InfoHeader raw before) ∧
      found = s.onMachineInfoHit (infoPayload raw start)

/-- Offsets that no frame's command stands at can be left out. -/
theorem SearchedFrom.skip {raw : Bytes} {s found : DeviceStatus} {idx next : ℕ} (hle : idx ≤ next)
    (hnone : ∀ start, idx ≤ start + 3 → start + 3 < next → ¬ InfoHeader raw start)
    (h : SearchedFrom raw s next found) : SearchedFrom raw s idx found := by
  rcases h with ⟨hnothing, hsame⟩ | ⟨start, hstart, hheader, hfirst, hfound⟩
  · left
    refine ⟨fun start hfrom => ?_, hsame⟩
    by_cases hbefore : start + 3 < next
    · exact hnone start hfrom hbefore
    · exact hnothing start (by omega)
  · right
    refine ⟨start, by omega, hheader, fun before hfrom hlt => ?_, hfound⟩
    by_cases hbefore : before + 3 < next
    · exact hnone before hfrom hbefore
    · exact hfirst before (by omega) hlt

/-- **The search, when no match is among the first three bytes.** -/
theorem scanForMachineInfo_searched {raw : Bytes} (s : DeviceStatus) (hearly : ∀ i < 3, ¬ SignatureAt raw i)
    (idx : ℕ) : SearchedFrom raw s idx (scanForMachineInfo raw s idx (raw.drop idx)) := by
  induction hlength : (raw.drop idx).length using Nat.strongRecOn generalizing idx with
  | _ k ih =>
    -- with less than two bytes left there is no match any more
    have hend : (raw.drop idx).length < 2 → SearchedFrom raw s idx s := by
      intro hshort
      refine .inl ⟨fun start hfrom hheader => ?_, rfl⟩
      refine not_signatureAt ?_ hheader.command
      rw [List.length_drop] at hshort ⊢
      omega
    cases hrest : raw.drop idx with
    | nil => exact hend (by simp [hrest])
    | cons b₀ tail =>
      cases tail with
      | nil => exact hend (by simp [hrest])
      | cons b₁ rest =>
        have hnext := drop_succ_of_drop hrest
        have hnext₂ := drop_succ_of_drop hnext
        rw [hrest] at hlength
        simp only [List.length_cons] at hlength
        have hgo₁ : SearchedFrom raw s (idx + 1) (scanForMachineInfo raw s (idx + 1) (b₁ :: rest)) := by
          have h := ih (b₁ :: rest).length (by simp only [List.length_cons]; omega) (idx + 1)
          rw [hnext] at h
          exact h rfl
        have hgo₂ : SearchedFrom raw s (idx + 2) (scanForMachineInfo raw s (idx + 2) rest) := by
          have h := ih rest.length (by omega) (idx + 2)
          rw [hnext₂] at h
          exact h rfl
        unfold scanForMachineInfo
        split
        · rename_i hbytes
          have hsig : SignatureAt raw idx := (signatureAt_iff hrest).mpr hbytes
          have hidx : ¬ idx < 3 := fun hlt => hearly idx hlt hsig
          obtain ⟨start, rfl⟩ : ∃ start, idx = start + 3 := ⟨idx - 3, by omega⟩
          rw [if_neg hidx, Nat.add_sub_cancel]
          have hpayload : raw.drop (start + 3 + 7) = infoPayload raw start := rfl
          rw [hpayload]
          split
          · rename_i hheader
            refine hgo₁.skip (by omega) fun start' hfrom hlt h => hheader ?_
            obtain rfl : start' = start := by omega
            exact h.header
          · rename_i hheader
            split
            · rename_i hshort
              refine hgo₂.skip (by omega) fun start' hfrom hlt h => ?_
              by_cases hsame : start' = start
              · rw [hsame] at h
                have hroom := h.room
                omega
              · obtain rfl : start' = start + 1 := by omega
                exact not_signatureAt_succ hrest hsig h.command
            · rename_i hroom
              refine .inr ⟨start, le_rfl, ⟨not_not.mp hheader, hsig, not_lt.mp hroom⟩, ?_, rfl⟩
              intro before hfrom hlt
              omega
        · rename_i hbytes
          refine hgo₁.skip (by omega) fun start hfrom hlt h => hbytes ?_
          obtain rfl : idx = start + 3 := by omega
          exact (signatureAt_iff hrest).mp h.command

/-! ## When the search finds a frame -/

/-- A blank serial field changes nothing. -/
theorem onMachineInfoHit_of_blank {raw : Bytes} {start : ℕ} (h : InfoHeader raw start)
    (hblank : ¬ InfoFrame raw start) (s : DeviceStatus) :
    s.onMachineInfoHit (infoPayload raw start) = s := by
  unfold DeviceStatus.onMachineInfoHit
  refine if_pos ?_
  by_contra hne
  exact hblank ⟨h, (strictAscii_ne_empty_iff _).mp hne⟩

/-- The fields of a frame are read. -/
theorem onMachineInfoHit_of_frame {raw : Bytes} {start : ℕ} (h : InfoFrame raw start) (s : DeviceStatus) :
    (s.onMachineInfoHit (infoPayload raw start)).serialNumber =
        strictAscii ((infoPayload raw start).take 13) ∧
      (s.onMachineInfoHit (infoPayload raw start)).version =
        strictAscii (((infoPayload raw start).take 29).drop 19) := by
  have hne := (strictAscii_ne_empty_iff _).mpr h.serial
  unfold DeviceStatus.onMachineInfoHit
  simp only [if_neg hne]
  exact ⟨trivial, trivial⟩

/-- **A search that leaves the status alone finds nothing.** -/
theorem not_findsInfo_of_unchanged {raw : Bytes} {start : ℕ} (hframe : InfoFrame raw start)
    (h : scanForMachineInfo raw {} 0 raw = {}) : ¬ FindsInfo raw := by
  intro hfinds
  obtain ⟨start', hframe', hserial, _⟩ := hfinds {} rfl ⟨start, hframe⟩
  rw [h] at hserial
  exact (strictAscii_ne_empty_iff _).mpr hframe'.serial hserial.symm

/-- A match among the first three bytes hides every frame. -/
theorem not_findsInfo_of_early {raw : Bytes} {start i : ℕ} (hframe : InfoFrame raw start) (hi : i < 3)
    (hsig : SignatureAt raw i) : ¬ FindsInfo raw := by
  have hscan := scanForMachineInfo_early {} hi hsig 0 (Nat.zero_le i)
  rw [List.drop_zero] at hscan
  exact not_findsInfo_of_unchanged hframe hscan

/-- **The search finds the frame wherever it is, exactly when** the command's two bytes do not stand among
the first three of the buffer, and whatever looks like a MachineInfo frame but has a blank serial field
has a real one before it. -/
theorem findsInfo_iff (raw : Bytes) :
    FindsInfo raw ↔ ((∃ start, InfoFrame raw start) →
      (∀ i < 3, ¬ SignatureAt raw i) ∧
        ∀ blank, InfoHeader raw blank → ¬ InfoFrame raw blank →
          ∃ start < blank, InfoFrame raw start) := by
  constructor
  · intro hfinds ⟨start, hframe⟩
    have hearly : ∀ i < 3, ¬ SignatureAt raw i := fun i hi hsig =>
      not_findsInfo_of_early hframe hi hsig hfinds
    refine ⟨hearly, fun blank hheader hblank => ?_⟩
    have hsearched := @scanForMachineInfo_searched raw {} hearly 0
    rw [List.drop_zero] at hsearched
    rcases hsearched with ⟨hnothing, _⟩ | ⟨first, _, hfirstHeader, hfirst, hfound⟩
    · exact absurd hframe.toInfoHeader (hnothing start (Nat.zero_le _))
    · by_cases hreal : InfoFrame raw first
      · -- the first one is the frame before the blank one
        refine ⟨first, ?_, hreal⟩
        by_contra hge
        rcases Nat.lt_or_ge blank first with hlt | hle
        · exact hfirst blank (Nat.zero_le _) hlt hheader
        · obtain rfl : first = blank := by omega
          exact hblank hreal
      · rw [onMachineInfoHit_of_blank hfirstHeader hreal] at hfound
        exact absurd hfinds (not_findsInfo_of_unchanged hframe hfound)
  · intro hcondition s _ hexists
    obtain ⟨hearly, hblank⟩ := hcondition hexists
    obtain ⟨start, hframe⟩ := hexists
    have hsearched := scanForMachineInfo_searched s hearly 0
    rw [List.drop_zero] at hsearched
    rcases hsearched with ⟨hnothing, _⟩ | ⟨first, _, hfirstHeader, hfirst, hfound⟩
    · exact absurd hframe.toInfoHeader (hnothing start (Nat.zero_le _))
    · have hreal : InfoFrame raw first := by
        by_contra hnot
        obtain ⟨before, hlt, hbefore⟩ := hblank first hfirstHeader hnot
        exact hfirst before (Nat.zero_le _) hlt hbefore.toInfoHeader
      rw [hfound]
      exact ⟨first, hreal, onMachineInfoHit_of_frame hreal s⟩

/-- Two bytes of noise hide a frame: 49 9E in front of a MachineInfo frame with the serial AAAAAAAAAAAAA. -/
theorem early_match_hides_frame :
    ¬ FindsInfo ([0x49, 0x9E, 0x58, 0x01, 0x01, 0x49, 0x9E, 0x2E, 0x00, 0x00, 0x00, 0xC1] ++
      List.replicate 36 0x41) := by
  have hframe : InfoFrame ([0x49, 0x9E, 0x58, 0x01, 0x01, 0x49, 0x9E, 0x2E, 0x00, 0x00, 0x00, 0xC1] ++
      List.replicate 36 0x41) 2 :=
    ⟨⟨by decide, by decide, by decide⟩, 0x41, by decide, by decide⟩
  have hi : 0 < 3 := by decide
  exact not_findsInfo_of_early hframe hi (by decide)

end XBloom.Telemetry
