/-
# XBloom.Telemetry.Resync — which frames `iter_frames` loses

`iter_frames` skips a byte that fails a check and goes on behind it, so noise hides no frame.  One check
does not skip: a header with a valid marker whose length field runs past the end of the buffer ends the
scan, and one whose length is zero is taken again and again.  Whatever whole frame stands behind such a
header is lost, although its bytes are no frame at all.

`losesNoFrame_iff` says that this is the only way to lose one.
-/
import XBloom.Telemetry.Notification

namespace XBloom.Telemetry

open XBloom.Py XBloom.Ble XBloom.Codec

/-! ## Whole frames in a buffer -/

/-- `iter_frames` yields this frame, and found it at this offset. -/
def Yielded (raw : Bytes) (start : ℕ) (frame : Bytes) : Prop := TakesAt frameVerdict raw start frame

/-- Two stretches of a buffer share a byte. -/
def Overlap (start length start' length' : ℕ) : Prop :=
  ∃ i, (start ≤ i ∧ i < start + length) ∧ start' ≤ i ∧ i < start' + length'

/-- **Resynchronising loses no frame**: every whole frame of the buffer is yielded, or overlaps one
that is. -/
def LosesNoFrame (raw : Bytes) : Prop :=
  ∀ before frame behind, raw = before ++ (frame ++ behind) → WholeFrame frame →
    Yielded raw before.length frame ∨
      ∃ start other, Yielded raw start other ∧
        Overlap before.length frame.length start other.length

/-- A header that the scan believes and that ends it: the marker is valid and the length field is not
too large, but it runs past the end of the buffer, or is zero. -/
structure FalseHeader (rest : Bytes) : Prop where
  header : rest.headD 0 ∈ headerBytes
  fields : 10 ≤ rest.length
  bound : lengthField rest ≤ maxPacketLen
  marker : rest.getD 9 0 ∈ validMarkerBytes
  halts : rest.length < lengthField rest ∨ lengthField rest = 0

instance (rest : Bytes) : Decidable (FalseHeader rest) :=
  decidable_of_iff (rest.headD 0 ∈ headerBytes ∧ 10 ≤ rest.length ∧ lengthField rest ≤ maxPacketLen ∧
    rest.getD 9 0 ∈ validMarkerBytes ∧ (rest.length < lengthField rest ∨ lengthField rest = 0))
    ⟨fun h => ⟨h.1, h.2.1, h.2.2.1, h.2.2.2.1, h.2.2.2.2⟩,
      fun h => ⟨h.header, h.fields, h.bound, h.marker, h.halts⟩⟩

/-- A false header ends the scan, or holds it where it is. -/
theorem FalseHeader.verdict {rest : Bytes} (h : FalseHeader rest) :
    frameVerdict rest = .leave ∨ frameVerdict rest = .take 0 := by
  unfold frameVerdict
  rw [if_neg (not_not.mpr h.header), if_neg (not_lt.mpr h.fields), if_neg (not_lt.mpr h.bound),
    if_neg (not_not.mpr h.marker)]
  rcases h.halts with hpast | hzero
  · exact .inl (if_pos hpast)
  · right
    rw [hzero, if_neg (Nat.not_lt_zero _)]

/-- **What ends a scan** with room for a frame left is a false header. -/
theorem falseHeader_of_leave {rest : Bytes} (hleave : frameVerdict rest = .leave)
    (hroom : 10 ≤ rest.length) : FalseHeader rest := by
  unfold frameVerdict at hleave
  split_ifs at hleave with hheader hfields hbound hmarker hfits
  · omega
  · exact ⟨hheader, hroom, not_lt.mp hbound, hmarker, .inl hfits⟩

theorem falseHeader_of_take_zero {rest : Bytes} (hstill : frameVerdict rest = .take 0) :
    FalseHeader rest := by
  obtain ⟨hheader, hfields, hbound, hmarker, _, hzero⟩ := frameVerdict_eq_take_iff.mp hstill
  exact ⟨hheader, hfields, hbound, hmarker, .inr hzero⟩

/-- The length field of a whole frame is its own, whatever comes behind it. -/
theorem WholeFrame.lengthField_append {frame : Bytes} (h : WholeFrame frame) (behind : Bytes) :
    lengthField (frame ++ behind) = frame.length := by
  have hlong := h.long
  have htake : lengthField ((frame ++ behind).take frame.length) = lengthField (frame ++ behind) :=
    lengthField_take (by omega)
  rw [List.take_left, h.length] at htake
  exact htake.symm

/-- **A whole frame is taken** where the scan comes to it. -/
theorem WholeFrame.verdict {frame : Bytes} (h : WholeFrame frame) (behind : Bytes) :
    frameVerdict (frame ++ behind) = .take frame.length := by
  have hlong := h.long
  have hlength := h.lengthField_append behind
  have hne : frame ≠ [] := List.ne_nil_of_length_pos (by omega)
  obtain ⟨b, tail, rfl⟩ := List.exists_cons_of_ne_nil hne
  refine frameVerdict_eq_take_iff.mpr ⟨h.header, ?_, ?_, ?_, ?_, hlength⟩
  · rw [List.length_append]
    omega
  · rw [hlength]
    exact h.short
  · rw [List.getD_eq_getElem?_getD, List.getElem?_append_left (by omega),
      ← List.getD_eq_getElem?_getD]
    exact h.marker
  · rw [hlength, List.length_append]
    omega

/-! ## Losing frames -/

/-- Whatever is yielded lies before a false header the scan comes to, or is empty. -/
theorem yielded_before_falseHeader {raw rest : Bytes} (hcomes : Comes frameVerdict raw rest)
    (hfalse : FalseHeader rest) {start : ℕ} {piece : Bytes} (h : Yielded raw start piece) :
    piece = [] ∨ start + piece.length + rest.length ≤ raw.length := by
  obtain ⟨a, tail, n, htaken, htake, rfl, hplace⟩ := takesAt_iff.mp h
  -- the scan comes from one of the two places to the other
  have hstays : Comes frameVerdict rest (a :: tail) → a :: tail = rest := by
    intro hback
    rcases hfalse.verdict with hleave | hstill
    · exact hback.eq_of_leave hleave
    · exact hback.eq_of_take_zero hstill
  have hsame : a :: tail = rest → (a :: tail).take n = [] := by
    intro heq
    rw [heq] at htake ⊢
    rcases hfalse.verdict with hleave | hstill
    · rw [hleave] at htake
      cases htake
    · rw [hstill] at htake
      cases htake
      rfl
  rcases htaken.linear hcomes with hon | hback
  · rcases hon.of_take htake with heq | hbehind
    · exact .inl (hsame heq.symm)
    · right
      have hle := hbehind.suffix.length_le
      rw [List.length_drop] at hle
      rw [List.length_take]
      have hfits := (frameVerdict_eq_take_iff.mp htake).2.2.2.2
      omega
  · exact .inl (hsame (hstays hback))

/-- **A frame behind a false header is lost.** -/
theorem losesFrame_of_falseHeader {raw rest gap frame behind : Bytes}
    (hcomes : Comes frameVerdict raw rest) (hfalse : FalseHeader rest)
    (hrest : rest = gap ++ (frame ++ behind)) (hframe : WholeFrame frame) : ¬ LosesNoFrame raw := by
  intro hnone
  have hlong := hframe.long
  obtain ⟨before, hraw⟩ := hcomes.suffix
  -- nothing that is yielded reaches as far as the frame
  have hfar : ∀ {start piece}, Yielded raw start piece →
      piece = [] ∨ start + piece.length ≤ (before ++ gap).length := by
    intro start piece hyielded
    rcases yielded_before_falseHeader hcomes hfalse hyielded with hempty | hbefore
    · exact .inl hempty
    · right
      rw [← hraw, List.length_append] at hbefore
      rw [List.length_append]
      omega
  have hsplit : raw = (before ++ gap) ++ (frame ++ behind) := by
    rw [← hraw, hrest, List.append_assoc]
  rcases hnone (before ++ gap) frame behind hsplit hframe with hyielded | ⟨start, other, hother, i, hi, hi'⟩
  · rcases hfar hyielded with hempty | hle
    · rw [hempty, List.length_nil] at hlong
      omega
    · omega
  · rcases hfar hother with hempty | hle
    · rw [hempty, List.length_nil] at hi'
      omega
    · omega

/-- **Resynchronising loses no frame, exactly when** the scan comes to no false header with a whole
frame behind it. -/
theorem losesNoFrame_iff (raw : Bytes) :
    LosesNoFrame raw ↔ ∀ rest, Comes frameVerdict raw rest → FalseHeader rest →
      ∀ gap frame behind, rest = gap ++ (frame ++ behind) → ¬ WholeFrame frame := by
  constructor
  · intro h rest hcomes hfalse gap frame behind hrest hframe
    exact losesFrame_of_falseHeader hcomes hfalse hrest hframe h
  · intro hnone before frame behind hraw hframe
    have hlong := hframe.long
    have hne : frame ++ behind ≠ [] := List.ne_nil_of_length_pos (by rw [List.length_append]; omega)
    have hverdict := hframe.verdict behind
    rw [hraw]
    have hplace : Comes frameVerdict (before ++ (frame ++ behind)) (frame ++ behind) ∨
        Misses frameVerdict (before ++ (frame ++ behind)) (frame ++ behind) := comes_or_misses before _
    rcases hplace with hcomes | hmisses
    · left
      obtain ⟨a, tail, hcons⟩ := List.exists_cons_of_ne_nil hne
      rw [hcons] at hcomes hverdict
      refine takesAt_iff.mpr ⟨a, tail, frame.length, hcons ▸ hcomes, hverdict, ?_, ?_⟩
      · rw [← hcons, List.take_left]
      · rw [← hcons]
        exact List.length_append.symm
    · cases hmisses with
      | @leave a gap hcomes hlook =>
        have hfalse : FalseHeader (a :: (gap ++ (frame ++ behind))) := by
          refine falseHeader_of_leave hlook ?_
          simp only [List.length_cons, List.length_append]
          omega
        exact absurd hframe (hnone _ (hraw ▸ hcomes) hfalse (a :: gap) frame behind rfl)
      | @still a gap hcomes hlook =>
        have hfalse := falseHeader_of_take_zero hlook
        exact absurd hframe (hnone _ (hraw ▸ hcomes) hfalse (a :: gap) frame behind rfl)
      | @covers a gap n hcomes hlook hn =>
        -- the piece that reaches over the frame's first byte shares it
        right
        have hfits := (frameVerdict_eq_take_iff.mp hlook).2.2.2.2
        have hle := hcomes.suffix.length_le
        simp only [List.length_cons, List.length_append] at hle hfits
        refine ⟨before.length - (gap.length + 1), _,
          takesAt_iff.mpr ⟨a, _, n, hcomes, hlook, rfl, ?_⟩, before.length, ?_, ?_, ?_⟩
        · simp only [List.length_cons, List.length_append]
          omega
        · omega
        · omega
        · rw [List.length_take]
          simp only [List.length_cons, List.length_append]
          omega

/-- A byte of noise that looks like a header, with 200 where its length would be, hides an echo. -/
theorem hidden_frame_lost :
    ¬ LosesNoFrame ([0x58, 0x01, 0x01, 0x00, 0x00, 0xC8, 0x00, 0x00, 0x00, 0xC1] ++
      [0x58, 0x01, 0x01, 0x56, 0x1F, 0x0C, 0x00, 0x00, 0x00, 0xC1, 0xC0, 0x15]) := by
  have hframe : WholeFrame [0x58, 0x01, 0x01, 0x56, 0x1F, 0x0C, 0x00, 0x00, 0x00, 0xC1, 0xC0, 0x15] :=
    ⟨by decide, by decide, by decide, by decide, by decide⟩
  have hsplit : ([0x58, 0x01, 0x01, 0x00, 0x00, 0xC8, 0x00, 0x00, 0x00, 0xC1] ++
        [0x58, 0x01, 0x01, 0x56, 0x1F, 0x0C, 0x00, 0x00, 0x00, 0xC1, 0xC0, 0x15] : Bytes) =
      [0x58, 0x01, 0x01, 0x00, 0x00, 0xC8, 0x00, 0x00, 0x00, 0xC1] ++
        ([0x58, 0x01, 0x01, 0x56, 0x1F, 0x0C, 0x00, 0x00, 0x00, 0xC1, 0xC0, 0x15] ++ []) := rfl
  exact losesFrame_of_falseHeader (.here _) (by decide) hsplit hframe

end XBloom.Telemetry
