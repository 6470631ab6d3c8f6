/-
# XBloom.Codec.ShiftRegister — a reflected CRC as one number shifted down

A register is a number.  A shift moves it down by one bit and, when the bit that falls out is set,
exclusive-ors the taps in.  Shifts are linear, so symbols can be fed into the register one after the
other, or all of them can stand above it from the beginning: `feed_eq` says that it comes to the same.  A
message is then one number, and so is an error pattern; `shifts_ne_zero_of_burst` says that an error no
longer than the register leaves something in it.
-/
import Mathlib.Data.Nat.Bitwise
import Mathlib.Logic.Function.Iterate

namespace XBloom.Codec

/-- One shift of a register with these taps. -/
def shift (taps x : ℕ) : ℕ := if x.testBit 0 then (x >>> 1) ^^^ taps else x >>> 1

/-- Symbols of `k` bits, fed in one after the other. -/
def feed (taps k : ℕ) (x : ℕ) (symbols : List ℕ) : ℕ :=
  symbols.foldl (fun x b => (shift taps)^[k] (x ^^^ b)) x

/-- The symbols as one number, the first one lowest. -/
def stacked (k : ℕ) : List ℕ → ℕ
  | [] => 0
  | b :: rest => b ^^^ (stacked k rest <<< k)

variable {taps : ℕ}

/-! ## Shifts are linear -/

theorem shift_xor (x y : ℕ) : shift taps (x ^^^ y) = shift taps x ^^^ shift taps y := by
  unfold shift
  rw [Nat.testBit_xor, Nat.shiftRight_xor_distrib]
  cases x.testBit 0 <;> cases y.testBit 0
  · rfl
  · exact Nat.xor_assoc _ _ _
  · exact (Nat.xor_right_comm _ _ _).symm
  · -- the taps cancel
    show (x >>> 1) ^^^ (y >>> 1) = ((x >>> 1) ^^^ taps) ^^^ ((y >>> 1) ^^^ taps)
    rw [Nat.xor_comm (y >>> 1) taps, ← Nat.xor_assoc, Nat.xor_assoc (x >>> 1) taps, Nat.xor_self,
      Nat.xor_zero]

theorem shifts_xor (n x y : ℕ) :
    (shift taps)^[n] (x ^^^ y) = (shift taps)^[n] x ^^^ (shift taps)^[n] y := by
  induction n generalizing x y with
  | zero => rfl
  | succ n ih => rw [Function.iterate_succ_apply, shift_xor, ih]; rfl

@[simp] theorem shifts_zero (n : ℕ) : (shift taps)^[n] 0 = 0 := by
  induction n with
  | zero => rfl
  | succ n ih => exact ih

/-- What stands above the lowest bit only moves down. -/
theorem shift_shiftLeft (x : ℕ) : shift taps (x <<< 1) = x := by
  have hlow : (x <<< 1).testBit 0 = false := by simp
  unfold shift
  rw [hlow]
  simp

theorem shifts_shiftLeft (k x : ℕ) : (shift taps)^[k] (x <<< k) = x := by
  induction k generalizing x with
  | zero => rfl
  | succ k ih =>
    rw [Function.iterate_succ_apply, Nat.shiftLeft_add, shift_shiftLeft]
    exact ih x

/-- **Symbol by symbol, or all at once.** -/
theorem feed_eq (k x : ℕ) (symbols : List ℕ) :
    feed taps k x symbols = (shift taps)^[k * symbols.length] (x ^^^ stacked k symbols) := by
  induction symbols generalizing x with
  | nil => simp [feed, stacked]
  | cons b rest ih =>
    have hrest : (shift taps)^[k] (x ^^^ stacked k (b :: rest)) =
        (shift taps)^[k] (x ^^^ b) ^^^ stacked k rest := by
      show (shift taps)^[k] (x ^^^ (b ^^^ (stacked k rest <<< k))) = _
      rw [← Nat.xor_assoc, shifts_xor, shifts_shiftLeft]
    calc feed taps k x (b :: rest) = feed taps k ((shift taps)^[k] (x ^^^ b)) rest := rfl
      _ = (shift taps)^[k * rest.length] ((shift taps)^[k] (x ^^^ stacked k (b :: rest))) := by
        rw [ih, hrest]
      _ = (shift taps)^[k * (b :: rest).length] (x ^^^ stacked k (b :: rest)) := by
        rw [← Function.iterate_add_apply, List.length_cons, Nat.mul_succ]

theorem feed_append (k x : ℕ) (l l' : List ℕ) :
    feed taps k x (l ++ l') = feed taps k (feed taps k x l) l' := List.foldl_append

/-- Feeding a register itself empties it. -/
theorem feed_self {k x : ℕ} {symbols : List ℕ} (h : stacked k symbols = x) :
    feed taps k x symbols = 0 := by
  rw [feed_eq, h, Nat.xor_self, shifts_zero]

/-! ## What a register keeps -/

section
variable {width : ℕ} (hlow : 2 ^ width ≤ taps) (hhigh : taps < 2 ^ (width + 1))
include hlow hhigh

/-- **Nothing is lost in a shift** when the highest bit of the register is among the taps. -/
theorem shift_ne_zero {x : ℕ} (hx : x < 2 ^ (width + 1)) (hne : x ≠ 0) :
    shift taps x ≠ 0 ∧ shift taps x < 2 ^ (width + 1) := by
  have hdown : x >>> 1 < 2 ^ width := by
    rw [Nat.shiftRight_one, Nat.div_lt_iff_lt_mul Nat.two_pos, ← pow_succ]
    exact hx
  have hwide : x >>> 1 < 2 ^ (width + 1) := lt_trans hdown (Nat.pow_lt_pow_succ Nat.one_lt_two)
  unfold shift
  split
  · refine ⟨fun hzero => ?_, Nat.xor_lt_two_pow hwide hhigh⟩
    have heq : x >>> 1 = taps := Nat.xor_eq_zero_iff.mp hzero
    omega
  · rename_i heven
    refine ⟨fun hzero => hne ?_, hwide⟩
    have hmod : x % 2 = 0 := by simpa [Nat.testBit_zero] using heven
    rw [Nat.shiftRight_one] at hzero
    omega

theorem shifts_ne_zero (n : ℕ) {x : ℕ} (hx : x < 2 ^ (width + 1)) (hne : x ≠ 0) :
    (shift taps)^[n] x ≠ 0 := by
  induction n generalizing x with
  | zero => exact hne
  | succ n ih =>
    obtain ⟨hne', hx'⟩ := shift_ne_zero hlow hhigh hx hne
    exact ih hx' hne'

/-- **A burst leaves something behind**, wherever it stands and however many shifts follow. -/
theorem shifts_ne_zero_of_burst {x p n : ℕ} (hne : x ≠ 0)
    (hburst : ∀ i, x.testBit i = true → p ≤ i ∧ i < p + (width + 1)) (hp : p ≤ n) :
    (shift taps)^[n] x ≠ 0 := by
  have hx : (x >>> p) <<< p = x := by
    refine Nat.eq_of_testBit_eq fun i => ?_
    rw [Nat.testBit_shiftLeft, Nat.testBit_shiftRight]
    by_cases hi : p ≤ i
    · simp [hi]
    · -- below the burst every bit is clear
      have hclear : x.testBit i = false := by
        by_contra hset
        exact hi (hburst i (by simpa using hset)).1
      simp [hi, hclear]
  have hnarrow : x >>> p < 2 ^ (width + 1) := by
    refine Nat.lt_pow_two_of_testBit _ fun i hi => ?_
    rw [Nat.testBit_shiftRight]
    by_contra hset
    have hrange := (hburst (p + i) (by simpa using hset)).2
    omega
  have hsome : x >>> p ≠ 0 := by
    intro hzero
    rw [hzero, Nat.zero_shiftLeft] at hx
    exact hne hx.symm
  rw [← Nat.sub_add_cancel hp, Function.iterate_add_apply, ← hx, shifts_shiftLeft]
  exact shifts_ne_zero hlow hhigh (n - p) hnarrow hsome

end

/-! ## The bits of a message -/

/-- The bits of a stack of symbols are those of its symbols. -/
theorem testBit_stacked {k : ℕ} {symbols : List ℕ} (h : ∀ b ∈ symbols, b < 2 ^ k) (hk : 0 < k) (i : ℕ) :
    (stacked k symbols).testBit i = (symbols.getD (i / k) 0).testBit (i % k) := by
  induction symbols generalizing i with
  | nil => simp [stacked]
  | cons b rest ih =>
    have hb : b < 2 ^ k := h b List.mem_cons_self
    rw [stacked, Nat.testBit_xor, Nat.testBit_shiftLeft]
    by_cases hi : i < k
    · rw [Nat.div_eq_of_lt hi, Nat.mod_eq_of_lt hi]
      simp [Nat.not_le.mpr hi]
    · obtain ⟨j, rfl⟩ := Nat.exists_eq_add_of_le (Nat.not_lt.mp hi)
      have hhigh : b.testBit (k + j) = false :=
        Nat.testBit_eq_false_of_lt (lt_of_lt_of_le hb (Nat.pow_le_pow_right Nat.two_pos (by omega)))
      rw [hhigh, Nat.add_div_left j hk, Nat.add_mod_left, Nat.add_sub_cancel_left,
        ih (fun c hc => h c (List.mem_cons_of_mem b hc))]
      simp

theorem stacked_zipWith_xor (k : ℕ) {l l' : List ℕ} (h : l.length = l'.length) :
    stacked k (List.zipWith (· ^^^ ·) l l') = stacked k l ^^^ stacked k l' := by
  induction l generalizing l' with
  | nil =>
    rw [List.length_nil] at h
    rw [List.length_eq_zero_iff.mp h.symm]
    simp [stacked]
  | cons a rest ih =>
    cases l' with
    | nil => cases h
    | cons b rest' =>
      show (a ^^^ b) ^^^ (stacked k (List.zipWith (· ^^^ ·) rest rest') <<< k) =
        (a ^^^ (stacked k rest <<< k)) ^^^ (b ^^^ (stacked k rest' <<< k))
      rw [ih (Nat.succ.inj h), Nat.shiftLeft_xor_distrib]
      ac_rfl

end XBloom.Codec
