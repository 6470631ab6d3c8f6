/-
# XBloom.Py.Number — the Python numbers and exceptions the integration computes with

The integration is Python: sizes and counts are unbounded `int`s, doses, ratios and flow rates are
`float`s, and everything that goes on the wire is squeezed through `int()`, `round()`, `math.ceil()`,
`& 0xFF` or `struct.pack("B", …)`.  This module fixes those operations once.

Finite floats are exact rationals: the 53-bit rounding of each operation is not modelled.  What *is*
modelled is everything a rational cannot express and the code can meet — `nan` and the infinities
(`vol.Coerce(float)` lets the strings through), their comparisons, the overflow of a product or a
quotient to an infinity, and the exceptions `int()`, `round()` and `math.ceil()` raise on them.
-/
import Mathlib.Data.Rat.Floor
import Mathlib.Tactic.Linarith
import Mathlib.Tactic.NormNum
import Mathlib.Tactic.Positivity

namespace XBloom.Py

/-! ## Floats -/

/-- A Python `float`: a finite value, an infinity (`neg` is its sign) or `nan`. -/
inductive PyFloat where
  | fin (q : ℚ)
  | inf (neg : Bool)
  | nan
  deriving DecidableEq, Repr

namespace PyFloat

/-- From this magnitude on a double rounds to an infinity (`2^1024 - 2^970`, the midpoint above the
largest finite double). -/
@[irreducible] def overflowBound : ℚ := 2 ^ 1024 - 2 ^ 970

/-- The float an exact result becomes: itself, or an infinity when it is too large. -/
def ofRat (q : ℚ) : PyFloat :=
  if |q| < overflowBound then .fin q else .inf (decide (q < 0))

instance (n : ℕ) : OfNat PyFloat n := ⟨.fin n⟩

/-- `a < b`; every comparison with `nan` is `False`. -/
def lt : PyFloat → PyFloat → Bool
  | .fin a, .fin b => decide (a < b)
  | .fin _, .inf neg => !neg
  | .inf neg, .fin _ => neg
  | .inf a, .inf b => a && !b
  | .nan, _ => false
  | _, .nan => false

/-- `a == b`; `nan` equals nothing, itself included. -/
def eq : PyFloat → PyFloat → Bool
  | .fin a, .fin b => decide (a = b)
  | .inf a, .inf b => a == b
  | _, _ => false

/-- `a * b`. -/
def mul : PyFloat → PyFloat → PyFloat
  | .fin a, .fin b => ofRat (a * b)
  | .fin a, .inf neg => if a = 0 then .nan else .inf (neg ^^ decide (a < 0))
  | .inf neg, .fin b => if b = 0 then .nan else .inf (neg ^^ decide (b < 0))
  | .inf a, .inf b => .inf (a ^^ b)
  | .nan, _ => .nan
  | _, .nan => .nan

/-- `a + b`. -/
def add : PyFloat → PyFloat → PyFloat
  | .fin a, .fin b => ofRat (a + b)
  | .fin _, .inf neg => .inf neg
  | .inf neg, .fin _ => .inf neg
  | .inf a, .inf b => if a = b then .inf a else .nan
  | .nan, _ => .nan
  | _, .nan => .nan

/-- `-a`. -/
def neg : PyFloat → PyFloat
  | .fin a => .fin (-a)
  | .inf n => .inf !n
  | .nan => .nan

/-- The truth value of a float: everything but zero. -/
def truthy : PyFloat → Bool
  | .fin q => decide (q ≠ 0)
  | _ => true

@[simp] theorem lt_fin (a b : ℚ) : lt (.fin a) (.fin b) = decide (a < b) := rfl
@[simp] theorem eq_fin (a b : ℚ) : eq (.fin a) (.fin b) = decide (a = b) := rfl
@[simp] theorem lt_nan_left (x : PyFloat) : lt .nan x = false := by cases x <;> rfl
@[simp] theorem lt_nan_right (x : PyFloat) : lt x .nan = false := by cases x <;> rfl
@[simp] theorem ofNat_eq_fin (n : ℕ) : (OfNat.ofNat n : PyFloat) = .fin n := rfl
@[simp] theorem truthy_fin (q : ℚ) : truthy (.fin q) = decide (q ≠ 0) := rfl

theorem ofRat_of_lt {q : ℚ} (h : |q| < overflowBound) : ofRat q = .fin q := if_pos h

theorem ofRat_eq_fin_iff {q r : ℚ} : ofRat q = .fin r ↔ q = r ∧ |q| < overflowBound := by
  unfold ofRat
  split
  · rename_i h
    simp [h]
  · rename_i h
    simp [h]

/-- Anything up to a googol is a finite float — every number a recipe can sensibly hold. -/
theorem lt_overflowBound_of_le {q : ℚ} (h : |q| ≤ 10 ^ 100) : |q| < overflowBound := by
  have hten : (10 : ℚ) ^ 100 ≤ 2 ^ 400 := by
    calc (10 : ℚ) ^ 100 ≤ (2 ^ 4) ^ 100 := pow_le_pow_left₀ (by norm_num) (by norm_num) _
      _ = 2 ^ 400 := by rw [← pow_mul]
  have hmono : (2 : ℚ) ^ 400 ≤ 2 ^ 970 := pow_le_pow_right₀ (by norm_num) (by norm_num)
  have hsplit : (2 : ℚ) ^ 1024 = 2 ^ 970 * 2 ^ 54 := by rw [← pow_add]
  have hpos : (0 : ℚ) < 2 ^ 970 := by positivity
  have hbound : (2 : ℚ) ^ 970 * 2 < 2 ^ 970 * 2 ^ 54 := by
    refine mul_lt_mul_of_pos_left ?_ hpos
    norm_num
  have hten' := hten.trans hmono
  unfold overflowBound
  rw [hsplit]
  generalize (2 : ℚ) ^ 970 = p at *
  generalize (10 : ℚ) ^ 100 = t at *
  linarith only [h, hten', hbound]

end PyFloat

/-! ## Exceptions -/

/-- One piece of an f-string: a literal or an interpolated number. -/
inductive TextPart where
  | lit (s : String)
  | int (n : ℤ)
  | float (x : PyFloat)
  deriving DecidableEq, Repr

/-- The exceptions the modelled code raises.  The built-in ones carry the f-string of their
message where the repository writes it; `ackTimeout` is `ble.client.AckTimeout`, `brewStartUnconfirmed`
is `brewing.BrewStartUnconfirmed`, `homeAssistantError` is Home Assistant's own. -/
inductive PyErr where
  | valueError (text : List TextPart)
  | typeError
  | overflowError
  | zeroDivisionError
  | structError
  | attributeError
  | keyError
  | connectionError
  | ackTimeout
  | brewStartUnconfirmed
  | homeAssistantError
  deriving DecidableEq, Repr

/-- A sequence of two steps returns exactly when both do. -/
theorem bind_eq_ok {ε α β : Type} {x : Except ε α} {f : α → Except ε β} {b : β} :
    (x >>= f) = .ok b ↔ ∃ a, x = .ok a ∧ f a = .ok b := by
  cases x with
  | error e =>
    constructor
    · intro h
      cases h
    · rintro ⟨a, ha, _⟩
      cases ha
  | ok a =>
    constructor
    · intro h
      exact ⟨a, rfl, h⟩
    · rintro ⟨a', ha, h⟩
      cases ha
      exact h

/-- A sequence of two steps returns when the first returns and the second does on its result. -/
theorem returns_bind {ε α β : Type} {x : Except ε α} {f : α → Except ε β} {a : α}
    (hx : x = .ok a) (hf : ∃ b, f a = .ok b) : ∃ b, (x >>= f) = .ok b := by
  obtain ⟨b, hb⟩ := hf
  exact ⟨b, bind_eq_ok.mpr ⟨a, hx, hb⟩⟩

/-- A value that can be evaluated is returned. -/
theorem returns_of_isSome {ε α : Type} {x : Except ε α} (h : x.toOption.isSome = true) :
    ∃ a, x = .ok a := by
  cases x with
  | ok a => exact ⟨a, rfl⟩
  | error e => cases h

/-! ## Conversions between the two -/

namespace PyFloat

/-- `int(x)`: truncation toward zero; `ValueError` on `nan`, `OverflowError` on an infinity. -/
def toInt : PyFloat → Except PyErr ℤ
  | .fin q => .ok (if 0 ≤ q then ⌊q⌋ else ⌈q⌉)
  | .inf _ => .error .overflowError
  | .nan => .error (.valueError [.lit "cannot convert float NaN to integer"])

/-- `math.ceil(x)`. -/
def ceil : PyFloat → Except PyErr ℤ
  | .fin q => .ok ⌈q⌉
  | .inf _ => .error .overflowError
  | .nan => .error (.valueError [.lit "cannot convert float NaN to integer"])

/-- Round half to even, Python's `round` on an exact value. -/
def roundHalfEven (q : ℚ) : ℤ :=
  let f := ⌊q⌋
  if q - f < 1 / 2 then f
  else if 1 / 2 < q - f then f + 1
  else if f % 2 = 0 then f else f + 1

/-- Rounding moves a number by at most a half. -/
theorem roundHalfEven_le (q : ℚ) : (roundHalfEven q : ℚ) ≤ q + 1 / 2 := by
  have hfloor := Int.floor_le q
  unfold roundHalfEven
  simp only []
  split_ifs with hlow hhigh heven
  · linarith
  · push_cast
    linarith
  · linarith
  · push_cast
    linarith

theorem le_roundHalfEven (q : ℚ) : q ≤ roundHalfEven q + 1 / 2 := by
  have hfloor := Int.lt_floor_add_one q
  unfold roundHalfEven
  simp only []
  split_ifs with hlow hhigh heven
  · linarith
  · push_cast
    linarith
  · linarith
  · push_cast
    linarith

/-- `round(x)`. -/
def round : PyFloat → Except PyErr ℤ
  | .fin q => .ok (roundHalfEven q)
  | .inf _ => .error .overflowError
  | .nan => .error (.valueError [.lit "cannot convert float NaN to integer"])

/-- `float(n)` of an `int`: `OverflowError` when it does not fit. -/
def ofInt (n : ℤ) : Except PyErr PyFloat :=
  if |(n : ℚ)| < overflowBound then .ok (.fin n) else .error .overflowError

/-- `a / b` with `b` a float: `ZeroDivisionError` on zero. -/
def div : PyFloat → PyFloat → Except PyErr PyFloat
  | _, .fin 0 => .error .zeroDivisionError
  | .fin a, .fin b => .ok (ofRat (a / b))
  | .fin _, .inf _ => .ok (.fin 0)
  | .inf neg, .fin b => .ok (.inf (neg ^^ decide (b < 0)))
  | .inf _, .inf _ => .ok .nan
  | .nan, _ => .ok .nan
  | _, .nan => .ok .nan

/-- `a / b` of two `int`s: the exact quotient rounded, `OverflowError` when no double holds it. -/
def divInt (a b : ℤ) : Except PyErr PyFloat :=
  if b = 0 then .error .zeroDivisionError
  else if |(a : ℚ) / b| < overflowBound then .ok (.fin (a / b)) else .error .overflowError

theorem toInt_fin_of_nonneg {q : ℚ} (h : 0 ≤ q) : toInt (.fin q) = .ok ⌊q⌋ := by
  simp [toInt, h]

@[simp] theorem ceil_fin (q : ℚ) : ceil (.fin q) = .ok ⌈q⌉ := rfl
@[simp] theorem round_fin (q : ℚ) : round (.fin q) = .ok (roundHalfEven q) := rfl

theorem div_fin {a b : ℚ} (hb : b ≠ 0) : div (.fin a) (.fin b) = .ok (ofRat (a / b)) := by
  unfold div
  split
  · rename_i heq
    exact absurd (PyFloat.fin.inj heq) hb
  all_goals simp_all

theorem ofInt_of_lt {n : ℤ} (h : |(n : ℚ)| < overflowBound) : ofInt n = .ok (.fin n) := if_pos h

theorem ofInt_eq_ok {n : ℤ} {x : PyFloat} (h : ofInt n = .ok x) : x = .fin n := by
  unfold ofInt at h
  split at h
  · exact (Except.ok.inj h).symm
  · cases h

end PyFloat

/-! ## `struct.pack` and byte masks -/

/-- `n & 0xFF` on a Python `int` (two's complement for the negative ones). -/
def maskByte (n : ℤ) : UInt8 := UInt8.ofNat (n % 256).toNat

/-- `struct.pack("B", n)`: one byte, `struct.error` outside `0..255`. -/
def packB (n : ℤ) : Except PyErr UInt8 :=
  if 0 ≤ n ∧ n ≤ 255 then .ok (UInt8.ofNat n.toNat) else .error .structError

/-- `struct.pack("BBBB", a, b, c, d)`. -/
def packBBBB (a b c d : ℤ) : Except PyErr (List UInt8) := do
  let a ← packB a
  let b ← packB b
  let c ← packB c
  let d ← packB d
  return [a, b, c, d]

theorem packB_eq_ok {n : ℤ} {b : UInt8} (h : packB n = .ok b) :
    0 ≤ n ∧ n ≤ 255 ∧ b = UInt8.ofNat n.toNat := by
  unfold packB at h
  split at h
  · rename_i hr
    exact ⟨hr.1, hr.2, (Except.ok.inj h).symm⟩
  · cases h

theorem packB_of_range {n : ℤ} (h0 : 0 ≤ n) (h255 : n ≤ 255) :
    packB n = .ok (UInt8.ofNat n.toNat) := if_pos ⟨h0, h255⟩

theorem toNat_ofNat_of_le {n : ℕ} (h : n ≤ 255) : (UInt8.ofNat n).toNat = n := by
  rw [UInt8.toNat_ofNat']
  exact Nat.mod_eq_of_lt (by omega)

/-- A packed byte reads back as the number packed. -/
theorem toNat_of_packB {n : ℤ} {b : UInt8} (h : packB n = .ok b) : (b.toNat : ℤ) = n := by
  obtain ⟨h0, h255, rfl⟩ := packB_eq_ok h
  rw [toNat_ofNat_of_le (by omega)]
  omega

theorem maskByte_toNat (n : ℤ) : ((maskByte n).toNat : ℤ) = n % 256 := by
  unfold maskByte
  rw [toNat_ofNat_of_le (by omega)]
  omega

theorem packBBBB_eq_ok {a b c d : ℤ} {l : List UInt8} (h : packBBBB a b c d = .ok l) :
    ∃ a' b' c' d', packB a = .ok a' ∧ packB b = .ok b' ∧ packB c = .ok c' ∧ packB d = .ok d' ∧
      l = [a', b', c', d'] := by
  unfold packBBBB at h
  obtain ⟨a', ha, h⟩ := bind_eq_ok.mp h
  obtain ⟨b', hb, h⟩ := bind_eq_ok.mp h
  obtain ⟨c', hc, h⟩ := bind_eq_ok.mp h
  obtain ⟨d', hd, h⟩ := bind_eq_ok.mp h
  exact ⟨a', b', c', d', ha, hb, hc, hd, (Except.ok.inj h).symm⟩

theorem packBBBB_of_ok {a b c d : ℤ} {a' b' c' d' : UInt8} (ha : packB a = .ok a')
    (hb : packB b = .ok b') (hc : packB c = .ok c') (hd : packB d = .ok d') :
    packBBBB a b c d = .ok [a', b', c', d'] := by
  unfold packBBBB
  rw [ha, hb, hc, hd]
  rfl

end XBloom.Py
