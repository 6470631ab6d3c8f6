/-
# XBloom.Logic.Apportion — whole parts of a total, the last part taking the rest

A total is to be split by shares into whole parts of at least one unit.  Every part but the last is its
share rounded; the last is what the others leave of the total, but at least one unit as well.  The floor
is what can break the split: `apportion_sum_eq_iff` says when the parts still sum to the total.

Nothing here depends on what is split or on how shares are rounded.
-/
import Mathlib.Algebra.BigOperators.Group.List.Basic
import Mathlib.Algebra.Order.Field.Basic
import Mathlib.Data.Int.Cast.Lemmas
import Mathlib.Tactic.Linarith
import Mathlib.Tactic.NormNum
import Mathlib.Tactic.Ring

namespace XBloom.Logic

/-! ## The parts -/

section Parts

variable {α : Type*} (round : α → ℤ)

/-- A share rounded, at least one unit. -/
def wholePart (x : α) : ℤ := max 1 (round x)

/-- The parts of `total`, of which `running` units are gone. -/
def apportion (total : ℤ) : ℤ → List α → List ℤ
  | _, [] => []
  | running, [_] => [max 1 (total - running)]
  | running, x :: y :: rest =>
    wholePart round x :: apportion total (running + wholePart round x) (y :: rest)

/-- What all parts but the last come to. -/
def given (xs : List α) : ℤ := (xs.dropLast.map (wholePart round)).sum

@[simp] theorem given_singleton (x : α) : given round [x] = 0 := rfl

@[simp] theorem given_cons_cons (x y : α) (rest : List α) :
    given round (x :: y :: rest) = wholePart round x + given round (y :: rest) := by
  simp [given]

@[simp] theorem apportion_length (total running : ℤ) (xs : List α) :
    (apportion round total running xs).length = xs.length := by
  induction xs generalizing running with
  | nil => rfl
  | cons x rest ih =>
    cases rest with
    | nil => rfl
    | cons y rest => simp [apportion, ih]

/-- **No part is empty.** -/
theorem one_le_of_mem_apportion {total running : ℤ} {xs : List α} :
    ∀ n ∈ apportion round total running xs, 1 ≤ n := by
  induction xs generalizing running with
  | nil => simp [apportion]
  | cons x rest ih =>
    cases rest with
    | nil => simp [apportion]
    | cons y rest =>
      intro n hn
      rcases List.mem_cons.mp hn with rfl | hn
      · exact le_max_left _ _
      · exact ih n hn

/-- The last part makes up the total, or it is one unit on top of what the others were given. -/
theorem apportion_sum (total running : ℤ) {xs : List α} (h : xs ≠ []) :
    running + (apportion round total running xs).sum = max (running + given round xs + 1) total := by
  induction xs generalizing running with
  | nil => exact absurd rfl h
  | cons x rest ih =>
    cases rest with
    | nil =>
      simp only [apportion, given_singleton, List.sum_cons, List.sum_nil]
      omega
    | cons y rest =>
      have hrest := ih (running + wholePart round x) (List.cons_ne_nil y rest)
      simp only [apportion, given_cons_cons, List.sum_cons]
      omega

end Parts

/-! ## Against the exact shares -/

section Shares

variable {K : Type*} [Field K] (round : K → ℤ)

/-- What a part has over its share: the rounding, and the floor of one unit. -/
def gain (x : K) : K := wholePart round x - x

/-- What all parts but the last have over their shares. -/
def gains (xs : List K) : K := (xs.dropLast.map (gain round)).sum

@[simp] theorem gains_singleton (x : K) : gains round [x] = 0 := rfl

@[simp] theorem gains_cons_cons (x y : K) (rest : List K) :
    gains round (x :: y :: rest) = gain round x + gains round (y :: rest) := by
  simp [gains]

variable [LinearOrder K] [IsStrictOrderedRing K]

/-- What the others are given and the last one's share are all shares and the gains. -/
theorem given_add_getLast {xs : List K} (h : xs ≠ []) :
    (given round xs : K) + xs.getLast h = xs.sum + gains round xs := by
  induction xs with
  | nil => exact absurd rfl h
  | cons x rest ih =>
    cases rest with
    | nil => simp
    | cons y rest =>
      have hrest := ih (List.cons_ne_nil y rest)
      rw [List.getLast_cons_cons, given_cons_cons, gains_cons_cons, List.sum_cons, Int.cast_add]
      unfold gain
      linarith only [hrest]

/-- The sum of the parts against the shares: the last part makes up the total, or it is one unit too. -/
theorem apportion_sum_cast (total : ℤ) {xs : List K} (h : xs ≠ []) :
    ((apportion round total 0 xs).sum : K) =
      max (xs.sum - xs.getLast h + gains round xs + 1) total := by
  have hsum := apportion_sum round total 0 h
  rw [zero_add, zero_add] at hsum
  have hgiven : (given round xs : K) = xs.sum - xs.getLast h + gains round xs := by
    linarith only [given_add_getLast round h]
  rw [hsum, Int.cast_max, Int.cast_add, Int.cast_one, hgiven]

/-- **The parts sum to the total** exactly when the gains of the others leave the last part one unit: they
are at most what its own share has above one unit, up to the rounding of the total itself. -/
theorem apportion_sum_eq_iff {total : ℤ} {xs : List K} (h : xs ≠ []) :
    (apportion round total 0 xs).sum = total ↔
      gains round xs ≤ xs.getLast h - 1 + (total - xs.sum) := by
  rw [← Int.cast_inj (α := K), apportion_sum_cast round total h, max_eq_right_iff]
  constructor
  · intro hle
    linarith only [hle]
  · intro hle
    linarith only [hle]

/-- **The parts stay within one unit of an amount** `water` when the gains do not drive them above it, and
the last part's share or the gains do not leave them below. -/
theorem apportion_near_iff (total : ℤ) {xs : List K} (h : xs ≠ []) (water : K) :
    |((apportion round total 0 xs).sum : K) - water| ≤ 1 ↔
      gains round xs ≤ xs.getLast h + (water - xs.sum) ∧ (total : K) ≤ water + 1 ∧
        (water ≤ total + 1 ∨ xs.getLast h + (water - xs.sum) ≤ gains round xs + 2) := by
  rw [apportion_sum_cast round total h, abs_le, neg_le_sub_iff_le_add, sub_le_iff_le_add',
    max_le_iff, ← sub_le_iff_le_add, le_max_iff, and_comm]
  refine and_congr (and_congr ?_ ?_) ?_ |>.trans and_assoc
  · constructor
    · intro hle
      linarith only [hle]
    · intro hle
      linarith only [hle]
  · rw [add_comm]
  · rw [or_comm]
    refine or_congr sub_le_iff_le_add ?_
    constructor
    · intro hle
      linarith only [hle]
    · intro hle
      linarith only [hle]

/-- A share of at least half a unit gains at most half a unit. -/
theorem gain_le_half {x : K} (hround : (round x : K) ≤ x + 1 / 2) (hx : 1 / 2 ≤ x) :
    gain round x ≤ 1 / 2 := by
  have hpart : (wholePart round x : K) ≤ x + 1 / 2 := by
    unfold wholePart
    rw [Int.cast_max, Int.cast_one]
    exact max_le (by linarith only [hx]) hround
  unfold gain
  linarith only [hpart]

/-- Shares of at least half a unit gain at most half a unit each. -/
theorem gains_le_half {xs : List K} (hround : ∀ x ∈ xs, (round x : K) ≤ x + 1 / 2)
    (hxs : ∀ x ∈ xs, 1 / 2 ≤ x) : gains round xs ≤ (xs.length - 1 : ℕ) / 2 := by
  induction xs with
  | nil => simp [gains]
  | cons x rest ih =>
    cases rest with
    | nil => simp
    | cons y rest =>
      have hrest := ih (fun z hz => hround z (List.mem_cons_of_mem _ hz))
        (fun z hz => hxs z (List.mem_cons_of_mem _ hz))
      have hx := gain_le_half round (hround x List.mem_cons_self) (hxs x List.mem_cons_self)
      rw [gains_cons_cons]
      simp only [List.length_cons, Nat.add_sub_cancel, Nat.cast_add, Nat.cast_one] at hrest ⊢
      linarith only [hrest, hx]

end Shares

end XBloom.Logic
