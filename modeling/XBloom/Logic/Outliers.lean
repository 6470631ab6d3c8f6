/-
# XBloom.Logic.Outliers — a filter that drops outliers and cannot get stuck

A reading far from the last accepted one is dropped and counted.  The count starts again with every
accepted reading, and once `limit` readings in a row were dropped the next one is accepted whatever it
is.  The counted readings need not agree with each other.

So no more than `limit` readings in a row are dropped (`count_add_length_le`), few enough far readings
are all dropped (`rejects_of_far`), and a jump from one accepted reading to the next takes exactly
`limit` dropped ones (`length_eq_limit_of_jump`).
-/
import XBloom.Logic.Runs

namespace XBloom.Logic

/-- The last accepted reading, and how many were dropped since. -/
structure Outliers (α : Type) where
  last : Option α := none
  count : ℕ := 0
  deriving DecidableEq, Repr

namespace Outliers

variable {α : Type} (far : α → α → Prop) (limit : ℕ)

/-- Far from the last accepted reading, if there is one. -/
def Far (s : Outliers α) (x : α) : Prop := ∃ a, s.last = some a ∧ far a x

/-- The readings that are dropped. -/
def Rejects (s : Outliers α) (x : α) : Prop := s.Far far x ∧ s.count < limit

variable [DecidableRel far]

instance (s : Outliers α) (x : α) : Decidable (s.Far far x) :=
  decidable_of_iff (s.last.any fun a => decide (far a x)) (by simp [Far, Option.any_eq_true])

instance (s : Outliers α) (x : α) : Decidable (s.Rejects far limit x) :=
  inferInstanceAs (Decidable (_ ∧ _))

/-- One reading. -/
def step (s : Outliers α) (x : α) : Outliers α :=
  if s.Rejects far limit x then { s with count := s.count + 1 } else { last := some x, count := 0 }

variable {far limit} {s : Outliers α}

theorem step_of_rejects {x : α} (h : s.Rejects far limit x) :
    s.step far limit x = { s with count := s.count + 1 } := if_pos h

theorem step_of_not_rejects {x : α} (h : ¬ s.Rejects far limit x) :
    s.step far limit x = { last := some x, count := 0 } := if_neg h

/-! ## The count -/

/-- **The count never passes the limit.** -/
theorem count_le (h : s.count ≤ limit) (l : List α) : (run (step far limit) s l).count ≤ limit := by
  refine @run_preserves _ _ (step far limit) (fun s => s.count ≤ limit) (fun s x h => ?_) s h l
  by_cases hx : s.Rejects far limit x
  · rw [step_of_rejects hx]
    exact hx.2
  · rw [step_of_not_rejects hx]
    exact Nat.zero_le limit

/-- Dropped readings are counted, and change nothing else. -/
theorem run_rejects {l : List α} : ∀ {s : Outliers α}, AllSteps (step far limit) (Rejects far limit) s l →
    run (step far limit) s l = { s with count := s.count + l.length } := by
  induction l with
  | nil => exact fun _ => rfl
  | cons x rest ih =>
    intro s h
    show run (step far limit) (s.step far limit x) rest = _
    rw [ih h.2, step_of_rejects h.1]
    simp only [List.length_cons, Outliers.mk.injEq, true_and]
    omega

/-- At most `limit` readings are dropped in a row. -/
theorem count_add_length_le (hs : s.count ≤ limit) {l : List α}
    (h : AllSteps (step far limit) (Rejects far limit) s l) : s.count + l.length ≤ limit := by
  have hrun := run_rejects h
  have hle : (run (step far limit) s l).count ≤ limit := count_le hs l
  rw [hrun] at hle
  exact hle

/-- **Far readings are all dropped**, as long as the limit is not passed. -/
theorem rejects_of_far {l : List α} : ∀ {s : Outliers α}, s.count + l.length ≤ limit →
    AllSteps (step far limit) (Far far) s l → AllSteps (step far limit) (Rejects far limit) s l := by
  induction l with
  | nil => exact fun _ _ => trivial
  | cons x rest ih =>
    intro s hle h
    rw [List.length_cons] at hle
    have hx : s.Rejects far limit x := ⟨h.1, by omega⟩
    refine ⟨hx, ih ?_ h.2⟩
    rw [step_of_rejects hx]
    show s.count + 1 + rest.length ≤ limit
    omega

/-- **A jump takes the whole limit**: between an accepted reading and the next accepted one, when that is
far from it, exactly `limit` readings were dropped. -/
theorem length_eq_limit_of_jump {a b : α} {dropped : List α}
    (hdropped : AllSteps (step far limit) (Rejects far limit) { last := some a, count := 0 } dropped)
    (hb : ¬ (run (step far limit) { last := some a, count := 0 } dropped).Rejects far limit b)
    (hfar : far a b) : dropped.length = limit := by
  have hle := count_add_length_le (Nat.zero_le limit) hdropped
  rw [run_rejects hdropped] at hb
  have hge : ¬ (0 + dropped.length < limit) := fun hlt => hb ⟨⟨a, rfl, hfar⟩, hlt⟩
  simp only [Nat.zero_add] at hle hge
  omega

end Outliers

end XBloom.Logic
