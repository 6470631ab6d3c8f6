/-
# XBloom.Async.Pools — what every run of a pool keeps

Traces only grow, and a task's number is never used again: an event or a suspension always belongs to
a call that was made.  A call that stays within a footprint emits nothing outside it in any run.
-/
import XBloom.Async.Rules
import Mathlib.Order.Basic
import Mathlib.Algebra.Order.Group.Nat

namespace XBloom.Async

open XBloom.Logic

variable {W E L R C M : Type} {S : System W E L R C M} {p : Pool W E L R C} {t : ℕ}

/-! ## Traces grow -/

theorem Pool.step_grows (p : Pool W E L R C) (a : Action R C M) :
    p.trace <+: (p.step S a).trace := by
  cases hturn : p.turn S a with
  | some turn =>
    rw [(Pool.step_of_turn hturn).2.1]
    exact List.prefix_append _ _
  | none => exact (Pool.step_of_no_turn hturn).1.symm ▸ List.prefix_rfl

/-- **A trace only grows.** -/
theorem trace_grows (p : Pool W E L R C) (as : List (Action R C M)) :
    p.trace <+: (run (Pool.step S) p as).trace := by
  induction as generalizing p with
  | nil => exact List.prefix_rfl
  | cons a rest ih => exact (p.step_grows a).trans (ih (p.step S a))

/-- What a step adds to the trace is what it emits. -/
theorem Pool.step_adds (p : Pool W E L R C) (a : Action R C M) :
    ∃ es : Trace C E, (p.step S a).trace = p.trace ++ es ∧ es.map Entry.event = p.emitted S a := by
  cases hturn : p.turn S a with
  | some turn =>
    refine ⟨_, (Pool.step_of_turn hturn).2.1, ?_⟩
    rw [Pool.emitted_of_turn hturn, mark, List.map_map]
    exact List.map_id _
  | none =>
    refine ⟨[], ?_, ?_⟩
    · rw [(Pool.step_of_no_turn hturn).1, List.append_nil]
    · simp only [Pool.emitted, hturn, List.map_nil]

/-- **What a run adds to the trace**, step by step. -/
theorem run_adds_only_iff {Q : E → Prop} (p : Pool W E L R C) (as : List (Action R C M)) :
    (∀ e ∈ (run (Pool.step S) p as).trace.drop p.trace.length, Q e.event) ↔
      AllSteps (Pool.step S) (fun p a => ∀ e ∈ p.emitted S a, Q e) p as := by
  induction as generalizing p with
  | nil =>
    refine ⟨fun _ => trivial, fun _ e he => ?_⟩
    have he : e ∈ p.trace.drop p.trace.length := he
    simp at he
  | cons a rest ih =>
    obtain ⟨es, hes, hemitted⟩ := p.step_adds (S := S) a
    obtain ⟨later, hlater⟩ := trace_grows (S := S) (p.step S a) rest
    have hrest : (run (Pool.step S) p (a :: rest)).trace.drop p.trace.length = es ++ later := by
      show (run (Pool.step S) (p.step S a) rest).trace.drop p.trace.length = es ++ later
      rw [← hlater, hes, List.append_assoc, List.drop_left]
    have hlast : (run (Pool.step S) (p.step S a) rest).trace.drop (p.step S a).trace.length =
        later := by rw [← hlater, List.drop_left]
    have hstep : (∀ e ∈ es, Q e.event) ↔ ∀ e ∈ p.emitted S a, Q e := by
      rw [← hemitted]
      simp
    show _ ↔ (∀ e ∈ p.emitted S a, Q e) ∧
      AllSteps (Pool.step S) (fun p a => ∀ e ∈ p.emitted S a, Q e) (p.step S a) rest
    rw [hrest, ← hstep, ← ih, hlast]
    simp only [List.mem_append, or_imp, forall_and]

/-! ## Tasks are numbered -/

/-- Every event and every suspended task belongs to a call that was made. -/
structure Numbered (p : Pool W E L R C) : Prop where
  trace : ∀ e ∈ p.trace, e.task < p.spawned
  tasks : ∀ t τ, p.tasks t = some τ → t < p.spawned

theorem numbered_idle (w : W) : Numbered (Pool.idle w : Pool W E L R C) :=
  ⟨fun _ he => absurd he List.not_mem_nil, fun _ _ h => by cases h⟩

theorem Numbered.turn_lt (h : Numbered p) {a : Action R C M} {turn : Turn W E L R C}
    (hturn : p.turn S a = some turn) : turn.task < (p.count S a).spawned := by
  rcases Pool.turn_cases hturn with ⟨htask, _, _, rfl⟩ | ⟨τ, r, hτ, _, _, _, rfl⟩
  · rw [htask]
    exact Nat.lt_succ_self _
  · exact h.tasks _ τ hτ

theorem Pool.spawned_le (p : Pool W E L R C) (a : Action R C M) :
    p.spawned ≤ (p.count S a).spawned := by
  cases a with
  | spawn c => exact Nat.le_succ _
  | resume t r => exact le_rfl
  | move m => exact le_rfl

theorem Pool.step_spawned (p : Pool W E L R C) (a : Action R C M) :
    (p.step S a).spawned = (p.count S a).spawned := by
  unfold Pool.step
  split <;> rfl

theorem Numbered.step (h : Numbered p) (a : Action R C M) : Numbered (p.step S a) := by
  have hle : p.spawned ≤ (p.step S a).spawned := (p.spawned_le a).trans (p.step_spawned a).ge
  cases hturn : p.turn S a with
  | some turn =>
    obtain ⟨_, htrace, htasks⟩ := Pool.step_of_turn hturn
    have hturn_lt : turn.task < (p.step S a).spawned :=
      (h.turn_lt hturn).trans_eq (p.step_spawned a).symm
    constructor
    · intro e he
      rw [htrace, List.mem_append] at he
      rcases he with he | he
      · exact (h.trace e he).trans_le hle
      · obtain ⟨ev, _, rfl⟩ := List.mem_map.mp he
        exact hturn_lt
    · intro t τ htask
      by_cases ht : t = turn.task
      · rw [ht]
        exact hturn_lt
      · rw [htasks, Function.update_of_ne ht] at htask
        exact (h.tasks t τ htask).trans_le hle
  | none =>
    obtain ⟨htrace, htasks⟩ := Pool.step_of_no_turn hturn
    constructor
    · intro e he
      rw [htrace] at he
      exact (h.trace e he).trans_le hle
    · intro t τ htask
      rw [htasks] at htask
      exact (h.tasks t τ htask).trans_le hle

/-- **Every pool a run reaches is numbered.** -/
theorem numbered_run (w : W) (as : List (Action R C M)) :
    Numbered (run (Pool.step S) (Pool.idle w) as) :=
  run_preserves (fun _ a h => h.step a) (numbered_idle w) as

/-! ## Calls within a footprint -/

/-- A call suspended as task `t` stays within a footprint. -/
structure TaskWithin (F : Footprint W E L) (t : ℕ) (p : Pool W E L R C) : Prop where
  spawned : t < p.spawned
  body : ∀ τ, p.tasks t = some τ → ∀ r, (τ.resume r).Within F

variable {F : Footprint W E L} {α : Type}

theorem Co.Within.emitted {x : Co W E L R α} (h : x.Within F) (w : W) :
    ∀ e ∈ (x.segment w).2.1, F.emits e := by
  induction x generalizing w with
  | ret a => exact fun e he => absurd he List.not_mem_nil
  | read k ih => exact ih w (h w) w
  | write f k ih => exact ih h.2 (f w)
  | emit e k ih =>
    intro e' he'
    rcases List.mem_cons.mp he' with rfl | he'
    · exact h.1
    · exact ih h.2 w e' he'
  | await l k ih => exact fun e he => absurd he List.not_mem_nil

theorem Co.Within.residue {c : C} {x : Co W E L R Unit} (h : x.Within F) (w : W)
    {τ : Suspended W E L R C} (hres : Pool.residue c (x.segment w).2.2 = some τ) (r : R) :
    (τ.resume r).Within F := by
  induction x generalizing w with
  | ret a => cases hres
  | read k ih => exact ih w (h w) w hres
  | write f k ih => exact ih h.2 (f w) hres
  | emit e k ih => exact ih h.2 w hres
  | await l k ih =>
    cases hres
    exact h.2 r

/-- A turn of task `t` stays within its footprint. -/
theorem TaskWithin.turn (h : TaskWithin F t p) {a : Action R C M} {turn : Turn W E L R C}
    (hturn : p.turn S a = some turn) (ht : turn.task = t) : turn.body.Within F := by
  rcases Pool.turn_cases hturn with ⟨htask, _⟩ | ⟨τ, r, hτ, _, _, hbody, _⟩
  · exact absurd (ht.symm.trans htask) h.spawned.ne
  · rw [ht] at hτ
    rw [hbody]
    exact h.body τ hτ r

theorem TaskWithin.step (h : TaskWithin F t p) (a : Action R C M) :
    TaskWithin F t (p.step S a) := by
  refine ⟨h.spawned.trans_le ((p.spawned_le a).trans (p.step_spawned a).ge), ?_⟩
  intro τ htask r
  cases hturn : p.turn S a with
  | some turn =>
    rw [(Pool.step_of_turn hturn).2.2] at htask
    by_cases ht : t = turn.task
    · rw [ht, Function.update_self] at htask
      exact (h.turn hturn ht.symm).residue _ htask r
    · rw [Function.update_of_ne ht] at htask
      exact h.body τ htask r
  | none =>
    rw [(Pool.step_of_no_turn hturn).2] at htask
    exact h.body τ htask r

/-- **A call within a footprint emits nothing outside it**, in any continuation. -/
theorem TaskWithin.emitted (h : TaskWithin F t p) (as : List (Action R C M)) :
    ∀ e ∈ (run (Pool.step S) p as).trace, e.task = t → e ∈ p.trace ∨ F.emits e.event := by
  induction as generalizing p with
  | nil => exact fun e he _ => Or.inl he
  | cons a rest ih =>
    intro e he ht
    rcases ih (h.step a) e he ht with he | he
    · cases hturn : p.turn S a with
      | some turn =>
        rw [(Pool.step_of_turn hturn).2.1, List.mem_append] at he
        rcases he with he | he
        · exact Or.inl he
        · obtain ⟨ev, hev, rfl⟩ := List.mem_map.mp he
          exact Or.inr ((h.turn hturn ht).emitted _ ev hev)
      | none =>
        rw [(Pool.step_of_no_turn hturn).1] at he
        exact Or.inl he
    · exact Or.inr he

end XBloom.Async
