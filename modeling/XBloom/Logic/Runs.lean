/-
# XBloom.Logic.Runs — runs of a deterministic system, and what holds all along them

`run step s l` is the state after the actions `l`.  A condition on steps reads the state *before* the
action; `AllSteps` says that every step of a run meets it, so it speaks about every state the run
passes through.  An invariant is proved once per step and carried by `run_invariant`; a conclusion
about each step follows from the invariant by `AllSteps.of_invariant`.
-/
import Mathlib.Data.List.Basic

namespace XBloom.Logic

variable {S A : Type} (step : S → A → S)

/-- The state after some actions. -/
def run (s : S) (l : List A) : S := l.foldl step s

/-- Every step of a run meets a condition on the state before it and its action. -/
def AllSteps (P : S → A → Prop) : S → List A → Prop
  | _, [] => True
  | s, a :: rest => P s a ∧ AllSteps P (step s a) rest

variable {step} {P Q : S → A → Prop} {Inv : S → Prop}

/-- Conditions that can be evaluated are evaluated along a run. -/
instance AllSteps.decidable [∀ s a, Decidable (P s a)] :
    ∀ (s : S) (l : List A), Decidable (AllSteps step P s l)
  | _, [] => .isTrue trivial
  | s, a :: rest =>
    have := AllSteps.decidable (step s a) rest
    inferInstanceAs (Decidable (P s a ∧ AllSteps step P (step s a) rest))

theorem run_append (s : S) (l l' : List A) :
    run step s (l ++ l') = run step (run step s l) l' := List.foldl_append

theorem AllSteps.append_iff {s : S} {l l' : List A} :
    AllSteps step P s (l ++ l') ↔ AllSteps step P s l ∧ AllSteps step P (run step s l) l' := by
  induction l generalizing s with
  | nil => exact ⟨fun h => ⟨trivial, h⟩, fun h => h.2⟩
  | cons a rest ih =>
    show P s a ∧ AllSteps step P (step s a) (rest ++ l') ↔
      (P s a ∧ AllSteps step P (step s a) rest) ∧ AllSteps step P (run step (step s a) rest) l'
    rw [ih, and_assoc]

/-- Two conditions at once. -/
theorem AllSteps.and {l : List A} : ∀ {s : S}, AllSteps step P s l → AllSteps step Q s l →
    AllSteps step (fun s a => P s a ∧ Q s a) s l := by
  induction l with
  | nil => exact fun _ _ => trivial
  | cons a rest ih => exact fun hP hQ => ⟨⟨hP.1, hQ.1⟩, ih hP.2 hQ.2⟩

/-- **A run that breaks a condition breaks it at a first step**: the steps before it meet the
condition. -/
theorem AllSteps.exists_first {l : List A} :
    ∀ {s : S}, ¬ AllSteps step P s l →
      ∃ pre a post, l = pre ++ a :: post ∧ AllSteps step P s pre ∧ ¬ P (run step s pre) a := by
  induction l with
  | nil => exact fun h => absurd trivial h
  | cons b rest ih =>
    intro s h
    by_cases hb : P s b
    · obtain ⟨pre, a, post, rfl, hpre, ha⟩ := ih fun hrest => h ⟨hb, hrest⟩
      exact ⟨b :: pre, a, post, rfl, ⟨hb, hpre⟩, ha⟩
    · exact ⟨[], b, rest, rfl, trivial, hb⟩

/-- What every step keeps holds at the end of every run. -/
theorem run_preserves (hstep : ∀ s a, Inv s → Inv (step s a)) {s : S} (h : Inv s) (l : List A) :
    Inv (run step s l) := by
  induction l generalizing s with
  | nil => exact h
  | cons a rest ih => exact ih (hstep s a h)

/-- **Invariants hold at the end of every run** whose steps meet the condition. -/
theorem run_invariant (hstep : ∀ s a, Inv s → P s a → Inv (step s a)) {l : List A} :
    ∀ {s : S}, Inv s → AllSteps step P s l → Inv (run step s l) := by
  induction l with
  | nil => exact fun h _ => h
  | cons a rest ih => exact fun h hall => ih (hstep _ a h hall.1) hall.2

/-- **What follows of a step from an invariant follows all along a run.** -/
theorem AllSteps.of_invariant (hstep : ∀ s a, Inv s → P s a → Inv (step s a) ∧ Q s a)
    {l : List A} : ∀ {s : S}, Inv s → AllSteps step P s l → AllSteps step Q s l := by
  induction l with
  | nil => exact fun _ _ => trivial
  | cons a rest ih =>
    intro s h hall
    obtain ⟨hinv, hq⟩ := hstep s a h hall.1
    exact ⟨hq, ih hinv hall.2⟩

/-- What a condition implies step by step it implies along a run. -/
theorem AllSteps.imp (h : ∀ s a, P s a → Q s a) {l : List A} {s : S} (hall : AllSteps step P s l) :
    AllSteps step Q s l :=
  @AllSteps.of_invariant _ _ step P Q (fun _ => True) (fun s a _ hP => ⟨trivial, h s a hP⟩) l s trivial hall

/-- **What follows of every step from an invariant** that every step keeps. -/
theorem AllSteps.of_kept (hstep : ∀ s a, Inv s → Inv (step s a) ∧ Q s a) (l : List A) :
    ∀ {s : S}, Inv s → AllSteps step Q s l := by
  induction l with
  | nil => exact fun _ => trivial
  | cons a rest ih => exact fun h => ⟨(hstep _ a h).2, ih (hstep _ a h).1⟩

/-- **Two conditions on steps that agree under an invariant** agree on runs. -/
theorem AllSteps.iff_of_kept (hstep : ∀ s a, Inv s → Inv (step s a) ∧ (P s a ↔ Q s a)) (l : List A) :
    ∀ {s : S}, Inv s → (AllSteps step P s l ↔ AllSteps step Q s l) := by
  induction l with
  | nil => exact fun _ => Iff.rfl
  | cons a rest ih =>
    intro s h
    obtain ⟨hinv, hiff⟩ := hstep s a h
    exact and_congr hiff (ih hinv)

/-- A condition on the actions alone. -/
theorem AllSteps.of_forall {R : A → Prop} {l : List A} :
    ∀ {s : S}, (∀ a ∈ l, R a) → AllSteps step (fun _ a => R a) s l := by
  induction l with
  | nil => exact fun _ => trivial
  | cons a rest ih =>
    intro s h
    exact ⟨h a List.mem_cons_self, ih fun b hb => h b (List.mem_cons_of_mem a hb)⟩

/-- **Two conditions on steps that agree as long as one of them holds** agree on runs. -/
theorem AllSteps.iff_while {C : S → A → Prop}
    (hstep : ∀ s a, Inv s → C s a → (P s a ↔ Q s a) ∧ (P s a → Inv (step s a))) {l : List A} :
    ∀ {s : S}, Inv s → AllSteps step C s l → (AllSteps step P s l ↔ AllSteps step Q s l) := by
  induction l with
  | nil => exact fun _ _ => Iff.rfl
  | cons a rest ih =>
    intro s h hC
    obtain ⟨hiff, hkeeps⟩ := hstep s a h hC.1
    constructor
    · rintro ⟨hP, hrest⟩
      exact ⟨hiff.mp hP, (ih (hkeeps hP) hC.2).mp hrest⟩
    · rintro ⟨hQ, hrest⟩
      exact ⟨hiff.mpr hQ, (ih (hkeeps (hiff.mpr hQ)) hC.2).mpr hrest⟩

/-! ## Seeing one run as another -/

section Views

variable {S' A' : Type} {step' : S' → A' → S'} {view : S → S'} {act : A → A'}

/-- **A view that commutes with the step commutes with runs.** -/
theorem run_view (h : ∀ s a, view (step s a) = step' (view s) (act a)) (s : S) (l : List A) :
    view (run step s l) = run step' (view s) (l.map act) := by
  induction l generalizing s with
  | nil => rfl
  | cons a rest ih =>
    show view (run step (step s a) rest) = run step' (step' (view s) (act a)) (rest.map act)
    rw [ih, h]

/-- A condition on the view is the condition on the run seen. -/
theorem AllSteps.view_iff (h : ∀ s a, view (step s a) = step' (view s) (act a))
    {R : S' → A' → Prop} (s : S) (l : List A) :
    AllSteps step (fun s a => R (view s) (act a)) s l ↔ AllSteps step' R (view s) (l.map act) := by
  induction l generalizing s with
  | nil => exact Iff.rfl
  | cons a rest ih =>
    refine and_congr Iff.rfl ?_
    rw [ih, h]

end Views

/-! ## A latch and the last code that moved it

A latch is set by some codes and cleared by others, and every other code leaves it alone.  So it says
which kind the last code was that it knows (`latch_eq_true_iff`).
-/

section Latches

variable {C : Type}

/-- One code: setting wins over clearing. -/
def latch (sets clears : C → Bool) (on : Bool) (code : C) : Bool :=
  if sets code then true else if clears code then false else on

/-- **The last code that sets or clears sets.** -/
def LastSets (sets clears : C → Bool) (codes : List C) : Prop :=
  ∃ code, (codes.filter fun c => sets c || clears c).getLast? = some code ∧ sets code = true

/-- What one more code does to the last one that counts. -/
theorem lastSets_snoc (sets clears : C → Bool) (codes : List C) (code : C) :
    LastSets sets clears (codes ++ [code]) ↔
      sets code = true ∨ (clears code = false ∧ LastSets sets clears codes) := by
  unfold LastSets
  rw [List.filter_append]
  by_cases hsets : sets code = true
  · simp [hsets]
  · by_cases hclears : clears code = true
    · simp [hsets, hclears]
    · simp [hsets, hclears]

/-- **A latch shows the last code that moved it.** -/
theorem latch_eq_true_iff (sets clears : C → Bool) {codes : List C} {code : C} {on : Bool}
    (h : on = true ↔ LastSets sets clears codes) :
    latch sets clears on code = true ↔ LastSets sets clears (codes ++ [code]) := by
  rw [lastSets_snoc, ← h]
  unfold latch
  by_cases hsets : sets code = true
  · simp [hsets]
  · by_cases hclears : clears code = true
    · simp [hsets, hclears]
    · simp [hsets, hclears]

end Latches

end XBloom.Logic
