/-
# XBloom.Async.Segments — what every segment of a call does, whatever the others do

Between two awaits a call runs alone, so what one segment does to the world and what it emits can be
said without naming the other calls.  `Co.Segmentwise P` says it of every segment of a coroutine that
ends in waiting, from every world it may be resumed in; `Passes` is the triple for routines, where
assertions see the segment so far.  `PoolPasses.step` carries it to every step of a pool, and
`TaskPasses` follows one task whose segments share what the call found when it began.
-/
import XBloom.Async.Pools

namespace XBloom.Async

open XBloom.Logic

variable {W E L R C M ε α β : Type}

/-- A segment so far: how it began, the world it found and the world now, and what it emitted. -/
structure Segment (W E L R : Type) where
  resumed : Option (L × R)
  before : W
  now : W
  events : List E

/-- A segment that begins. -/
def Segment.start (resumed : Option (L × R)) (w : W) : Segment W E L R := ⟨resumed, w, w, []⟩

/-- **Every segment of a coroutine that ends in waiting ends in `P`** of the point it waits at, and its
result in `Q`. -/
def Co.Segmentwise (P : L → Segment W E L R → Prop) (Q : α → Segment W E L R → Prop) :
    Co W E L R α → Segment W E L R → Prop
  | .ret a, σ => Q a σ
  | .read k, σ => (k σ.now).Segmentwise P Q σ
  | .write f k, σ => k.Segmentwise P Q { σ with now := f σ.now }
  | .emit e k, σ => k.Segmentwise P Q { σ with events := σ.events ++ [e] }
  | .await l k, σ => P l σ ∧ ∀ r w, (k r).Segmentwise P Q (.start (some (l, r)) w)

variable {P P' : L → Segment W E L R → Prop} {σ : Segment W E L R}

/-! ## Sequencing and consequence -/

theorem Co.segmentwise_bind {x : Co W E L R α} {f : α → Co W E L R β}
    {Q : β → Segment W E L R → Prop} :
    (x.bind f).Segmentwise P Q σ ↔ x.Segmentwise P (fun a => (f a).Segmentwise P Q) σ := by
  induction x generalizing σ with
  | ret a => exact Iff.rfl
  | read k ih => exact ih σ.now
  | write g k ih => exact ih
  | emit e k ih => exact ih
  | await l k ih =>
    exact and_congr_right fun _ => forall_congr' fun r => forall_congr' fun w => ih r

theorem Co.Segmentwise.mono {x : Co W E L R α} {Q Q' : α → Segment W E L R → Prop}
    (h : x.Segmentwise P Q σ) (hP : ∀ l σ, P l σ → P' l σ) (hQ : ∀ a σ, Q a σ → Q' a σ) :
    x.Segmentwise P' Q' σ := by
  induction x generalizing σ with
  | ret a => exact hQ a σ h
  | read k ih => exact ih σ.now h
  | write g k ih => exact ih h
  | emit e k ih => exact ih h
  | await l k ih => exact ⟨hP l σ h.1, fun r w => ih r (h.2 r w)⟩

/-- What is asked of first segments only holds of all that come later. -/
theorem Co.segmentwise_later {x : Co W E L R α} {Q : α → Segment W E L R → Prop}
    (hP : ∀ l σ, σ.resumed ≠ none → P l σ) (hQ : ∀ a σ, σ.resumed ≠ none → Q a σ)
    (hσ : σ.resumed ≠ none) : x.Segmentwise P Q σ := by
  induction x generalizing σ with
  | ret a => exact hQ a σ hσ
  | read k ih => exact ih σ.now hσ
  | write f k ih => exact ih hσ
  | emit e k ih => exact ih hσ
  | await l k ih => exact ⟨hP l σ hσ, fun r w => ih r (by simp [Segment.start])⟩

/-! ## Triples -/

/-- What a routine ends in: `Q` of its result, or `X` of what it raised. -/
def ending (Q : α → Segment W E L R → Prop) (X : ε → Segment W E L R → Prop) :
    Except ε α → Segment W E L R → Prop
  | .ok a => Q a
  | .error e => X e

/-- **Triples**: from `A`, every segment of the routine that ends in waiting ends in `P`. -/
def Passes (P : L → Segment W E L R → Prop) (A : Segment W E L R → Prop) (x : Routine W E L R ε α)
    (Q : α → Segment W E L R → Prop) (X : ε → Segment W E L R → Prop) : Prop :=
  ∀ σ, A σ → x.run.Segmentwise P (ending Q X) σ

namespace Passes

variable {A A' : Segment W E L R → Prop} {Q Q' : α → Segment W E L R → Prop}
  {X X' : ε → Segment W E L R → Prop}

theorem pure {a : α} (h : ∀ σ, A σ → Q a σ) :
    Passes P A (Pure.pure a : Routine W E L R ε α) Q X := h

/-- **Sequencing.** -/
theorem bind {x : Routine W E L R ε α} {f : α → Routine W E L R ε β}
    {Q' : β → Segment W E L R → Prop} (hx : Passes P A x Q X)
    (hf : ∀ a, Passes P (Q a) (f a) Q' X) : Passes P A (x >>= f) Q' X := by
  intro σ hA
  show (x.run.bind (ExceptT.bindCont f)).Segmentwise P (ending Q' X) σ
  rw [Co.segmentwise_bind]
  refine (hx σ hA).mono (fun _ _ h => h) fun r σ h => ?_
  cases r with
  | ok a => exact hf a σ h
  | error e => exact h

/-- **Consequence.** -/
theorem weaken {x : Routine W E L R ε α} (h : Passes P A x Q X) (hA : ∀ σ, A' σ → A σ)
    (hQ : ∀ a σ, Q a σ → Q' a σ) (hX : ∀ e σ, X e σ → X' e σ) : Passes P A' x Q' X' := by
  intro σ hA'
  refine (h σ (hA σ hA')).mono (fun _ _ h => h) fun r σ hr => ?_
  cases r with
  | ok a => exact hQ a σ hr
  | error e => exact hX e σ hr

/-- A weaker precondition. -/
theorem pre {x : Routine W E L R ε α} (h : Passes P A x Q X) (hA : ∀ σ, A' σ → A σ) :
    Passes P A' x Q X := fun σ hA' => h σ (hA σ hA')

/-- A read of the world. -/
theorem world {f : W → Routine W E L R ε α}
    (h : ∀ w, Passes P (fun σ => A σ ∧ σ.now = w) (f w) Q X) :
    Passes P A (Routine.world >>= f) Q X := fun σ hA => h σ.now σ ⟨hA, rfl⟩

/-- Assignments. -/
theorem assign {f : W → W} {Q : Unit → Segment W E L R → Prop}
    (h : ∀ σ, A σ → Q () { σ with now := f σ.now }) :
    Passes P A (Routine.assign f : Routine W E L R ε Unit) Q X := h

/-- An event. -/
theorem emit {e : E} {Q : Unit → Segment W E L R → Prop}
    (h : ∀ σ, A σ → Q () { σ with events := σ.events ++ [e] }) :
    Passes P A (Routine.emit e : Routine W E L R ε Unit) Q X := h

/-- An await ends a segment, and another begins in whatever world there is. -/
theorem await {l : L} {Q : R → Segment W E L R → Prop} (hP : ∀ σ, A σ → P l σ)
    (hQ : ∀ r w, Q r (.start (some (l, r)) w)) :
    Passes P A (Routine.await l : Routine W E L R ε R) Q X := fun σ hA => ⟨hP σ hA, hQ⟩

/-- What comes after the first segment, when only that one is asked about. -/
theorem later {x : Routine W E L R ε α} (hP : ∀ l σ, σ.resumed ≠ none → P l σ)
    (hQ : ∀ a σ, σ.resumed ≠ none → Q a σ) (hX : ∀ e σ, σ.resumed ≠ none → X e σ)
    (hA : ∀ σ, A σ → σ.resumed ≠ none) : Passes P A x Q X := by
  intro σ hσ
  refine Co.segmentwise_later hP (fun r σ h => ?_) (hA σ hσ)
  cases r with
  | ok a => exact hQ a σ h
  | error e => exact hX e σ h

/-- A computation that may raise. -/
theorem lift {x : Except ε α} (hok : ∀ a, x = .ok a → ∀ σ, A σ → Q a σ)
    (herror : ∀ e, x = .error e → ∀ σ, A σ → X e σ) :
    Passes P A (Routine.lift x : Routine W E L R ε α) Q X := by
  intro σ hA
  cases x with
  | ok a => exact hok a rfl σ hA
  | error e => exact herror e rfl σ hA

/-- What is raised. -/
theorem throw {e : ε} (h : ∀ σ, A σ → X e σ) :
    Passes P A (MonadExcept.throw e : Routine W E L R ε α) Q X := h

/-- The body of a `try`. -/
theorem attempt {x : Routine W E L R ε α} {Q : Except ε α → Segment W E L R → Prop}
    (h : Passes P A x (fun a => Q (.ok a)) fun e => Q (.error e)) :
    Passes P A (Routine.attempt x) Q X := by
  intro σ hA
  show (x.run.bind fun r => .ret (.ok r)).Segmentwise P (ending Q X) σ
  rw [Co.segmentwise_bind]
  refine (h σ hA).mono (fun _ _ h => h) fun r σ hr => ?_
  cases r with
  | ok a => exact hr
  | error e => exact hr

/-- A branch that may be left out. -/
theorem when {b : Bool} {x : Routine W E L R ε Unit} {Q : Unit → Segment W E L R → Prop}
    (hx : b = true → Passes P A x Q X) (hskip : b = false → ∀ σ, A σ → Q () σ) :
    Passes P A (Routine.when b x) Q X := by
  cases b with
  | true => exact hx rfl
  | false => exact hskip rfl

end Passes

/-! ## One segment -/

/-- **Every segment of a task** ends in `P` if it waits, and in `D` if the task is done. -/
abbrev Co.AllSegments (P : L → Segment W E L R → Prop) (D : Segment W E L R → Prop) (x : Co W E L R Unit) (σ : Segment W E L R) :
    Prop := x.Segmentwise P (fun _ => D) σ

variable {D D' : Segment W E L R → Prop}

theorem Co.AllSegments.mono {x : Co W E L R Unit} (h : x.AllSegments P D σ)
    (hP : ∀ l σ, P l σ → P' l σ) (hD : ∀ σ, D σ → D' σ) : x.AllSegments P' D' σ :=
  Co.Segmentwise.mono h hP fun _ => hD

/-- Every segment a suspended task may run ends in `P` or, its last, in `D`. -/
def SuspendedPasses (P : L → Segment W E L R → Prop) (D : Segment W E L R → Prop)
    (τ : Suspended W E L R C) : Prop :=
  ∀ r w, (τ.resume r).AllSegments P D (.start (some (τ.label, r)) w)

/-- A segment that was run. -/
def Segment.ran (σ : Segment W E L R) (x : Co W E L R α) : Segment W E L R :=
  { σ with now := (x.segment σ.now).1, events := σ.events ++ (x.segment σ.now).2.1 }

/-- **What running a segment gives.** -/
theorem Co.AllSegments.segment {x : Co W E L R Unit} {c : C} (h : x.AllSegments P D σ) :
    (∀ τ, Pool.residue c (x.segment σ.now).2.2 = some τ →
      P τ.label (σ.ran x) ∧ SuspendedPasses P D τ) ∧
      (Pool.residue c (x.segment σ.now).2.2 = none → D (σ.ran x)) := by
  induction x generalizing σ with
  | ret a =>
    refine ⟨fun τ hres => (by cases hres), fun _ => ?_⟩
    simp only [Segment.ran, Co.segment, List.append_nil]
    exact h
  | read k ih => exact ih σ.now h
  | write f k ih => exact ih (σ := { σ with now := f σ.now }) h
  | emit e k ih =>
    have hk := ih (σ := { σ with events := σ.events ++ [e] }) h
    simp only [Segment.ran, List.append_assoc, List.singleton_append] at hk
    exact hk
  | await l k ih =>
    refine ⟨fun τ hres => ?_, fun hres => (by cases hres)⟩
    cases hres
    simp only [Segment.ran, Co.segment, List.append_nil]
    exact h

/-- A routine run as a task, whose outcome nobody awaits. -/
theorem Passes.allSegments {A : Segment W E L R → Prop} {x : Routine W E L R ε α}
    (h : Passes P A x (fun _ => D) fun _ => D) (hA : A σ) :
    (x.run.bind fun _ => .ret ()).AllSegments P D σ := by
  rw [Co.AllSegments, Co.segmentwise_bind]
  refine (h σ hA).mono (fun _ _ h => h) fun r σ hr => ?_
  cases r with
  | ok a => exact hr
  | error e => exact hr

-- from here on the rules are all there is to it: unfolding it would run the coroutine
attribute [irreducible] Co.Segmentwise

/-! ## Steps -/

variable {S : System W E L R C M} {p : Pool W E L R C} {t : ℕ}

/-- The segment a step runs. -/
def Pool.passage (S : System W E L R C M) (p : Pool W E L R C) (a : Action R C M)
    (turn : Turn W E L R C) : Segment W E L R :=
  ⟨turn.resumed, p.world, (p.step S a).world, p.emitted S a⟩

/-- **A turn runs its body's segment.** -/
theorem passage_of_turn {a : Action R C M} {turn : Turn W E L R C} (hturn : p.turn S a = some turn)
    (h : turn.body.AllSegments P D (.start turn.resumed p.world)) :
    (∀ τ, (p.step S a).tasks turn.task = some τ →
      P τ.label (p.passage S a turn) ∧ SuspendedPasses P D τ) ∧
      ((p.step S a).tasks turn.task = none → D (p.passage S a turn)) := by
  obtain ⟨hworld, _, htasks⟩ := Pool.step_of_turn hturn
  have hself : (p.step S a).tasks turn.task =
      Pool.residue turn.call (turn.body.segment p.world).2.2 := by
    rw [htasks, Function.update_self]
  have hpassage : p.passage S a turn = (Segment.start turn.resumed p.world).ran turn.body := by
    rw [Pool.passage, hworld, Pool.emitted_of_turn hturn]
    rfl
  rw [hself, hpassage]
  exact h.segment

/-- Task `t` was called before, and every segment it may still run ends in `P` or, its last, in `D`. -/
structure TaskPasses (P : L → Segment W E L R → Prop) (D : Segment W E L R → Prop) (t : ℕ)
    (p : Pool W E L R C) : Prop where
  spawned : t < p.spawned
  body : ∀ τ, p.tasks t = some τ → SuspendedPasses P D τ

/-- The body of a turn of task `t`. -/
theorem TaskPasses.turn_body (h : TaskPasses P D t p) {a : Action R C M} {turn : Turn W E L R C}
    (hturn : p.turn S a = some turn) (ht : turn.task = t) :
    turn.body.AllSegments P D (.start turn.resumed p.world) := by
  rcases Pool.turn_cases hturn with ⟨htask, _⟩ | ⟨τ, r, hτ, _, hresumed, hbody, _⟩
  · exact absurd (ht.symm.trans htask) h.spawned.ne
  · rw [ht] at hτ
    rw [hbody, hresumed]
    exact h.body τ hτ r p.world

theorem TaskPasses.step (h : TaskPasses P D t p) (a : Action R C M) :
    TaskPasses P D t (p.step S a) := by
  refine ⟨h.spawned.trans_le ((p.spawned_le a).trans (p.step_spawned a).ge), fun τ hτ => ?_⟩
  cases hturn : p.turn S a with
  | some turn =>
    by_cases ht : t = turn.task
    · rw [ht] at hτ
      exact ((passage_of_turn hturn (h.turn_body hturn ht.symm)).1 τ hτ).2
    · rw [(Pool.step_of_turn hturn).2.2, Function.update_of_ne ht] at hτ
      exact h.body τ hτ
  | none =>
    rw [(Pool.step_of_no_turn hturn).2] at hτ
    exact h.body τ hτ

/-- The first segment of a call, if it ends in waiting. -/
theorem spawn_waits {c : C} (h : (S.program c).AllSegments P D (.start none p.world))
    (hwaits : (p.step S (.spawn c)).tasks p.spawned ≠ none) :
    ∃ l, P l ⟨none, p.world, (p.step S (.spawn c)).world, p.emitted S (.spawn c)⟩ := by
  have hturn : p.turn S (.spawn c) = some ⟨p.spawned, c, none, S.program c⟩ := rfl
  obtain ⟨τ, hτ⟩ := Option.ne_none_iff_exists'.mp hwaits
  exact ⟨τ.label, ((passage_of_turn hturn h).1 τ hτ).1⟩

/-- A call that begins. -/
theorem TaskPasses.of_spawn {c : C} (h : (S.program c).AllSegments P D (.start none p.world)) :
    TaskPasses P D p.spawned (p.step S (.spawn c)) := by
  have hturn : p.turn S (.spawn c) = some ⟨p.spawned, c, none, S.program c⟩ := rfl
  exact ⟨(p.step_spawned _).symm ▸ Nat.lt_succ_self _,
    fun τ hτ => ((passage_of_turn hturn h).1 τ hτ).2⟩

/-! ## Pools -/

/-- Every segment a pool's suspended tasks may run ends in `P` or, a task's last, in `D`. -/
def PoolPasses (P : L → Segment W E L R → Prop) (D : Segment W E L R → Prop)
    (p : Pool W E L R C) : Prop := ∀ t τ, p.tasks t = some τ → SuspendedPasses P D τ

/-- The segment of a step ends in `P` or in `D`. -/
def StepPasses (P : L → Segment W E L R → Prop) (D : Segment W E L R → Prop)
    (S : System W E L R C M) (p : Pool W E L R C) (a : Action R C M) : Prop :=
  ∀ turn, p.turn S a = some turn →
    (∀ τ, (p.step S a).tasks turn.task = some τ → P τ.label (p.passage S a turn)) ∧
      ((p.step S a).tasks turn.task = none → D (p.passage S a turn))

theorem poolPasses_idle (w : W) : PoolPasses P D (Pool.idle w : Pool W E L R C) :=
  fun t τ h => by cases h

/-- **One step**, when the segments of every program do. -/
theorem PoolPasses.step (hprogram : ∀ c w, (S.program c).AllSegments P D (.start none w))
    (h : PoolPasses P D p) (a : Action R C M) :
    PoolPasses P D (p.step S a) ∧ StepPasses P D S p a := by
  have hbody : ∀ turn, p.turn S a = some turn →
      turn.body.AllSegments P D (.start turn.resumed p.world) := by
    intro turn hturn
    rcases Pool.turn_cases hturn with ⟨_, hresumed, hbody, _⟩ | ⟨τ, r, hτ, _, hresumed, hbody, _⟩
    · rw [hbody, hresumed]
      exact hprogram turn.call p.world
    · rw [hbody, hresumed]
      exact h turn.task τ hτ r p.world
  constructor
  · intro t τ hτ
    cases hturn : p.turn S a with
    | some turn =>
      by_cases ht : t = turn.task
      · rw [ht] at hτ
        exact ((passage_of_turn hturn (hbody turn hturn)).1 τ hτ).2
      · rw [(Pool.step_of_turn hturn).2.2, Function.update_of_ne ht] at hτ
        exact h t τ hτ
    | none =>
      rw [(Pool.step_of_no_turn hturn).2] at hτ
      exact h t τ hτ
  · intro turn hturn
    obtain ⟨hwaits, hdone⟩ := passage_of_turn hturn (hbody turn hturn)
    exact ⟨fun τ hτ => (hwaits τ hτ).1, hdone⟩

/-- A task waits at a point. -/
def Pool.At (p : Pool W E L R C) (t : ℕ) (l : L) : Prop := ∃ τ, p.tasks t = some τ ∧ τ.label = l

instance [DecidableEq L] (p : Pool W E L R C) (t : ℕ) (l : L) : Decidable (p.At t l) :=
  decidable_of_iff ((p.tasks t).map Suspended.label = some l) Option.map_eq_some_iff

/-- A task waits at one point. -/
theorem Pool.At.unique {l l' : L} (h : p.At t l) (h' : p.At t l') : l = l' := by
  obtain ⟨τ, hτ, rfl⟩ := h
  obtain ⟨τ', hτ', rfl⟩ := h'
  rw [Option.some.inj (hτ.symm.trans hτ')]

/-- A turn that resumes a point is that of a task that waited there. -/
theorem Pool.at_of_resumed {a : Action R C M} {turn : Turn W E L R C} (hturn : p.turn S a = some turn)
    {l : L} {r : R} (hresumed : turn.resumed = some (l, r)) :
    p.At turn.task l ∧ a = .resume turn.task r := by
  rcases Pool.turn_cases hturn with ⟨_, hnone, _⟩ | ⟨τ, r', hτ, _, hsome, _, ha⟩
  · cases hnone.symm.trans hresumed
  · cases hsome.symm.trans hresumed
    exact ⟨⟨τ, hτ, rfl⟩, ha⟩

/-- The turn of a task that waits at a point resumes it there. -/
theorem Pool.resumed_of_at {a : Action R C M} {turn : Turn W E L R C} (hnumbered : Numbered p)
    (hturn : p.turn S a = some turn) {l : L} (hat : p.At turn.task l) :
    ∃ r, turn.resumed = some (l, r) ∧ a = .resume turn.task r := by
  obtain ⟨τ, hτ, rfl⟩ := hat
  rcases Pool.turn_cases hturn with ⟨htask, _⟩ | ⟨τ', r, hτ', _, hresumed, _, ha⟩
  · exact absurd htask (hnumbered.tasks _ τ hτ).ne
  · rw [hτ] at hτ'
    cases hτ'
    exact ⟨r, hresumed, ha⟩

/-- A task waits on through every step but its own turn. -/
theorem Pool.at_of_other {a : Action R C M} {l : L} (hat : p.At t l)
    (hother : ∀ turn, p.turn S a = some turn → t ≠ turn.task) : (p.step S a).At t l := by
  obtain ⟨τ, hτ, hl⟩ := hat
  refine ⟨τ, ?_, hl⟩
  cases hturn : p.turn S a with
  | some turn => rw [(Pool.step_of_turn hturn).2.2, Function.update_of_ne (hother turn hturn), hτ]
  | none => rw [(Pool.step_of_no_turn hturn).2, hτ]

/-- **A task waits where it did, or its turn came** and its segment did what the point requires. -/
theorem StepPasses.at_step {a : Action R C M} (h : StepPasses P D S p a) {l : L}
    (hat : (p.step S a).At t l) :
    (p.At t l ∧ ∀ turn, p.turn S a = some turn → t ≠ turn.task) ∨
      ∃ turn, p.turn S a = some turn ∧ turn.task = t ∧ P l (p.passage S a turn) := by
  obtain ⟨τ, hτ, rfl⟩ := hat
  cases hturn : p.turn S a with
  | some turn =>
    by_cases ht : t = turn.task
    · rw [ht] at hτ
      exact Or.inr ⟨turn, rfl, ht.symm, (h turn hturn).1 τ hτ⟩
    · rw [(Pool.step_of_turn hturn).2.2, Function.update_of_ne ht] at hτ
      refine Or.inl ⟨⟨τ, hτ, rfl⟩, fun turn' hturn' => ?_⟩
      cases hturn'
      exact ht
  | none =>
    rw [(Pool.step_of_no_turn hturn).2] at hτ
    exact Or.inl ⟨⟨τ, hτ, rfl⟩, fun turn hturn => (by cases hturn)⟩

/-- The segment of a step, if a call runs one, meets `P'`. -/
def StepRuns (P' : Segment W E L R → Prop) (S : System W E L R C M) (p : Pool W E L R C)
    (a : Action R C M) : Prop := ∀ turn, p.turn S a = some turn → P' (p.passage S a turn)

/-- What the specification gives either way. -/
theorem StepPasses.mono {a : Action R C M} (h : StepPasses P D S p a)
    (hP : ∀ turn, p.turn S a = some turn → ∀ l, P l (p.passage S a turn) → P' l (p.passage S a turn))
    (hD : ∀ turn, p.turn S a = some turn → D (p.passage S a turn) → D' (p.passage S a turn)) :
    StepPasses P' D' S p a := fun turn hturn =>
  ⟨fun τ hτ => hP turn hturn _ ((h turn hturn).1 τ hτ),
    fun hnone => hD turn hturn ((h turn hturn).2 hnone)⟩

/-- What holds either way holds of the segment. -/
theorem StepPasses.runs {P' : Segment W E L R → Prop} {a : Action R C M}
    (h : StepPasses (fun _ => P') P' S p a) : StepRuns P' S p a := by
  intro turn hturn
  cases hτ : (p.step S a).tasks turn.task with
  | some τ => exact (h turn hturn).1 τ hτ
  | none => exact (h turn hturn).2 hτ

end XBloom.Async
