/-
# XBloom.Async.Coroutine — coroutines over a shared world, and pools of them

An `async` function runs without interruption from one `await` to the next.  `Co` is its syntax: read
the world, write it, emit an event, or suspend at a labelled await point until it is resumed with a
response.  `Co.segment` runs a coroutine up to its next await, which is all that happens atomically.

A `Pool` is a world with the calls suspended in it and the trace of what they emitted, each event
under the task and the call that emitted it.  A step starts a call, resumes one suspended task, or
lets the surroundings move; which task comes next, and with which response, is the scheduler's
choice, so a run (`XBloom.Logic.Runs`) is any interleaving at await points.
-/
import XBloom.Logic.Runs
import Mathlib.Logic.Function.Basic

namespace XBloom.Async

/-! ## Coroutines -/

/-- A coroutine over the world `W` that emits events `E`, awaits at points `L` and is resumed there
with responses `R`. -/
inductive Co (W E L R α : Type) : Type where
  | ret (a : α)
  | read (k : W → Co W E L R α)
  | write (f : W → W) (k : Co W E L R α)
  | emit (e : E) (k : Co W E L R α)
  | await (l : L) (k : R → Co W E L R α)

variable {W E L R α β : Type}

namespace Co

/-- One coroutine after another. -/
def bind : Co W E L R α → (α → Co W E L R β) → Co W E L R β
  | ret a, f => f a
  | read k, f => read fun w => (k w).bind f
  | write g k, f => write g (k.bind f)
  | emit e k, f => emit e (k.bind f)
  | await l k, f => await l fun r => (k r).bind f

instance : Monad (Co W E L R) where
  pure := ret
  bind := bind

/-- How a segment ends: the coroutine returned, or it waits. -/
inductive Stop (W E L R α : Type) : Type where
  | done (a : α)
  | waits (l : L) (k : R → Co W E L R α)

/-- **A coroutine up to its next await**: the world it leaves, what it emitted, and how it stopped. -/
def segment : Co W E L R α → W → W × List E × Stop W E L R α
  | ret a, w => (w, [], .done a)
  | read k, w => (k w).segment w
  | write f k, w => k.segment (f w)
  | emit e k, w => ((k.segment w).1, e :: (k.segment w).2.1, (k.segment w).2.2)
  | await l k, w => (w, [], .waits l k)

theorem bind_assoc {γ : Type} (x : Co W E L R α) (f : α → Co W E L R β) (g : β → Co W E L R γ) :
    (x.bind f).bind g = x.bind fun a => (f a).bind g := by
  induction x with
  | ret a => rfl
  | read k ih => exact congrArg read (funext fun w => ih w)
  | write h k ih => exact congrArg (write h) ih
  | emit e k ih => exact congrArg (emit e) ih
  | await l k ih => exact congrArg (await l) (funext fun r => ih r)

theorem segment_bind_done {x : Co W E L R α} {f : α → Co W E L R β} {w w' : W} {a : α}
    (h : x.segment w = (w', [], .done a)) : (x.bind f).segment w = (f a).segment w' := by
  induction x generalizing w with
  | ret a =>
    cases h
    rfl
  | read k ih => exact ih w h
  | write g k ih => exact ih h
  | emit e k ih => cases congrArg (·.2.1) h
  | await l k ih => cases h

theorem segment_bind_waits {x : Co W E L R α} {f : α → Co W E L R β} {w w' : W} {es : List E} {l : L}
    {k : R → Co W E L R α} (h : x.segment w = (w', es, .waits l k)) :
    (x.bind f).segment w = (w', es, .waits l fun r => (k r).bind f) := by
  induction x generalizing w es with
  | ret a => cases h
  | read k ih => exact ih w h
  | write g k ih => exact ih h
  | emit e k ih =>
    -- the first event is `e`, and the rest of the segment is that of `k`
    obtain ⟨hworld, hevents, hstop⟩ : (k.segment w).1 = w' ∧ e :: (k.segment w).2.1 = es ∧
        (k.segment w).2.2 = .waits l _ := ⟨congrArg (·.1) h, congrArg (·.2.1) h, congrArg (·.2.2) h⟩
    have hk := @ih w (k.segment w).2.1 (by rw [← hworld, ← hstop])
    show (((k.bind f).segment w).1, e :: ((k.bind f).segment w).2.1, ((k.bind f).segment w).2.2) = _
    rw [hk, hevents]
  | await l k ih =>
    cases h
    rfl

end Co

/-! ## Functions that raise -/

/-- An `async` function that may raise an `ε`. -/
abbrev Routine (W E L R ε α : Type) := ExceptT ε (Co W E L R) α

namespace Routine

variable {ε : Type}

/-- The world at this moment. -/
def world : Routine W E L R ε W := ExceptT.mk (.read fun w => .ret (.ok w))

/-- Assignments. -/
def assign (f : W → W) : Routine W E L R ε Unit := ExceptT.mk (.write f (.ret (.ok ())))

/-- Something observable happens. -/
def emit (e : E) : Routine W E L R ε Unit := ExceptT.mk (.emit e (.ret (.ok ())))

/-- Suspend. -/
def await (l : L) : Routine W E L R ε R := ExceptT.mk (.await l fun r => .ret (.ok r))

/-- `if b: await x`. -/
def when (b : Bool) (x : Routine W E L R ε Unit) : Routine W E L R ε Unit :=
  if b then x else pure ()

/-- A computation that may raise but does not suspend. -/
def lift (x : Except ε α) : Routine W E L R ε α := ExceptT.mk (.ret x)

/-- The body of a `try`: its result or what it raised. -/
def attempt (x : Routine W E L R ε α) : Routine W E L R ε (Except ε α) :=
  ExceptT.mk (x.run.bind fun r => .ret (.ok r))

end Routine

/-! ## Pools -/

/-- What a pool is made of: the program of each call, when a call waiting at a point may be resumed,
and what the surroundings may do. -/
structure System (W E L R C M : Type) where
  program : C → Co W E L R Unit
  enabled : L → W → Bool
  move : W → M → W

/-- One event, under the task and the call that emitted it. -/
structure Entry (C E : Type) where
  task : ℕ
  call : C
  event : E

/-- Everything emitted so far, oldest first. -/
abbrev Trace (C E : Type) := List (Entry C E)

/-- A call that is suspended. -/
structure Suspended (W E L R C : Type) where
  call : C
  label : L
  resume : R → Co W E L R Unit

/-- The world, the trace, how many calls were made so far (a task is the number of calls before its
own) and the tasks that are suspended. -/
structure Pool (W E L R C : Type) where
  world : W
  trace : Trace C E
  spawned : ℕ
  tasks : ℕ → Option (Suspended W E L R C)

/-- One step: a call begins, a task is resumed with a response, or the surroundings move. -/
inductive Action (R C M : Type) where
  | spawn (c : C)
  | resume (t : ℕ) (r : R)
  | move (m : M)

/-- The call that a step moves: its task, the call, where its segment begins and the segment. -/
structure Turn (W E L R C : Type) where
  task : ℕ
  call : C
  resumed : Option (L × R)
  body : Co W E L R Unit

variable {C M : Type} (S : System W E L R C M)

/-- The events of a segment, under its task. -/
def mark (t : ℕ) (c : C) (es : List E) : Trace C E := es.map fun e => ⟨t, c, e⟩

namespace Pool

/-- Nothing called yet. -/
def idle (w : W) : Pool W E L R C := ⟨w, [], 0, fun _ => none⟩

/-- What is left of a call after a segment. -/
def residue (c : C) : Co.Stop W E L R Unit → Option (Suspended W E L R C)
  | .done _ => none
  | .waits l k => some ⟨c, l, k⟩

/-- A task runs a segment. -/
def advance (p : Pool W E L R C) (turn : Turn W E L R C) : Pool W E L R C :=
  { p with
    world := (turn.body.segment p.world).1
    trace := p.trace ++ mark turn.task turn.call (turn.body.segment p.world).2.1
    tasks := Function.update p.tasks turn.task
      (residue turn.call (turn.body.segment p.world).2.2) }

/-- Whose turn a step is; the surroundings take none. -/
def turn (p : Pool W E L R C) : Action R C M → Option (Turn W E L R C)
  | .spawn c => some ⟨p.spawned, c, none, S.program c⟩
  | .resume t r =>
    match p.tasks t with
    | some τ =>
      if S.enabled τ.label p.world then some ⟨t, τ.call, some (τ.label, r), τ.resume r⟩ else none
    | none => none
  | .move _ => none

/-- The pool with a call counted, or with its surroundings moved. -/
def count (p : Pool W E L R C) : Action R C M → Pool W E L R C
  | .spawn _ => { p with spawned := p.spawned + 1 }
  | .resume _ _ => p
  | .move m => { p with world := S.move p.world m }

/-- **One step of a pool.** -/
def step (p : Pool W E L R C) (a : Action R C M) : Pool W E L R C :=
  match p.turn S a with
  | some turn => (p.count S a).advance turn
  | none => p.count S a

/-- What a step emits. -/
def emitted (p : Pool W E L R C) (a : Action R C M) : List E :=
  match p.turn S a with
  | some turn => (turn.body.segment p.world).2.1
  | none => []

/-! ### A step with a turn -/

variable {S} {p : Pool W E L R C} {a : Action R C M} {turn : Turn W E L R C}

theorem emitted_of_turn (h : p.turn S a = some turn) :
    p.emitted S a = (turn.body.segment p.world).2.1 := by
  simp only [emitted, h]

theorem count_of_turn (h : p.turn S a = some turn) :
    (p.count S a).world = p.world ∧ (p.count S a).trace = p.trace ∧
      (p.count S a).tasks = p.tasks := by
  cases a with
  | spawn c => exact ⟨rfl, rfl, rfl⟩
  | resume t r => exact ⟨rfl, rfl, rfl⟩
  | move m => cases h

theorem step_of_turn (h : p.turn S a = some turn) :
    (p.step S a).world = (turn.body.segment p.world).1 ∧
      (p.step S a).trace = p.trace ++ mark turn.task turn.call (turn.body.segment p.world).2.1 ∧
      (p.step S a).tasks = Function.update p.tasks turn.task
        (residue turn.call (turn.body.segment p.world).2.2) := by
  obtain ⟨hworld, htrace, htasks⟩ := count_of_turn h
  simp only [step, h, advance, hworld, htrace, htasks, and_self]

theorem step_of_no_turn (h : p.turn S a = none) :
    (p.step S a).trace = p.trace ∧ (p.step S a).tasks = p.tasks := by
  simp only [step, h]
  cases a <;> exact ⟨rfl, rfl⟩

/-- Without a turn the world stays, unless the surroundings move. -/
theorem world_of_no_turn (h : p.turn S a = none) :
    (∃ m, a = .move m ∧ (p.step S a).world = S.move p.world m) ∨
      (p.step S a).world = p.world := by
  simp only [step, h]
  cases a with
  | spawn c => cases h
  | resume t r => exact Or.inr rfl
  | move m => exact Or.inl ⟨m, rfl, rfl⟩

/-- A turn is a call that begins, or a suspended call that is resumed. -/
theorem turn_cases (h : p.turn S a = some turn) :
    (turn.task = p.spawned ∧ turn.resumed = none ∧ turn.body = S.program turn.call ∧
      a = .spawn turn.call) ∨
      ∃ τ r, p.tasks turn.task = some τ ∧ turn.call = τ.call ∧
        turn.resumed = some (τ.label, r) ∧ turn.body = τ.resume r ∧
        a = .resume turn.task r := by
  cases a with
  | spawn c =>
    cases h
    exact Or.inl ⟨rfl, rfl, rfl, rfl⟩
  | resume t r =>
    cases htask : p.tasks t with
    | none => simp [Pool.turn, htask] at h
    | some τ =>
      simp only [Pool.turn, htask] at h
      split at h
      · cases h
        exact Or.inr ⟨τ, r, htask, rfl, rfl, rfl, rfl⟩
      · cases h
  | move m => cases h

end Pool

end XBloom.Async
