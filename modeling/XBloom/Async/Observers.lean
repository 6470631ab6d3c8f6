/-
# XBloom.Async.Observers — calls that keep notes beside the world

What a statement says of a run may be about its past: whether a poll has seen this since that call did
that.  The calls are then told with notes beside the world, which they write and never read.  Such a
call *shadows* the call without notes: segment by segment it does the same to the world, emits the same
and waits at the same points.  A pool of them runs as the pool does (`Shadowing.run`).

With the notes there, what holds in every state of a run is an invariant that each assignment and each
move of the surroundings keeps (`PoolKeeps.run`).
-/
import XBloom.Async.Solo
import XBloom.Async.Pools

namespace XBloom.Async

open XBloom.Logic

variable {W O E L R C M α β ε : Type}

/-! ## Coroutines -/

/-- **A coroutine with notes does to the world what one without them does.** -/
inductive Co.Shadows : Co (W × O) E L R α → Co W E L R α → Prop
  | ret (a : α) : Shadows (.ret a) (.ret a)
  | read {k : W × O → Co (W × O) E L R α} {k' : W → Co W E L R α} (h : ∀ v, Shadows (k v) (k' v.1)) :
      Shadows (.read k) (.read k')
  | write {f : W × O → W × O} {f' : W → W} {k : Co (W × O) E L R α} {k' : Co W E L R α}
      (hf : ∀ v, (f v).1 = f' v.1) (h : Shadows k k') : Shadows (.write f k) (.write f' k')
  | emit (e : E) {k : Co (W × O) E L R α} {k' : Co W E L R α} (h : Shadows k k') :
      Shadows (.emit e k) (.emit e k')
  | await (l : L) {k : R → Co (W × O) E L R α} {k' : R → Co W E L R α} (h : ∀ r, Shadows (k r) (k' r)) :
      Shadows (.await l k) (.await l k')

/-- A coroutine that takes no notes. -/
theorem Co.zoom_shadows (x : Co W E L R α) : (x.zoom (observing W E L R O)).Shadows x := by
  induction x with
  | ret a => exact .ret a
  | read k ih => exact .read fun v => ih v.1
  | write f k ih => exact .write (fun _ => rfl) ih
  | emit e k ih => exact .emit e ih
  | await l k ih => exact .await l ih

theorem Co.Shadows.bind {x : Co (W × O) E L R α} {x' : Co W E L R α} {f : α → Co (W × O) E L R β}
    {f' : α → Co W E L R β} (hx : x.Shadows x') (hf : ∀ a, (f a).Shadows (f' a)) :
    (x.bind f).Shadows (x'.bind f') := by
  induction hx with
  | ret a => exact hf a
  | read h ih => exact .read ih
  | write hg h ih => exact .write hg ih
  | emit e h ih => exact .emit e ih
  | await l h ih => exact .await l ih

/-- How two segments end alike. -/
inductive Co.Stop.Shadows : Co.Stop (W × O) E L R α → Co.Stop W E L R α → Prop
  | done (a : α) : Shadows (.done a) (.done a)
  | waits (l : L) {k : R → Co (W × O) E L R α} {k' : R → Co W E L R α} (h : ∀ r, (k r).Shadows (k' r)) :
      Shadows (.waits l k) (.waits l k')

/-- **A segment with notes.** -/
theorem Co.Shadows.segment {x : Co (W × O) E L R α} {x' : Co W E L R α} (h : x.Shadows x') (v : W × O) :
    (x.segment v).1.1 = (x'.segment v.1).1 ∧ (x.segment v).2.1 = (x'.segment v.1).2.1 ∧
      (x.segment v).2.2.Shadows (x'.segment v.1).2.2 := by
  induction h generalizing v with
  | ret a => exact ⟨rfl, rfl, .done a⟩
  | read h ih => exact ih v v
  | @write f f' k k' hf h ih =>
    have hsegment := ih (f v)
    rw [hf v] at hsegment
    exact hsegment
  | emit e h ih =>
    obtain ⟨hworld, hevents, hstop⟩ := ih v
    exact ⟨hworld, congrArg (e :: ·) hevents, hstop⟩
  | await l h ih => exact ⟨rfl, rfl, .waits l h⟩

/-! ## Routines -/

/-- A routine with notes does to the world what one without them does. -/
def Shadows (x : Routine (W × O) E L R ε α) (y : Routine W E L R ε α) : Prop := x.run.Shadows y.run

namespace Shadows

theorem zoom (x : Routine W E L R ε α) :
    Shadows (Routine.zoom (observing W E L R O) x) x := Co.zoom_shadows x.run

theorem pure (a : α) :
    Shadows (Pure.pure a : Routine (W × O) E L R ε α) (Pure.pure a) := .ret _

theorem bind {x : Routine (W × O) E L R ε α} {y : Routine W E L R ε α}
    {f : α → Routine (W × O) E L R ε β} {g : α → Routine W E L R ε β} (hx : Shadows x y)
    (hf : ∀ a, Shadows (f a) (g a)) : Shadows (x >>= f) (y >>= g) := by
  refine Co.Shadows.bind hx fun r => ?_
  cases r with
  | ok a => exact hf a
  | error e => exact .ret _

theorem world {f : W × O → Routine (W × O) E L R ε α} {g : W → Routine W E L R ε α}
    (h : ∀ v, Shadows (f v) (g v.1)) : Shadows (Routine.world >>= f) (Routine.world >>= g) :=
  .read h

theorem assign {f : W × O → W × O} {g : W → W} (h : ∀ v, (f v).1 = g v.1) :
    Shadows (Routine.assign f : Routine (W × O) E L R ε Unit) (Routine.assign g) :=
  .write h (.ret _)

theorem attempt {x : Routine (W × O) E L R ε α} {y : Routine W E L R ε α} (h : Shadows x y) :
    Shadows (Routine.attempt x) (Routine.attempt y) := Co.Shadows.bind h fun _ => .ret _

theorem ite {p : Prop} [Decidable p] {x x' : Routine (W × O) E L R ε α} {y y' : Routine W E L R ε α}
    (h : p → Shadows x y) (h' : ¬ p → Shadows x' y') :
    Shadows (if p then x else x') (if p then y else y') := by
  by_cases hp : p
  · rw [if_pos hp, if_pos hp]
    exact h hp
  · rw [if_neg hp, if_neg hp]
    exact h' hp

end Shadows

/-! ## Pools -/

/-- A system whose calls keep notes, and whose surroundings do. -/
structure Shadowing (S : System (W × O) E L R C M) (S' : System W E L R C M) : Prop where
  program : ∀ c, (S.program c).Shadows (S'.program c)
  enabled : ∀ l v, S.enabled l v = S'.enabled l v.1
  move : ∀ v m, (S.move v m).1 = S'.move v.1 m

/-- A suspended call with notes. -/
structure Suspended.Shadows (τ : Suspended (W × O) E L R C) (τ' : Suspended W E L R C) : Prop where
  call : τ.call = τ'.call
  label : τ.label = τ'.label
  resume : ∀ r, (τ.resume r).Shadows (τ'.resume r)

theorem Co.Stop.Shadows.residue {x : Co.Stop (W × O) E L R Unit} {x' : Co.Stop W E L R Unit}
    (h : x.Shadows x') (c : C) :
    Option.Rel Suspended.Shadows (Pool.residue c x) (Pool.residue c x') := by
  cases h with
  | done a => exact .none
  | waits l hk => exact .some ⟨rfl, rfl, hk⟩

/-- Two pools that are alike but for the notes. -/
structure Pool.Shadows (p : Pool (W × O) E L R C) (p' : Pool W E L R C) : Prop where
  world : p.world.1 = p'.world
  trace : p.trace = p'.trace
  spawned : p.spawned = p'.spawned
  tasks : ∀ t, Option.Rel Suspended.Shadows (p.tasks t) (p'.tasks t)

theorem Pool.shadows_idle (v : W × O) :
    (Pool.idle v : Pool (W × O) E L R C).Shadows (Pool.idle v.1) := ⟨rfl, rfl, rfl, fun _ => .none⟩

/-- A task runs the same segment in both. -/
theorem Pool.Shadows.advance {p : Pool (W × O) E L R C} {p' : Pool W E L R C} (h : p.Shadows p') (t : ℕ)
    (c : C) (o : Option (L × R)) {x : Co (W × O) E L R Unit} {x' : Co W E L R Unit} (hx : x.Shadows x') :
    (p.advance ⟨t, c, o, x⟩).Shadows (p'.advance ⟨t, c, o, x'⟩) := by
  obtain ⟨hworld, hevents, hstop⟩ := hx.segment p.world
  rw [h.world] at hworld hevents hstop
  refine ⟨hworld, ?_, h.spawned, fun t' => ?_⟩
  · show p.trace ++ mark t c _ = p'.trace ++ mark t c _
    rw [h.trace, hevents]
  · show Option.Rel Suspended.Shadows (Function.update p.tasks t _ t') (Function.update p'.tasks t _ t')
    by_cases ht : t' = t
    · rw [ht, Function.update_self, Function.update_self]
      exact hstop.residue c
    · rw [Function.update_of_ne ht, Function.update_of_ne ht]
      exact h.tasks t'

variable {S : System (W × O) E L R C M} {S' : System W E L R C M}

theorem Shadowing.step (hS : Shadowing S S') {p : Pool (W × O) E L R C} {p' : Pool W E L R C}
    (h : p.Shadows p') (a : Action R C M) : (p.step S a).Shadows (p'.step S' a) := by
  cases a with
  | spawn c =>
    have hcount : (p.count S (.spawn c)).Shadows (p'.count S' (.spawn c)) :=
      ⟨h.world, h.trace, congrArg (· + 1) h.spawned, h.tasks⟩
    show ((p.count S (.spawn c)).advance ⟨p.spawned, c, none, S.program c⟩).Shadows
      ((p'.count S' (.spawn c)).advance ⟨p'.spawned, c, none, S'.program c⟩)
    rw [h.spawned]
    exact hcount.advance p'.spawned c none (hS.program c)
  -- a call waits in the one pool exactly when it does in the other
  | resume t r =>
    have htask := h.tasks t
    cases hp : p.tasks t with
    | none =>
      rw [hp] at htask
      have hp' : p'.tasks t = none := by
        cases hq : p'.tasks t with
        | none => rfl
        | some τ' =>
          rw [hq] at htask
          cases htask
      simp only [Pool.step, Pool.turn, hp, hp']
      exact h
    | some τ =>
      rw [hp] at htask
      cases hq : p'.tasks t with
      | none =>
        rw [hq] at htask
        cases htask
      | some τ' =>
        rw [hq] at htask
        cases htask with
        | some hτ =>
          have henabled : S.enabled τ.label p.world = S'.enabled τ'.label p'.world := by
            rw [hS.enabled, hτ.label, h.world]
          simp only [Pool.step, Pool.turn, hp, hq, henabled]
          cases S'.enabled τ'.label p'.world with
          | true =>
            show (p.advance ⟨t, τ.call, some (τ.label, r), τ.resume r⟩).Shadows
              (p'.advance ⟨t, τ'.call, some (τ'.label, r), τ'.resume r⟩)
            rw [hτ.call, hτ.label]
            exact h.advance t τ'.call _ (hτ.resume r)
          | false => exact h
  | move m =>
    refine ⟨?_, h.trace, h.spawned, h.tasks⟩
    show (S.move p.world m).1 = S'.move p'.world m
    rw [hS.move, h.world]

/-- **A run with notes is a run.** -/
theorem Shadowing.run (hS : Shadowing S S') {p : Pool (W × O) E L R C} {p' : Pool W E L R C}
    (h : p.Shadows p') (as : List (Action R C M)) :
    (run (Pool.step S) p as).Shadows (run (Pool.step S') p' as) := by
  induction as generalizing p p' with
  | nil => exact h
  | cons a rest ih => exact ih (hS.step h a)

/-! ## Invariants -/

variable {T : System W E L R C M} {J : W → Prop}

/-- The invariant, as a footprint of assignments. -/
def keeping (J : W → Prop) : Footprint W E L := ⟨fun _ => True, fun _ => True, fun w w' => J w → J w'⟩

theorem Co.Within.keeps {x : Co W E L R α} (hx : x.Within (keeping J)) {w : W} (h : J w) :
    J (x.segment w).1 := by
  induction x generalizing w with
  | ret a => exact h
  | read k ih => exact ih w (hx w) h
  | write f k ih => exact ih hx.2 (hx.1 w h)
  | emit e k ih => exact ih hx.2 h
  | await l k ih => exact h

/-- **An invariant of the assignments**: the world has it, and every suspended call keeps it. -/
structure PoolKeeps (J : W → Prop) (p : Pool W E L R C) : Prop where
  world : J p.world
  tasks : ∀ t τ, p.tasks t = some τ → ∀ r, (τ.resume r).Within (keeping J)

theorem poolKeeps_idle {w : W} (h : J w) : PoolKeeps J (Pool.idle w : Pool W E L R C) :=
  ⟨h, fun _ _ htask => by cases htask⟩

theorem PoolKeeps.advance {p : Pool W E L R C} (h : PoolKeeps J p) {turn : Turn W E L R C}
    (hbody : turn.body.Within (keeping J)) : PoolKeeps J (p.advance turn) := by
  refine ⟨hbody.keeps h.world, fun t τ htask r => ?_⟩
  by_cases ht : t = turn.task
  · subst ht
    have hresidue : Pool.residue turn.call (turn.body.segment p.world).2.2 = some τ :=
      (Function.update_self turn.task _ p.tasks).symm.trans htask
    exact hbody.residue p.world hresidue r
  · exact h.tasks t τ ((Function.update_of_ne ht _ p.tasks).symm.trans htask) r

theorem PoolKeeps.step (hprogram : ∀ c, (T.program c).Within (keeping J))
    (hmove : ∀ w m, J w → J (T.move w m)) {p : Pool W E L R C} (h : PoolKeeps J p)
    (a : Action R C M) : PoolKeeps J (p.step T a) := by
  cases a with
  | spawn c => exact PoolKeeps.advance (p := p.count T (.spawn c)) ⟨h.world, h.tasks⟩ (hprogram c)
  | resume t r =>
    cases htask : p.tasks t with
    | none =>
      simp only [Pool.step, Pool.turn, htask]
      exact h
    | some τ =>
      simp only [Pool.step, Pool.turn, htask]
      split
      · rename_i turn hturn
        split at hturn
        · cases hturn
          exact h.advance (h.tasks t τ htask r)
        · cases hturn
      · exact h
  | move m => exact ⟨hmove p.world m h.world, h.tasks⟩

/-- **It holds in every state of every run.** -/
theorem PoolKeeps.run (hprogram : ∀ c, (T.program c).Within (keeping J))
    (hmove : ∀ w m, J w → J (T.move w m)) {p : Pool W E L R C} (h : PoolKeeps J p)
    (as : List (Action R C M)) : PoolKeeps J (run (Pool.step T) p as) :=
  run_preserves (fun _ a h => h.step hprogram hmove a) h as

end XBloom.Async
