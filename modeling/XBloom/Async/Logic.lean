/-
# XBloom.Async.Logic — a rely-guarantee logic for pools of coroutines

A call is proved against a `Contract`: the invariant it finds and leaves at each await, what it relies
on of the others while it waits, what it guarantees of its own writes and events, where it may stop,
and what it ensures of each event it emits, given what the run is assumed to allow.  `wp` folds a
contract over a coroutine; since a coroutine is atomic between awaits, only awaits expose it to the
others.

`turn_ok` says what one segment does, and `PoolOk` that every suspended call is provable from where
it stands.  `PoolOk.step` keeps that over a step of a pool whose other calls may rely on the call
that moves, and `PoolOk.run` over a whole run: the invariant holds at its end, and every event of its
trace was ensured.
-/
import XBloom.Async.Coroutine

namespace XBloom.Async

open XBloom.Logic

variable {W E L R C M α β : Type}

/-- What assertions are about: the world and the trace. -/
abbrev State (W E C : Type) := W × Trace C E

/-- Where a segment began: at a call, or at an await point with a response; and the state there. -/
structure Origin (W E L R C : Type) where
  resumed : Option (L × R)
  state : State W E C

/-- What calls rely on, guarantee and ensure. -/
structure Contract (W E L R C : Type) where
  inv : State W E C → Prop
  rely : C → L → State W E C → State W E C → Prop
  guarantee : C → Origin W E L R C → State W E C → State W E C → Prop
  stop : C → Origin W E L R C → Option L → Prop
  assume : Trace C E → Entry C E → Prop
  ensure : Trace C E → Entry C E → Prop
  rely_refl : ∀ c l s, rely c l s s
  rely_trans : ∀ c l s s' s'', rely c l s s' → rely c l s' s'' → rely c l s s''
  guarantee_refl : ∀ c o s, guarantee c o s s
  guarantee_trans : ∀ c o s s' s'', guarantee c o s s' → guarantee c o s' s'' → guarantee c o s s''

/-- A property of where a segment began and of the state now. -/
abbrev Assertion (W E L R C : Type) := Origin W E L R C → State W E C → Prop

variable (Γ : Contract W E L R C) (c : C) (t : ℕ)

/-- What a call owes when a segment of it ends: at an await point, or for good. -/
def Contract.rests (Γ : Contract W E L R C) (c : C) (l : Option L) : Assertion W E L R C :=
  fun o s => Γ.inv s ∧ Γ.stop c o l

/-- **The weakest precondition** of a coroutine run as task `t` for the call `c`, in a segment that
began at `o`. -/
def wp (Q : α → Assertion W E L R C) : Co W E L R α → Assertion W E L R C
  | .ret a, o, s => Q a o s
  | .read k, o, s => wp Q (k s.1) o s
  | .write f k, o, s => Γ.guarantee c o s (f s.1, s.2) ∧ wp Q k o (f s.1, s.2)
  | .emit e k, o, s =>
    Γ.assume s.2 ⟨t, c, e⟩ →
      Γ.ensure s.2 ⟨t, c, e⟩ ∧ Γ.guarantee c o s (s.1, s.2 ++ [⟨t, c, e⟩]) ∧
        wp Q k o (s.1, s.2 ++ [⟨t, c, e⟩])
  | .await l k, o, s =>
    Γ.rests c (some l) o s ∧
      ∀ r s', Γ.rely c l s s' → Γ.inv s' → wp Q (k r) ⟨some (l, r), s'⟩ s'

variable {Γ c t} {Q Q' : α → Assertion W E L R C}

/-- **Sequencing.** -/
theorem wp_bind {x : Co W E L R α} {f : α → Co W E L R β} {Q : β → Assertion W E L R C}
    {o : Origin W E L R C} {s : State W E C} :
    wp Γ c t Q (x.bind f) o s ↔ wp Γ c t (fun a => wp Γ c t Q (f a)) x o s := by
  induction x generalizing o s with
  | ret a => exact Iff.rfl
  | read k ih => exact ih s.1
  | write g k ih => exact and_congr_right fun _ => ih
  | emit e k ih =>
    exact imp_congr_right fun _ => and_congr_right fun _ => and_congr_right fun _ => ih
  | await l k ih =>
    refine and_congr_right fun _ => ?_
    constructor
    · intro h r s' hrely hinv
      exact (ih r).mp (h r s' hrely hinv)
    · intro h r s' hrely hinv
      exact (ih r).mpr (h r s' hrely hinv)

/-- **Consequence.** -/
theorem wp_mono {x : Co W E L R α} {o : Origin W E L R C} {s : State W E C}
    (h : wp Γ c t Q x o s) (hQ : ∀ a o s, Q a o s → Q' a o s) : wp Γ c t Q' x o s := by
  induction x generalizing o s with
  | ret a => exact hQ a o s h
  | read k ih => exact ih s.1 h
  | write g k ih => exact ⟨h.1, ih h.2⟩
  | emit e k ih =>
    intro hassume
    obtain ⟨hensure, hguarantee, hk⟩ := h hassume
    exact ⟨hensure, hguarantee, ih hk⟩
  | await l k ih => exact ⟨h.1, fun r s' hrely hinv => ih r (h.2 r s' hrely hinv)⟩

/-! ## One segment -/

/-- Each event of a segment meets a condition on the trace before it. -/
def Emits (P : Trace C E → Entry C E → Prop) (t : ℕ) (c : C) : Trace C E → List E → Prop
  | _, [] => True
  | tr, e :: es => P tr ⟨t, c, e⟩ ∧ Emits P t c (tr ++ [⟨t, c, e⟩]) es

theorem emits_of_mem {P : Trace C E → Entry C E → Prop} {es : List E}
    (h : ∀ e ∈ es, ∀ tr, P tr ⟨t, c, e⟩) (tr : Trace C E) : Emits P t c tr es := by
  induction es generalizing tr with
  | nil => trivial
  | cons e es ih =>
    exact ⟨h e List.mem_cons_self tr, ih (fun e' he => h e' (List.mem_cons_of_mem e he)) _⟩

theorem emits_of_forall {P : Trace C E → Entry C E → Prop} (h : ∀ tr e, P tr e) (tr : Trace C E)
    (es : List E) : Emits P t c tr es :=
  emits_of_mem (fun _ _ tr => h tr _) tr

/-- A suspended call is provable from every state it may find. -/
def TaskOk (Γ : Contract W E L R C) (t : ℕ) (s : State W E C) (τ : Suspended W E L R C) : Prop :=
  ∀ r s', Γ.rely τ.call τ.label s s' → Γ.inv s' →
    wp Γ τ.call t (fun _ => Γ.rests τ.call none) (τ.resume r) ⟨some (τ.label, r), s'⟩ s'

/-- Where a segment stopped. -/
def Co.Stop.label : Co.Stop W E L R α → Option L
  | .done _ => none
  | .waits l _ => some l

/-- The state a segment leaves. -/
def after (x : Co W E L R α) (t : ℕ) (c : C) (s : State W E C) : State W E C :=
  ((x.segment s.1).1, s.2 ++ mark t c (x.segment s.1).2.1)

/-- **What a segment does**: given that the run allows its events, it ensures them, keeps its
guarantee and the invariant, stops where it may, and leaves its task provable. -/
theorem turn_ok {x : Co W E L R Unit} {o : Origin W E L R C} {s : State W E C}
    (h : wp Γ c t (fun _ => Γ.rests c none) x o s)
    (hassume : Emits Γ.assume t c s.2 (x.segment s.1).2.1) :
    Emits Γ.ensure t c s.2 (x.segment s.1).2.1 ∧ Γ.guarantee c o s (after x t c s) ∧
      Γ.rests c (x.segment s.1).2.2.label o (after x t c s) ∧
      ∀ τ, Pool.residue c (x.segment s.1).2.2 = some τ → TaskOk Γ t (after x t c s) τ := by
  induction x generalizing s with
  | ret a =>
    have hafter : after (Co.ret a : Co W E L R Unit) t c s = s := by
      simp [after, Co.segment, mark]
    rw [hafter]
    exact ⟨trivial, Γ.guarantee_refl c o s, h, fun τ hres => by cases hres⟩
  | read k ih => exact ih s.1 h hassume
  | write f k ih =>
    obtain ⟨hensure, hguarantee, hrest⟩ := ih h.2 hassume
    exact ⟨hensure, Γ.guarantee_trans c o _ _ _ h.1 hguarantee, hrest⟩
  | emit e k ih =>
    obtain ⟨hensure, hfirst, hk⟩ := h hassume.1
    obtain ⟨hrest, hguarantee, hstop⟩ := ih hk hassume.2
    have hafter : after (Co.emit e k) t c s = after k t c (s.1, s.2 ++ [⟨t, c, e⟩]) := by
      simp [after, Co.segment, mark]
    rw [hafter]
    exact ⟨⟨hensure, hrest⟩, Γ.guarantee_trans c o _ _ _ hfirst hguarantee, hstop⟩
  | await l k ih =>
    have hafter : after (Co.await l k) t c s = s := by simp [after, Co.segment, mark]
    rw [hafter]
    refine ⟨trivial, Γ.guarantee_refl c o s, h.1, ?_⟩
    intro τ hres
    cases hres
    exact h.2

/-! ## Growing traces -/

/-- A trace has grown by events of one kind. -/
def Adds (P : Entry C E → Prop) (tr tr' : Trace C E) : Prop :=
  ∃ es, tr' = tr ++ es ∧ ∀ e ∈ es, P e

theorem Adds.refl {P : Entry C E → Prop} (tr : Trace C E) : Adds P tr tr := ⟨[], by simp, by simp⟩

theorem Adds.trans {P : Entry C E → Prop} {tr tr' tr'' : Trace C E} (h : Adds P tr tr')
    (h' : Adds P tr' tr'') : Adds P tr tr'' := by
  obtain ⟨es, rfl, hes⟩ := h
  obtain ⟨es', rfl, hes'⟩ := h'
  refine ⟨es ++ es', List.append_assoc tr es es', fun e he => ?_⟩
  rcases List.mem_append.mp he with he | he
  · exact hes e he
  · exact hes' e he

theorem Adds.one {P : Entry C E → Prop} {e : Entry C E} (h : P e) (tr : Trace C E) :
    Adds P tr (tr ++ [e]) := by
  refine ⟨[e], rfl, fun e' he' => ?_⟩
  rw [List.mem_singleton.mp he']
  exact h

/-! ## Pools -/

/-- The state of a pool. -/
def Pool.state (p : Pool W E L R C) : State W E C := (p.world, p.trace)

/-- Every suspended call is provable from where it stands, and the invariant holds. -/
structure PoolOk (Γ : Contract W E L R C) (p : Pool W E L R C) : Prop where
  inv : Γ.inv p.state
  tasks : ∀ t τ, p.tasks t = some τ → TaskOk Γ t p.state τ

/-- Every suspended call but that of task `t` may rely on what happens. -/
def Pool.Relies (Γ : Contract W E L R C) (p : Pool W E L R C) (t : Option ℕ)
    (s' : State W E C) : Prop :=
  ∀ t' τ, some t' ≠ t → p.tasks t' = some τ → Γ.rely τ.call τ.label p.state s'

/-- A suspended call stays provable in every state it may rely on. -/
theorem TaskOk.of_rely {s s' : State W E C} {τ : Suspended W E L R C}
    (h : TaskOk Γ t s τ) (hrely : Γ.rely τ.call τ.label s s') : TaskOk Γ t s' τ :=
  fun r s'' hrely' hinv => h r s'' (Γ.rely_trans _ _ s s' s'' hrely hrely') hinv

theorem poolOk_idle {w : W} (h : Γ.inv (w, [])) : PoolOk Γ (Pool.idle w : Pool W E L R C) :=
  ⟨h, fun t τ htask => by cases htask⟩

/-- **A segment of one call ensures its events and keeps the pool provable**, when the others may
rely on it. -/
theorem PoolOk.advance {p : Pool W E L R C} {turn : Turn W E L R C} (hp : PoolOk Γ p)
    (hx : wp Γ turn.call turn.task (fun _ => Γ.rests turn.call none) turn.body
      ⟨turn.resumed, p.state⟩ p.state)
    (hassume : Emits Γ.assume turn.task turn.call p.trace (turn.body.segment p.world).2.1)
    (hrely : Γ.guarantee turn.call ⟨turn.resumed, p.state⟩ p.state (p.advance turn).state →
      p.Relies Γ (some turn.task) (p.advance turn).state) :
    PoolOk Γ (p.advance turn) ∧
      Emits Γ.ensure turn.task turn.call p.trace (turn.body.segment p.world).2.1 := by
  obtain ⟨hensure, hguarantee, hrests, hresidue⟩ := turn_ok hx hassume
  refine ⟨⟨hrests.1, ?_⟩, hensure⟩
  intro t' τ htask
  by_cases htt : t' = turn.task
  · rw [htt] at htask ⊢
    refine hresidue τ ?_
    rw [← htask]
    exact (Function.update_self turn.task
      (Pool.residue turn.call (turn.body.segment p.world).2.2) p.tasks).symm
  · have hold : p.tasks t' = some τ := by
      rw [← htask]
      exact (Function.update_of_ne htt
        (Pool.residue turn.call (turn.body.segment p.world).2.2) p.tasks).symm
    have hne : some t' ≠ some turn.task := fun h => htt (Option.some.inj h)
    exact (hp.tasks t' τ hold).of_rely (hrely hguarantee t' τ hne hold)

/-! ## Steps and runs -/

variable (Γ) (S : System W E L R C M)

/-- What a step must meet: its events are allowed, the other suspended calls may rely on it, a call
that begins is provable, and a move of the surroundings keeps the invariant. -/
structure StepOk (p : Pool W E L R C) (a : Action R C M) : Prop where
  begins : ∀ c, a = .spawn c →
    wp Γ c p.spawned (fun _ => Γ.rests c none) (S.program c) ⟨none, p.state⟩ p.state
  assumed : ∀ turn, p.turn S a = some turn →
    Emits Γ.assume turn.task turn.call p.trace (p.emitted S a)
  heeded : ∀ turn s', p.turn S a = some turn →
    Γ.guarantee turn.call ⟨turn.resumed, p.state⟩ p.state s' → p.Relies Γ (some turn.task) s'
  moved : ∀ m, a = .move m →
    Γ.inv (S.move p.world m, p.trace) ∧ p.Relies Γ none (S.move p.world m, p.trace)

/-- Every event of a step is ensured. -/
def StepEnsured (p : Pool W E L R C) (a : Action R C M) : Prop :=
  ∀ turn, p.turn S a = some turn → Emits Γ.ensure turn.task turn.call p.trace (p.emitted S a)

variable {Γ} {S}

/-- A call whose turn it is, is provable. -/
theorem PoolOk.turn_wp {p : Pool W E L R C} {a : Action R C M} {turn : Turn W E L R C}
    (h : PoolOk Γ p) (hok : StepOk Γ S p a) (hturn : p.turn S a = some turn) :
    wp Γ turn.call turn.task (fun _ => Γ.rests turn.call none) turn.body
      ⟨turn.resumed, p.state⟩ p.state := by
  rcases Pool.turn_cases hturn with ⟨htask, hresumed, hbody, ha⟩ | ⟨τ, r, hτ, hcall, hresumed, hbody, _⟩
  · rw [htask, hresumed, hbody]
    exact hok.begins turn.call ha
  · rw [hresumed, hbody, hcall]
    exact h.tasks turn.task τ hτ r p.state (Γ.rely_refl _ _ p.state) h.inv

/-- **A step keeps the pool provable and ensures its events.** -/
theorem PoolOk.step {p : Pool W E L R C} {a : Action R C M} (h : PoolOk Γ p)
    (hok : StepOk Γ S p a) : PoolOk Γ (p.step S a) ∧ StepEnsured Γ S p a := by
  cases hturn : p.turn S a with
  | some turn =>
    have hassume := hok.assumed turn hturn
    have hwp := h.turn_wp hok hturn
    have hheeded := hok.heeded turn
    rw [Pool.emitted_of_turn hturn] at hassume
    -- counting a call changes neither the world, the trace nor the tasks
    obtain ⟨hworld, htrace, htasks⟩ := Pool.count_of_turn hturn
    have hstate : (p.count S a).state = p.state := by
      rw [Pool.state, hworld, htrace]
      rfl
    have hcount : PoolOk Γ (p.count S a) := by
      refine ⟨by rw [hstate]; exact h.inv, fun t τ htask => ?_⟩
      rw [hstate]
      rw [htasks] at htask
      exact h.tasks t τ htask
    obtain ⟨hpool, hensure⟩ := hcount.advance (by rw [hstate]; exact hwp)
      (by rw [hworld, htrace]; exact hassume) (by
        rw [hstate]
        intro hguarantee t' τ hne htask
        rw [hstate]
        rw [htasks] at htask
        exact hheeded _ hturn hguarantee t' τ hne htask)
    rw [hworld, htrace] at hensure
    refine ⟨by simpa only [Pool.step, hturn] using hpool, fun turn' hturn' => ?_⟩
    obtain rfl : turn = turn' := Option.some.inj (hturn.symm.trans hturn')
    rw [Pool.emitted_of_turn hturn]
    exact hensure
  | none =>
    refine ⟨?_, fun turn' hturn' => by cases hturn.symm.trans hturn'⟩
    simp only [Pool.step, hturn]
    cases a with
    | spawn c => cases hturn
    | resume t r => exact h
    | move m =>
      obtain ⟨hinv, hrelies⟩ := hok.moved m rfl
      exact ⟨hinv, fun t τ htask => (h.tasks t τ htask).of_rely (hrelies t τ (by simp) htask)⟩

/-- **A whole run**: when every step is one the contract is kept at, the invariant holds at the end,
every suspended call is provable, and every event of every step was ensured. -/
theorem PoolOk.run {P : Pool W E L R C → Action R C M → Prop}
    (hP : ∀ p a, PoolOk Γ p → P p a → StepOk Γ S p a) {p : Pool W E L R C} (hp : PoolOk Γ p)
    {as : List (Action R C M)} (hall : AllSteps (Pool.step S) P p as) :
    PoolOk Γ (run (Pool.step S) p as) ∧ AllSteps (Pool.step S) (StepEnsured Γ S) p as := by
  have hstep : ∀ p a, PoolOk Γ p → P p a → PoolOk Γ (p.step S a) ∧ StepEnsured Γ S p a :=
    fun p a hp ha => hp.step (hP p a hp ha)
  exact ⟨run_invariant (fun p a hp ha => (hstep p a hp ha).1) hp hall,
    AllSteps.of_invariant hstep hp hall⟩

/-! ## What a trace finds -/

/-- Every entry of a trace meets a condition on the trace before it. -/
def EachFinds (P : Trace C E → Entry C E → Prop) (tr : Trace C E) : Prop :=
  ∀ past e later, tr = past ++ e :: later → P past e

section
variable {P Q : Trace C E → Entry C E → Prop} {tr : Trace C E} {t : ℕ} {c : C}

theorem EachFinds.mono (himp : ∀ tr e, P tr e → Q tr e) (h : EachFinds P tr) : EachFinds Q tr :=
  fun past e later htrace => himp past e (h past e later htrace)

/-- The latest entry found what the others left. -/
theorem EachFinds.last (h : EachFinds P tr) {e : Entry C E} (he : tr.getLast? = some e) :
    P tr.dropLast e :=
  h tr.dropLast e [] (List.dropLast_append_getLast? e he).symm

theorem eachFinds_nil : EachFinds P [] := fun past e later h => by simp at h

theorem EachFinds.concat {e : Entry C E} (h : EachFinds P tr) (he : P tr e) :
    EachFinds P (tr ++ [e]) := by
  intro past e' later htrace
  rcases List.eq_nil_or_concat later with rfl | ⟨rest, last, rfl⟩
  · obtain ⟨rfl, hlast⟩ := List.append_inj' htrace rfl
    rw [← (List.cons.inj hlast).1]
    exact he
  · have hsplit : tr ++ [e] = (past ++ e' :: rest) ++ [last] := by rw [htrace]; simp
    exact h past e' rest (List.append_inj' hsplit rfl).1

theorem EachFinds.append {es : List E} :
    ∀ {tr : Trace C E}, EachFinds P tr → Emits P t c tr es → EachFinds P (tr ++ mark t c es) := by
  induction es with
  | nil =>
    intro tr h _
    rw [show tr ++ mark t c [] = tr from List.append_nil tr]
    exact h
  | cons e es ih =>
    intro tr h hes
    have hnext := ih (h.concat hes.1) hes.2
    rw [List.append_assoc] at hnext
    exact hnext

/-- **A run whose steps are ensured** leaves a trace of which every entry found what is ensured. -/
theorem eachFinds_run {p : Pool W E L R C} (h : EachFinds Γ.ensure p.trace)
    {as : List (Action R C M)} (hall : AllSteps (Pool.step S) (StepEnsured Γ S) p as) :
    EachFinds Γ.ensure (run (Pool.step S) p as).trace := by
  have hstep : ∀ p a, EachFinds Γ.ensure p.trace → StepEnsured Γ S p a →
      EachFinds Γ.ensure (p.step S a).trace := by
    intro p a hp hensured
    cases hturn : p.turn S a with
    | some turn =>
      have hemits := hensured turn hturn
      rw [Pool.emitted_of_turn hturn] at hemits
      rw [(Pool.step_of_turn hturn).2.1]
      exact hp.append hemits
    | none =>
      rw [(Pool.step_of_no_turn hturn).1]
      exact hp
  exact run_invariant hstep h hall

end

end XBloom.Async
