/-
# XBloom.Async.Protocols — what one call says, in any company

A protocol is an automaton over events: which of them may come in a phase, and the phase that follows.
`Co.Speaks` says that a coroutine keeps to one, whatever it is resumed with and whatever the others have
made of the world while it waited; between two awaits it sees the world as it is, so what it says may
depend on what it has just read.  `Says` is the triple for routines.

`protocol_kept` carries it to pools: in every run, what each task has said is something its protocol
allows, in that order.
-/
import XBloom.Async.Pools
import XBloom.Async.Solo
import Mathlib.Data.List.Induction

namespace XBloom.Async

open XBloom.Logic

variable {W E L R C M P ε α β : Type}

/-! ## Protocols -/

/-- What may be said in a phase, and the phase that follows. -/
abbrev Protocol (P E : Type) := P → E → Option P

namespace Protocol

variable (δ : Protocol P E)

/-- The phase after some events, if they are allowed. -/
def after : P → List E → Option P
  | s, [] => some s
  | s, e :: es => (δ s e).bind fun s' => after s' es

theorem after_append (s : P) (es es' : List E) :
    δ.after s (es ++ es') = (δ.after s es).bind fun s' => δ.after s' es' := by
  induction es generalizing s with
  | nil => rfl
  | cons e rest ih =>
    show ((δ s e).bind fun s' => δ.after s' (rest ++ es')) = _
    cases hnext : δ s e with
    | none => simp [after, hnext]
    | some s' =>
      simp only [after, hnext, Option.bind_some]
      exact ih s'

/-- What was said up to an event was allowed, and so was the event. -/
theorem after_split {s s' : P} {past later : List E} {e : E}
    (h : δ.after s (past ++ e :: later) = some s') :
    ∃ now next, δ.after s past = some now ∧ δ now e = some next ∧ δ.after next later = some s' := by
  rw [after_append] at h
  obtain ⟨now, hnow, hrest⟩ := Option.bind_eq_some_iff.mp h
  obtain ⟨next, hnext, hlater⟩ := Option.bind_eq_some_iff.mp hrest
  exact ⟨now, next, hnow, hnext, hlater⟩

/-- **What a phase tells of the past** is proved event by event. -/
theorem after_tells {δ : Protocol P E} {I : List E → P → Prop} {s : P} (hstart : I [] s)
    (hstep : ∀ es now e next, I es now → δ now e = some next → I (es ++ [e]) next) :
    ∀ (es : List E) {s' : P}, δ.after s es = some s' → I es s' := by
  intro es
  induction es using List.reverseRecOn with
  | nil =>
    intro s' h
    cases h
    exact hstart
  | append_singleton es e ih =>
    intro s' h
    obtain ⟨now, next, hnow, hnext, hlast⟩ := after_split δ h
    cases hlast
    exact hstep es now e _ (ih hnow) hnext

end Protocol

/-! ## Coroutines that keep to a protocol -/

/-- **A coroutine keeps to a protocol from a phase on**, and ends in `Q` of its result, the phase and
the world. -/
def Co.Speaks (δ : Protocol P E) (Q : α → P → W → Prop) : Co W E L R α → P → W → Prop
  | .ret a, s, w => Q a s w
  | .read k, s, w => (k w).Speaks δ Q s w
  | .write f k, s, w => k.Speaks δ Q s (f w)
  | .emit e k, s, w => ∃ s', δ s e = some s' ∧ k.Speaks δ Q s' w
  | .await _ k, s, _ => ∀ r w', (k r).Speaks δ Q s w'

variable {δ : Protocol P E} {s : P} {w : W}

theorem Co.speaks_bind {x : Co W E L R α} {f : α → Co W E L R β} {Q : β → P → W → Prop} :
    (x.bind f).Speaks δ Q s w ↔ x.Speaks δ (fun a => (f a).Speaks δ Q) s w := by
  induction x generalizing s w with
  | ret a => exact Iff.rfl
  | read k ih => exact ih w
  | write g k ih => exact ih
  | emit e k ih => exact exists_congr fun s' => and_congr_right fun _ => ih
  | await l k ih => exact forall_congr' fun r => forall_congr' fun w' => ih r

theorem Co.Speaks.mono {x : Co W E L R α} {Q Q' : α → P → W → Prop} (h : x.Speaks δ Q s w)
    (hQ : ∀ a s w, Q a s w → Q' a s w) : x.Speaks δ Q' s w := by
  induction x generalizing s w with
  | ret a => exact hQ a s w h
  | read k ih => exact ih w h
  | write g k ih => exact ih h
  | emit e k ih =>
    obtain ⟨s', hs', hk⟩ := h
    exact ⟨s', hs', ih hk⟩
  | await l k ih => exact fun r w' => ih r (h r w')

/-- Where everything may be said, anything keeps to it. -/
theorem Co.speaks_free (x : Co W E L R α) :
    x.Speaks (fun s _ => some s) (fun _ _ _ => True) s w := by
  induction x generalizing w with
  | ret a => trivial
  | read k ih => exact ih w
  | write f k ih => exact ih
  | emit e k ih => exact ⟨s, rfl, ih⟩
  | await l k ih => exact fun r w' => ih r

/-- **What a segment says is allowed**, and what is left of the coroutine keeps to the protocol; if
nothing is left, it ended as it should. -/
theorem Co.Speaks.segment {c : C} {x : Co W E L R Unit} {Q : Unit → P → W → Prop}
    (h : x.Speaks δ Q s w) :
    ∃ s', δ.after s (x.segment w).2.1 = some s' ∧
      (Pool.residue c (x.segment w).2.2 = (none : Option (Suspended W E L R C)) →
        Q () s' (x.segment w).1) ∧
      ∀ τ : Suspended W E L R C,
        Pool.residue c (x.segment w).2.2 = some τ → ∀ r w, (τ.resume r).Speaks δ Q s' w := by
  induction x generalizing s w with
  | ret a => exact ⟨s, rfl, fun _ => h, fun τ hτ => by cases hτ⟩
  | read k ih => exact ih w h
  | write f k ih => exact ih h
  | emit e k ih =>
    obtain ⟨next, hnext, hk⟩ := h
    obtain ⟨s', hs', hrest⟩ := ih hk
    refine ⟨s', ?_, hrest⟩
    show ((δ s e).bind fun s' => δ.after s' (k.segment w).2.1) = some s'
    rw [hnext]
    exact hs'
  | await l k ih =>
    refine ⟨s, rfl, fun hnone => (by cases hnone), fun τ hτ => ?_⟩
    cases hτ
    exact h

/-! ## Routines -/

/-- What a routine ends in: `Q` of its result, or `X` of what it raised. -/
def spoken (Q : α → P → W → Prop) (X : ε → P → W → Prop) : Except ε α → P → W → Prop
  | .ok a => Q a
  | .error e => X e

/-- **Triples**: from `A`, the routine keeps to the protocol. -/
def Says (δ : Protocol P E) (A : P → W → Prop) (x : Routine W E L R ε α) (Q : α → P → W → Prop)
    (X : ε → P → W → Prop) : Prop :=
  ∀ s w, A s w → x.run.Speaks δ (spoken Q X) s w

namespace Says

variable {A A' : P → W → Prop} {Q Q' : α → P → W → Prop} {X X' : ε → P → W → Prop}

theorem pure {a : α} (h : ∀ s w, A s w → Q a s w) :
    Says δ A (Pure.pure a : Routine W E L R ε α) Q X := h

theorem throw {e : ε} (h : ∀ s w, A s w → X e s w) :
    Says δ A (throw e : Routine W E L R ε α) Q X := h

/-- **Sequencing.** -/
theorem bind {x : Routine W E L R ε α} {f : α → Routine W E L R ε β} {Q' : β → P → W → Prop}
    (hx : Says δ A x Q X) (hf : ∀ a, Says δ (Q a) (f a) Q' X) : Says δ A (x >>= f) Q' X := by
  intro s w hA
  show (x.run.bind (ExceptT.bindCont f)).Speaks δ (spoken Q' X) s w
  rw [Co.speaks_bind]
  refine (hx s w hA).mono fun r s w hr => ?_
  cases r with
  | ok a => exact hf a s w hr
  | error e => exact hr

/-- **Consequence.** -/
theorem weaken {x : Routine W E L R ε α} (h : Says δ A x Q X) (hA : ∀ s w, A' s w → A s w)
    (hQ : ∀ a s w, Q a s w → Q' a s w) (hX : ∀ e s w, X e s w → X' e s w) : Says δ A' x Q' X' := by
  intro s w hA'
  refine (h s w (hA s w hA')).mono fun r s w hr => ?_
  cases r with
  | ok a => exact hQ a s w hr
  | error e => exact hX e s w hr

/-- A weaker precondition. -/
theorem pre {x : Routine W E L R ε α} (h : Says δ A x Q X) (hA : ∀ s w, A' s w → A s w) :
    Says δ A' x Q X := fun s w hA' => h s w (hA s w hA')

/-- A read of the world. -/
theorem world {f : W → Routine W E L R ε α}
    (h : ∀ w₀, Says δ (fun s w => A s w ∧ w = w₀) (f w₀) Q X) :
    Says δ A (Routine.world >>= f) Q X := fun s w hA => h w s w ⟨hA, rfl⟩

/-- Assignments. -/
theorem assign {f : W → W} {Q : Unit → P → W → Prop} (h : ∀ s w, A s w → Q () s (f w)) :
    Says δ A (Routine.assign f : Routine W E L R ε Unit) Q X := h

/-- An event. -/
theorem emit {e : E} {Q : Unit → P → W → Prop}
    (h : ∀ s w, A s w → ∃ s', δ s e = some s' ∧ Q () s' w) :
    Says δ A (Routine.emit e : Routine W E L R ε Unit) Q X := h

/-- An await: the phase stays, the world may be any. -/
theorem await {l : L} {Q : R → P → W → Prop} (h : ∀ s w, A s w → ∀ r w', Q r s w') :
    Says δ A (Routine.await l : Routine W E L R ε R) Q X := h

/-- A computation that may raise. -/
theorem lift {x : Except ε α} (hok : ∀ a, x = .ok a → ∀ s w, A s w → Q a s w)
    (herror : ∀ e, x = .error e → ∀ s w, A s w → X e s w) :
    Says δ A (Routine.lift x : Routine W E L R ε α) Q X := by
  intro s w hA
  cases x with
  | ok a => exact hok a rfl s w hA
  | error e => exact herror e rfl s w hA

/-- A conditional. -/
theorem ite {b : Prop} [Decidable b] {x y : Routine W E L R ε α} (htrue : b → Says δ A x Q X)
    (hfalse : ¬ b → Says δ A y Q X) : Says δ A (if b then x else y) Q X := by
  split
  · exact htrue ‹_›
  · exact hfalse ‹_›

/-- A conditional await. -/
theorem when {b : Bool} {x : Routine W E L R ε Unit} {Q : Unit → P → W → Prop}
    (htrue : b = true → Says δ A x Q X) (hfalse : b = false → ∀ s w, A s w → Q () s w) :
    Says δ A (Routine.when b x) Q X := by
  cases b with
  | true => exact htrue rfl
  | false => exact hfalse rfl

/-- A `try`. -/
theorem attempt {x : Routine W E L R ε α} {Q : Except ε α → P → W → Prop} {X : ε → P → W → Prop}
    (h : Says δ A x (fun a => Q (.ok a)) fun e => Q (.error e)) :
    Says δ A (Routine.attempt x) Q X := by
  intro s w hA
  show (x.run.bind fun r => .ret (.ok r)).Speaks δ (spoken Q X) s w
  rw [Co.speaks_bind]
  refine (h s w hA).mono fun r s w hr => ?_
  cases r with
  | ok a => exact hr
  | error e => exact hr

end Says

/-! ## Routines that say little -/

section Footprints

variable {F : Footprint W E L} {A : P → Prop}

theorem Co.Within.speaks (hF : ∀ s e, A s → F.emits e → ∃ s', δ s e = some s' ∧ A s')
    {x : Co W E L R α} (hx : x.Within F) (hs : A s) : x.Speaks δ (fun _ s _ => A s) s w := by
  induction x generalizing s w with
  | ret a => exact hs
  | read k ih => exact ih w (hx w) hs
  | write f k ih => exact ih hx.2 hs
  | emit e k ih =>
    obtain ⟨s', hnext, hs'⟩ := hF s e hs hx.1
    exact ⟨s', hnext, ih hx.2 hs'⟩
  | await l k ih => exact fun r w' => ih r (hx.2 r) hs

/-- **A routine stays in the phases its footprint stays in.** -/
theorem Within.talks (hF : ∀ s e, A s → F.emits e → ∃ s', δ s e = some s' ∧ A s')
    {x : Routine W E L R ε α} (hx : Within F x) :
    Says δ (fun s _ => A s) x (fun _ s _ => A s) fun _ s _ => A s := by
  intro s w hs
  refine (Co.Within.speaks hF hx hs).mono fun r s w hr => ?_
  cases r with
  | ok a => exact hr
  | error e => exact hr

end Footprints

/-! ## Parts of the world -/

section Parts

variable {V F K S : Type} {lens : Lens W E L R V F K S} {δ : Protocol P F}

/-- The protocol of the whole, as a part of it hears it. -/
def Protocol.through (δ : Protocol P F) (lens : Lens W E L R V F K S) : Protocol P E :=
  fun s e => δ s (lens.event e)

theorem Co.Speaks.zoom (hput : ∀ v w, lens.part (lens.replace v w) = w) {x : Co W E L R α}
    {Q : α → P → W → Prop} {v : V} (h : x.Speaks (δ.through lens) Q s (lens.part v)) :
    (x.zoom lens).Speaks δ (fun a s v => Q a s (lens.part v)) s v := by
  induction x generalizing s v with
  | ret a => exact h
  | read k ih => exact ih _ h
  | write f k ih =>
    refine ih ?_
    show k.Speaks (δ.through lens) Q s (lens.part (lens.replace v (f (lens.part v))))
    rw [hput]
    exact h
  | emit e k ih =>
    obtain ⟨s', hnext, hk⟩ := h
    exact ⟨s', hnext, ih hk⟩
  | await l k ih => exact fun r v' => ih _ (h (lens.response r) (lens.part v'))

variable (lens δ) in
/-- **A part of the world keeps to the protocol of the whole.** -/
theorem Says.zoom (hput : ∀ v w, lens.part (lens.replace v w) = w) {x : Routine W E L R ε α}
    {A : P → W → Prop} {Q : α → P → W → Prop} {X : ε → P → W → Prop}
    (h : Says (δ.through lens) A x Q X) :
    Says δ (fun s v => A s (lens.part v)) (Routine.zoom lens x) (fun a s v => Q a s (lens.part v))
      fun e s v => X e s (lens.part v) := by
  intro s v hA
  refine (Co.Speaks.zoom hput (h s _ hA)).mono fun r s v hr => ?_
  cases r with
  | ok a => exact hr
  | error e => exact hr

end Parts

/-! ## Pools -/

/-- What a task has said. -/
def saidBy (t : ℕ) (tr : Trace C E) : List E := (tr.filter fun e => e.task = t).map Entry.event

theorem saidBy_append (t : ℕ) (tr tr' : Trace C E) :
    saidBy t (tr ++ tr') = saidBy t tr ++ saidBy t tr' := by
  simp [saidBy]

theorem mem_saidBy {t : ℕ} {tr : Trace C E} {e : E} :
    e ∈ saidBy t tr ↔ ∃ entry ∈ tr, entry.task = t ∧ entry.event = e := by
  simp [saidBy, and_assoc]

/-- What was said before an entry of a trace, and after it. -/
theorem saidBy_split (past later : Trace C E) (e : Entry C E) :
    saidBy e.task (past ++ e :: later) = saidBy e.task past ++ e.event :: saidBy e.task later := by
  simp [saidBy]

theorem saidBy_mark (t : ℕ) (c : C) (es : List E) : saidBy t (mark t c es) = es := by
  induction es with
  | nil => rfl
  | cons e rest ih =>
    have htail : saidBy t (mark t c (e :: rest)) = e :: saidBy t (mark t c rest) := by
      simp [saidBy, mark]
    rw [htail, ih]

theorem saidBy_mark_ne {t t' : ℕ} (h : t' ≠ t) (c : C) (es : List E) :
    saidBy t (mark t' c es) = [] := by
  induction es with
  | nil => rfl
  | cons e rest ih =>
    have htail : saidBy t (mark t' c (e :: rest)) = saidBy t (mark t' c rest) := by
      simp [saidBy, mark, h]
    rw [htail, ih]

/-- Nobody has heard of a task before its call. -/
theorem saidBy_new {p : Pool W E L R C} (h : Numbered p) {t : ℕ} (ht : p.spawned ≤ t) :
    saidBy t p.trace = [] := by
  have hnone : p.trace.filter (fun e => e.task = t) = [] :=
    List.filter_eq_nil_iff.mpr fun e he => by
      have hlt := h.trace e he
      simp only [decide_eq_true_eq]
      omega
  rw [saidBy, hnone, List.map_nil]

/-- The call a step makes. -/
def Action.called : Action R C M → Option C
  | .spawn c => some c
  | _ => none

/-- The calls made, in order: the task of a call is its place. -/
def calls (as : List (Action R C M)) : List C := as.filterMap Action.called

variable {S : System W E L R C M} {δ : C → Protocol P E} {start : C → P} {Q : C → P → Prop}

/-- **One task in a pool**: its protocol allows what it has said, it ended as it should if it is over,
and otherwise it will keep to its protocol. -/
def KeepsTo (δ : C → Protocol P E) (start : C → P) (Q : C → P → Prop) (p : Pool W E L R C) (t : ℕ)
    (c : C) : Prop :=
  ∃ s, (δ c).after (start c) (saidBy t p.trace) = some s ∧ (∀ e ∈ p.trace, e.task = t → e.call = c) ∧
    (p.tasks t = none → Q c s) ∧
    ∀ τ, p.tasks t = some τ → τ.call = c ∧ ∀ r w, (τ.resume r).Speaks (δ c) (fun _ s _ => Q c s) s w

/-- Every call that was made keeps to its protocol. -/
structure Attuned (δ : C → Protocol P E) (start : C → P) (Q : C → P → Prop) (called : List C)
    (p : Pool W E L R C) : Prop where
  numbered : Numbered p
  spawned : called.length = p.spawned
  tasks : ∀ t c, called[t]? = some c → KeepsTo δ start Q p t c

theorem attuned_idle (w : W) : Attuned δ start Q [] (Pool.idle w : Pool W E L R C) :=
  ⟨numbered_idle w, rfl, fun _ _ ht => by cases ht⟩

section
variable {p : Pool W E L R C} {a : Action R C M} {called : List C}

/-- A turn adds its own events, to its own task. -/
theorem KeepsTo.of_turn {turn : Turn W E L R C} {c : C} {s : P} (hturn : p.turn S a = some turn)
    (hcall : turn.call = c) (hsaid : (δ c).after (start c) (saidBy turn.task p.trace) = some s)
    (hcalls : ∀ e ∈ p.trace, e.task = turn.task → e.call = c)
    (hbody : turn.body.Speaks (δ c) (fun _ s _ => Q c s) s p.world) :
    KeepsTo δ start Q (p.step S a) turn.task c := by
  obtain ⟨_, htrace, htasks⟩ := Pool.step_of_turn hturn
  obtain ⟨s', hs', hover, hresidue⟩ := Co.Speaks.segment (c := turn.call) hbody
  refine ⟨s', ?_, ?_, ?_, ?_⟩
  · rw [htrace, saidBy_append, saidBy_mark, Protocol.after_append, hsaid]
    exact hs'
  · intro e he ht
    rw [htrace, List.mem_append] at he
    rcases he with he | he
    · exact hcalls e he ht
    · obtain ⟨ev, _, rfl⟩ := List.mem_map.mp he
      exact hcall
  · intro hnone
    rw [htasks, Function.update_self] at hnone
    exact hover hnone
  · intro τ hτ
    rw [htasks, Function.update_self] at hτ
    refine ⟨?_, hresidue τ hτ⟩
    rw [← hcall]
    cases hstop : (turn.body.segment p.world).2.2 with
    | done _ =>
      rw [hstop] at hτ
      cases hτ
    | waits l k =>
      rw [hstop] at hτ
      cases hτ
      rfl

/-- A turn of another task leaves a task as it is. -/
theorem KeepsTo.other {turn : Turn W E L R C} {t : ℕ} {c : C} (h : KeepsTo δ start Q p t c)
    (hturn : p.turn S a = some turn) (ht : turn.task ≠ t) : KeepsTo δ start Q (p.step S a) t c := by
  obtain ⟨_, htrace, htasks⟩ := Pool.step_of_turn hturn
  obtain ⟨s, hsaid, hcalls, hover, hrest⟩ := h
  refine ⟨s, ?_, ?_, ?_, ?_⟩
  · rw [htrace, saidBy_append, saidBy_mark_ne ht, List.append_nil]
    exact hsaid
  · intro e he hte
    rw [htrace, List.mem_append] at he
    rcases he with he | he
    · exact hcalls e he hte
    · obtain ⟨ev, _, rfl⟩ := List.mem_map.mp he
      exact absurd hte ht
  · rw [htasks, Function.update_of_ne ht.symm]
    exact hover
  · intro τ hτ
    rw [htasks, Function.update_of_ne ht.symm] at hτ
    exact hrest τ hτ

/-- A step without a turn leaves every task as it is. -/
theorem KeepsTo.still {t : ℕ} {c : C} (h : KeepsTo δ start Q p t c) (hturn : p.turn S a = none) :
    KeepsTo δ start Q (p.step S a) t c := by
  obtain ⟨htrace, htasks⟩ := Pool.step_of_no_turn hturn
  unfold KeepsTo
  rw [htrace, htasks]
  exact h

/-- **A step of a pool.** -/
theorem Attuned.step
    (hprogram : ∀ c w, (S.program c).Speaks (δ c) (fun _ s _ => Q c s) (start c) w)
    (h : Attuned δ start Q called p) (a : Action R C M) :
    Attuned δ start Q (called ++ a.called.toList) (p.step S a) := by
  cases a with
  | spawn c =>
    have hturn : p.turn S (.spawn c : Action R C M) = some ⟨p.spawned, c, none, S.program c⟩ := rfl
    refine ⟨h.numbered.step _, ?_, fun t c' ht => ?_⟩
    · rw [Pool.step_spawned]
      show (called ++ [c]).length = p.spawned + 1
      rw [List.length_append, h.spawned]
      rfl
    · rw [show (Action.called (.spawn c : Action R C M)).toList = [c] from rfl, List.getElem?_append] at ht
      by_cases hlt : t < called.length
      · rw [if_pos hlt] at ht
        have hne : p.spawned ≠ t := by have := h.spawned; omega
        exact (h.tasks t c' ht).other hturn hne
      · -- the call that begins has said nothing
        rw [if_neg hlt] at ht
        obtain ⟨hzero, rfl⟩ : t - called.length = 0 ∧ c = c' := by
          cases hn : t - called.length with
          | zero =>
            rw [hn] at ht
            exact ⟨rfl, Option.some.inj ht⟩
          | succ n =>
            rw [hn] at ht
            cases ht
        have htask : t = p.spawned := by have := h.spawned; omega
        rw [htask]
        refine KeepsTo.of_turn (s := start c) hturn rfl ?_ ?_ (hprogram c p.world)
        · rw [saidBy_new h.numbered le_rfl]
          rfl
        · intro e he hte
          exact absurd (h.numbered.trace e he) (by rw [hte]; exact lt_irrefl _)
  | move m =>
    refine ⟨h.numbered.step _, ?_, fun t c ht => ?_⟩
    · rw [Pool.step_spawned, show (Action.called (.move m : Action R C M)).toList = [] from rfl,
        List.append_nil]
      exact h.spawned
    · rw [show (Action.called (.move m : Action R C M)).toList = [] from rfl, List.append_nil] at ht
      exact (h.tasks t c ht).still rfl
  | resume t₀ r =>
    refine ⟨h.numbered.step _, ?_, fun t c ht => ?_⟩
    · rw [Pool.step_spawned, show (Action.called (.resume t₀ r : Action R C M)).toList = [] from rfl,
        List.append_nil]
      exact h.spawned
    · rw [show (Action.called (.resume t₀ r : Action R C M)).toList = [] from rfl,
        List.append_nil] at ht
      have hkeeps := h.tasks t c ht
      cases hturn : p.turn S (.resume t₀ r : Action R C M) with
      | none => exact hkeeps.still hturn
      | some turn =>
        by_cases htask : turn.task = t
        · subst htask
          rcases Pool.turn_cases hturn with ⟨_, _, _, ha⟩ | ⟨τ, r', hτ, hcall, _, hbody, _⟩
          · cases ha
          · obtain ⟨s, hsaid, hcalls, _, hrest⟩ := hkeeps
            obtain ⟨hcalled, hspeaks⟩ := hrest τ hτ
            refine KeepsTo.of_turn hturn (hcall.trans hcalled) hsaid hcalls ?_
            rw [hbody]
            exact hspeaks r' p.world
        · exact hkeeps.other hturn htask

theorem Attuned.run
    (hprogram : ∀ c w, (S.program c).Speaks (δ c) (fun _ s _ => Q c s) (start c) w)
    (h : Attuned δ start Q called p) (as : List (Action R C M)) :
    Attuned δ start Q (called ++ calls as) (Logic.run (Pool.step S) p as) := by
  induction as generalizing p called with
  | nil => exact (List.append_nil called).symm ▸ h
  | cons a rest ih =>
    have hrest := ih (h.step hprogram a)
    rw [List.append_assoc] at hrest
    have hcalls : calls (a :: rest) = a.called.toList ++ calls rest := by
      rw [calls, List.filterMap_cons]
      cases a.called <;> rfl
    rw [hcalls]
    exact hrest

end

/-- **What a call has said in a run is what its protocol allows**, and if it is over it ended as it
should. -/
theorem call_kept (hprogram : ∀ c w, (S.program c).Speaks (δ c) (fun _ s _ => Q c s) (start c) w)
    (w : W) (as : List (Action R C M)) {t : ℕ} {c : C} (hc : (calls as)[t]? = some c) :
    ∃ s, (δ c).after (start c) (saidBy t (run (Pool.step S) (Pool.idle w) as).trace) = some s ∧
      ((run (Pool.step S) (Pool.idle w) as).tasks t = none → Q c s) := by
  have hattuned := (attuned_idle w : Attuned δ start Q [] (Pool.idle w)).run hprogram as
  obtain ⟨s, hsaid, _, hover, _⟩ := hattuned.tasks t c hc
  exact ⟨s, hsaid, hover⟩

variable (start) in
/-- **What every task says in a run is what its protocol allows.** -/
theorem protocol_kept
    (hprogram : ∀ c w, (S.program c).Speaks (δ c) (fun _ _ _ => True) (start c) w) (w : W)
    (as : List (Action R C M)) :
    ∀ e ∈ (run (Pool.step S) (Pool.idle w) as).trace,
      ∃ s, (δ e.call).after (start e.call) (saidBy e.task (run (Pool.step S) (Pool.idle w) as).trace) =
        some s := by
  intro e he
  have hattuned := (attuned_idle w : Attuned δ start (fun _ _ => True) [] (Pool.idle w)).run
    (S := S) hprogram as
  have hlt := hattuned.numbered.trace e he
  rw [← hattuned.spawned] at hlt
  obtain ⟨s, hsaid, hcalls, _⟩ := hattuned.tasks e.task _ (List.getElem?_eq_getElem hlt)
  rw [hcalls e he rfl]
  exact ⟨s, hsaid⟩

end XBloom.Async
