/-
# XBloom.Async.Rules — triples and footprints of routines

`Meets Γ c t P x Q R` reads: as task `t` of the call `c`, from `P`, the routine `x` keeps the contract
and ends in `Q` of its result or in `R` of what it raised.  The rules follow the constructs of the
source: sequencing, a read of the world, assignments, awaits, `try`.

`Within F x` says which awaits, events and writes a routine can make at all, whatever it is resumed
with.  `Within.meets` is the invariant rule: an assertion that survives every such await, event and
write survives the routine.
-/
import XBloom.Async.Logic

namespace XBloom.Async

variable {W E L R C ε α β : Type}

/-! ## Triples -/

/-- An assertion about a routine's outcome. -/
def outcome (Q : α → Assertion W E L R C) (X : ε → Assertion W E L R C) :
    Except ε α → Assertion W E L R C
  | .ok a => Q a
  | .error e => X e

/-- **Triples.** -/
def Meets (Γ : Contract W E L R C) (c : C) (t : ℕ) (P : Assertion W E L R C)
    (x : Routine W E L R ε α) (Q : α → Assertion W E L R C) (X : ε → Assertion W E L R C) : Prop :=
  ∀ o s, P o s → wp Γ c t (outcome Q X) x.run o s

variable {Γ : Contract W E L R C} {c : C} {t : ℕ} {P P' : Assertion W E L R C}
  {Q Q' : α → Assertion W E L R C} {X X' : ε → Assertion W E L R C}

namespace Meets

theorem pure {a : α} (h : ∀ o s, P o s → Q a o s) :
    Meets Γ c t P (Pure.pure a : Routine W E L R ε α) Q X := h

theorem throw {e : ε} (h : ∀ o s, P o s → X e o s) :
    Meets Γ c t P (throw e : Routine W E L R ε α) Q X := h

/-- **Sequencing.** -/
theorem bind {x : Routine W E L R ε α} {f : α → Routine W E L R ε β}
    {Q' : β → Assertion W E L R C} (hx : Meets Γ c t P x Q X)
    (hf : ∀ a, Meets Γ c t (Q a) (f a) Q' X) : Meets Γ c t P (x >>= f) Q' X := by
  intro o s hP
  show wp Γ c t (outcome Q' X) (x.run.bind (ExceptT.bindCont f)) o s
  rw [wp_bind]
  refine wp_mono (hx o s hP) fun r o s h => ?_
  cases r with
  | ok a => exact hf a o s h
  | error e => exact h

/-- **Consequence.** -/
theorem weaken {x : Routine W E L R ε α} (h : Meets Γ c t P x Q X)
    (hP : ∀ o s, P' o s → P o s) (hQ : ∀ a o s, Q a o s → Q' a o s)
    (hX : ∀ e o s, X e o s → X' e o s) : Meets Γ c t P' x Q' X' := by
  intro o s hP'
  refine wp_mono (h o s (hP o s hP')) fun r o s hr => ?_
  cases r with
  | ok a => exact hQ a o s hr
  | error e => exact hX e o s hr

/-- A weaker precondition. -/
theorem pre {x : Routine W E L R ε α} (h : Meets Γ c t P x Q X) (hP : ∀ o s, P' o s → P o s) :
    Meets Γ c t P' x Q X := fun o s hP' => h o s (hP o s hP')

/-- A fact of the precondition. -/
theorem of_fact {φ : Prop} {x : Routine W E L R ε α} (hφ : ∀ o s, P o s → φ)
    (h : φ → Meets Γ c t P x Q X) : Meets Γ c t P x Q X := fun o s hP => h (hφ o s hP) o s hP

/-- A read of the world. -/
theorem world {f : W → Routine W E L R ε α}
    (h : ∀ w, Meets Γ c t (fun o s => P o s ∧ s.1 = w) (f w) Q X) :
    Meets Γ c t P (Routine.world >>= f) Q X := fun o s hP => h s.1 o s ⟨hP, rfl⟩

/-- Assignments. -/
theorem assign {f : W → W} {Q : Unit → Assertion W E L R C}
    (h : ∀ o s, P o s → Γ.guarantee c o s (f s.1, s.2) ∧ Q () o (f s.1, s.2)) :
    Meets Γ c t P (Routine.assign f : Routine W E L R ε Unit) Q X := h

/-- An event. -/
theorem emit {e : E} {Q : Unit → Assertion W E L R C}
    (h : ∀ o s, P o s → Γ.assume s.2 ⟨t, c, e⟩ →
      Γ.ensure s.2 ⟨t, c, e⟩ ∧ Γ.guarantee c o s (s.1, s.2 ++ [⟨t, c, e⟩]) ∧
        Q () o (s.1, s.2 ++ [⟨t, c, e⟩])) :
    Meets Γ c t P (Routine.emit e : Routine W E L R ε Unit) Q X := h

/-- An await. -/
theorem await {l : L} {Q : R → Assertion W E L R C}
    (hrests : ∀ o s, P o s → Γ.rests c (some l) o s)
    (h : ∀ o s r s', P o s → Γ.rely c l s s' → Γ.inv s' → Q r ⟨some (l, r), s'⟩ s') :
    Meets Γ c t P (Routine.await l : Routine W E L R ε R) Q X :=
  fun o s hP => ⟨hrests o s hP, fun r s' hrely hinv => h o s r s' hP hrely hinv⟩

/-- A computation that may raise. -/
theorem lift {x : Except ε α} (hok : ∀ a, x = .ok a → ∀ o s, P o s → Q a o s)
    (herror : ∀ e, x = .error e → ∀ o s, P o s → X e o s) :
    Meets Γ c t P (Routine.lift x : Routine W E L R ε α) Q X := by
  intro o s hP
  cases x with
  | ok a => exact hok a rfl o s hP
  | error e => exact herror e rfl o s hP

/-- A computation that may raise, and what comes after its result. -/
theorem lift_bind {x : Except ε α} {f : α → Routine W E L R ε β} {Q : β → Assertion W E L R C}
    (hok : ∀ a, x = .ok a → Meets Γ c t P (f a) Q X) (herror : ∀ e o s, P o s → X e o s) :
    Meets Γ c t P (Routine.lift x >>= f) Q X := by
  intro o s hP
  cases x with
  | ok a => exact hok a rfl o s hP
  | error e => exact herror e o s hP

/-- A conditional await. -/
theorem when {b : Bool} {x : Routine W E L R ε Unit} {Q : Unit → Assertion W E L R C}
    (htrue : b = true → Meets Γ c t P x Q X) (hfalse : b = false → ∀ o s, P o s → Q () o s) :
    Meets Γ c t P (Routine.when b x) Q X := by
  cases b with
  | true => exact htrue rfl
  | false => exact hfalse rfl

/-- A `try`. -/
theorem attempt {x : Routine W E L R ε α} {Q : Except ε α → Assertion W E L R C}
    {X : ε → Assertion W E L R C}
    (h : Meets Γ c t P x (fun a => Q (.ok a)) fun e => Q (.error e)) :
    Meets Γ c t P (Routine.attempt x) Q X := by
  intro o s hP
  show wp Γ c t (outcome Q X) (x.run.bind fun r => .ret (.ok r)) o s
  rw [wp_bind]
  refine wp_mono (h o s hP) fun r o s hr => ?_
  cases r with
  | ok a => exact hr
  | error e => exact hr

end Meets

/-! ## Footprints -/

/-- The awaits, events and writes a routine may make. -/
structure Footprint (W E L : Type) where
  awaits : L → Prop
  emits : E → Prop
  writes : W → W → Prop

/-- One footprint allows all that another does. -/
instance : LE (Footprint W E L) where
  le F F' := (∀ l, F.awaits l → F'.awaits l) ∧ (∀ e, F.emits e → F'.emits e) ∧
    ∀ w w', F.writes w w' → F'.writes w w'

/-- A coroutine stays within a footprint, whatever it is resumed with. -/
def Co.Within (F : Footprint W E L) : Co W E L R α → Prop
  | .ret _ => True
  | .read k => ∀ w, (k w).Within F
  | .write f k => (∀ w, F.writes w (f w)) ∧ k.Within F
  | .emit e k => F.emits e ∧ k.Within F
  | .await l k => F.awaits l ∧ ∀ r, (k r).Within F

variable {F F' : Footprint W E L}

theorem Co.Within.bind {x : Co W E L R α} {f : α → Co W E L R β} (hx : x.Within F)
    (hf : ∀ a, (f a).Within F) : (x.bind f).Within F := by
  induction x with
  | ret a => exact hf a
  | read k ih => exact fun w => ih w (hx w)
  | write g k ih => exact ⟨hx.1, ih hx.2⟩
  | emit e k ih => exact ⟨hx.1, ih hx.2⟩
  | await l k ih => exact ⟨hx.1, fun r => ih r (hx.2 r)⟩

theorem Co.Within.mono {x : Co W E L R α} (hx : x.Within F) (hle : F ≤ F') : x.Within F' := by
  obtain ⟨hawaits, hemits, hwrites⟩ := hle
  induction x with
  | ret a => trivial
  | read k ih => exact fun w => ih w (hx w)
  | write g k ih => exact ⟨fun w => hwrites w _ (hx.1 w), ih hx.2⟩
  | emit e k ih => exact ⟨hemits e hx.1, ih hx.2⟩
  | await l k ih => exact ⟨hawaits l hx.1, fun r => ih r (hx.2 r)⟩

/-- A routine stays within a footprint. -/
def Within (F : Footprint W E L) (x : Routine W E L R ε α) : Prop := x.run.Within F

namespace Within

theorem pure (a : α) : Within F (Pure.pure a : Routine W E L R ε α) := trivial

theorem throw (e : ε) : Within F (throw e : Routine W E L R ε α) := trivial

theorem lift (x : Except ε α) : Within F (Routine.lift x : Routine W E L R ε α) := trivial

theorem bind {x : Routine W E L R ε α} {f : α → Routine W E L R ε β} (hx : Within F x)
    (hf : ∀ a, Within F (f a)) : Within F (x >>= f) := by
  refine Co.Within.bind hx fun r => ?_
  cases r with
  | ok a => exact hf a
  | error e => trivial

theorem world {f : W → Routine W E L R ε α} (h : ∀ w, Within F (f w)) :
    Within F (Routine.world >>= f) := fun w => h w

theorem assign {f : W → W} (h : ∀ w, F.writes w (f w)) :
    Within F (Routine.assign f : Routine W E L R ε Unit) := ⟨h, trivial⟩

theorem emit {e : E} (h : F.emits e) : Within F (Routine.emit e : Routine W E L R ε Unit) :=
  ⟨h, trivial⟩

theorem await {l : L} (h : F.awaits l) : Within F (Routine.await l : Routine W E L R ε R) :=
  ⟨h, fun _ => trivial⟩

theorem when {b : Bool} {x : Routine W E L R ε Unit} (h : Within F x) :
    Within F (Routine.when b x) := by
  cases b with
  | true => exact h
  | false => trivial

theorem attempt {x : Routine W E L R ε α} (h : Within F x) :
    Within F (Routine.attempt x) := Co.Within.bind h fun _ => trivial

theorem mono {x : Routine W E L R ε α} (h : Within F x) (hle : F ≤ F') : Within F' x :=
  Co.Within.mono h hle

end Within

/-- An assertion that survives everything a footprint allows. -/
structure Stable (Γ : Contract W E L R C) (c : C) (t : ℕ) (F : Footprint W E L)
    (J : Assertion W E L R C) : Prop where
  write : ∀ o s w', J o s → F.writes s.1 w' → Γ.guarantee c o s (w', s.2) ∧ J o (w', s.2)
  emit : ∀ o s e, J o s → F.emits e → Γ.assume s.2 ⟨t, c, e⟩ →
    Γ.ensure s.2 ⟨t, c, e⟩ ∧ Γ.guarantee c o s (s.1, s.2 ++ [⟨t, c, e⟩]) ∧ J o (s.1, s.2 ++ [⟨t, c, e⟩])
  await : ∀ o s l, J o s → F.awaits l → Γ.rests c (some l) o s ∧
    ∀ r s', Γ.rely c l s s' → Γ.inv s' → J ⟨some (l, r), s'⟩ s'

/-- **The invariant rule**, on coroutines. -/
theorem Co.Within.wp {J : Assertion W E L R C} (hJ : Stable Γ c t F J) {x : Co W E L R α}
    (hx : x.Within F) {o : Origin W E L R C} {s : State W E C} (h : J o s) :
    wp Γ c t (fun _ => J) x o s := by
  induction x generalizing o s with
  | ret a => exact h
  | read k ih => exact ih s.1 (hx s.1) h
  | write f k ih =>
    obtain ⟨hguarantee, hnext⟩ := hJ.write o s (f s.1) h (hx.1 s.1)
    exact ⟨hguarantee, ih hx.2 hnext⟩
  | emit e k ih =>
    intro hassume
    obtain ⟨hensure, hguarantee, hnext⟩ := hJ.emit o s e h hx.1 hassume
    exact ⟨hensure, hguarantee, ih hx.2 hnext⟩
  | await l k ih =>
    obtain ⟨hrests, hnext⟩ := hJ.await o s l h hx.1
    exact ⟨hrests, fun r s' hrely hinv => ih r (hx.2 r) (hnext r s' hrely hinv)⟩

/-- **The invariant rule.** -/
theorem Within.meets {J : Assertion W E L R C} (hJ : Stable Γ c t F J) {x : Routine W E L R ε α}
    (hx : Within F x) : Meets Γ c t J x (fun _ => J) fun _ => J := by
  intro o s h
  refine wp_mono (Co.Within.wp hJ hx h) fun r o s hr => ?_
  cases r with
  | ok a => exact hr
  | error e => exact hr

end XBloom.Async
