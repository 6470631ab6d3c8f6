/-
# XBloom.Async.Parts — rely-guarantee triples of a part of the world

A routine that knows a part of the world runs in the whole through a lens (`Routine.zoom`).  `MeetsIn` is
its triple there: the rules are those of `Meets`, one for each construct, with reads, writes and events seen
through the lens.
-/
import XBloom.Async.Solo

namespace XBloom.Async

variable {W E L R V F K S C ε α β : Type}

/-- **Triples of a part of the world**, as task `t` of a call of the whole. -/
def MeetsIn (lens : Lens W E L R V F K S) (Γ : Contract V F K S C) (c : C) (t : ℕ)
    (P : Assertion V F K S C) (x : Routine W E L R ε α) (Q : α → Assertion V F K S C)
    (X : ε → Assertion V F K S C) : Prop :=
  Meets Γ c t P (Routine.zoom lens x) Q X

namespace MeetsIn

variable {lens : Lens W E L R V F K S} {Γ : Contract V F K S C} {c : C} {t : ℕ}
  {P P' : Assertion V F K S C} {Q Q' : α → Assertion V F K S C} {X X' : ε → Assertion V F K S C}

theorem pure {a : α} (h : ∀ o s, P o s → Q a o s) :
    MeetsIn lens Γ c t P (Pure.pure a : Routine W E L R ε α) Q X := Meets.pure h

theorem throw {e : ε} (h : ∀ o s, P o s → X e o s) :
    MeetsIn lens Γ c t P (MonadExcept.throw e : Routine W E L R ε α) Q X := Meets.throw h

/-- **Sequencing.** -/
theorem bind {x : Routine W E L R ε α} {f : α → Routine W E L R ε β}
    {Q' : β → Assertion V F K S C} (hx : MeetsIn lens Γ c t P x Q X)
    (hf : ∀ a, MeetsIn lens Γ c t (Q a) (f a) Q' X) : MeetsIn lens Γ c t P (x >>= f) Q' X := by
  unfold MeetsIn
  rw [zoom_bind]
  exact Meets.bind hx hf

/-- **Consequence.** -/
theorem weaken {x : Routine W E L R ε α} (h : MeetsIn lens Γ c t P x Q X)
    (hP : ∀ o s, P' o s → P o s) (hQ : ∀ a o s, Q a o s → Q' a o s)
    (hX : ∀ e o s, X e o s → X' e o s) : MeetsIn lens Γ c t P' x Q' X' := Meets.weaken h hP hQ hX

/-- A weaker precondition. -/
theorem pre {x : Routine W E L R ε α} (h : MeetsIn lens Γ c t P x Q X)
    (hP : ∀ o s, P' o s → P o s) : MeetsIn lens Γ c t P' x Q X := Meets.pre h hP

/-- A read of the part. -/
theorem world {f : W → Routine W E L R ε α}
    (h : ∀ w, MeetsIn lens Γ c t (fun o s => P o s ∧ lens.part s.1 = w) (f w) Q X) :
    MeetsIn lens Γ c t P (Routine.world >>= f) Q X := by
  show Meets Γ c t P (Routine.world >>= fun v => Routine.zoom lens (f (lens.part v))) Q X
  exact Meets.world fun v => (h (lens.part v)).pre fun _ _ hP => ⟨hP.1, congrArg lens.part hP.2⟩

/-- Assignments. -/
theorem assign {f : W → W} {Q : Unit → Assertion V F K S C}
    (h : ∀ o s, P o s → Γ.guarantee c o s (lens.replace s.1 (f (lens.part s.1)), s.2) ∧
      Q () o (lens.replace s.1 (f (lens.part s.1)), s.2)) :
    MeetsIn lens Γ c t P (Routine.assign f : Routine W E L R ε Unit) Q X := h

/-- An event. -/
theorem emit {e : E} {Q : Unit → Assertion V F K S C}
    (h : ∀ o s, P o s → Γ.assume s.2 ⟨t, c, lens.event e⟩ →
      Γ.ensure s.2 ⟨t, c, lens.event e⟩ ∧ Γ.guarantee c o s (s.1, s.2 ++ [⟨t, c, lens.event e⟩]) ∧
        Q () o (s.1, s.2 ++ [⟨t, c, lens.event e⟩])) :
    MeetsIn lens Γ c t P (Routine.emit e : Routine W E L R ε Unit) Q X := h

/-- A computation that may raise. -/
theorem lift {x : Except ε α} (hok : ∀ a, x = .ok a → ∀ o s, P o s → Q a o s)
    (herror : ∀ e, x = .error e → ∀ o s, P o s → X e o s) :
    MeetsIn lens Γ c t P (Routine.lift x : Routine W E L R ε α) Q X := Meets.lift hok herror

/-- A conditional. -/
theorem ite {b : Prop} [Decidable b] {x y : Routine W E L R ε α}
    (htrue : b → MeetsIn lens Γ c t P x Q X) (hfalse : ¬ b → MeetsIn lens Γ c t P y Q X) :
    MeetsIn lens Γ c t P (if b then x else y) Q X := by
  split
  · exact htrue ‹_›
  · exact hfalse ‹_›

/-- A `try`. -/
theorem attempt {x : Routine W E L R ε α} {Q : Except ε α → Assertion V F K S C}
    (h : MeetsIn lens Γ c t P x (fun a => Q (.ok a)) fun e => Q (.error e)) :
    MeetsIn lens Γ c t P (Routine.attempt x) Q X := by
  unfold MeetsIn
  rw [zoom_attempt]
  exact Meets.attempt h

/-- **A part keeps what its footprint in the whole keeps.** -/
theorem of_within {G : Footprint W E L} {H : Footprint V F K} {J : Assertion V F K S C}
    (hcovers : lens.Covers G H) (hJ : Stable Γ c t H J) {x : Routine W E L R ε α}
    (hx : Within G x) : MeetsIn lens Γ c t J x (fun _ => J) fun _ => J :=
  Within.meets hJ (Within.zoom hcovers hx)

end MeetsIn

end XBloom.Async
