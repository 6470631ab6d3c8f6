/-
# XBloom.Async.Solo — one call from its beginning to its end, and all that happens meanwhile

A result about a call's whole course is about its *story*: what it emitted and in which world, how the
surroundings moved while it waited, and with what it was resumed, in order.  `Co.play` tells the story
of one call against replies that are given beforehand; as a coroutine waits finitely often on every
path, every call comes to an end, whatever the replies.

`Co.Tells` is the demonic reading, for every reply at every await (`Co.Tells.play`), and `Plays` the
triple of routines over it.  What a routine cannot touch it keeps: `Within.plays` takes a footprint for
an invariant.

A call may be made of a part that knows only part of the world: `Lens.zoom` runs the part in the whole.
-/
import XBloom.Async.Rules

namespace XBloom.Async

open XBloom.Logic

variable {W E L R M α β ε : Type}

/-! ## Stories -/

/-- What a call that waits gets: the moves of the surroundings, and then the response. -/
structure Reply (R M : Type) where
  moves : List M
  response : R

/-- One moment of a story; the world is that at an event, or that in which a call is resumed. -/
inductive Beat (W E L R M : Type) where
  | emitted (w : W) (e : E)
  | moved (m : M)
  | answered (l : L) (w : W) (r : R)

/-- The world, and everything that happened so far. -/
structure Story (W E L R M : Type) where
  world : W
  beats : List (Beat W E L R M)

namespace Story

/-- Assignments. -/
def write (σ : Story W E L R M) (f : W → W) : Story W E L R M := { σ with world := f σ.world }

/-- An event. -/
def emit (σ : Story W E L R M) (e : E) : Story W E L R M :=
  { σ with beats := σ.beats ++ [.emitted σ.world e] }

/-- An await and its reply. -/
def answer (move : W → M → W) (σ : Story W E L R M) (l : L) (reply : Reply R M) :
    Story W E L R M where
  world := run move σ.world reply.moves
  beats := σ.beats ++
    (reply.moves.map .moved ++ [.answered l (run move σ.world reply.moves) reply.response])

/-- A story that begins. -/
def start (w : W) : Story W E L R M := ⟨w, []⟩

end Story

/-! ## What happens after what -/

section After

variable {B : Type} (p q : B → Bool)

/-- Whether there is a `q` from the first `p` on. -/
def anyFrom (l : List B) : Bool := (l.dropWhile fun b => !p b).any q

/-- Where there is one there is a `p`. -/
theorem any_of_anyFrom {l : List B} (h : anyFrom p q l = true) : l.any p = true := by
  induction l with
  | nil => exact h
  | cons b rest ih =>
    unfold anyFrom at ih h
    cases hp : p b with
    | true => simp [hp]
    | false =>
      have hrest : rest.any p = true := ih (by simpa [hp] using h)
      simp [hrest]

/-- More happens, and there was a `p` or there was none. -/
theorem anyFrom_append (l l' : List B) : anyFrom p q (l ++ l') =
    (anyFrom p q l || if l.any p then l'.any q else anyFrom p q l') := by
  induction l with
  | nil => simp [anyFrom]
  | cons b rest ih =>
    unfold anyFrom at ih ⊢
    cases hp : p b with
    | true => simp [hp, Bool.or_assoc]
    | false => simpa [hp] using ih

/-- Neither a `p` nor a `q` happens. -/
theorem anyFrom_append_quiet {l l' : List B} (hp : ∀ b ∈ l', p b = false) (hq : ∀ b ∈ l', q b = false) :
    anyFrom p q (l ++ l') = anyFrom p q l := by
  have hany : l'.any q = false := List.any_eq_false.mpr fun b hb => by simp [hq b hb]
  have hfrom : anyFrom p q l' = false := by
    rw [← Bool.not_eq_true]
    intro h
    obtain ⟨b, hb, hpb⟩ := List.any_eq_true.mp (any_of_anyFrom p q h)
    simp [hp b hb] at hpb
  rw [anyFrom_append, hany, hfrom, ite_self, Bool.or_false]

/-- One thing more happens, that is not both. -/
theorem anyFrom_snoc (l : List B) {b : B} (hb : p b = true → q b = false) :
    anyFrom p q (l ++ [b]) = (anyFrom p q l || (l.any p && q b)) := by
  rw [anyFrom_append]
  cases l.any p with
  | true => simp
  | false =>
    cases hp : p b with
    | true => simp [anyFrom, hp, hb hp]
    | false => simp [anyFrom, hp]

end After

variable (move : W → M → W)

/-- **A call from a story on**: its result and how the story ends. -/
def Co.play : Co W E L R α → Story W E L R M → (ℕ → Reply R M) → α × Story W E L R M
  | .ret a, σ, _ => (a, σ)
  | .read k, σ, replies => (k σ.world).play σ replies
  | .write f k, σ, replies => k.play (σ.write f) replies
  | .emit e k, σ, replies => k.play (σ.emit e) replies
  | .await l k, σ, replies =>
    (k (replies 0).response).play (σ.answer move l (replies 0)) fun n => replies (n + 1)

/-- **However it is replied to, a call ends in `Q`.** -/
def Co.Tells (Q : α → Story W E L R M → Prop) : Co W E L R α → Story W E L R M → Prop
  | .ret a, σ => Q a σ
  | .read k, σ => (k σ.world).Tells Q σ
  | .write f k, σ => k.Tells Q (σ.write f)
  | .emit e k, σ => k.Tells Q (σ.emit e)
  | .await l k, σ => ∀ reply, (k reply.response).Tells Q (σ.answer move l reply)

variable {move} {σ : Story W E L R M}

/-- What is told however a call is replied to is so for given replies. -/
theorem Co.Tells.play {x : Co W E L R α} {Q : α → Story W E L R M → Prop} (h : x.Tells move Q σ)
    (replies : ℕ → Reply R M) : Q (x.play move σ replies).1 (x.play move σ replies).2 := by
  induction x generalizing σ replies with
  | ret a => exact h
  | read k ih => exact ih σ.world h replies
  | write f k ih => exact ih h replies
  | emit e k ih => exact ih h replies
  | await l k ih => exact ih _ (h (replies 0)) fun n => replies (n + 1)

theorem Co.tells_bind {x : Co W E L R α} {f : α → Co W E L R β} {Q : β → Story W E L R M → Prop} :
    (x.bind f).Tells move Q σ ↔ x.Tells move (fun a => (f a).Tells move Q) σ := by
  induction x generalizing σ with
  | ret a => exact Iff.rfl
  | read k ih => exact ih σ.world
  | write g k ih => exact ih
  | emit e k ih => exact ih
  | await l k ih => exact forall_congr' fun reply => ih reply.response

theorem Co.Tells.mono {x : Co W E L R α} {Q Q' : α → Story W E L R M → Prop}
    (h : x.Tells move Q σ) (hQ : ∀ a σ, Q a σ → Q' a σ) : x.Tells move Q' σ := by
  induction x generalizing σ with
  | ret a => exact hQ a σ h
  | read k ih => exact ih σ.world h
  | write f k ih => exact ih h
  | emit e k ih => exact ih h
  | await l k ih => exact fun reply => ih reply.response (h reply)

/-- What a story's answers were. -/
def Story.Answers (P : R → Prop) (σ : Story W E L R M) : Prop := ∀ l w r, .answered l w r ∈ σ.beats → P r

/-- **A call is answered with what its replies say**, and nothing else. -/
theorem Co.play_answers {P : R → Prop} {x : Co W E L R α} {replies : ℕ → Reply R M}
    (hreplies : ∀ n, P (replies n).response) (h : σ.Answers P) :
    (x.play move σ replies).2.Answers P := by
  induction x generalizing σ replies with
  | ret a => exact h
  | read k ih => exact ih σ.world hreplies h
  | write f k ih => exact ih hreplies h
  | emit e k ih =>
    refine ih hreplies fun l w r hmem => ?_
    rcases List.mem_append.mp hmem with hmem | hmem
    · exact h l w r hmem
    · cases List.mem_singleton.mp hmem
  | await l k ih =>
    refine ih _ (fun n => hreplies (n + 1)) fun l' w r hmem => ?_
    rcases List.mem_append.mp hmem with hmem | hmem
    · exact h l' w r hmem
    · rcases List.mem_append.mp hmem with hmem | hmem
      · obtain ⟨m, _, hmoved⟩ := List.mem_map.mp hmem
        cases hmoved
      · cases List.mem_singleton.mp hmem
        exact hreplies 0

/-! ## Step by step

With given replies a routine's story can be told one step at a time; these rewrite it from left to
right.
-/

section Steps

variable {γ : Type} {replies : ℕ → Reply R M}

/-- What follows a sequence follows its last part. -/
theorem bind_bind (x : Routine W E L R ε α) (f : α → Routine W E L R ε β)
    (g : β → Routine W E L R ε γ) : x >>= f >>= g = x >>= fun a => f a >>= g := by
  show ExceptT.mk ((x.run.bind (ExceptT.bindCont f)).bind (ExceptT.bindCont g)) =
    ExceptT.mk (x.run.bind (ExceptT.bindCont fun a => f a >>= g))
  rw [Co.bind_assoc]
  refine congrArg ExceptT.mk (congrArg x.run.bind (funext fun r => ?_))
  cases r with
  | ok a => rfl
  | error e => rfl

theorem play_pure (a : α) :
    (pure a : Routine W E L R ε α).run.play move σ replies = (.ok a, σ) := rfl

theorem play_pure_bind (a : α) (f : α → Routine W E L R ε β) :
    ((pure a : Routine W E L R ε α) >>= f).run.play move σ replies =
      (f a).run.play move σ replies := rfl

theorem play_world_bind (f : W → Routine W E L R ε α) :
    (Routine.world >>= f).run.play move σ replies = (f σ.world).run.play move σ replies := rfl

theorem play_emit_bind (e : E) (f : Unit → Routine W E L R ε α) :
    (Routine.emit e >>= f).run.play move σ replies = (f ()).run.play move (σ.emit e) replies := rfl

theorem play_await_bind (l : L) (f : R → Routine W E L R ε α) :
    (Routine.await l >>= f).run.play move σ replies =
      (f (replies 0).response).run.play move (σ.answer move l (replies 0))
        fun n => replies (n + 1) := rfl

end Steps

/-! ## Triples -/

/-- How a routine ends: in `Q` of its result, or in `X` of what it raised. -/
def conclude (Q : α → Story W E L R M → Prop) (X : ε → Story W E L R M → Prop) :
    Except ε α → Story W E L R M → Prop
  | .ok a => Q a
  | .error e => X e

/-- **Triples**: a story in which `A` holds is one in which the routine ends in `Q`, or raises in `X`. -/
def Plays (move : W → M → W) (A : Story W E L R M → Prop) (x : Routine W E L R ε α)
    (Q : α → Story W E L R M → Prop) (X : ε → Story W E L R M → Prop) : Prop :=
  ∀ σ, A σ → x.run.Tells move (conclude Q X) σ

namespace Plays

variable {A A' : Story W E L R M → Prop} {Q Q' : α → Story W E L R M → Prop}
  {X X' : ε → Story W E L R M → Prop}

theorem pure {a : α} (h : ∀ σ, A σ → Q a σ) :
    Plays move A (Pure.pure a : Routine W E L R ε α) Q X := h

/-- What is raised. -/
theorem throw {e : ε} (h : ∀ σ, A σ → X e σ) :
    Plays move A (MonadExcept.throw e : Routine W E L R ε α) Q X := h

/-- **Sequencing.** -/
theorem bind {x : Routine W E L R ε α} {f : α → Routine W E L R ε β}
    {Q' : β → Story W E L R M → Prop} (hx : Plays move A x Q X)
    (hf : ∀ a, Plays move (Q a) (f a) Q' X) : Plays move A (x >>= f) Q' X := by
  intro σ hA
  show (x.run.bind (ExceptT.bindCont f)).Tells move (conclude Q' X) σ
  rw [Co.tells_bind]
  refine (hx σ hA).mono fun r σ h => ?_
  cases r with
  | ok a => exact hf a σ h
  | error e => exact h

/-- **Consequence.** -/
theorem weaken {x : Routine W E L R ε α} (h : Plays move A x Q X) (hA : ∀ σ, A' σ → A σ)
    (hQ : ∀ a σ, Q a σ → Q' a σ) (hX : ∀ e σ, X e σ → X' e σ) : Plays move A' x Q' X' := by
  intro σ hA'
  refine (h σ (hA σ hA')).mono fun r σ hr => ?_
  cases r with
  | ok a => exact hQ a σ hr
  | error e => exact hX e σ hr

/-- A weaker precondition. -/
theorem pre {x : Routine W E L R ε α} (h : Plays move A x Q X) (hA : ∀ σ, A' σ → A σ) :
    Plays move A' x Q X := fun σ hA' => h σ (hA σ hA')

/-- A read of the world. -/
theorem world {f : W → Routine W E L R ε α}
    (h : ∀ w, Plays move (fun σ => A σ ∧ σ.world = w) (f w) Q X) :
    Plays move A (Routine.world >>= f) Q X := fun σ hA => h σ.world σ ⟨hA, rfl⟩

/-- Assignments. -/
theorem assign {f : W → W} {Q : Unit → Story W E L R M → Prop} (h : ∀ σ, A σ → Q () (σ.write f)) :
    Plays move A (Routine.assign f : Routine W E L R ε Unit) Q X := h

/-- An event. -/
theorem emit {e : E} {Q : Unit → Story W E L R M → Prop} (h : ∀ σ, A σ → Q () (σ.emit e)) :
    Plays move A (Routine.emit e : Routine W E L R ε Unit) Q X := h

/-- An await, with every reply. -/
theorem await {l : L} {Q : R → Story W E L R M → Prop}
    (h : ∀ σ reply, A σ → Q reply.response (σ.answer move l reply)) :
    Plays move A (Routine.await l : Routine W E L R ε R) Q X := fun σ hA reply => h σ reply hA

/-- A computation that may raise. -/
theorem lift {x : Except ε α} (hok : ∀ a, x = .ok a → ∀ σ, A σ → Q a σ)
    (herror : ∀ e, x = .error e → ∀ σ, A σ → X e σ) :
    Plays move A (Routine.lift x : Routine W E L R ε α) Q X := by
  intro σ hA
  cases x with
  | ok a => exact hok a rfl σ hA
  | error e => exact herror e rfl σ hA

/-- The body of a `try`. -/
theorem attempt {x : Routine W E L R ε α} {Q : Except ε α → Story W E L R M → Prop}
    (h : Plays move A x (fun a => Q (.ok a)) fun e => Q (.error e)) :
    Plays move A (Routine.attempt x) Q X := by
  intro σ hA
  show (x.run.bind fun r => .ret (.ok r)).Tells move (conclude Q X) σ
  rw [Co.tells_bind]
  refine (h σ hA).mono fun r σ hr => ?_
  cases r with
  | ok a => exact hr
  | error e => exact hr

/-- A branch that may be left out. -/
theorem when {b : Bool} {x : Routine W E L R ε Unit} {Q : Unit → Story W E L R M → Prop}
    (hx : b = true → Plays move A x Q X) (hskip : b = false → ∀ σ, A σ → Q () σ) :
    Plays move A (Routine.when b x) Q X := by
  cases b with
  | true => exact hx rfl
  | false => exact hskip rfl

end Plays

/-- **The story of a routine, from its triple.** -/
theorem Plays.play {A : Story W E L R M → Prop} {x : Routine W E L R ε α}
    {Q : α → Story W E L R M → Prop} {X : ε → Story W E L R M → Prop} (h : Plays move A x Q X)
    (hA : A σ) (replies : ℕ → Reply R M) :
    conclude Q X (x.run.play move σ replies).1 (x.run.play move σ replies).2 := (h σ hA).play replies

/-- What holds of a routine's story by how it ends. -/
theorem Plays.play_result {A : Story W E L R M → Prop} {x : Routine W E L R ε α}
    {P : Except ε α → Story W E L R M → Prop}
    (h : Plays move A x (fun a => P (.ok a)) fun e => P (.error e)) (hA : A σ)
    (replies : ℕ → Reply R M) : P (x.run.play move σ replies).1 (x.run.play move σ replies).2 := by
  have hends := h.play hA replies
  cases hresult : (x.run.play move σ replies).1 with
  | ok a =>
    rw [hresult] at hends
    exact hends
  | error e =>
    rw [hresult] at hends
    exact hends

/-- What holds of a routine's story however it ends. -/
theorem Plays.play_story {A P : Story W E L R M → Prop} {x : Routine W E L R ε α}
    (h : Plays move A x (fun _ => P) fun _ => P) (hA : A σ) (replies : ℕ → Reply R M) :
    P (x.run.play move σ replies).2 := Plays.play_result (P := fun _ => P) h hA replies

/-! ## What a routine cannot touch -/

/-- What a footprint's assignments, events and awaits keep, whatever the replies. -/
structure Keeps (move : W → M → W) (F : Footprint W E L) (A : Story W E L R M → Prop) : Prop where
  write : ∀ (f : W → W) σ, F.writes σ.world (f σ.world) → A σ → A (σ.write f)
  emit : ∀ e, F.emits e → ∀ σ, A σ → A (σ.emit e)
  answer : ∀ l, F.awaits l → ∀ σ reply, A σ → A (σ.answer move l reply)

theorem Co.Within.tells {F : Footprint W E L} {A : Story W E L R M → Prop} (hA : Keeps move F A)
    {x : Co W E L R α} (hx : x.Within F) (hσ : A σ) : x.Tells move (fun _ => A) σ := by
  induction x generalizing σ with
  | ret a => exact hσ
  | read k ih => exact ih _ (hx σ.world) hσ
  | write f k ih => exact ih hx.2 (hA.write f σ (hx.1 σ.world) hσ)
  | emit e k ih => exact ih hx.2 (hA.emit e hx.1 σ hσ)
  | await l k ih => exact fun reply => ih _ (hx.2 _) (hA.answer l hx.1 σ reply hσ)

/-- **A routine keeps what its footprint keeps.** -/
theorem Within.plays {F : Footprint W E L} {A : Story W E L R M → Prop} (hA : Keeps move F A)
    {x : Routine W E L R ε α} (hx : Within F x) : Plays move A x (fun _ => A) fun _ => A := by
  intro σ hσ
  refine (Co.Within.tells hA hx hσ).mono fun r σ h => ?_
  cases r with
  | ok a => exact h
  | error e => exact h

/-- **What everything keeps, every routine keeps.** -/
theorem Plays.of_keeps {A : Story W E L R M → Prop}
    (hA : Keeps move ⟨fun _ => True, fun _ => True, fun _ _ => True⟩ A) (x : Routine W E L R ε α) :
    Plays move A x (fun _ => A) fun _ => A := by
  have hall : ∀ y : Co W E L R (Except ε α),
      y.Within ⟨fun _ => True, fun _ => True, fun _ _ => True⟩ := by
    intro y
    induction y with
    | ret r => trivial
    | read k ih => exact ih
    | write f k ih => exact ⟨fun _ => trivial, ih⟩
    | emit e k ih => exact ⟨trivial, ih⟩
    | await l k ih => exact ⟨trivial, ih⟩
  exact Within.plays hA (hall x.run)

-- from here on the rules are all there is to it: unfolding it would run the coroutine
attribute [irreducible] Co.Tells

/-! ## Parts of the world -/

/-- A part `W` of a world `V`, its events and its await points among those of the whole, and the
responses it understands. -/
structure Lens (W E L R V F K S : Type) where
  part : V → W
  replace : V → W → V
  event : E → F
  label : L → K
  response : S → R

variable {V F K S : Type}

/-- **A coroutine that knows a part of the world, in the whole.** -/
def Co.zoom (lens : Lens W E L R V F K S) : Co W E L R α → Co V F K S α
  | .ret a => .ret a
  | .read k => .read fun v => (k (lens.part v)).zoom lens
  | .write f k => .write (fun v => lens.replace v (f (lens.part v))) (k.zoom lens)
  | .emit e k => .emit (lens.event e) (k.zoom lens)
  | .await l k => .await (lens.label l) fun s => (k (lens.response s)).zoom lens

/-- A routine that knows a part of the world, in the whole. -/
def Routine.zoom (lens : Lens W E L R V F K S) (x : Routine W E L R ε α) : Routine V F K S ε α :=
  ExceptT.mk (x.run.zoom lens)

/-- A footprint in the whole covers one of the part. -/
structure Lens.Covers (lens : Lens W E L R V F K S) (P : Footprint W E L) (Q : Footprint V F K) :
    Prop where
  writes : ∀ v w, P.writes (lens.part v) w → Q.writes v (lens.replace v w)
  emits : ∀ e, P.emits e → Q.emits (lens.event e)
  awaits : ∀ l, P.awaits l → Q.awaits (lens.label l)

theorem Co.Within.zoom {lens : Lens W E L R V F K S} {P : Footprint W E L} {Q : Footprint V F K}
    (hcovers : lens.Covers P Q) {x : Co W E L R α} (hx : x.Within P) : (x.zoom lens).Within Q := by
  induction x with
  | ret a => trivial
  | read k ih => exact fun v => ih _ (hx (lens.part v))
  | write f k ih => exact ⟨fun v => hcovers.writes v _ (hx.1 _), ih hx.2⟩
  | emit e k ih => exact ⟨hcovers.emits e hx.1, ih hx.2⟩
  | await l k ih => exact ⟨hcovers.awaits l hx.1, fun s => ih _ (hx.2 _)⟩

/-- **A part of the world stays within its footprint.** -/
theorem Within.zoom {lens : Lens W E L R V F K S} {P : Footprint W E L} {Q : Footprint V F K}
    (hcovers : lens.Covers P Q) {x : Routine W E L R ε α} (hx : Within P x) :
    Within Q (Routine.zoom lens x) := Co.Within.zoom hcovers hx

theorem Co.zoom_bind (lens : Lens W E L R V F K S) (x : Co W E L R α) (f : α → Co W E L R β) :
    (x.bind f).zoom lens = (x.zoom lens).bind fun a => (f a).zoom lens := by
  induction x with
  | ret a => rfl
  | read k ih => exact congrArg Co.read (funext fun v => ih (lens.part v))
  | write g k ih => exact congrArg (Co.write _) ih
  | emit e k ih => exact congrArg (Co.emit _) ih
  | await l k ih => exact congrArg (Co.await _) (funext fun s => ih (lens.response s))

theorem zoom_bind (lens : Lens W E L R V F K S) (x : Routine W E L R ε α)
    (f : α → Routine W E L R ε β) :
    Routine.zoom lens (x >>= f) = Routine.zoom lens x >>= fun a => Routine.zoom lens (f a) := by
  show ExceptT.mk ((x.run.bind (ExceptT.bindCont f)).zoom lens) =
    ExceptT.mk ((x.run.zoom lens).bind (ExceptT.bindCont fun a => Routine.zoom lens (f a)))
  rw [Co.zoom_bind]
  refine congrArg ExceptT.mk (congrArg (x.run.zoom lens).bind (funext fun r => ?_))
  cases r with
  | ok a => rfl
  | error e => rfl

theorem zoom_attempt (lens : Lens W E L R V F K S) (x : Routine W E L R ε α) :
    Routine.zoom lens (Routine.attempt x) = Routine.attempt (Routine.zoom lens x) := by
  show ExceptT.mk ((x.run.bind fun r => .ret (Except.ok r)).zoom lens) =
    ExceptT.mk ((x.run.zoom lens).bind fun r => .ret (Except.ok r))
  rw [Co.zoom_bind]
  rfl

/-- **Triples of a part of the world**, told in the whole. -/
def Zooms (lens : Lens W E L R V F K S) (move : V → M → V) (A : Story V F K S M → Prop)
    (x : Routine W E L R ε α) (Q : α → Story V F K S M → Prop) (X : ε → Story V F K S M → Prop) :
    Prop :=
  Plays move A (Routine.zoom lens x) Q X

namespace Zooms

variable {lens : Lens W E L R V F K S} {move : V → M → V} {A A' : Story V F K S M → Prop}
  {Q : α → Story V F K S M → Prop} {X : ε → Story V F K S M → Prop}

theorem pure {a : α} (h : ∀ σ, A σ → Q a σ) :
    Zooms lens move A (Pure.pure a : Routine W E L R ε α) Q X := Plays.pure h

theorem throw {e : ε} (h : ∀ σ, A σ → X e σ) :
    Zooms lens move A (MonadExcept.throw e : Routine W E L R ε α) Q X := Plays.throw h

theorem bind {x : Routine W E L R ε α} {f : α → Routine W E L R ε β}
    {Q' : β → Story V F K S M → Prop} (hx : Zooms lens move A x Q X)
    (hf : ∀ a, Zooms lens move (Q a) (f a) Q' X) : Zooms lens move A (x >>= f) Q' X := by
  unfold Zooms
  rw [zoom_bind]
  exact Plays.bind hx hf

theorem weaken {Q' : α → Story V F K S M → Prop} {X' : ε → Story V F K S M → Prop}
    {x : Routine W E L R ε α} (h : Zooms lens move A x Q X) (hA : ∀ σ, A' σ → A σ)
    (hQ : ∀ a σ, Q a σ → Q' a σ) (hX : ∀ e σ, X e σ → X' e σ) : Zooms lens move A' x Q' X' :=
  Plays.weaken h hA hQ hX

theorem pre {x : Routine W E L R ε α} (h : Zooms lens move A x Q X) (hA : ∀ σ, A' σ → A σ) :
    Zooms lens move A' x Q X := Plays.pre h hA

theorem world {f : W → Routine W E L R ε α}
    (h : ∀ w, Zooms lens move (fun σ => A σ ∧ lens.part σ.world = w) (f w) Q X) :
    Zooms lens move A (Routine.world >>= f) Q X := by
  show Plays move A (Routine.world >>= fun v => Routine.zoom lens (f (lens.part v))) Q X
  exact Plays.world fun v => (h (lens.part v)).pre fun _ hA => ⟨hA.1, congrArg lens.part hA.2⟩

theorem assign {f : W → W} {Q : Unit → Story V F K S M → Prop}
    (h : ∀ σ, A σ → Q () (σ.write fun v => lens.replace v (f (lens.part v)))) :
    Zooms lens move A (Routine.assign f : Routine W E L R ε Unit) Q X := Plays.assign h

theorem emit {e : E} {Q : Unit → Story V F K S M → Prop}
    (h : ∀ σ, A σ → Q () (σ.emit (lens.event e))) :
    Zooms lens move A (Routine.emit e : Routine W E L R ε Unit) Q X := Plays.emit h

theorem await {l : L} {Q : R → Story V F K S M → Prop}
    (h : ∀ σ reply, A σ → Q (lens.response reply.response) (σ.answer move (lens.label l) reply)) :
    Zooms lens move A (Routine.await l : Routine W E L R ε R) Q X := by
  show Plays move A (Routine.await (lens.label l) >>= fun s => Pure.pure (lens.response s)) Q X
  exact Plays.bind (Q := fun s => Q (lens.response s)) (Plays.await h) fun s => Plays.pure fun _ h => h

theorem lift {x : Except ε α} (hok : ∀ a, x = .ok a → ∀ σ, A σ → Q a σ)
    (herror : ∀ e, x = .error e → ∀ σ, A σ → X e σ) :
    Zooms lens move A (Routine.lift x : Routine W E L R ε α) Q X := Plays.lift hok herror

theorem attempt {x : Routine W E L R ε α} {Q : Except ε α → Story V F K S M → Prop}
    (h : Zooms lens move A x (fun a => Q (.ok a)) fun e => Q (.error e)) :
    Zooms lens move A (Routine.attempt x) Q X := by
  unfold Zooms
  rw [zoom_attempt]
  exact Plays.attempt h

/-- **A part keeps what its footprint in the whole keeps.** -/
theorem of_within {P : Footprint W E L} {G : Footprint V F K} (hcovers : lens.Covers P G)
    (hA : Keeps move G A) {x : Routine W E L R ε α} (hx : Within P x) :
    Zooms lens move A x (fun _ => A) fun _ => A :=
  Within.plays hA (Within.zoom hcovers hx)

end Zooms

/-! ## Observers

What a result says of the surroundings may be about the world they found: a poll that saw this or that.
An observer notes it beside the world, where the call neither sees nor touches it.
-/

/-- A world with an observer's notes beside it. -/
def observing (W E L R O : Type) : Lens W E L R (W × O) E L R where
  part := Prod.fst
  replace v w := (w, v.2)
  event := id
  label := id
  response := id

/-- A footprint beside the notes, which it leaves alone. -/
def Footprint.beside (O : Type) (P : Footprint W E L) : Footprint (W × O) E L where
  awaits := P.awaits
  emits := P.emits
  writes v v' := P.writes v.1 v'.1 ∧ v'.2 = v.2

theorem observing_covers {O : Type} (P : Footprint W E L) :
    (observing W E L R O).Covers P (P.beside O) :=
  ⟨fun _ _ h => ⟨h, rfl⟩, fun _ h => h, fun _ h => h⟩

end XBloom.Async
