/-
# XBloom.Async.Locks — a lock held across awaits

An `asyncio.Lock` is a flag of the world: a call that finds it taken waits, takes it when it is free,
and holds it over every await inside the `async with`.  The code never says who holds it.  `Lock`
names the points inside the block and the points where a call waits for it; `Exclusive` is what
follows for a pool: at most one call is suspended inside, and while one is, the flag is set.  One
segment keeps this (`Respects`) if it enters only with the flag free and clears it only from inside.
-/
import XBloom.Async.Segments

namespace XBloom.Async

variable {W E L R C M : Type}

/-- A lock: its flag, the points inside the block, and the points where a call waits to enter. -/
structure Lock (W L : Type) where
  locked : W → Bool
  inside : L → Bool
  waiting : L → Bool

namespace Lock

variable (K : Lock W L) (σ : Segment W E L R)

/-! ## One segment -/

/-- The segment was resumed inside the block. -/
def Entered : Prop := ∃ l r, σ.resumed = some (l, r) ∧ K.inside l = true

/-- What a segment finds: the flag set if it was inside, and free if it waited for it. -/
structure Finds : Prop where
  inside : ∀ l r, σ.resumed = some (l, r) → K.inside l = true → K.locked σ.before = true
  waiting : ∀ l r, σ.resumed = some (l, r) → K.waiting l = true → K.locked σ.before = false

/-- The segment leaves a flag alone that another call has set. -/
def Keeps : Prop := K.locked σ.before = true → K.Entered σ ∨ K.locked σ.now = true

/-- The segment is inside the block, and has the flag itself. -/
def Holds : Prop := K.locked σ.now = true ∧ (K.Entered σ ∨ K.locked σ.before = false)

/-- **What a segment that waits at a point has to do**: hold the lock if the point is inside. -/
def Respects (l : L) : Prop := K.Keeps σ ∧ (K.inside l = true → K.Holds σ)

/-- The segment leaves the flag set only for another call. -/
def Settled : Prop := K.locked σ.now = true → ¬ K.Entered σ ∧ K.locked σ.before = true

variable {K σ}

theorem keeps_start (resumed : Option (L × R)) (w : W) :
    K.Keeps (.start resumed w : Segment W E L R) := fun h => .inr h

theorem Holds.keeps (h : K.Holds σ) : K.Keeps σ := fun _ => .inr h.1

/-- A segment that resumes inside. -/
theorem holds_start {l : L} {r : R} {w : W} (hinside : K.inside l = true)
    (hfinds : K.Finds (.start (some (l, r)) w : Segment W E L R)) :
    K.Holds (.start (some (l, r)) w : Segment W E L R) :=
  ⟨hfinds.inside l r rfl hinside, .inl ⟨l, r, rfl, hinside⟩⟩

/-- **The lock is taken** when it is free. -/
theorem Keeps.take (h : K.Keeps σ) (hfree : K.locked σ.now = false) {w : W}
    (hw : K.locked w = true) : K.Holds { σ with now := w } := by
  refine ⟨hw, ?_⟩
  cases hbefore : K.locked σ.before with
  | false => exact Or.inr rfl
  | true =>
    rcases h hbefore with hentered | hnow
    · exact Or.inl hentered
    · rw [hfree] at hnow
      exact absurd hnow Bool.false_ne_true

/-- The lock is given back, or not. -/
theorem Holds.release (h : K.Holds σ) (w : W) : K.Keeps { σ with now := w } := by
  intro hbefore
  rcases h.2 with hentered | hfree
  · exact Or.inl hentered
  · rw [show K.locked σ.before = true from hbefore] at hfree
    exact absurd hfree.symm Bool.false_ne_true

/-- A segment that resumes outside. -/
theorem settled_start {resumed : Option (L × R)} {w : W}
    (houtside : ∀ l r, resumed = some (l, r) → K.inside l = false) :
    K.Settled (.start resumed w : Segment W E L R) := by
  intro hlocked
  refine ⟨fun ⟨l, r, hresumed, hinside⟩ => ?_, hlocked⟩
  rw [houtside l r hresumed] at hinside
  exact absurd hinside Bool.false_ne_true

theorem Settled.frame (h : K.Settled σ) {w : W} (hw : K.locked w = K.locked σ.now)
    (es : List E) : K.Settled { σ with now := w, events := es } := fun hlocked =>
  h (hw.symm.trans hlocked)

/-- The world changes apart from the flag. -/
theorem Keeps.frame (h : K.Keeps σ) {w : W} (hw : K.locked w = K.locked σ.now)
    (es : List E) : K.Keeps { σ with now := w, events := es } := fun hbefore =>
  (h hbefore).imp id fun hnow => hw.trans hnow

theorem Holds.frame (h : K.Holds σ) {w : W} (hw : K.locked w = K.locked σ.now)
    (es : List E) : K.Holds { σ with now := w, events := es } := ⟨hw.trans h.1, h.2⟩

end Lock

/-! ## Pools -/

/-- A task is suspended inside the block. -/
def Pool.Inside (K : Lock W L) (p : Pool W E L R C) (t : ℕ) : Prop :=
  ∃ τ, p.tasks t = some τ ∧ K.inside τ.label = true

/-- **At most one call is inside the block**, and the flag is set while one is. -/
structure Exclusive (K : Lock W L) (p : Pool W E L R C) : Prop where
  locked : ∀ t, p.Inside K t → K.locked p.world = true
  unique : ∀ t t', p.Inside K t → p.Inside K t' → t = t'

variable {K : Lock W L} {S : System W E L R C M} {p : Pool W E L R C} {a : Action R C M}
  {turn : Turn W E L R C}

theorem exclusive_idle (w : W) : Exclusive K (Pool.idle w : Pool W E L R C) := by
  refine ⟨fun t h => ?_, fun t t' h => ?_⟩
  all_goals
    obtain ⟨τ, hτ, _⟩ := h
    cases hτ

/-- A step resumes only a task that may be. -/
theorem Pool.turn_enabled (hturn : p.turn S a = some turn) {l : L} {r : R}
    (hresumed : turn.resumed = some (l, r)) : S.enabled l p.world = true := by
  cases a with
  | spawn c =>
    cases hturn
    cases hresumed
  | resume t r' =>
    simp only [Pool.turn] at hturn
    split at hturn
    · split at hturn
      · rename_i henabled
        cases hturn
        cases hresumed
        exact henabled
      · cases hturn
    · cases hturn
  | move m => cases hturn

/-- **What a turn finds**, when a call that waits for the lock is resumed only once it is free. -/
theorem Exclusive.finds (h : Exclusive K p) (hturn : p.turn S a = some turn)
    (hwaiting : ∀ l w, K.waiting l = true → S.enabled l w = true → K.locked w = false) :
    K.Finds (p.passage S a turn) := by
  refine ⟨fun l r hresumed hinside => ?_, fun l r hresumed hwaits => ?_⟩
  · rcases Pool.turn_cases hturn with ⟨_, hnone, _⟩ | ⟨τ, r', hτ, _, hsome, _⟩
    · cases hnone.symm.trans hresumed
    · cases hsome.symm.trans hresumed
      exact h.locked _ ⟨τ, hτ, hinside⟩
  · exact hwaiting l _ hwaits (Pool.turn_enabled hturn hresumed)

/-- A turn that entered the block before is that of a task inside it. -/
theorem inside_of_entered (hturn : p.turn S a = some turn)
    (h : K.Entered (p.passage S a turn)) : p.Inside K turn.task := by
  obtain ⟨l, r, hresumed, hinside⟩ := h
  rcases Pool.turn_cases hturn with ⟨_, hnone, _⟩ | ⟨τ, r', hτ, _, hsome, _⟩
  · cases hnone.symm.trans hresumed
  · cases hsome.symm.trans hresumed
    exact ⟨τ, hτ, hinside⟩

/-- A task other than the one whose turn it is stays where it is. -/
theorem inside_of_other (hturn : p.turn S a = some turn) {t : ℕ} (ht : t ≠ turn.task)
    (h : (p.step S a).Inside K t) : p.Inside K t := by
  obtain ⟨τ, hτ, hinside⟩ := h
  rw [(Pool.step_of_turn hturn).2.2, Function.update_of_ne ht] at hτ
  exact ⟨τ, hτ, hinside⟩

/-- Without a turn the flag stays as it is. -/
theorem locked_of_no_turn (hturn : p.turn S a = none)
    (hmove : ∀ w m, K.locked (S.move w m) = K.locked w) :
    K.locked (p.step S a).world = K.locked p.world := by
  rcases Pool.world_of_no_turn hturn with ⟨m, _, hworld⟩ | hworld
  · rw [hworld, hmove]
  · rw [hworld]

/-- **One step keeps it**, if its segment respects the lock and the surroundings leave it alone. -/
theorem Exclusive.step (h : Exclusive K p) (hmove : ∀ w m, K.locked (S.move w m) = K.locked w)
    (hsegment : ∀ turn, p.turn S a = some turn → K.Keeps (p.passage S a turn) ∧
      ∀ τ, (p.step S a).tasks turn.task = some τ → K.inside τ.label = true →
        K.Holds (p.passage S a turn)) :
    Exclusive K (p.step S a) := by
  cases hturn : p.turn S a with
  | some turn =>
    obtain ⟨hkeeps, hholds⟩ := hsegment turn hturn
    have hself : (p.step S a).Inside K turn.task → K.Holds (p.passage S a turn) :=
      fun ⟨τ, hτ, hinside⟩ => hholds τ hτ hinside
    -- another task inside excludes the turn's own
    have hother : ∀ t, t ≠ turn.task → (p.step S a).Inside K t →
        ¬ K.Entered (p.passage S a turn) := fun t ht hin hentered =>
      ht (h.unique _ _ (inside_of_other hturn ht hin) (inside_of_entered hturn hentered))
    have hboth : ∀ t, t ≠ turn.task → (p.step S a).Inside K t →
        ¬ (p.step S a).Inside K turn.task := by
      intro t ht hin hin'
      rcases (hself hin').2 with hentered | hfree
      · exact hother t ht hin hentered
      · have hlocked := h.locked t (inside_of_other hturn ht hin)
        exact absurd (hlocked.symm.trans hfree) Bool.noConfusion
    constructor
    · intro t hin
      by_cases ht : t = turn.task
      · exact (hself (ht ▸ hin)).1
      · rcases hkeeps (h.locked t (inside_of_other hturn ht hin)) with hentered | hnow
        · exact absurd hentered (hother t ht hin)
        · exact hnow
    · intro t t' hin hin'
      by_cases ht : t = turn.task
      · by_cases ht' : t' = turn.task
        · exact ht.trans ht'.symm
        · exact absurd (ht ▸ hin) (hboth t' ht' hin')
      · by_cases ht' : t' = turn.task
        · exact absurd (ht' ▸ hin') (hboth t ht hin)
        · exact h.unique t t' (inside_of_other hturn ht hin) (inside_of_other hturn ht' hin')
  | none =>
    have htasks := (Pool.step_of_no_turn hturn).2
    have hin : ∀ t, (p.step S a).Inside K t → p.Inside K t := by
      rintro t ⟨τ, hτ, hinside⟩
      rw [htasks] at hτ
      exact ⟨τ, hτ, hinside⟩
    have hworld := locked_of_no_turn hturn hmove
    refine ⟨fun t ht => ?_, fun t t' ht ht' => h.unique t t' (hin t ht) (hin t' ht')⟩
    rw [hworld]
    exact h.locked t (hin t ht)

/-! ## The holder -/

/-- While the flag is set, the call that set it is inside the block. -/
def Attended (K : Lock W L) (p : Pool W E L R C) : Prop :=
  K.locked p.world = true → ∃ t, p.Inside K t

/-- **One step keeps it**, if a segment that ends outside leaves the flag set only for another call. -/
theorem Attended.step (h : Attended K p) (hnumbered : Numbered p) (hmove : ∀ w m, K.locked (S.move w m) = K.locked w)
    (hsegment : ∀ turn, p.turn S a = some turn → (p.step S a).Inside K turn.task ∨
      K.Settled (p.passage S a turn)) : Attended K (p.step S a) := by
  intro hlocked
  cases hturn : p.turn S a with
  | some turn =>
    rcases hsegment turn hturn with hin | hsettled
    · exact ⟨_, hin⟩
    · obtain ⟨hout, hbefore⟩ := hsettled hlocked
      obtain ⟨t, τ, hτ, hinside⟩ := h hbefore
      have ht : t ≠ turn.task := by
        rintro rfl
        -- the turn would have been resumed inside
        rcases Pool.turn_cases hturn with ⟨htask, _⟩ | ⟨τ', r, hτ', _, hsome, _⟩
        · exact absurd htask (hnumbered.tasks _ τ hτ).ne
        · rw [hτ] at hτ'
          cases hτ'
          exact hout ⟨_, r, hsome, hinside⟩
      refine ⟨t, τ, ?_, hinside⟩
      rw [(Pool.step_of_turn hturn).2.2, Function.update_of_ne ht]
      exact hτ
  | none =>
    have hworld := locked_of_no_turn hturn hmove
    obtain ⟨t, τ, hτ, hinside⟩ := h (hworld.symm.trans hlocked)
    refine ⟨t, τ, ?_, hinside⟩
    rw [(Pool.step_of_no_turn hturn).2]
    exact hτ

end XBloom.Async
