/-
# XBloom.Link.Runs — what every pool of the connection manager keeps

The connect lock is exclusive, and while it is taken somebody is inside, so each turn finds it as the
specification supposes: `Orderly` holds in every run, and gives of every step the segment that
`Arrives` describes.  What the moves do to links and flags is said here once for the results
of the other modules.
-/
import XBloom.Link.Passes

namespace XBloom.Link

open XBloom.Async XBloom.Logic

/-- The coordinator as `__init__` leaves it. -/
def World.initial (sessionTimeout clock : ℕ) : World := { sessionTimeout, clock, lastActivity := clock }

/-! ## Moves -/

namespace World

/-- No move brings a link up. -/
theorem move_links (w : World) (m : Move) {c : ℕ} (h : (w.move m).isConnected c = true) :
    w.isConnected c = true := by
  cases m with
  | linkLost d => exact (of_setConnected_false h).2
  | dropCallback d =>
    simp only [move, handleUnexpectedDisconnect] at h
    split at h
    · exact h
    · split at h <;> exact h
  | notification d sleeping =>
    exact (isConnected_setClient w d c (f := fun client =>
      { client with sleeping := sleeping, lastNotification := w.clock }) fun _ => rfl).symm.trans h
  | _ => exact h

theorem move_locked (w : World) (m : Move) :
    connectLock.locked (w.move m) = connectLock.locked w := by
  cases m with
  | dropCallback c =>
    simp only [move, handleUnexpectedDisconnect]
    split
    · rfl
    · split <;> rfl
  | _ => rfl

theorem move_manual (w : World) (m : Move) :
    (w.move m).manualDisconnect = w.manualDisconnect := by
  cases m with
  | dropCallback c =>
    simp only [move, handleUnexpectedDisconnect]
    split
    · rfl
    · split <;> rfl
  | _ => rfl

theorem move_activity {w : World} (h : w.Timely) (m : Move) :
    w.lastActivity ≤ (w.move m).lastActivity := by
  cases m with
  | dropCallback c =>
    simp only [move, handleUnexpectedDisconnect]
    split
    · exact le_rfl
    · split <;> exact le_rfl
  | busy => exact h
  | _ => exact le_rfl

/-- Time passes: what was noted before now still was. -/
theorem move_timely {w : World} (h : w.Timely) (m : Move) : (w.move m).Timely := by
  unfold Timely at h ⊢
  cases m with
  | dropCallback c =>
    simp only [move, handleUnexpectedDisconnect]
    split
    · exact h
    · split <;> exact h
  | elapse milliseconds => exact h.trans (Nat.le_add_right _ _)
  | busy => exact le_rfl
  | _ => exact h

end World

/-! ## The lock -/

/-- **What every pool a run reaches keeps.** -/
structure Orderly (p : LinkPool) : Prop where
  passes : PoolPasses SegmentArrives (Given Calm) p
  numbered : Numbered p
  exclusive : Exclusive connectLock p
  attended : Attended connectLock p

variable {p : LinkPool} {a : LinkAction}

theorem orderly_idle {w : World} (h : w.connectLocked = false) : Orderly (Pool.idle w) := by
  refine ⟨poolPasses_idle w, numbered_idle w, exclusive_idle w, fun hlocked => ?_⟩
  exact absurd (h.symm.trans hlocked) Bool.false_ne_true

theorem waiting_enabled (l : Point) (w : World) (hwaits : connectLock.waiting l = true)
    (henabled : system.enabled l w = true) : connectLock.locked w = false := by
  cases l with
  | connectLock =>
    show w.connectLocked = false
    simpa [system] using henabled
  | _ => cases hwaits

/-- What the specification of a waiting point says of the lock. -/
theorem Arrives.lock {l : Point} {σ : LinkSegment} (h : Arrives l σ) :
    connectLock.Keeps σ ∧ (connectLock.inside l = true → connectLock.Holds σ) ∧
      (connectLock.inside l = false → connectLock.Settled σ) := by
  have houtside : ∀ {σ : LinkSegment}, Outside σ → connectLock.inside l = false →
      connectLock.Keeps σ ∧ (connectLock.inside l = true → connectLock.Holds σ) ∧
        (connectLock.inside l = false → connectLock.Settled σ) := fun h hl =>
    ⟨h.keeps, fun hin => absurd (hl.symm.trans hin) Bool.false_ne_true, fun _ => h.settled⟩
  cases l with
  | scheduled task =>
    cases task with
    | reconnect => exact houtside h.1.1 rfl
    | dropStaleLink => exact houtside h.1 rfl
    | standby => exact houtside h.1.1 rfl
  | connecting n stage =>
    have hconnecting : Connecting n σ := by
      cases stage with
      | link => exact h.1
      | _ => exact h
    exact ⟨hconnecting.1.holds.keeps, fun _ => hconnecting.1.holds, fun hl => (by cases hl)⟩
  | disconnecting why c stage =>
    cases stage with
    | stopNotify => exact houtside h.1 rfl
    | bleak =>
      obtain ⟨r, w, rfl⟩ := h
      refine ⟨Lock.keeps_start _ _, fun hin => (by cases hin), fun _ => Lock.settled_start ?_⟩
      intro l r' hresumed
      cases hresumed
      rfl
  | refreshing why => exact houtside h.1 rfl
  | connectLock => exact houtside h.1 rfl
  | wakeHandshake c => exact houtside h.1 rfl
  | wakePoll => exact houtside h.1 rfl
  | acting => exact houtside h.1 rfl

/-- What the specification of a waiting point says of every segment. -/
theorem Arrives.lawful {l : Point} {σ : LinkSegment} (h : Arrives l σ) : Lawful σ := by
  cases l with
  | scheduled task =>
    cases task with
    | reconnect => exact h.1.1.toLawful
    | dropStaleLink => exact h.1.toLawful
    | standby => exact h.1.1.toLawful
  | connecting n stage =>
    cases stage with
    | link => exact h.1.1.toLawful
    | _ => exact h.1.toLawful
  | disconnecting why c stage =>
    cases stage with
    | stopNotify => exact h.1.toLawful
    | bleak =>
      -- between the two awaits of a disconnect nothing happens
      obtain ⟨r, w, rfl⟩ := h
      refine lawful_start (fun why c hresumed => (by cases hresumed)) ?_
      rintro ⟨n, stage, r', hresumed, _⟩
      cases hresumed
  | refreshing why => exact h.1.toLawful
  | connectLock => exact h.1.toLawful
  | wakeHandshake c => exact h.1.toLawful
  | wakePoll => exact h.1.toLawful
  | acting => exact h.1.toLawful

/-- **The specification of a step.** -/
theorem Orderly.arrives (h : Orderly p) (a : LinkAction) : StepPasses Arrives Calm system p a := by
  have hfinds : ∀ turn, p.turn system a = some turn →
      connectLock.Finds (p.passage system a turn) := fun turn hturn =>
    h.exclusive.finds hturn waiting_enabled
  exact (h.passes.step program_passes a).2.mono (fun turn hturn l hl => hl (hfinds turn hturn))
    fun turn hturn hcalm => hcalm (hfinds turn hturn)

/-- Every step is lawful. -/
theorem Orderly.lawful (h : Orderly p) (a : LinkAction) : StepRuns Lawful system p a := by
  have hlawful : StepPasses (fun _ => Lawful) Lawful system p a :=
    (h.arrives a).mono (fun _ _ _ hl => hl.lawful) fun _ _ hcalm => hcalm.1.toLawful
  exact hlawful.runs

/-- **One step keeps it.** -/
theorem Orderly.step (h : Orderly p) (a : LinkAction) : Orderly (p.step system a) := by
  refine ⟨(h.passes.step program_passes a).1, h.numbered.step a,
    h.exclusive.step World.move_locked fun turn hturn => ?_,
    h.attended.step h.numbered World.move_locked fun turn hturn => ?_⟩
  · obtain ⟨hwaits, hdone⟩ := h.arrives a turn hturn
    refine ⟨?_, fun τ hτ => (hwaits τ hτ).lock.2.1⟩
    cases hτ : (p.step system a).tasks turn.task with
    | some τ => exact (hwaits τ hτ).lock.1
    | none => exact (hdone hτ).1.keeps
  · obtain ⟨hwaits, hdone⟩ := h.arrives a turn hturn
    cases hτ : (p.step system a).tasks turn.task with
    | some τ =>
      cases hin : connectLock.inside τ.label with
      | true => exact Or.inl ⟨τ, hτ, hin⟩
      | false => exact Or.inr ((hwaits τ hτ).lock.2.2 hin)
    | none => exact Or.inr (hdone hτ).1.settled

theorem orderly_run (sessionTimeout clock : ℕ) (as : List LinkAction) :
    Orderly (run (Pool.step system) (Pool.idle (World.initial sessionTimeout clock)) as) := by
  have hstep : ∀ (p : LinkPool) (a : LinkAction), Orderly p → Orderly (p.step system a) :=
    fun _ a h => h.step a
  exact run_preserves hstep (orderly_idle rfl) as

/-- The lock is free while no connect is inside it. -/
theorem Orderly.unlocked (h : Orderly p) (hno : ∀ t n stage, ¬ p.At t (.connecting n stage)) :
    p.world.connectLocked = false := by
  cases hlocked : p.world.connectLocked with
  | false => rfl
  | true =>
    obtain ⟨t, τ, hτ, hinside⟩ := h.attended hlocked
    cases hl : τ.label with
    | connecting n stage => exact absurd ⟨τ, hτ, hl⟩ (hno t n stage)
    | _ =>
      rw [hl] at hinside
      cases hinside

/-- A connect that goes through, as the task that runs it is resumed. -/
def connects (t : ℕ) : List LinkAction := List.replicate 12 (.resume t .done)

/-! ## Links -/

/-- **A link comes up in one way only**: a connect that waits for it is given it. -/
theorem Orderly.links (h : Orderly p) {c : ℕ}
    (hup : (p.step system a).world.isConnected c = true) :
    p.world.isConnected c = true ∨
      ∃ t, p.At t (.connecting c .link) ∧ a = .resume t .done := by
  cases hturn : p.turn system a with
  | some turn =>
    rcases (h.lawful a turn hturn).links c hup with hold | hresumed
    · exact Or.inl hold
    · obtain ⟨hat, ha⟩ := Pool.at_of_resumed hturn hresumed
      exact Or.inr ⟨turn.task, hat, ha⟩
  | none =>
    rcases Pool.world_of_no_turn hturn with ⟨m, _, hworld⟩ | hworld
    · rw [hworld] at hup
      exact Or.inl (p.world.move_links m hup)
    · rw [hworld] at hup
      exact Or.inl hup

end XBloom.Link
