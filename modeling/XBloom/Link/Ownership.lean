/-
# XBloom.Link.Ownership — the client that holds the machine is the coordinator's

Outside a connect every link that is up is `self.client`'s, over every interleaving in which no drop
callback takes `self.client` from a link that is up and no failure leaves a link behind.  The drop
callback does not say which link went down, so one that comes late takes the next client's.
-/
import XBloom.Link.Runs

namespace XBloom.Link

open XBloom.Async XBloom.Logic

/-! ## The condition on steps -/

/-- **The step takes `self.client` from no link that is up**: a drop callback finds none that it would
take it from, `start_notify` fails on a lost link only, and a teardown ends with its own link down,
if no connect has begun since. -/
def keepsOwner (p : LinkPool) : LinkAction → Bool
  | .move (.dropCallback c) =>
    p.world.isConnected c || p.world.manualDisconnect || p.world.connectLocked || !p.world.linkUp
  | .resume t r =>
    match (p.tasks t).map Suspended.label with
    | some (.connecting n .notify) => decide (r = .done) || !p.world.isConnected n
    | some (.disconnecting _ c .bleak) =>
      p.world.connectLocked || !p.world.linkUp ||
        (decide (r = .done) && decide (p.world.client = some c))
    | _ => true
  | _ => true

variable {p : LinkPool} {a : LinkAction}

theorem keepsOwner_notify {t n : ℕ} (hat : p.At t (.connecting n .notify))
    (h : keepsOwner p (.resume t .failed) = true) : p.world.isConnected n = false := by
  obtain ⟨τ, hτ, hl⟩ := hat
  simpa [keepsOwner, hτ, hl] using h

theorem keepsOwner_bleak {t c c' : ℕ} {why : Teardown} {r : Response}
    (hat : p.At t (.disconnecting why c .bleak)) (h : keepsOwner p (.resume t r) = true)
    (hfree : p.world.connectLocked = false) (hclient : p.world.client = some c')
    (hup : p.world.isConnected c' = true) : c' = c ∧ r = .done := by
  obtain ⟨τ, hτ, hl⟩ := hat
  have hlink : p.world.linkUp = true := World.linkUp_iff.mpr ⟨c', hclient, hup⟩
  simp [keepsOwner, hτ, hl, hfree, hlink, hclient] at h
  exact ⟨h.2, h.1⟩

/-! ## The invariant -/

/-- **What every pool of such a run keeps**: the link is `self.client`'s, or while a client connects its
own; and before it has its link nobody has one. -/
structure Owned (p : LinkPool) : Prop where
  orderly : Orderly p
  owns : p.world.connectLocked = false → p.world.Owns
  only : ∀ t n stage, p.At t (.connecting n stage) → p.world.Only n
  before : ∀ t n, p.At t (.connecting n .link) → p.world.isConnected n = false

theorem owned_idle {w : World} (hfree : w.connectLocked = false) (hno : w.NoLink) :
    Owned (Pool.idle w) := by
  refine ⟨orderly_idle hfree, fun _ => hno.owns, fun t n stage hat => ?_, fun t n hat => ?_⟩
  all_goals
    obtain ⟨τ, hτ, _⟩ := hat
    cases hτ

/-- **What a turn finds.** -/
theorem Owned.finds (h : Owned p) (ha : keepsOwner p a = true) {turn}
    (hturn : p.turn system a = some turn) : FindsOwned (p.passage system a turn) := by
  refine ⟨fun n stage r hresumed => ?_, fun _ hfree => h.owns hfree, fun n hresumed => ?_,
    fun why c r hresumed hfree c' hclient hup => ?_⟩
  · obtain ⟨hat, _⟩ := Pool.at_of_resumed hturn hresumed
    refine ⟨h.only _ n stage hat, ?_⟩
    rintro rfl
    exact h.before _ n hat
  · obtain ⟨hat, rfl⟩ := Pool.at_of_resumed hturn hresumed
    exact keepsOwner_notify hat ha
  · obtain ⟨hat, rfl⟩ := Pool.at_of_resumed hturn hresumed
    exact keepsOwner_bleak hat ha hfree hclient hup

/-- What a segment that ends outside the lock leaves. -/
theorem Arrives.owns {l : Point} {σ : LinkSegment} (h : Arrives l σ) (hfinds : FindsOwned σ)
    (hfree : σ.now.connectLocked = false) : σ.now.Owns := by
  have hcalm : Calm σ → σ.now.Owns := fun hcalm => hcalm.1.owned hfinds hfree
  cases l with
  | scheduled task =>
    cases task with
    | reconnect => exact hcalm h.1
    | dropStaleLink => exact hcalm h
    | standby => exact hcalm h.1
  | connecting n stage =>
    -- a connect that waits has the lock
    have hlocked : σ.now.connectLocked = true := (h.lock.2.1 rfl).1
    exact absurd (hfree.symm.trans hlocked) Bool.false_ne_true
  | disconnecting why c stage =>
    cases stage with
    | stopNotify => exact h.1.owned hfinds hfree
    | bleak =>
      obtain ⟨r, w, rfl⟩ := h
      refine hfinds.owns ?_ hfree
      rintro ⟨l, r', hresumed, hin⟩
      cases hresumed
      cases hin
  | refreshing why => exact h.1.owned hfinds hfree
  | connectLock => exact hcalm h
  | wakeHandshake c => exact hcalm h
  | wakePoll => exact hcalm h
  | acting => exact hcalm h

/-- A move leaves the owner of the link, if its drop callback has nothing to take. -/
theorem World.move_owns {w : World} (h : w.Owns) {m : Move} (hfree : w.connectLocked = false)
    (hm : ∀ c, m = .dropCallback c →
      (w.isConnected c || w.manualDisconnect || w.connectLocked || !w.linkUp) = true) :
    (w.move m).Owns := by
  intro c hup
  have hup' := w.move_links m hup
  cases m with
  | dropCallback d =>
    have hd := hm d rfl
    have hlink : w.linkUp = true := World.linkUp_iff.mpr ⟨c, h c hup', hup'⟩
    simp only [hfree, hlink, Bool.not_true, Bool.or_false, Bool.or_eq_true] at hd
    simp only [move, handleUnexpectedDisconnect]
    rcases hd with hd | hd
    · rw [if_pos hd]
      exact h c hup'
    · rw [if_pos hd, ite_self]
      exact h c hup'
  | _ => exact h c hup'

/-- **One step keeps it.** -/
theorem Owned.step (h : Owned p) (ha : keepsOwner p a = true) : Owned (p.step system a) := by
  -- while a task connects, only its own connect can be given a link
  have hlinks : ∀ t n stage, p.At t (.connecting n stage) →
      (∀ turn, p.turn system a = some turn → t ≠ turn.task) →
      ∀ c, (p.step system a).world.isConnected c = true → p.world.isConnected c = true := by
    intro t n stage ⟨τ, hτ, hl⟩ hother c hup
    rcases h.orderly.links hup with hold | ⟨t', ⟨τ', hτ', hl'⟩, rfl⟩
    · exact hold
    · have hsame : t = t' := h.orderly.exclusive.unique t t' ⟨τ, hτ, by rw [hl]; rfl⟩
        ⟨τ', hτ', by rw [hl']; rfl⟩
      have hturn : p.turn system (.resume t' .done) =
          some ⟨t', τ'.call, some (τ'.label, .done), τ'.resume .done⟩ := by
        simp [Pool.turn, hτ', hl', system]
      exact absurd hsame (hother _ hturn)
  refine ⟨h.orderly.step a, fun hfree => ?_, fun t n stage hat => ?_, fun t n hat => ?_⟩
  · cases hturn : p.turn system a with
    | some turn =>
      obtain ⟨hwaits, hdone⟩ := h.orderly.arrives a turn hturn
      have hfinds := h.finds ha hturn
      cases hτ : (p.step system a).tasks turn.task with
      | some τ => exact (hwaits τ hτ).owns hfinds hfree
      | none => exact (hdone hτ).1.owned hfinds hfree
    | none =>
      rcases Pool.world_of_no_turn hturn with ⟨m, rfl, hworld⟩ | hworld
      · rw [hworld] at hfree ⊢
        have hfree := (p.world.move_locked m).symm.trans hfree
        refine World.move_owns (h.owns hfree) hfree fun c hc => ?_
        subst hc
        exact ha
      · rw [hworld] at hfree ⊢
        exact h.owns hfree
  · rcases (h.orderly.arrives a).at_step hat with ⟨hold, hother⟩ | ⟨turn, hturn, _, harrives⟩
    · exact fun c hup => h.only t n stage hold c (hlinks t n stage hold hother c hup)
    · have hconnecting : Connecting n (p.passage system a turn) := by
        cases stage with
        | link => exact harrives.1
        | _ => exact harrives
      exact hconnecting.2 (h.finds ha hturn)
  · rcases (h.orderly.arrives a).at_step hat with ⟨hold, hother⟩ | ⟨turn, hturn, _, harrives⟩
    · refine Bool.eq_false_iff.mpr fun hup => ?_
      have hdown := h.before t n hold
      rw [hlinks t n .link hold hother n hup] at hdown
      exact Bool.noConfusion hdown
    · exact harrives.2 (h.finds ha hturn)

/-! ## Ownership -/

/-- The points of `async_connect` and `async_disconnect`. -/
def Point.underway : Point → Bool
  | .connectLock => true
  | .connecting _ _ => true
  | .disconnecting _ _ _ => true
  | .refreshing _ => true
  | _ => false

/-- No `async_connect` and no `async_disconnect` is in progress. -/
def Quiet (p : LinkPool) : Prop := ∀ t l, p.At t l → l.underway = false

/-- A pool whose tasks are counted is quiet if each of them is. -/
theorem quiet_of_all (h : Numbered p)
    (hall : ∀ t < p.spawned, (p.tasks t).all (fun τ => !τ.label.underway) = true) : Quiet p := by
  rintro t l ⟨τ, hτ, rfl⟩
  have ht := hall t (h.tasks t τ hτ)
  rw [hτ] at ht
  simpa using ht

/-- **The coordinator owns the live link.**  In every run whose steps take `self.client` from no link
that is up, whenever no connect and no disconnect is in progress, every client whose link is up is
`self.client`. -/
theorem coordinator_owns_link (sessionTimeout clock : ℕ) (as : List LinkAction)
    (h : AllSteps (Pool.step system) (fun p a => keepsOwner p a = true)
      (Pool.idle (World.initial sessionTimeout clock)) as)
    (hquiet : Quiet (run (Pool.step system) (Pool.idle (World.initial sessionTimeout clock)) as)) :
    (run (Pool.step system) (Pool.idle (World.initial sessionTimeout clock)) as).world.Owns := by
  have hidle : Owned (Pool.idle (World.initial sessionTimeout clock)) :=
    owned_idle rfl fun c => by simp [World.initial, World.isConnected]
  have hstep : ∀ (p : LinkPool) (a : LinkAction), Owned p → keepsOwner p a = true →
      Owned (p.step system a) := fun _ _ h ha => h.step ha
  have howned := run_invariant hstep hidle h
  refine howned.owns (howned.orderly.unlocked fun t n stage hat => ?_)
  have hunderway := hquiet t _ hat
  cases hunderway

/-- The machine drops the link, the drop callback runs and the next poll connects again. -/
theorem reconnected_owns_link :
    let p := run (Pool.step system) (Pool.idle (World.initial 60 0))
      (.spawn .turnOn :: connects 0 ++ .move (.linkLost 0) :: .move (.dropCallback 0) ::
        .spawn .poll :: .resume 1 .done :: connects 1)
    p.world.Owns ∧ p.world.isConnected 1 = true := by
  refine ⟨coordinator_owns_link 60 0 _ (by decide +kernel) ?_, by decide +kernel⟩
  exact quiet_of_all (numbered_run _ _) (by decide +kernel)

/-- **A drop callback that comes late.**  The link is lost and a poll connects again before the drop
callback of the old client runs: it takes the new client, whose link stays up with nobody to use it. -/
theorem late_callback_orphans :
    let p := run (Pool.step system) (Pool.idle (World.initial 60 0))
      (.spawn .turnOn :: connects 0 ++ .move (.linkLost 0) :: .spawn .poll :: .resume 1 .done ::
        connects 1 ++ [.move (.dropCallback 0)])
    Quiet p ∧ p.world.isConnected 1 = true ∧ p.world.client = none ∧ ¬ p.world.Owns := by
  intro p
  have hup : p.world.isConnected 1 = true := by decide +kernel
  have hnone : p.world.client = none := by decide +kernel
  refine ⟨quiet_of_all (numbered_run _ _) (by decide +kernel), hup, hnone, fun h => ?_⟩
  cases hnone.symm.trans (h 1 hup)

end XBloom.Link
