/-
# XBloom.Units.Delivery — no Settings change is lost on its way to the machine

Over every interleaving of Settings changes, pushes, connects, reports and whatever the link does:
batches do not overlap, a SET command goes out only for a pending key, and a key stays pending until
a send that carried its value of that moment was answered or timed out.
-/
import XBloom.Units.PushSpec

namespace XBloom.Units

open XBloom.Async XBloom.Logic

/-! ## The invariant -/

/-- **What every pool a run reaches keeps**: the lock is exclusive, and the key that a suspended call
is sending is pending, and was sent by that call. -/
structure Delivering (p : PushPool) : Prop where
  passes : PoolPasses SegmentWaits (fun σ => Finds σ → Silent σ) p
  exclusive : Exclusive unitPushLock p
  pending : ∀ t τ key payload, p.tasks t = some τ → τ.label.sending = some (key, payload) →
    key ∈ p.world.units.pendingUnitPushes
  sent : ∀ t τ key payload, p.tasks t = some τ → τ.label.sending = some (key, payload) →
    ∃ command, ⟨t, τ.call, .set key command payload⟩ ∈ p.trace

variable {p : PushPool} {a : PushAction}

theorem delivering_idle (w : PushWorld) : Delivering (Pool.idle w) := by
  refine ⟨poolPasses_idle w, exclusive_idle w, fun t τ key payload hτ => ?_,
    fun t τ key payload hτ => ?_⟩
  all_goals cases hτ

/-- A point in the middle of a send is inside the lock. -/
theorem inside_of_sending {l : PushPoint} {key : OptionKey} {payload : List OptionValue}
    (h : l.sending = some (key, payload)) : unitPushLock.inside l = true := by
  cases l <;> first | rfl | cases h

theorem waiting_enabled (l : PushPoint) (w : PushWorld) (hwaits : unitPushLock.waiting l = true)
    (henabled : pushSystem.enabled l w = true) : unitPushLock.locked w = false := by
  cases l with
  | pushLock =>
    show w.unitPushLocked = false
    simpa [pushSystem] using henabled
  | _ => cases hwaits

/-- **What a turn finds.** -/
theorem Delivering.finds (h : Delivering p) {turn} (hturn : p.turn pushSystem a = some turn) :
    Finds (p.passage pushSystem a turn) := by
  refine ⟨h.exclusive.finds hturn waiting_enabled, fun l r key payload hresumed hsending => ?_⟩
  rcases Pool.turn_cases hturn with ⟨_, hnone, _⟩ | ⟨τ, r', hτ, _, hsome, _⟩
  · cases hnone.symm.trans hresumed
  · cases hsome.symm.trans hresumed
    exact h.pending _ τ key payload hτ hsending

/-- A move leaves the pending keys, or adds to them. -/
theorem PushWorld.move_pending (w : PushWorld) (m : PushMove) :
    w.units.pendingUnitPushes ⊆ (w.move m).units.pendingUnitPushes := by
  cases m with
  | settings options =>
    show _ ⊆ (w.units.handleUnitOptionsChange options).1.pendingUnitPushes
    rw [UnitPreferences.handle_pending]
    exact Finset.subset_union_left
  | _ => exact Finset.Subset.refl _

theorem PushWorld.move_locked (w : PushWorld) (m : PushMove) :
    unitPushLock.locked (w.move m) = unitPushLock.locked w := by
  cases m <;> rfl

theorem no_turn_pending (hturn : p.turn pushSystem a = none) :
    p.world.units.pendingUnitPushes ⊆ (p.step pushSystem a).world.units.pendingUnitPushes := by
  rcases Pool.world_of_no_turn hturn with ⟨m, _, hworld⟩ | hworld
  · rw [hworld]
    exact p.world.move_pending m
  · rw [hworld]

/-- A segment in which a send is over was resumed inside the lock. -/
theorem Answered.entered {key : OptionKey} {payload : List OptionValue} {σ : PushSegment}
    (h : Answered key payload σ) : unitPushLock.Entered σ := by
  rcases h with ⟨r, hresumed⟩ | hresumed
  · exact ⟨_, r, hresumed, rfl⟩
  · exact ⟨_, _, hresumed, rfl⟩

/-- What the specification says of a turn, whichever way its segment ends. -/
theorem Delivering.turn_spec (h : Delivering p) {turn} (hturn : p.turn pushSystem a = some turn) :
    (∀ τ, (p.step pushSystem a).tasks turn.task = some τ →
      Waits τ.label (p.passage pushSystem a turn)) ∧
      ((p.step pushSystem a).tasks turn.task = none → Silent (p.passage pushSystem a turn)) := by
  obtain ⟨hwaits, hdone⟩ := (h.passes.step pushProgram_passes a).2 turn hturn
  exact ⟨fun τ hτ => hwaits τ hτ (h.finds hturn), fun hnone => hdone hnone (h.finds hturn)⟩

theorem Delivering.turn_discards (h : Delivering p) {turn}
    (hturn : p.turn pushSystem a = some turn) : Discards (p.passage pushSystem a turn) := by
  obtain ⟨hwaits, hdone⟩ := h.turn_spec hturn
  cases hτ : (p.step pushSystem a).tasks turn.task with
  | some τ => exact (hwaits τ hτ).discards
  | none => exact (hdone hτ).discards

/-- **One step keeps it.** -/
theorem Delivering.step (h : Delivering p) (a : PushAction) : Delivering (p.step pushSystem a) := by
  have hexclusive : Exclusive unitPushLock (p.step pushSystem a) := by
    refine h.exclusive.step PushWorld.move_locked fun turn hturn => ?_
    obtain ⟨hwaits, hdone⟩ := h.turn_spec hturn
    refine ⟨?_, fun τ hτ => (hwaits τ hτ).lock.2⟩
    cases hτ : (p.step pushSystem a).tasks turn.task with
    | some τ => exact (hwaits τ hτ).lock.1
    | none => exact (hdone hτ).lock
  refine ⟨(h.passes.step pushProgram_passes a).1, hexclusive, fun t τ key payload hτ hsending => ?_,
    fun t τ key payload hτ hsending => ?_⟩
  · cases hturn : p.turn pushSystem a with
    | some turn =>
      by_cases ht : t = turn.task
      · rw [ht] at hτ
        exact ((h.turn_spec hturn).1 τ hτ).pending key payload hsending
      · -- the turn's call is not inside the lock, so it answers no send
        have hin : (p.step pushSystem a).Inside unitPushLock t :=
          ⟨τ, hτ, inside_of_sending hsending⟩
        rw [(Pool.step_of_turn hturn).2.2, Function.update_of_ne ht] at hτ
        by_contra hno
        have hanswered := h.turn_discards hturn key (h.pending t τ key payload hτ hsending) hno
        exact ht (h.exclusive.unique _ _ (inside_of_other hturn ht hin)
          (inside_of_entered hturn hanswered.entered))
    | none =>
      rw [(Pool.step_of_no_turn hturn).2] at hτ
      exact no_turn_pending hturn (h.pending t τ key payload hτ hsending)
  · cases hturn : p.turn pushSystem a with
    | some turn =>
      obtain ⟨_, htrace, htasks⟩ := Pool.step_of_turn hturn
      by_cases ht : t = turn.task
      · rw [ht] at hτ ⊢
        have hcall : τ.call = turn.call := by
          rw [htasks, Function.update_self] at hτ
          cases hstop : (turn.body.segment p.world).2.2 with
          | done u => simp [hstop, Pool.residue] at hτ
          | waits l k =>
            rw [hstop] at hτ
            cases hτ
            rfl
        rcases ((h.turn_spec hturn).1 τ hτ).sent key payload hsending with ⟨command, hnow⟩ | hearlier
        · refine ⟨command, ?_⟩
          rw [htrace, hcall]
          refine List.mem_append_right _ (List.mem_map.mpr ⟨_, ?_, rfl⟩)
          rwa [← Pool.emitted_of_turn hturn]
        · -- the call was in the middle of this send before
          obtain ⟨l', r, hresumed, hl'⟩ := hearlier
          rcases Pool.turn_cases hturn with ⟨_, hnone, _⟩ | ⟨τ', r', hτ', hcall', hsome, _⟩
          · cases hnone.symm.trans hresumed
          · cases hsome.symm.trans hresumed
            obtain ⟨command, hmem⟩ := h.sent _ τ' key payload hτ' hl'
            rw [htrace, hcall, hcall']
            exact ⟨command, List.mem_append_left _ hmem⟩
      · rw [htasks, Function.update_of_ne ht] at hτ
        obtain ⟨command, hmem⟩ := h.sent t τ key payload hτ hsending
        rw [htrace]
        exact ⟨command, List.mem_append_left _ hmem⟩
    | none =>
      obtain ⟨htrace, htasks⟩ := Pool.step_of_no_turn hturn
      rw [htasks] at hτ
      rw [htrace]
      exact h.sent t τ key payload hτ hsending

/-! ## No lost change -/

/-- **One step of a system that loses no change.** -/
structure LosesNothing (p : PushPool) (a : PushAction) : Prop where
  /-- At most one batch is in flight, its closing 8022 included. -/
  single : ∀ t t', (p.step pushSystem a).Inside unitPushLock t →
    (p.step pushSystem a).Inside unitPushLock t' → t = t'
  /-- A SET goes out from the batch in flight, and while its key is pending. -/
  sets : ∀ turn, p.turn pushSystem a = some turn → ∀ key command payload,
    .set key command payload ∈ p.emitted pushSystem a →
      (p.step pushSystem a).Inside unitPushLock turn.task ∧
        key ∈ (p.step pushSystem a).world.units.pendingUnitPushes
  /-- So does 8022. -/
  home : ∀ turn, p.turn pushSystem a = some turn → .home ∈ p.emitted pushSystem a →
    (p.step pushSystem a).Inside unitPushLock turn.task
  /-- A key leaves the pending ones when a send by the same call, of its value of this moment, was
  acknowledged or timed out. -/
  leaves : ∀ key ∈ p.world.units.pendingUnitPushes,
    key ∉ (p.step pushSystem a).world.units.pendingUnitPushes →
      ∃ turn, p.turn pushSystem a = some turn ∧
        Answered key (p.world.units.pushCommand key).2 (p.passage pushSystem a turn) ∧
        ∃ command, ⟨turn.task, turn.call, .set key command (p.world.units.pushCommand key).2⟩ ∈ p.trace
  /-- A report of the machine leaves the value of a pending key alone. -/
  reports : ∀ r, a = .move (.report r) → ∀ key ∈ unitPushOrder,
    key ∈ p.world.units.pendingUnitPushes →
      (p.step pushSystem a).world.units.value key = p.world.units.value key
  /-- A Settings change makes the keys it changes pending. -/
  queues : ∀ options, a = .move (.settings options) → ∀ key ∈ unitPushOrder,
    (p.step pushSystem a).world.units.value key ≠ p.world.units.value key →
      key ∈ (p.step pushSystem a).world.units.pendingUnitPushes

theorem Delivering.losesNothing (h : Delivering p) (a : PushAction) : LosesNothing p a := by
  refine ⟨(h.step a).exclusive.unique, fun turn hturn key command payload he => ?_,
    fun turn hturn he => ?_, fun key hmem hno => ?_, ?_, ?_⟩
  · obtain ⟨hwaits, hdone⟩ := h.turn_spec hturn
    cases hτ : (p.step pushSystem a).tasks turn.task with
    | some τ =>
      have hlabel := (hwaits τ hτ).sets key command payload he
      exact ⟨⟨τ, hτ, by rw [hlabel]; rfl⟩,
        (hwaits τ hτ).pending key payload (by rw [hlabel]; rfl)⟩
    | none =>
      have hevents : p.emitted pushSystem a = [] := (hdone hτ).events
      rw [hevents] at he
      exact absurd he List.not_mem_nil
  · obtain ⟨hwaits, hdone⟩ := h.turn_spec hturn
    cases hτ : (p.step pushSystem a).tasks turn.task with
    | some τ => exact ⟨τ, hτ, by rw [(hwaits τ hτ).home he]; rfl⟩
    | none =>
      have hevents : p.emitted pushSystem a = [] := (hdone hτ).events
      rw [hevents] at he
      exact absurd he List.not_mem_nil
  · cases hturn : p.turn pushSystem a with
    | some turn =>
      have hanswered := h.turn_discards hturn key hmem hno
      refine ⟨turn, rfl, hanswered, ?_⟩
      -- the call waited in the middle of this very send
      have hsending : ∃ l r, turn.resumed = some (l, r) ∧
          l.sending = some (key, (p.world.units.pushCommand key).2) := by
        rcases hanswered with ⟨r, hresumed⟩ | hresumed
        · exact ⟨_, r, hresumed, rfl⟩
        · exact ⟨_, _, hresumed, rfl⟩
      obtain ⟨l, r, hresumed, hl⟩ := hsending
      rcases Pool.turn_cases hturn with ⟨_, hnone, _⟩ | ⟨τ, r', hτ, hcall, hsome, _⟩
      · cases hnone.symm.trans hresumed
      · cases hsome.symm.trans hresumed
        rw [hcall]
        exact h.sent _ τ key _ hτ hl
    | none => exact absurd (no_turn_pending hturn hmem) hno
  · rintro r rfl key hkey hpending
    exact UnitPreferences.sync_keeps_pending hkey hpending
  · rintro options rfl key hkey hne
    show key ∈ (p.world.units.handleUnitOptionsChange options).1.pendingUnitPushes
    rw [UnitPreferences.handle_pending, Finset.mem_union]
    refine Or.inr (UnitPreferences.mem_changed.mpr ⟨hkey, fun hsame => hne ?_⟩)
    show (p.world.units.handleUnitOptionsChange options).1.value key = _
    rw [UnitPreferences.handle_value hkey, hsame]

/-- **Unit pushes lose no change**, in any run: batches do not overlap, a SET goes out only for a
pending key, a key stays pending until a send of its current value was acknowledged or timed out, and
a report never changes the value of a pending key. -/
theorem pushes_lose_nothing (w : PushWorld) (l : List PushAction) :
    AllSteps (Pool.step pushSystem) LosesNothing (Pool.idle w) l :=
  AllSteps.of_kept (fun _ a h => ⟨h.step a, h.losesNothing a⟩) l (delivering_idle w)

end XBloom.Units
