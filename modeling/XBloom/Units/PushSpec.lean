/-
# XBloom.Units.PushSpec — what every segment of a push does

One lemma for each function of the push, over segments: a SET goes out for a pending key, from inside
the lock; a key is discarded only where its send was answered, and only if what was sent is still its
value; the values themselves are left alone.
-/
import XBloom.Async.Locks
import XBloom.Units.Push

namespace XBloom.Units

open XBloom.Async

/-- A segment of a push or of a connect. -/
abbrev PushSegment := Segment PushWorld PushEvent PushPoint PushResponse

/-! ## Assertions -/

/-- The SET command a call is sending, when it waits at this point. -/
def PushPoint.sending : PushPoint → Option (OptionKey × List OptionValue)
  | .written key payload => some (key, payload)
  | .acked key payload => some (key, payload)
  | .retryDelay key payload => some (key, payload)
  | _ => none

/-- `_unit_push_lock`: a batch is what goes on inside it, its 8022 included. -/
def unitPushLock : Lock PushWorld PushPoint where
  locked := PushWorld.unitPushLocked
  inside
    | .written _ _ | .acked _ _ | .retryDelay _ _ | .pageSettle | .homeWritten | .homeAcked => true
    | _ => false
  waiting
    | .pushLock => true
    | _ => false

/-- The send of a key is over: its echo came, or the time for the echo or for the write ran out. -/
def Answered (key : OptionKey) (payload : List OptionValue) (σ : PushSegment) : Prop :=
  (∃ r, σ.resumed = some (.acked key payload, r)) ∨
    σ.resumed = some (.written key payload, .timedOut)

/-- **A key leaves the pending ones** only when its send is over, and carried its current value. -/
def Discards (σ : PushSegment) : Prop :=
  ∀ key ∈ σ.before.units.pendingUnitPushes, key ∉ σ.now.units.pendingUnitPushes →
    Answered key (σ.before.units.pushCommand key).2 σ

/-- The values are as they were. -/
def SameValues (σ : PushSegment) : Prop :=
  ∀ key, σ.now.units.value key = σ.before.units.value key

/-- What a segment finds: the lock as it should be, and the key it is sending among the pending ones. -/
structure Finds (σ : PushSegment) : Prop where
  lock : unitPushLock.Finds σ
  pending : ∀ l r key payload, σ.resumed = some (l, r) → l.sending = some (key, payload) →
    key ∈ σ.before.units.pendingUnitPushes

/-- So far the segment sent nothing, and kept what it has to. -/
structure Silent (σ : PushSegment) : Prop where
  lock : unitPushLock.Keeps σ
  discards : Discards σ
  values : SameValues σ
  events : σ.events = []

/-- The same inside the lock. -/
structure InBatch (σ : PushSegment) : Prop where
  silent : Silent σ
  holds : unitPushLock.Holds σ

/-- The same while a key is being sent. -/
structure Sending (key : OptionKey) (payload : List OptionValue) (σ : PushSegment) : Prop where
  batch : InBatch σ
  pending : key ∈ σ.now.units.pendingUnitPushes

/-- **What a segment that ends in waiting does.** -/
structure Waits (l : PushPoint) (σ : PushSegment) : Prop where
  lock : unitPushLock.Respects σ l
  discards : Discards σ
  values : SameValues σ
  pending : ∀ key payload, l.sending = some (key, payload) → key ∈ σ.now.units.pendingUnitPushes
  sets : ∀ key command payload, .set key command payload ∈ σ.events → l = .written key payload
  home : .home ∈ σ.events → l = .homeWritten
  sent : ∀ key payload, l.sending = some (key, payload) →
    (∃ command, .set key command payload ∈ σ.events) ∨
      ∃ l' r, σ.resumed = some (l', r) ∧ l'.sending = some (key, payload)

/-- The specification of a segment that waits, given what it finds. -/
abbrev SegmentWaits (l : PushPoint) (σ : PushSegment) : Prop := Finds σ → Waits l σ

variable {σ : PushSegment} {A : PushSegment → Prop}

/-- What a segment finds does not change while it runs. -/
theorem Finds.so_far {w : PushWorld} {es : List PushEvent}
    (h : Finds { σ with now := w, events := es }) : Finds σ :=
  ⟨⟨h.lock.inside, h.lock.waiting⟩, h.pending⟩

theorem silent_start (resumed : Option (PushPoint × PushResponse)) (w : PushWorld) :
    Silent (.start resumed w) :=
  ⟨Lock.keeps_start _ _, fun _ h hno => absurd h hno, fun _ => rfl, rfl⟩

/-- A call that is resumed inside the lock. -/
theorem inBatch_start {l : PushPoint} {r : PushResponse} {w : PushWorld}
    (hinside : unitPushLock.inside l = true) (h : Finds (.start (some (l, r)) w)) :
    InBatch (.start (some (l, r)) w) := ⟨silent_start _ _, Lock.holds_start hinside h.lock⟩

/-- A call that is resumed in the middle of a send. -/
theorem sending_start {l : PushPoint} {r : PushResponse} {w : PushWorld} {key : OptionKey}
    {payload : List OptionValue} (hl : l.sending = some (key, payload))
    (h : Finds (.start (some (l, r)) w)) : Sending key payload (.start (some (l, r)) w) := by
  refine ⟨inBatch_start ?_ h, h.pending l r key payload rfl hl⟩
  cases l <;> first | rfl | cases hl

/-- A segment that ends outside the lock. -/
theorem Silent.waits (h : Silent σ) {l : PushPoint} (hl : unitPushLock.inside l = false) :
    Waits l σ := by
  have hsending : l.sending = none := by cases l <;> first | rfl | cases hl
  refine ⟨⟨h.lock, fun hin => ?_⟩, h.discards, h.values, fun key payload hs => ?_,
    fun key command payload he => ?_, fun he => ?_, fun key payload hs => ?_⟩
  · rw [hl] at hin
    cases hin
  · rw [hsending] at hs
    cases hs
  · rw [h.events] at he
    cases he
  · rw [h.events] at he
    cases he
  · rw [hsending] at hs
    cases hs

/-- A segment that ends inside the lock, but not in the middle of a send. -/
theorem InBatch.waits (h : InBatch σ) {l : PushPoint} (hl : l.sending = none) : Waits l σ := by
  refine ⟨⟨h.silent.lock, fun _ => h.holds⟩, h.silent.discards, h.silent.values,
    fun key payload hs => ?_, fun key command payload he => ?_, fun he => ?_,
    fun key payload hs => ?_⟩
  · rw [hl] at hs
    cases hs
  · rw [h.silent.events] at he
    cases he
  · rw [h.silent.events] at he
    cases he
  · rw [hl] at hs
    cases hs

/-- A segment that goes on waiting in the middle of a send. -/
theorem Sending.waits {key : OptionKey} {payload : List OptionValue} (h : Sending key payload σ)
    {l l' : PushPoint} {r : PushResponse} (hl : l.sending = some (key, payload))
    (hresumed : σ.resumed = some (l', r)) (hl' : l'.sending = some (key, payload)) : Waits l σ := by
  refine ⟨⟨h.batch.silent.lock, fun _ => h.batch.holds⟩, h.batch.silent.discards,
    h.batch.silent.values, fun key' payload' hs => ?_, fun _ _ _ he => ?_, fun he => ?_,
    fun key' payload' hs => ?_⟩
  · cases hl.symm.trans hs
    exact h.pending
  · rw [h.batch.silent.events] at he
    cases he
  · rw [h.batch.silent.events] at he
    cases he
  · cases hl.symm.trans hs
    exact Or.inr ⟨l', r, hresumed, hl'⟩

/-- **A segment that sends a SET command.** -/
theorem Sending.sends {key : OptionKey} {payload : List OptionValue} (h : Sending key payload σ)
    (command : ℤ) :
    Waits (.written key payload) { σ with events := σ.events ++ [.set key command payload] } := by
  rw [h.batch.silent.events]
  refine ⟨⟨h.batch.silent.lock, fun _ => h.batch.holds⟩, h.batch.silent.discards,
    h.batch.silent.values, fun key' payload' hs => ?_, fun key' command' payload' he => ?_,
    fun he => ?_, fun key' payload' hs => ?_⟩
  · cases hs
    exact h.pending
  · cases List.mem_singleton.mp he
    rfl
  · cases List.mem_singleton.mp he
  · cases hs
    exact Or.inl ⟨command, List.mem_singleton.mpr rfl⟩

/-- A segment that sends 8022. -/
theorem InBatch.sendsHome (h : InBatch σ) :
    Waits .homeWritten { σ with events := σ.events ++ [.home] } := by
  rw [h.silent.events]
  refine ⟨⟨h.silent.lock, fun _ => h.holds⟩, h.silent.discards, h.silent.values,
    fun key payload hs => (by cases hs), fun key command payload he => ?_, fun _ => rfl,
    fun key payload hs => (by cases hs)⟩
  cases List.mem_singleton.mp he

/-! ## Sends -/

/-- **A send and its echo**, given what to make of each way it can end. -/
theorem sendAndWait_passes {c : ℕ} {event : PushEvent} {written acked : PushPoint}
    {Q : Unit → PushSegment → Prop} {X : SendError → PushSegment → Prop}
    (hsend : ∀ σ, A σ → SegmentWaits written { σ with events := σ.events ++ [event] })
    (hwritten : ∀ w, SegmentWaits acked (.start (some (written, .done)) w))
    (hdown : ∀ σ, A σ → X .other σ) (hfailed : ∀ w, X .other (.start (some (written, .failed)) w))
    (hlate : ∀ w, X .ackTimeout (.start (some (written, .timedOut)) w))
    (hacked : ∀ w, Q () (.start (some (acked, .done)) w))
    (htimedOut : ∀ r w, X .ackTimeout (.start (some (acked, r)) w)) :
    Passes SegmentWaits A (sendAndWait c event written acked) Q X := by
  -- first the write, which may fail or time out; only then the echo
  refine Passes.bind (Q := fun _ σ => ∃ w, σ = .start (some (written, .done)) w) ?_ fun _ => ?_
  · refine Passes.world fun w => ?_
    split
    · refine Passes.bind (Q := fun _ σ => SegmentWaits written σ)
        (Passes.emit fun σ hA => hsend σ hA.1) fun _ => ?_
      refine Passes.bind (Q := fun r σ => ∃ w, σ = .start (some (written, r)) w)
        (Passes.await (fun σ h => h) fun r w => ⟨w, rfl⟩) fun r => ?_
      cases r with
      | done => exact Passes.pure fun σ h => h
      | timedOut =>
        refine Passes.throw ?_
        rintro σ ⟨w, rfl⟩
        exact hlate w
      | failed =>
        refine Passes.throw ?_
        rintro σ ⟨w, rfl⟩
        exact hfailed w
    · exact Passes.throw fun σ hA => hdown σ hA.1
  · refine Passes.bind (Q := fun r σ => ∃ w, σ = .start (some (acked, r)) w)
      (Passes.await ?_ fun r w => ⟨w, rfl⟩) fun r => ?_
    · rintro σ ⟨w, rfl⟩
      exact hwritten w
    · split
      · rename_i hdone
        refine Passes.pure ?_
        rintro σ ⟨w, rfl⟩
        rw [hdone]
        exact hacked w
      · refine Passes.throw ?_
        rintro σ ⟨w, rfl⟩
        exact htimedOut r w

/-- What the sending of a key raises: with a timeout the send is over. -/
def SendRaises (key : OptionKey) (payload : List OptionValue) (e : SendError) (σ : PushSegment) :
    Prop := Finds σ → Sending key payload σ ∧ (e = .ackTimeout → Answered key payload σ)

/-- **One SET command.** -/
theorem sendSet_passes (c : ℕ) (key : OptionKey) (command : ℤ) (payload : List OptionValue) :
    Passes SegmentWaits (fun σ => Finds σ → Sending key payload σ) (sendSet c key command payload)
      (fun _ σ => Finds σ → Sending key payload σ ∧ Answered key payload σ)
      (SendRaises key payload) := by
  refine sendAndWait_passes (fun σ h hfinds => (h hfinds.so_far).sends command)
    (fun w hfinds => (sending_start rfl hfinds).waits rfl rfl rfl)
    (fun σ h hfinds => ⟨h hfinds, fun he => (by cases he)⟩)
    (fun w hfinds => ⟨sending_start rfl hfinds, fun he => (by cases he)⟩)
    (fun w hfinds => ⟨sending_start rfl hfinds, fun _ => .inr rfl⟩)
    (fun w hfinds => ⟨sending_start rfl hfinds, .inl ⟨_, rfl⟩⟩)
    fun r w hfinds => ⟨sending_start rfl hfinds, fun _ => .inl ⟨r, rfl⟩⟩

/-- **All the attempts**, by their number. -/
theorem sendAttempts_passes (c : ℕ) (key : OptionKey) (command : ℤ) (payload : List OptionValue)
    (asleep : Bool) (n : ℕ) :
    Passes SegmentWaits (fun σ => Finds σ → Sending key payload σ)
      (sendAttempts c key command payload asleep n)
      (fun _ σ => Finds σ → Sending key payload σ ∧ Answered key payload σ)
      (SendRaises key payload) := by
  induction n with
  | zero => exact sendSet_passes c key command payload
  | succ n ih =>
    refine Passes.bind (Q := fun sent σ => Finds σ → Sending key payload σ ∧
      (sent ≠ .error .other → Answered key payload σ)) (Passes.attempt
        ((sendSet_passes c key command payload).weaken (fun σ h => h)
          (fun _ σ h hfinds => ⟨(h hfinds).1, fun _ => (h hfinds).2⟩)
          fun e σ h hfinds => ⟨(h hfinds).1, fun hne => (h hfinds).2 ?_⟩)) fun sent => ?_
    · cases e with
      | ackTimeout => rfl
      | other => exact absurd rfl hne
    · match sent with
      | .ok () => exact Passes.pure fun σ h hfinds => ⟨(h hfinds).1, (h hfinds).2 (by simp)⟩
      | .error .ackTimeout =>
        refine Passes.bind (Q := fun _ σ => Finds σ → Sending key payload σ)
          (Passes.when (fun _ => ?_) fun _ σ h hfinds => (h hfinds).1) fun _ => ih
        refine Passes.bind (Q := fun _ σ => Finds σ → Sending key payload σ)
          (Passes.await (fun σ h hfinds => ?_) fun r w hfinds => sending_start rfl hfinds)
          fun _ => Passes.pure fun σ h => h
        -- the wait before the next attempt belongs to the send that was just answered
        obtain ⟨hsending, hanswered⟩ := h hfinds
        rcases hanswered (by simp) with ⟨r, hresumed⟩ | hresumed
        · exact hsending.waits rfl hresumed rfl
        · exact hsending.waits rfl hresumed rfl
      | .error .other =>
        exact Passes.throw fun σ h hfinds => ⟨(h hfinds).1, fun he => (by cases he)⟩

theorem asyncSendUnitCommand_passes (client : Option ℕ) (key : OptionKey) (command : ℤ)
    (payload : List OptionValue) :
    Passes SegmentWaits (fun σ => Finds σ → Sending key payload σ)
      (asyncSendUnitCommand client key command payload)
      (fun _ σ => Finds σ → Sending key payload σ ∧ Answered key payload σ)
      (SendRaises key payload) := by
  cases client with
  | none => exact Passes.throw fun σ h hfinds => ⟨h hfinds, fun he => (by cases he)⟩
  | some c =>
    exact Passes.world fun w => (sendAttempts_passes c key command payload _ _).pre fun σ h => h.1

/-- **Back home**, inside the lock. -/
theorem asyncReturnMachineHome_passes (client : Option ℕ) :
    Passes SegmentWaits (fun σ => Finds σ → InBatch σ) (asyncReturnMachineHome client)
      (fun _ σ => Finds σ → InBatch σ) (fun _ σ => Finds σ → InBatch σ) := by
  refine Passes.bind (Q := fun _ σ => Finds σ → InBatch σ)
    (Passes.await (fun σ h hfinds => (h hfinds).waits rfl) fun r w hfinds => inBatch_start rfl hfinds)
    fun _ => ?_
  refine Passes.bind (Q := fun _ σ => Finds σ → InBatch σ) (Passes.attempt ?_)
    fun _ => Passes.pure fun σ h => h
  cases client with
  | none => exact Passes.throw fun σ h => h
  | some c =>
    exact sendAndWait_passes (fun σ h hfinds => (h hfinds.so_far).sendsHome)
      (fun w hfinds => (inBatch_start rfl hfinds).waits rfl) (fun σ h => h)
      (fun w hfinds => inBatch_start rfl hfinds) (fun w hfinds => inBatch_start rfl hfinds)
      (fun w hfinds => inBatch_start rfl hfinds) fun r w hfinds => inBatch_start rfl hfinds

/-! ## A batch -/

/-- The command of a key is made of its value. -/
theorem pushCommand_congr {u u' : UnitPreferences} (h : ∀ key, u.value key = u'.value key)
    (key : OptionKey) : u.pushCommand key = u'.pushCommand key := by
  have hweight : u.weightUnit = u'.weightUnit := h .weightUnit
  have htemp : u.tempUnit = u'.tempUnit := h .tempUnit
  have hwater : u.waterSource = u'.waterSource := h .waterSource
  unfold UnitPreferences.pushCommand
  rw [hweight, htemp, hwater]

/-- **The discard** of a key whose send is over. -/
theorem Sending.discard {key : OptionKey} {payload : List OptionValue} (h : Sending key payload σ)
    (hanswered : Answered key payload σ) :
    InBatch { σ with now := { σ.now with units := discardSent key payload σ.now.units } } := by
  unfold discardSent
  split
  · rename_i hcurrent
    refine ⟨⟨h.batch.silent.lock.frame rfl _, fun key' hmem hno => ?_, h.batch.silent.values,
      h.batch.silent.events⟩, h.batch.holds.frame rfl _⟩
    -- either it is the key that was sent, or it left earlier in this segment
    by_cases hsame : key' = key
    · rw [hsame, ← pushCommand_congr h.batch.silent.values key, hcurrent]
      exact hanswered
    · exact h.batch.silent.discards key' hmem fun hnow =>
        hno (Finset.mem_erase.mpr ⟨hsame, hnow⟩)
  · exact h.batch

/-- **The loop over the keys.** -/
theorem pushKeys_passes (client : Option ℕ) (keys : List OptionKey) (sent : Bool) :
    Passes SegmentWaits (fun σ => Finds σ → InBatch σ) (pushKeys client keys sent)
      (fun _ σ => Finds σ → InBatch σ) (fun _ σ => Finds σ → InBatch σ) := by
  induction keys generalizing sent with
  | nil => exact Passes.pure fun σ h => h
  | cons key rest ih =>
    refine Passes.world fun w => ?_
    split
    · exact (ih sent).pre fun σ h => h.1
    · rename_i hpending
      dsimp only
      refine Passes.bind (Q := fun outcome σ => Finds σ →
        Sending key (w.units.pushCommand key).2 σ ∧
          (outcome ≠ .error .other → Answered key (w.units.pushCommand key).2 σ))
        (Passes.attempt ((asyncSendUnitCommand_passes client key _ _).weaken
          (fun σ h hfinds => ⟨h.1 hfinds, ?_⟩) (fun _ σ h hfinds => ⟨(h hfinds).1, fun _ => (h hfinds).2⟩)
          fun e σ h hfinds => ⟨(h hfinds).1, fun hne => (h hfinds).2 ?_⟩)) fun outcome => ?_
      · rw [h.2]
        exact not_not.mp hpending
      · cases e with
        | ackTimeout => rfl
        | other => exact absurd rfl hne
      · split
        · exact Passes.pure fun σ h hfinds => (h hfinds).1.batch
        · rename_i hne
          refine Passes.bind (Q := fun _ σ => Finds σ → InBatch σ) (Passes.assign ?_) fun _ => ih true
          exact fun σ h hfinds => (h hfinds.so_far).1.discard ((h hfinds.so_far).2 hne)

theorem applyLocked_passes (client : Option ℕ) :
    Passes SegmentWaits (fun σ => Finds σ → InBatch σ) (applyLocked client)
      (fun _ σ => Finds σ → InBatch σ) (fun _ σ => Finds σ → InBatch σ) :=
  Passes.bind (pushKeys_passes client unitPushOrder false) fun _ =>
    Passes.when (fun _ => asyncReturnMachineHome_passes client) fun _ _ h => h

/-- **`_apply_unit_preferences`** from outside the lock. -/
theorem applyUnitPreferences_passes (client : Option ℕ) :
    Passes SegmentWaits (fun σ => Finds σ → Silent σ) (applyUnitPreferences client)
      (fun _ σ => Finds σ → Silent σ) (fun _ σ => Finds σ → Silent σ) := by
  refine Passes.world fun w => ?_
  refine Passes.bind (Q := fun _ σ => Finds σ → Silent σ ∧ σ.now.unitPushLocked = false) ?_ fun _ => ?_
  · refine Passes.when (fun _ => ?_) fun hfree σ h hfinds => ⟨h.1 hfinds, by rw [h.2, hfree]⟩
    refine Passes.bind (Q := fun _ σ => Finds σ → Silent σ ∧ σ.now.unitPushLocked = false)
      (Passes.await (fun σ h hfinds => (h.1 hfinds).waits rfl) fun r w hfinds =>
        ⟨silent_start _ _, hfinds.lock.waiting _ _ rfl rfl⟩) fun _ => Passes.pure fun σ h => h
  refine Passes.bind (Q := fun _ σ => Finds σ → InBatch σ) (Passes.assign ?_) fun _ => ?_
  · intro σ h hfinds
    obtain ⟨hsilent, hfree⟩ := h hfinds.so_far
    have hholds : unitPushLock.Holds { σ with now := { σ.now with unitPushLocked := true } } :=
      hsilent.lock.take hfree rfl
    exact ⟨⟨hholds.keeps, hsilent.discards, hsilent.values, hsilent.events⟩, hholds⟩
  refine Passes.bind (Q := fun _ σ => Finds σ → InBatch σ)
    (Passes.attempt (applyLocked_passes client)) fun applied => ?_
  refine Passes.bind (Q := fun _ σ => Finds σ → Silent σ) (Passes.assign ?_) fun _ =>
    Passes.lift (fun _ _ σ h => h) fun _ _ σ h => h
  intro σ h hfinds
  have hbatch := h hfinds.so_far
  exact ⟨hbatch.holds.release _, hbatch.silent.discards, hbatch.silent.values, hbatch.silent.events⟩

/-! ## The callers -/

/-- The world changes in what a push does not read. -/
theorem Silent.frame (h : Silent σ) {w : PushWorld} (hunits : w.units = σ.now.units)
    (hlock : w.unitPushLocked = σ.now.unitPushLocked) : Silent { σ with now := w } :=
  ⟨h.lock.frame hlock _, fun key hmem hno => h.discards key hmem fun hnow => hno (hunits ▸ hnow),
    fun key => (congrArg (·.value key) hunits).trans (h.values key), h.events⟩

/-- An await outside the lock. -/
theorem silent_await {l : PushPoint} (hl : unitPushLock.inside l = false) :
    Passes SegmentWaits (fun σ => Finds σ → Silent σ)
      (Routine.await l : Pushing PushResponse) (fun _ σ => Finds σ → Silent σ)
      (fun _ σ => Finds σ → Silent σ) :=
  Passes.await (fun _ h hfinds => (h hfinds).waits hl) fun _ _ _ => silent_start _ _

/-- An assignment that a push does not read. -/
theorem silent_assign {f : PushWorld → PushWorld} (hunits : ∀ w, (f w).units = w.units)
    (hlock : ∀ w, (f w).unitPushLocked = w.unitPushLocked) :
    Passes SegmentWaits (fun σ => Finds σ → Silent σ)
      (Routine.assign f : Pushing Unit) (fun _ σ => Finds σ → Silent σ)
      (fun _ σ => Finds σ → Silent σ) :=
  Passes.assign fun _ h hfinds => (h hfinds.so_far).frame (hunits _) (hlock _)

/-- A routine all of whose segments are silent outside the batches they run. -/
abbrev SilentOutside {α : Type} (x : Pushing α) : Prop :=
  Passes SegmentWaits (fun σ => Finds σ → Silent σ) x (fun _ σ => Finds σ → Silent σ)
    (fun _ σ => Finds σ → Silent σ)

/-- The body of a `try`. -/
theorem SilentOutside.attempt {α : Type} {x : Pushing α} (h : SilentOutside x) :
    SilentOutside (Routine.attempt x) := Passes.attempt h

theorem connectClient_passes (n : ℕ) : SilentOutside (connectClient n) := by
  refine Passes.bind (silent_await rfl) fun connected => ?_
  split
  · refine Passes.bind (silent_assign (fun _ => rfl) fun _ => rfl) fun _ => ?_
    refine Passes.world fun w => ?_
    refine Passes.bind (Q := fun _ σ => Finds σ → Silent σ)
      (Passes.when (fun _ => (applyUnitPreferences_passes _).pre fun σ h => h.1)
        fun _ σ h => h.1) fun _ => ?_
    refine Passes.bind (silent_await rfl) fun _ => ?_
    exact Passes.bind (silent_assign (fun _ => rfl) fun _ => rfl) fun _ => Passes.pure fun σ h => h
  · exact Passes.bind (silent_assign (fun _ => rfl) fun _ => rfl) fun _ => Passes.pure fun σ h => h

theorem connectLocked_passes : SilentOutside connectLocked := by
  refine Passes.world fun w => ?_
  split
  · exact Passes.pure fun σ h => h.1
  · refine Passes.bind (Q := fun _ σ => Finds σ → Silent σ)
      (Passes.pre (silent_assign (fun _ => rfl) fun _ => rfl) fun σ h => And.left h) fun _ => ?_
    refine Passes.bind (connectClient_passes _).attempt fun connected => ?_
    match connected with
    | .ok b => exact Passes.pure fun σ h => h
    | .error e =>
      exact Passes.bind (silent_assign (fun _ => rfl) fun _ => rfl) fun _ =>
        Passes.pure fun σ h => h

theorem asyncConnect_passes : SilentOutside asyncConnect := by
  refine Passes.world fun w => ?_
  refine Passes.bind (Q := fun _ σ => Finds σ → Silent σ) (Passes.when (fun _ => ?_) fun _ σ h => h.1)
    fun _ => ?_
  · exact Passes.bind ((silent_await rfl).pre fun σ h => h.1) fun _ => Passes.pure fun σ h => h
  refine Passes.bind (silent_assign (fun _ => rfl) fun _ => rfl) fun _ => ?_
  refine Passes.bind connectLocked_passes.attempt fun connected => ?_
  refine Passes.bind (silent_assign (fun _ => rfl) fun _ => rfl) fun _ => ?_
  exact Passes.lift (fun _ _ σ h => h) fun _ _ σ h => h

theorem ensureConnected_passes : SilentOutside ensureConnected := by
  refine Passes.world fun w => ?_
  split
  · exact Passes.pure fun σ h => h.1
  · split
    · exact asyncConnect_passes.pre fun σ h => h.1
    · exact Passes.pure fun σ h => h.1

theorem asyncPushUnitPreferences_passes : SilentOutside asyncPushUnitPreferences := by
  refine Passes.bind ensureConnected_passes.attempt fun outcome => ?_
  match outcome with
  | .error e => exact Passes.pure fun σ h => h
  | .ok b =>
    refine Passes.world fun w => Passes.when (fun _ => ?_) fun _ σ h => h.1
    exact Passes.world fun w' => (applyUnitPreferences_passes _).pre fun σ h => h.1.1

/-- **Every segment of every call** does what its end requires. -/
theorem pushProgram_passes (c : PushCall) (w : PushWorld) :
    (pushProgram c).AllSegments SegmentWaits (fun σ => Finds σ → Silent σ) (.start none w) := by
  cases c with
  | push => exact asyncPushUnitPreferences_passes.allSegments fun _ => silent_start _ _
  | connect => exact asyncConnect_passes.allSegments fun _ => silent_start _ _

end XBloom.Units
