/-
# XBloom.Info.Attempts — what a segment does to the loops

It depends on whose segment it is.  `Begins`, `Goes` and `Finishes` are a loop's: it re-sends at most one
handshake before it waits again, and has one fewer left then.  `LinkEffect` is that of the calls that make
and give up the link.  `program_passes` has them for every segment of every call.
-/
import XBloom.Info.Retries

namespace XBloom.Info

open XBloom.Async XBloom.Logic

/-! ## Points and events -/

/-- The loop that waits at a point. -/
def LinkPoint.loop : LinkPoint → Option ℕ
  | sleeping loop _ => some loop
  | reading loop _ _ => some loop
  | sending loop _ => some loop
  | refreshingFor loop _ => some loop
  | _ => none

/-- The handshakes it may still re-send. -/
def LinkPoint.left : LinkPoint → ℕ
  | sleeping _ left => left
  | reading _ left _ => left
  | sending _ left => left
  | refreshingFor _ left => left
  | _ => 0

/-- A handshake that this loop re-sends. -/
def LinkEvent.resentBy (loop : ℕ) : LinkEvent → Bool
  | resent loop' _ => decide (loop' = loop)
  | _ => false

/-! ## Worlds -/

/-- Serial numbers and versions may have been read. -/
def Learns (w w' : LinkWorld) : Prop :=
  ∃ serials versions, w' = { w with serials := serials, versions := versions }

/-- Nothing has happened to the loops. -/
def Elsewhere (w w' : LinkWorld) : Prop :=
  ∃ client made linked bare locked manual, w' = { w with
    client := client, made := made, linked := linked, bare := bare, locked := locked,
    manualDisconnect := manual }

/-- The world with a further loop. -/
def LinkWorld.withLoop (w : LinkWorld) : LinkWorld :=
  { w with machineInfoTask := some w.loops, loops := w.loops + 1 }

section
variable {w w' w'' : LinkWorld}

theorem Learns.refl (w : LinkWorld) : Learns w w := ⟨w.serials, w.versions, rfl⟩

theorem Learns.setKnown (h : Learns w w') (client : ℕ) (char : DeviceInfo) :
    Learns w (setKnown client char w') := by
  obtain ⟨serials, versions, rfl⟩ := h
  cases char with
  | serial => exact ⟨_, _, rfl⟩
  | firmware => exact ⟨_, _, rfl⟩
  | software => exact ⟨_, _, rfl⟩

theorem Elsewhere.refl (w : LinkWorld) : Elsewhere w w :=
  ⟨w.client, w.made, w.linked, w.bare, w.locked, w.manualDisconnect, rfl⟩

theorem Elsewhere.trans (h : Elsewhere w w') (h' : Elsewhere w' w'') : Elsewhere w w'' := by
  obtain ⟨_, _, _, _, _, _, rfl⟩ := h
  obtain ⟨client, made, linked, bare, locked, manual, rfl⟩ := h'
  exact ⟨client, made, linked, bare, locked, manual, rfl⟩

/-- The loops take no notice of the rest. -/
theorem Elsewhere.looping (h : Elsewhere w w') : w'.looping = w.looping := by
  obtain ⟨_, _, _, _, _, _, rfl⟩ := h
  rfl

theorem Elsewhere.cancelLoop (h : Elsewhere w w') : Elsewhere w.cancelLoop w'.cancelLoop := by
  obtain ⟨client, made, linked, bare, locked, manual, rfl⟩ := h
  rcases w with ⟨_, _, _, _, _, _, _, _, _ | loop, _, _, _, _⟩
  · exact ⟨client, made, linked, bare, locked, manual, rfl⟩
  · exact ⟨client, made, linked, bare, locked, manual, rfl⟩

theorem Elsewhere.withLoop (h : Elsewhere w w') : Elsewhere w.withLoop w'.withLoop := by
  obtain ⟨client, made, linked, bare, locked, manual, rfl⟩ := h
  exact ⟨client, made, linked, bare, locked, manual, rfl⟩

end

/-! ## Segments -/

/-- A segment. -/
abbrev LinkSegment := Segment LinkWorld LinkEvent LinkPoint LinkAnswer

/-- A loop begins. -/
structure Begins (loop : ℕ) (σ : LinkSegment) : Prop where
  start : σ.resumed = none
  created : loop < σ.before.loops
  once : loop ∉ σ.before.begun
  now : σ.now = { σ.before with begun := insert loop σ.before.begun }
  events : σ.events = [.started loop]

/-- A loop goes on: it has been resumed where it could have been cancelled, and may still re-send so many
handshakes. -/
structure Goes (loop left : ℕ) (σ : LinkSegment) : Prop where
  alive : loop ∉ σ.before.cancelled
  now : Learns σ.before σ.now
  resumed : ∃ l r, σ.resumed = some (l, r) ∧ l.loop = some loop ∧
    ((σ.events = [] ∧ left ≤ l.left) ∨ ∃ client, σ.events = [.resent loop client] ∧ left < l.left)

/-- A loop comes to its end, or is brought to it. -/
structure Finishes (loop : ℕ) (σ : LinkSegment) : Prop where
  resumed : ∃ l r, σ.resumed = some (l, r) ∧ l.loop = some loop
  now : ∃ w, Learns σ.before w ∧ σ.now = { w with done := insert loop w.done }
  events : ∀ e ∈ σ.events, e = .asksSettings

/-- What the other calls do to the loops: nothing; or the link is given up, and the loop cancelled; or,
where none is alive, one is created. -/
inductive LinkEffect (σ : LinkSegment) : Prop where
  | none (now : Elsewhere σ.before σ.now) (events : ∀ e ∈ σ.events, e = .asksSettings)
  | gaveUp (now : Elsewhere σ.before.cancelLoop σ.now) (events : σ.events = [.gaveUp])
  | created (idle : σ.before.looping = false) (now : Elsewhere σ.before.withLoop σ.now)
      (events : ∃ es, σ.events = .scheduled σ.before.loops :: es ∧ ∀ e ∈ es, e = .asksSettings)

/-- A segment that began as another call, or resumed one. -/
def OfLink (σ : LinkSegment) : Prop := ∀ l r, σ.resumed = some (l, r) → l.loop = none

/-- **How a segment ends that waits.** -/
def Waits (l : LinkPoint) (σ : LinkSegment) : Prop :=
  match l.loop with
  | some loop => (Begins loop σ ∧ l.left ≤ machineInfoRetryDelays.length) ∨ Goes loop l.left σ
  | none => LinkEffect σ ∧ OfLink σ

/-- **How a call ends.** -/
def Ends (σ : LinkSegment) : Prop := (∃ loop, Finishes loop σ) ∨ (LinkEffect σ ∧ OfLink σ)

/-! ### The loop's -/

/-- In a loop, since it was resumed. -/
structure InLoop (loop left : ℕ) (σ : LinkSegment) : Prop where
  alive : loop ∉ σ.before.cancelled
  now : Learns σ.before σ.now
  events : σ.events = []
  resumed : ∃ l r, σ.resumed = some (l, r) ∧ l.loop = some loop ∧ left ≤ l.left

/-- A loop's last segment, so far. -/
structure Leaves (loop : ℕ) (σ : LinkSegment) : Prop where
  now : Learns σ.before σ.now
  events : ∀ e ∈ σ.events, e = .asksSettings
  resumed : ∃ l r, σ.resumed = some (l, r) ∧ l.loop = some loop

section
variable {loop left : ℕ} {σ : LinkSegment}

theorem InLoop.leaves (h : InLoop loop left σ) : Leaves loop σ := by
  obtain ⟨l, r, hresumed, hl, _⟩ := h.resumed
  refine ⟨h.now, fun e he => ?_, l, r, hresumed, hl⟩
  rw [h.events] at he
  cases he

theorem InLoop.mono (h : InLoop loop left σ) {left' : ℕ} (hle : left' ≤ left) :
    InLoop loop left' σ := by
  obtain ⟨l, r, hresumed, hl, hleft⟩ := h.resumed
  exact ⟨h.alive, h.now, h.events, l, r, hresumed, hl, hle.trans hleft⟩

/-- From one point of a loop to the next. -/
theorem InLoop.waits {l : LinkPoint} (h : InLoop loop left σ) (hl : l.loop = some loop)
    (hleft : l.left ≤ left) : Waits l σ := by
  unfold Waits
  rw [hl]
  obtain ⟨l₀, r, hresumed, hl₀, hleft₀⟩ := h.resumed
  exact Or.inr ⟨h.alive, h.now, l₀, r, hresumed, hl₀, Or.inl ⟨h.events, hleft.trans hleft₀⟩⟩

/-- The rule of an await in a loop. -/
theorem awaitIn_passes {l : LinkPoint} {A : LinkSegment → Prop} (hl : l.loop = some loop)
    (hA : ∀ σ, A σ → Waits l σ) :
    Passes Waits A (awaitIn loop l) (fun _ => InLoop loop l.left) fun _ => Leaves loop := by
  refine .bind (Q := fun r σ => σ.now = σ.before ∧ σ.events = [] ∧ σ.resumed = some (l, r))
    (.await hA fun r w => ⟨rfl, rfl, rfl⟩) fun r => .world fun w => ?_
  split
  · refine .throw ?_
    rintro σ ⟨⟨hnow, hevents, hresumed⟩, -⟩
    refine ⟨hnow ▸ Learns.refl _, fun e he => ?_, l, r, hresumed, hl⟩
    rw [hevents] at he
    cases he
  · rename_i halive
    refine .pure ?_
    rintro σ ⟨⟨hnow, hevents, hresumed⟩, rfl⟩
    exact ⟨hnow ▸ halive, hnow ▸ Learns.refl _, hevents, l, r, hresumed, hl, le_refl _⟩

theorem readChar_passes (client : ℕ) (char : DeviceInfo) :
    Passes Waits (InLoop loop left) (readChar loop left client char) (fun _ => InLoop loop left)
      fun _ => Leaves loop := by
  refine .world fun w => ?_
  split
  · exact .pure fun σ h => h.1
  · refine .bind (awaitIn_passes rfl fun σ h => h.1.waits rfl (le_refl left)) fun r => ?_
    split
    · exact .assign fun σ h => ⟨h.alive, h.now.setKnown client char, h.events, h.resumed⟩
    · exact .pure fun σ h => h

theorem readChars_passes (client : ℕ) :
    Passes Waits (InLoop loop left) (readChars loop left client) (fun _ => InLoop loop left)
      fun _ => Leaves loop :=
  .bind (readChar_passes client .serial) fun _ => .bind (readChar_passes client .firmware) fun _ =>
    .bind (readChar_passes client .software) fun _ => .world fun _ => .pure fun _ h => h.1

theorem tryReadDeviceInfoChars_passes (client : ℕ) :
    Passes Waits (InLoop loop left) (tryReadDeviceInfoChars loop left client)
      (fun _ => InLoop loop left) fun _ => Leaves loop := by
  refine .world fun w => ?_
  split
  · exact .pure fun σ h => h.1
  · exact (readChars_passes client).pre fun σ h => h.1

theorem arrived_passes (left' : ℕ) (hleft : left' ≤ left) :
    Passes Waits (InLoop loop left) (arrived loop left') (fun _ => Leaves loop)
      fun _ => Leaves loop := by
  refine .bind (awaitIn_passes rfl fun σ h => h.waits rfl hleft) fun _ => .emit fun σ h => ?_
  obtain ⟨l, r, hresumed, hl, _⟩ := h.resumed
  refine ⟨h.now, fun e he => ?_, l, r, hresumed, hl⟩
  have he : e ∈ σ.events ++ [.asksSettings] := he
  rw [h.events] at he
  exact List.mem_singleton.mp he

theorem resendHandshake_passes :
    Passes Waits (InLoop loop (left + 1)) (resendHandshake loop left) (fun _ => InLoop loop left)
      fun _ => Leaves loop := by
  refine .world fun w => ?_
  split
  · exact .pure fun σ h => h.1.mono (Nat.le_succ left)
  · rename_i client _
    refine .bind (Q := fun _ σ => Goes loop left σ) (.emit fun σ h => ?_) fun _ =>
      .bind (awaitIn_passes rfl fun σ h => Or.inr h) fun _ => .pure fun σ h => h
    obtain ⟨l, r, hresumed, hl, hleft⟩ := h.1.resumed
    refine ⟨h.1.alive, h.1.now, l, r, hresumed, hl, Or.inr ⟨client, ?_, hleft⟩⟩
    show σ.events ++ _ = _
    rw [h.1.events]
    rfl

/-- One attempt, and those after it. -/
theorem machineInfoAttempts_cons {A : LinkSegment → Prop} {delay : ℕ} {delays : List ℕ}
    (hA : ∀ σ, A σ → Waits (.sleeping loop (delays.length + 1)) σ)
    (hrest : Passes Waits (InLoop loop delays.length) (machineInfoAttempts loop delays)
      (fun _ => Leaves loop) fun _ => Leaves loop) :
    Passes Waits A (machineInfoAttempts loop (delay :: delays)) (fun _ => Leaves loop)
      fun _ => Leaves loop := by
  refine .bind (awaitIn_passes rfl hA) fun _ => .world fun w => ?_
  have hstart : Passes Waits (InLoop loop (delays.length + 1)) (arrived loop delays.length)
      (fun _ => Leaves loop) fun _ => Leaves loop := arrived_passes _ (Nat.le_succ _)
  split
  · exact .pure fun σ h => h.1.leaves
  · split
    · exact .pure fun σ h => h.1.leaves
    · split
      · exact hstart.pre fun σ h => h.1
      · refine .bind ((tryReadDeviceInfoChars_passes _).pre fun σ h => h.1) fun found => ?_
        split
        · refine .world fun w => ?_
          split
          · exact .throw fun σ h => h.1.leaves
          · exact hstart.pre fun σ h => h.1
        · exact .bind resendHandshake_passes fun _ => hrest

/-- The induction is on the delays that are left. -/
theorem machineInfoAttempts_passes (delays : List ℕ) :
    Passes Waits (InLoop loop delays.length) (machineInfoAttempts loop delays) (fun _ => Leaves loop)
      fun _ => Leaves loop := by
  induction delays with
  | nil => exact .pure fun σ h => h.leaves
  | cons delay delays ih =>
    exact machineInfoAttempts_cons (fun σ h => h.waits rfl (le_refl _)) ih

/-- A call that begins. -/
def Fresh (σ : LinkSegment) : Prop := σ.now = σ.before ∧ σ.resumed = none ∧ σ.events = []

theorem Fresh.nothing (h : Fresh σ) : LinkEffect σ ∧ OfLink σ := by
  obtain ⟨hnow, hresumed, hevents⟩ := h
  refine ⟨.none (hnow ▸ Elsewhere.refl _) fun e he => ?_, fun l r hr => ?_⟩
  · rw [hevents] at he
    cases he
  · rw [hresumed] at hr
    cases hr

/-- Every segment of a loop. -/
theorem machineInfoRetryLoop_passes :
    Passes Waits Fresh (machineInfoRetryLoop loop) (fun _ => Ends) fun _ => Ends := by
  refine .world fun w => ?_
  split
  · rename_i hcreated
    refine .bind (Q := fun _ σ => σ.resumed = none ∧ loop < σ.before.loops ∧ loop ∉ σ.before.begun ∧
      σ.now = { σ.before with begun := insert loop σ.before.begun } ∧ σ.events = [])
      (.assign ?_) fun _ => .bind (Q := fun _ => Begins loop) (.emit ?_) fun _ =>
        .bind (Q := fun _ => Leaves loop) (.attempt ?_) fun _ => .assign fun σ h => ?_
    · rintro σ ⟨⟨hnow, hresumed, hevents⟩, rfl⟩
      rw [hnow] at hcreated
      exact ⟨hresumed, hcreated.1, hcreated.2, by rw [hnow], hevents⟩
    · rintro σ ⟨hresumed, hbelow, hnew, hnow, hevents⟩
      exact ⟨hresumed, hbelow, hnew, hnow, by rw [hevents]; rfl⟩
    · exact machineInfoAttempts_cons (fun σ h => Or.inl ⟨h, le_refl _⟩) (machineInfoAttempts_passes _)
    · exact Or.inl ⟨loop, h.resumed, ⟨σ.now, h.now, rfl⟩, h.events⟩
  · exact .pure fun σ h => Or.inr h.1.nothing

end

/-! ### The link's -/

/-- A call that has done nothing to the loops. -/
structure Calm (σ : LinkSegment) : Prop where
  now : Elsewhere σ.before σ.now
  events : σ.events = []
  ofLink : OfLink σ

section
variable {σ : LinkSegment}

theorem Fresh.calm (h : Fresh σ) : Calm σ :=
  ⟨h.1 ▸ Elsewhere.refl _, h.2.2, h.nothing.2⟩

theorem Calm.effect (h : Calm σ) : LinkEffect σ ∧ OfLink σ := by
  refine ⟨.none h.now fun e he => ?_, h.ofLink⟩
  rw [h.events] at he
  cases he

/-- A call resumed at a point of its own. -/
theorem calm_start {l : LinkPoint} (hl : l.loop = none) (r : LinkAnswer) (w : LinkWorld) :
    Calm (.start (some (l, r)) w) := by
  refine ⟨Elsewhere.refl w, rfl, fun l' r' h => ?_⟩
  rw [← (Prod.mk.inj (Option.some.inj h)).1]
  exact hl

theorem Calm.moves (h : Calm σ) {w : LinkWorld} (hw : Elsewhere σ.now w) : Calm { σ with now := w } :=
  ⟨h.now.trans hw, h.events, h.ofLink⟩

/-- An await of a call that has done nothing. -/
theorem await_calm {l : LinkPoint} (hl : l.loop = none) {A : LinkSegment → Prop}
    (hA : ∀ σ, A σ → LinkEffect σ ∧ OfLink σ) :
    Passes Waits A (Routine.await l : LinkRoutine LinkAnswer) (fun _ => Calm) fun _ => Ends := by
  refine .await (fun σ h => ?_) fun r w => calm_start hl r w
  unfold Waits
  rw [hl]
  exact hA σ h

/-- What has been done to the loops stays done. -/
theorem LinkEffect.moves (h : LinkEffect σ) {w : LinkWorld} (hw : Elsewhere σ.now w) :
    LinkEffect { σ with now := w } := by
  cases h with
  | none now events => exact .none (now.trans hw) events
  | gaveUp now events => exact .gaveUp (now.trans hw) events
  | created idle now events => exact .created idle (now.trans hw) events

/-- The link has not been given up. -/
def Holding (σ : LinkSegment) : Prop := LinkEffect σ ∧ OfLink σ ∧ ∀ e ∈ σ.events, e ≠ .gaveUp

theorem Calm.holding (h : Calm σ) : Holding σ := by
  refine ⟨h.effect.1, h.ofLink, fun e he => ?_⟩
  rw [h.events] at he
  cases he

theorem Holding.asks (h : Holding σ) :
    Holding { σ with events := σ.events ++ [.asksSettings] } := by
  obtain ⟨heffect, hlink, hquiet⟩ := h
  refine ⟨?_, hlink, fun e he => ?_⟩
  · cases heffect with
    | none now events =>
      refine .none now fun e he => ?_
      exact (List.mem_append.mp he).elim (events e) List.mem_singleton.mp
    | gaveUp now events =>
      rw [events] at hquiet
      exact absurd rfl (hquiet _ (List.mem_singleton_self _))
    | created idle now events =>
      obtain ⟨es, hes, hasks⟩ := events
      refine .created idle now ⟨es ++ [.asksSettings], ?_, fun e he => ?_⟩
      · show σ.events ++ _ = _
        rw [hes, List.cons_append]
      · exact (List.mem_append.mp he).elim (hasks e) List.mem_singleton.mp
  · rcases List.mem_append.mp he with he | he
    · exact hquiet e he
    · rw [List.mem_singleton.mp he]
      decide

/-- `_schedule_machine_info_retry`. -/
theorem scheduleMachineInfoRetry_passes :
    Passes Waits Calm scheduleMachineInfoRetry (fun _ => Holding) fun _ => Ends := by
  refine .world fun w => ?_
  split
  · exact .pure fun σ h => h.1.holding
  · rename_i hidle
    split
    · exact .pure fun σ h => h.1.holding
    · refine .bind (Q := fun _ σ => σ.before.looping = false ∧ Elsewhere σ.before.withLoop σ.now ∧
        σ.events = [] ∧ OfLink σ ∧ w.loops = σ.before.loops) (.assign ?_) fun _ => .emit ?_
      · rintro σ ⟨hcalm, rfl⟩
        refine ⟨?_, hcalm.now.withLoop, hcalm.events, hcalm.ofLink, ?_⟩
        · rw [← hcalm.now.looping]
          exact Bool.eq_false_iff.mpr hidle
        · obtain ⟨_, _, _, _, _, _, hnow⟩ := hcalm.now
          rw [hnow]
      · rintro σ ⟨hlooping, hnow, hevents, hlink, hloops⟩
        have hscheduled : σ.events ++ [.scheduled w.loops] = [.scheduled σ.before.loops] := by
          rw [hevents, hloops]
          rfl
        refine ⟨.created hlooping hnow ⟨[], hscheduled, nofun⟩, hlink, fun e he => ?_⟩
        have he : e ∈ σ.events ++ [.scheduled w.loops] := he
        rw [hscheduled] at he
        rw [List.mem_singleton.mp he]
        exact nofun

theorem asyncConnect_passes : Passes Waits Fresh asyncConnect (fun _ => Ends) fun _ => Ends := by
  have hends : ∀ {f : LinkWorld → LinkWorld}, (∀ w, Elsewhere w (f w)) →
      Passes Waits Calm (Routine.assign f : LinkRoutine Unit) (fun _ => Ends) fun _ => Ends :=
    fun hf => .assign fun σ h => Or.inr (h.moves (hf σ.now)).effect
  refine .bind (await_calm rfl fun σ h => h.nothing) fun _ => .bind (Q := fun _ => Calm)
    (.assign fun σ h => h.moves ⟨_, _, _, _, _, _, rfl⟩) fun _ => .world fun w => ?_
  split
  · exact (hends fun w => ⟨_, _, _, _, _, _, rfl⟩).pre fun σ h => h.1
  refine .bind (Q := fun _ => Calm) (.assign fun σ h => h.1.moves ⟨_, _, _, _, _, _, rfl⟩) fun _ =>
    .bind (await_calm rfl fun σ h => h.effect) fun connected => ?_
  split
  · refine .bind (await_calm rfl fun σ h => h.effect) fun settled => ?_
    split
    · exact hends fun w => ⟨_, _, _, _, _, _, rfl⟩
    · refine .bind scheduleMachineInfoRetry_passes fun _ => .world fun w => .bind (Q := fun _ => Holding)
        (.when (fun _ => .emit fun σ h => h.1.asks) fun _ σ h => h.1) fun _ =>
          .assign fun σ h => Or.inr ⟨h.1.moves ⟨_, _, _, _, _, _, rfl⟩, h.2.1⟩
  · exact hends fun w => ⟨_, _, _, _, _, _, rfl⟩

theorem giveUp_passes :
    Passes Waits Calm giveUp (fun _ σ => LinkEffect σ ∧ OfLink σ) fun _ => Ends := by
  refine .bind (Q := fun _ σ => Elsewhere σ.before.cancelLoop σ.now ∧ σ.events = [] ∧ OfLink σ)
    (.assign fun σ h => ⟨h.now.cancelLoop, h.events, h.ofLink⟩) fun _ => .emit ?_
  rintro σ ⟨hnow, hevents, hlink⟩
  refine ⟨.gaveUp hnow ?_, hlink⟩
  show σ.events ++ _ = _
  rw [hevents]
  rfl

theorem asyncDisconnect_passes : Passes Waits Fresh asyncDisconnect (fun _ => Ends) fun _ => Ends := by
  refine .bind (Q := fun _ => Calm) (.assign fun σ h => h.calm.moves ⟨_, _, _, _, _, _, rfl⟩) fun _ =>
    .bind giveUp_passes fun _ => .bind (Q := fun _ σ => LinkEffect σ ∧ OfLink σ) ?_ fun _ =>
      .bind (await_calm rfl fun σ h => h) fun _ => .pure fun σ h => Or.inr h.effect
  refine .world fun w => ?_
  split
  · exact .pure fun σ h => h.1
  · exact .bind (await_calm rfl fun σ h => h.1) fun r =>
      .assign fun σ h => (h.moves ⟨_, _, _, _, _, _, rfl⟩).effect

theorem handleUnexpectedDisconnect_passes (client : ℕ) :
    Passes Waits Fresh (handleUnexpectedDisconnect client) (fun _ => Ends) fun _ => Ends := by
  refine .bind (Q := fun _ => Calm) (.assign fun σ h => h.calm.moves ⟨_, _, _, _, _, _, rfl⟩) fun _ =>
    .world fun w => ?_
  split
  · exact .pure fun σ h => Or.inr h.1.effect
  · exact .bind (giveUp_passes.pre fun σ h => h.1) fun _ =>
      .assign fun σ h => Or.inr ⟨h.1.moves ⟨_, _, _, _, _, _, rfl⟩, h.2⟩

end

theorem program_passes (c : LinkCall) (w : LinkWorld) :
    (linkSystem.program c).AllSegments Waits Ends (.start none w) := by
  have hpasses : Passes Waits Fresh c.routine (fun _ => Ends) fun _ => Ends := by
    cases c with
    | connect => exact asyncConnect_passes
    | disconnect => exact asyncDisconnect_passes
    | dropped client => exact handleUnexpectedDisconnect_passes client
    | loop n => exact machineInfoRetryLoop_passes
  exact hpasses.allSegments ⟨rfl, rfl, rfl⟩

end XBloom.Info
