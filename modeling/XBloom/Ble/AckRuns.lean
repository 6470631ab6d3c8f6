/-
# XBloom.Ble.AckRuns — `send_and_wait` calls in any interleaving

`send_and_wait` registers its future, sends, waits, and takes the future off the map in a `finally`.
The waits are await points, so any number of calls (with any command ids) run between one another, and
between their segments notifications, lost links and posted callbacks come in any order.

Each segment of a call is one of four (`Stops`, `Ends`); from them and `AckState.Sound` follows what
every run keeps (`Straight`).
-/
import XBloom.Ble.Acks
import XBloom.Async.Segments

namespace XBloom.Ble

open XBloom.Async XBloom.Logic XBloom.Py

/-! ## The calls -/

/-- The waiters, and whether the link is up. -/
structure AckWorld where
  acks : AckState := {}
  isConnected : Bool := false

/-- Where a call waits: for its write, or for its future. -/
inductive AckPoint where
  | write (command future : ℕ)
  | wait (command future : ℕ)
  deriving DecidableEq, Repr

/-- The command a call at this point sends. -/
def AckPoint.command : AckPoint → ℕ
  | .write id _ => id
  | .wait id _ => id

/-- Its future. -/
def AckPoint.future : AckPoint → ℕ
  | .write _ f => f
  | .wait _ f => f

/-- What an await comes back with: it returns, or it raises (a failed write, a timeout, the task
cancelled). -/
inductive AckResponse where
  | returns
  | raises
  deriving DecidableEq, Repr

/-- What a call shows: it has registered a future, it returned a frame, it raised. -/
inductive AckEvent where
  | began (command future : ℕ)
  | returned (command future : ℕ) (frame : Bytes)
  | raised (command future : ℕ)
  deriving DecidableEq, Repr

/-- A coroutine of the client. -/
abbrev AckRoutine (α : Type) := Routine AckWorld AckEvent AckPoint AckResponse PyErr α

/-- How a future is settled, if it is. -/
def AckState.outcome (s : AckState) (f : ℕ) : Option Outcome := (s.futures[f]?).bind Waiter.outcome

/-- `future.result()` of a settled future. -/
def Outcome.get : Outcome → Except PyErr Bytes
  | .result frame => .ok frame
  | .exception => .error .ackTimeout
  | .cancelled => .error .ackTimeout

/-- Assignments to the waiters. -/
def setAcks (f : AckState → AckState) : AckRoutine Unit :=
  Routine.assign fun w => { w with acks := f w.acks }

/-- `_send_command`, of which only the write matters here. -/
def sendFor (command future : ℕ) : AckRoutine Unit := do
  let w ← Routine.world
  if w.isConnected then do
    let r ← Routine.await (.write command future)
    if r = .raises then throw .connectionError else pure ()
  else throw .connectionError

/-- `asyncio.wait_for(future, timeout)`: a future that is done is not waited for, and one that is
pending when the wait gives up is cancelled. -/
def waitFor (command future : ℕ) : AckRoutine Bytes := do
  let w ← Routine.world
  match w.acks.outcome future with
  | some o => Routine.lift o.get
  | none => do
    let r ← Routine.await (.wait command future)
    let w ← Routine.world
    match w.acks.outcome future with
    | some o => if r = .returns then Routine.lift o.get else throw .ackTimeout
    | none => do
      setAcks fun s => s.cancel future
      throw .ackTimeout

/-- The `finally`, and what the caller gets. -/
def endWait (command future : ℕ) (out : Except PyErr Bytes) : AckRoutine Bytes := do
  setAcks fun s => s.unregister command future
  match out with
  | .ok frame => do
    Routine.emit (.returned command future frame)
    pure frame
  | .error e => do
    Routine.emit (.raised command future)
    throw e

/-- **`send_and_wait`.** -/
def sendAndWait (command : ℕ) : AckRoutine Bytes := do
  let w ← Routine.world
  let future := w.acks.futures.length
  setAcks fun s => s.register command
  Routine.emit (.began command future)
  let out ← Routine.attempt (do
    sendFor command future
    waitFor command future)
  endWait command future out

/-- What happens around the calls. -/
inductive AckMove where
  /-- `_parse_response` of a frame. -/
  | echo (frame : Bytes)
  /-- The link comes up or goes down. -/
  | link (up : Bool)
  /-- `_fail_pending_acks`. -/
  | failPending
  /-- The event loop runs a posted callback. -/
  | deliver (i : ℕ)
  deriving Repr

/-- A move. -/
def AckWorld.move (w : AckWorld) : AckMove → AckWorld
  | .echo frame => { w with acks := w.acks.echo frame }
  | .link up => { w with isConnected := up }
  | .failPending => { w with acks := w.acks.failPendingAcks }
  | .deliver i => { w with acks := w.acks.deliver i }

/-- **The calls of a client**: a call is its command id. -/
def ackSystem : System AckWorld AckEvent AckPoint AckResponse ℕ AckMove where
  program command := (sendAndWait command).run.bind fun _ => .ret ()
  enabled _ _ := true
  move := AckWorld.move

/-! ## Segments -/

/-- A segment of a call. -/
abbrev AckSegment := Segment AckWorld AckEvent AckPoint AckResponse

/-- A segment that waits: the first, up to the write, or the second, up to the future. -/
def Stops : AckPoint → AckSegment → Prop
  | .write command f, σ => σ.resumed = none ∧ f = σ.before.acks.futures.length ∧
      σ.now.acks = σ.before.acks.register command ∧ σ.events = [.began command f]
  | .wait command f, σ => (∃ r, σ.resumed = some (.write command f, r)) ∧ σ.now = σ.before ∧
      σ.events = []

/-- A call ends: with the frame its future got, or raising. -/
def Concludes (command f : ℕ) (s s' : AckState) (es : List AckEvent) : Prop :=
  (∃ frame, s.outcome f = some (.result frame) ∧ s' = s.unregister command f ∧
    es = [.returned command f frame]) ∨
  ((s' = s.unregister command f ∨ s' = (s.cancel f).unregister command f) ∧ es = [.raised command f])

/-- A call's last segment: it could not even send, or its write or its future ended it. -/
def Ends (σ : AckSegment) : Prop :=
  (∃ command f, σ.resumed = none ∧ f = σ.before.acks.futures.length ∧
    σ.now.acks = (σ.before.acks.register command).unregister command f ∧
    σ.events = [.began command f, .raised command f]) ∨
  ∃ command f, (∃ r, σ.resumed = some (.write command f, r) ∨ σ.resumed = some (.wait command f, r)) ∧
    Concludes command f σ.before.acks σ.now.acks σ.events

variable {command f : ℕ} {σ : AckSegment}

/-- A call whose first segment has begun: nothing but its registration so far. -/
def Registered (command f : ℕ) (σ : AckSegment) : Prop :=
  σ.resumed = none ∧ f = σ.before.acks.futures.length ∧
    σ.now.acks = σ.before.acks.register command ∧ σ.events = [.began command f]

/-- A call that was resumed and has done nothing yet. -/
def Resumed (command f : ℕ) (σ : AckSegment) : Prop :=
  (∃ r, σ.resumed = some (.write command f, r) ∨ σ.resumed = some (.wait command f, r)) ∧
    σ.now = σ.before ∧ σ.events = []

/-- Its write has come back. -/
def Written (command f : ℕ) (σ : AckSegment) : Prop :=
  Resumed command f σ ∧ ∃ r, σ.resumed = some (.write command f, r)

/-- The body of the `try` is over, with this outcome, and only the `finally` is left. -/
def Finishing (command f : ℕ) (out : Except PyErr Bytes) (σ : AckSegment) : Prop :=
  (Registered command f σ ∧ ∃ e, out = .error e) ∨
  ((∃ r, σ.resumed = some (.write command f, r) ∨ σ.resumed = some (.wait command f, r)) ∧
    σ.events = [] ∧
    ((∃ frame, out = .ok frame ∧ σ.before.acks.outcome f = some (.result frame) ∧
        σ.now.acks = σ.before.acks) ∨
      (∃ e, out = .error e) ∧
        (σ.now.acks = σ.before.acks ∨ σ.now.acks = σ.before.acks.cancel f)))

theorem Finishing.error_of_resumed {e : PyErr} (h : Resumed command f σ) :
    Finishing command f (.error e) σ := by
  refine Or.inr ⟨h.1, h.2.2, Or.inr ⟨⟨e, rfl⟩, Or.inl ?_⟩⟩
  rw [h.2.1]

/-- What a settled future hands its call. -/
theorem Finishing.of_outcome (h : Resumed command f σ) {o : Outcome}
    (ho : σ.now.acks.outcome f = some o) : Finishing command f o.get σ := by
  cases o with
  | result frame =>
    refine Or.inr ⟨h.1, h.2.2, Or.inl ⟨frame, rfl, ?_, ?_⟩⟩
    · rw [← h.2.1, ho]
    · rw [h.2.1]
  | exception => exact .error_of_resumed h
  | cancelled => exact .error_of_resumed h

theorem sendFor_passes : Passes Stops (Registered command f) (sendFor command f)
    (fun _ => Written command f) fun e => Finishing command f (.error e) := by
  refine Passes.world fun w => ?_
  split
  · refine .bind (Q := fun _ => Written command f) (.await (fun σ h => h.1) fun r w => ?_) fun r => ?_
    · exact ⟨⟨⟨r, Or.inl rfl⟩, rfl, rfl⟩, r, rfl⟩
    · split
      · exact .throw fun σ h => .error_of_resumed h.1
      · exact .pure fun σ h => h
  · exact .throw fun σ h => Or.inl ⟨h.1, _, rfl⟩

theorem waitFor_passes : Passes Stops (Written command f) (waitFor command f)
    (fun frame => Finishing command f (.ok frame)) fun e => Finishing command f (.error e) := by
  have hget : ∀ {A : AckSegment → Prop} {o : Outcome},
      (∀ σ, A σ → Resumed command f σ ∧ σ.now.acks.outcome f = some o) →
      Passes Stops A (Routine.lift o.get : AckRoutine Bytes)
        (fun frame => Finishing command f (.ok frame)) fun e => Finishing command f (.error e) := by
    intro A o hA
    refine .lift (fun frame hframe σ h => ?_) fun e he σ h => ?_
    · rw [← hframe]
      exact .of_outcome (hA σ h).1 (hA σ h).2
    · rw [← he]
      exact .of_outcome (hA σ h).1 (hA σ h).2
  refine Passes.world fun w => ?_
  cases hout : w.acks.outcome f with
  | some o => exact hget fun σ h => ⟨h.1.1, h.2 ▸ hout⟩
  | none =>
    refine .bind (Q := fun _ => Resumed command f) (.await (fun σ h => ?_) fun r w => ?_) fun r => ?_
    · exact ⟨h.1.2, h.1.1.2⟩
    · exact ⟨⟨r, Or.inr rfl⟩, rfl, rfl⟩
    · refine Passes.world fun w => ?_
      cases hout : w.acks.outcome f with
      | some o =>
        dsimp only
        split
        · exact hget fun σ h => ⟨h.1, h.2 ▸ hout⟩
        · exact .throw fun σ h => .error_of_resumed h.1
      | none =>
        refine .bind (Q := fun _ => Finishing command f (.error .ackTimeout))
          (.assign fun σ h => ?_) fun _ => .throw fun σ h => h
        refine Or.inr ⟨h.1.1, h.1.2.2, Or.inr ⟨⟨_, rfl⟩, Or.inr ?_⟩⟩
        rw [h.1.2.1]

theorem endWait_passes (out : Except PyErr Bytes) :
    Passes Stops (Finishing command f out) (endWait command f out) (fun _ => Ends) fun _ => Ends := by
  refine .bind (Q := fun _ σ => ∃ σ', Finishing command f out σ' ∧
    σ = { σ' with now := { σ'.now with acks := σ'.now.acks.unregister command f } })
    (.assign fun σ h => ⟨σ, h, rfl⟩) fun _ => ?_
  cases out with
  | ok frame =>
    refine .bind (Q := fun _ => Ends) (.emit ?_) fun _ => .pure fun σ h => h
    rintro _ ⟨σ, h, rfl⟩
    -- a frame comes only from a wait that was resumed with it
    rcases h with ⟨_, e, he⟩ | ⟨hresumed, hevents, ⟨frame', hframe, hout, hnow⟩ | ⟨⟨e, he⟩, _⟩⟩
    · cases he
    · cases hframe
      refine Or.inr ⟨command, f, hresumed, Or.inl ⟨frame, hout, ?_, ?_⟩⟩
      · dsimp only
        rw [hnow]
      · dsimp only
        rw [hevents]
        rfl
    · cases he
  | error e =>
    refine .bind (Q := fun _ => Ends) (.emit ?_) fun _ => .throw fun σ h => h
    rintro _ ⟨σ, h, rfl⟩
    rcases h with ⟨⟨hnone, hf, hnow, hevents⟩, _⟩ | ⟨hresumed, hevents, hend⟩
    · refine Or.inl ⟨command, f, hnone, hf, ?_, ?_⟩
      · dsimp only
        rw [hnow]
      · dsimp only
        rw [hevents]
        rfl
    · rcases hend with ⟨frame, hframe, _⟩ | ⟨_, hnow⟩
      · cases hframe
      · refine Or.inr ⟨command, f, hresumed, Or.inr ⟨?_, ?_⟩⟩
        · dsimp only
          rcases hnow with hnow | hnow
          · exact Or.inl (by rw [hnow])
          · exact Or.inr (by rw [hnow])
        · dsimp only
          rw [hevents]
          rfl

/-- **Every segment of a call.** -/
theorem sendAndWait_segments (command : ℕ) (w : AckWorld) :
    (ackSystem.program command).AllSegments Stops Ends (.start none w) := by
  refine Passes.allSegments (A := fun σ => σ = .start none w) ?_ rfl
  refine Passes.world fun w' => ?_
  let f := w'.acks.futures.length
  refine .bind (Q := fun _ σ => σ = ⟨none, w', { w' with acks := w'.acks.register command }, []⟩)
    (.assign ?_) fun _ => ?_
  · rintro σ ⟨rfl, rfl⟩
    rfl
  · refine .bind (Q := fun _ => Registered command f) (.emit ?_) fun _ => ?_
    · rintro σ rfl
      exact ⟨rfl, rfl, rfl, rfl⟩
    · refine .bind (Q := fun out => Finishing command f out) (.attempt ?_) endWait_passes
      exact .bind sendFor_passes fun _ => waitFor_passes

/-! ## Moves -/

/-- Echoes are never forgotten. -/
theorem AckState.EchoFor.mono {s s' : AckState} {f : ℕ} {frame : Bytes} (h : s.EchoFor f frame)
    (hechoes : ∀ e ∈ s.echoes, e ∈ s'.echoes) : s'.EchoFor f frame := by
  obtain ⟨e, he, hframe⟩ := h
  exact ⟨e, hechoes e he, hframe⟩

/-- **What a move keeps**: it settles pending futures only, registers nobody and forgets no echo. -/
structure AckState.Keeps (s s' : AckState) : Prop where
  sound : s'.Sound
  settles : s.Settles s'
  echoes : ∀ e ∈ s.echoes, e ∈ s'.echoes
  waiters : ∀ command f, f ∈ s'.waiters command → f ∈ s.waiters command

theorem AckState.Sound.keeps {s : AckState} (h : s.Sound) : s.Keeps s :=
  ⟨h, .of_futures_eq rfl, fun _ he => he, fun _ _ hf => hf⟩

theorem AckState.Sound.keeps_echo {s : AckState} (h : s.Sound) (frame : Bytes) :
    s.Keeps (s.echo frame) := by
  obtain ⟨hacks, hfutures⟩ := s.parseResponse_frame frame
  refine ⟨h.echo frame, .of_futures_eq hfutures, fun e he => List.mem_append_left _ he,
    fun command f hf => ?_⟩
  rw [AckState.waiters, show (s.echo frame).pendingAcks = s.pendingAcks from hacks] at hf
  exact hf

theorem AckState.Sound.keeps_fail {s : AckState} (h : s.Sound) : s.Keeps s.failPendingAcks := by
  obtain ⟨hfutures, hechoes⟩ := s.failPendingAcks_frame
  refine ⟨h.fail, .of_futures_eq hfutures, fun e he => ?_, fun command f hf => ?_⟩
  · rw [hechoes]
    exact he
  · cases hf

theorem AckState.Sound.keeps_deliver {s : AckState} (h : s.Sound) (i : ℕ) :
    s.Keeps (s.deliver i) := by
  obtain ⟨hsound, hsettles⟩ := h.deliver i
  obtain ⟨hacks, hechoes⟩ := s.deliver_frame i
  refine ⟨hsound, hsettles, fun e he => ?_, fun command f hf => ?_⟩
  · rw [hechoes]
    exact he
  · rw [AckState.waiters, hacks] at hf
    exact hf

theorem AckWorld.move_keeps {w : AckWorld} (h : w.acks.Sound) (m : AckMove) :
    w.acks.Keeps (w.move m).acks := by
  cases m with
  | echo frame => exact h.keeps_echo frame
  | link up => exact h.keeps
  | failPending => exact h.keeps_fail
  | deliver i => exact h.keeps_deliver i

/-! ## Runs -/

/-- The calls of a client, and what they share. -/
abbrev AckPool := Pool AckWorld AckEvent AckPoint AckResponse ℕ

/-- A step of them. -/
abbrev AckAction := Action AckResponse ℕ AckMove

/-- This task registered this future for this command. -/
def Began (p : AckPool) (t command f : ℕ) : Prop :=
  ∃ e ∈ p.trace, e.task = t ∧ e.event = .began command f

/-- **What every run keeps.** -/
structure Straight (p : AckPool) : Prop where
  sound : p.world.acks.Sound
  /-- A future exists once it is registered, and keeps its command. -/
  created : ∀ t command f, Began p t command f →
    ∃ w, p.world.acks.futures[f]? = some w ∧ w.command = command
  /-- It belongs to one call. -/
  unique : ∀ t t' command command' f, Began p t command f → Began p t' command' f → t = t'
  /-- A call waits with the future it registered. -/
  waits : ∀ t l, p.At t l → Began p t l.command l.future
  /-- A registered future's call is under way. -/
  registered : ∀ command f, f ∈ p.world.acks.waiters command →
    ∃ t l, p.At t l ∧ l.command = command ∧ l.future = f
  /-- A frame a call returned was echoed to its own future. -/
  returned : ∀ e ∈ p.trace, ∀ command f frame, e.event = .returned command f frame →
    p.world.acks.EchoFor f frame ∧ Began p e.task command f

theorem straight_idle : Straight (Pool.idle {}) where
  sound := AckState.sound_init
  created := fun _ _ _ ⟨_, he, _⟩ => absurd he List.not_mem_nil
  unique := fun _ _ _ _ _ ⟨_, he, _⟩ => absurd he List.not_mem_nil
  waits := fun _ _ ⟨_, h, _⟩ => by cases h
  registered := fun _ _ h => by cases h
  returned := fun _ he => absurd he List.not_mem_nil

variable {p : AckPool} {a : AckAction}

theorem Straight.future (h : Straight p) {t command f : ℕ} (hbegan : Began p t command f) :
    f < p.world.acks.futures.length := by
  obtain ⟨w, hw, _⟩ := h.created t command f hbegan
  exact (List.getElem?_eq_some_iff.mp hw).1

/-- A step without a turn. -/
theorem Straight.of_no_turn (h : Straight p) (hturn : p.turn ackSystem a = none) :
    p.world.acks.Settles (p.step ackSystem a).world.acks ∧ Straight (p.step ackSystem a) := by
  obtain ⟨htrace, htasks⟩ := Pool.step_of_no_turn hturn
  have hkeeps : p.world.acks.Keeps (p.step ackSystem a).world.acks := by
    rcases Pool.world_of_no_turn hturn with ⟨m, _, hworld⟩ | hworld
    · rw [hworld]
      exact AckWorld.move_keeps h.sound m
    · rw [hworld]
      exact h.sound.keeps
  have hbegan : ∀ t command f, Began (p.step ackSystem a) t command f ↔ Began p t command f := by
    intro t command f
    rw [Began, htrace, Began]
  have hat : ∀ t l, (p.step ackSystem a).At t l ↔ p.At t l := by
    intro t l
    rw [Pool.At, htasks, Pool.At]
  refine ⟨hkeeps.settles, hkeeps.sound, ?_, ?_, ?_, ?_, ?_⟩
  · intro t command f hb
    obtain ⟨w, hw, rfl⟩ := h.created t command f ((hbegan t command f).mp hb)
    exact hkeeps.settles.kept f w hw
  · intro t t' command command' f hb hb'
    exact h.unique t t' command command' f ((hbegan _ _ _).mp hb) ((hbegan _ _ _).mp hb')
  · intro t l hl
    exact (hbegan _ _ _).mpr (h.waits t l ((hat t l).mp hl))
  · intro command f hf
    obtain ⟨t, l, hl, hcommand⟩ := h.registered command f (hkeeps.waiters command f hf)
    exact ⟨t, l, (hat t l).mpr hl, hcommand⟩
  · intro e he command f frame hevent
    rw [htrace] at he
    obtain ⟨hecho, hb⟩ := h.returned e he command f frame hevent
    exact ⟨hecho.mono hkeeps.echoes, (hbegan _ _ _).mpr hb⟩

/-- **A turn keeps all this** if what it registers is new, what it returns was echoed to its own future,
and the futures left registered belong to calls under way. -/
theorem Straight.of_turn (h : Straight p) {turn : Turn AckWorld AckEvent AckPoint AckResponse ℕ}
    (hturn : p.turn ackSystem a = some turn)
    (hsound : (p.step ackSystem a).world.acks.Sound)
    (hsettles : p.world.acks.Settles (p.step ackSystem a).world.acks)
    (hechoes : (p.step ackSystem a).world.acks.echoes = p.world.acks.echoes)
    (hnew : ∀ command f, .began command f ∈ p.emitted ackSystem a →
      f = p.world.acks.futures.length ∧
        ∃ w, (p.step ackSystem a).world.acks.futures[f]? = some w ∧ w.command = command)
    (hwaits : ∀ l, (p.step ackSystem a).At turn.task l →
      .began l.command l.future ∈ p.emitted ackSystem a ∨ Began p turn.task l.command l.future)
    (hregistered : ∀ command f, f ∈ (p.step ackSystem a).world.acks.waiters command →
      (∃ l, (p.step ackSystem a).At turn.task l ∧ l.command = command ∧ l.future = f) ∨
        ∃ t l, t ≠ turn.task ∧ p.At t l ∧ l.command = command ∧ l.future = f)
    (hreturned : ∀ command f frame, .returned command f frame ∈ p.emitted ackSystem a →
      p.world.acks.EchoFor f frame ∧ Began p turn.task command f) :
    Straight (p.step ackSystem a) := by
  obtain ⟨_, htrace, _⟩ := Pool.step_of_turn hturn
  rw [← Pool.emitted_of_turn hturn] at htrace
  have hold : ∀ t command f, Began p t command f → Began (p.step ackSystem a) t command f := by
    rintro t command f ⟨e, he, he'⟩
    exact ⟨e, htrace ▸ List.mem_append_left _ he, he'⟩
  have hentry : ∀ ev ∈ p.emitted ackSystem a,
      ∃ e ∈ (p.step ackSystem a).trace, e.task = turn.task ∧ e.event = ev := by
    intro ev hev
    exact ⟨⟨turn.task, turn.call, ev⟩,
      htrace ▸ List.mem_append_right _ (List.mem_map.mpr ⟨ev, hev, rfl⟩), rfl, rfl⟩
  -- the trace grows by what the turn emits, under its own task
  have hsplit : ∀ e ∈ (p.step ackSystem a).trace,
      e ∈ p.trace ∨ e.task = turn.task ∧ e.event ∈ p.emitted ackSystem a := by
    intro e he
    rw [htrace] at he
    rcases List.mem_append.mp he with he | he
    · exact Or.inl he
    · obtain ⟨ev, hev, rfl⟩ := List.mem_map.mp he
      exact Or.inr ⟨rfl, hev⟩
  have hbegan : ∀ t command f, Began (p.step ackSystem a) t command f →
      Began p t command f ∨ t = turn.task ∧ .began command f ∈ p.emitted ackSystem a := by
    rintro t command f ⟨e, he, rfl, hevent⟩
    rcases hsplit e he with he | ⟨htask, hev⟩
    · exact Or.inl ⟨e, he, rfl, hevent⟩
    · exact Or.inr ⟨htask, hevent ▸ hev⟩
  refine ⟨hsound, ?_, ?_, ?_, ?_, ?_⟩
  · intro t command f hb
    rcases hbegan t command f hb with hb | ⟨_, hev⟩
    · obtain ⟨w, hw, rfl⟩ := h.created t command f hb
      exact hsettles.kept f w hw
    · exact (hnew command f hev).2
  · intro t t' command command' f hb hb'
    rcases hbegan t command f hb with hb | ⟨ht, hev⟩
    · rcases hbegan t' command' f hb' with hb' | ⟨_, hev'⟩
      · exact h.unique t t' command command' f hb hb'
      · -- a future there already is not the one that begins now
        exact absurd (hnew command' f hev').1 (h.future hb).ne
    · rcases hbegan t' command' f hb' with hb' | ⟨ht', _⟩
      · exact absurd (hnew command f hev).1 (h.future hb').ne
      · exact ht.trans ht'.symm
  · intro t l hl
    by_cases ht : t = turn.task
    · subst ht
      rcases hwaits l hl with hev | hb
      · exact hentry _ hev
      · exact hold _ _ _ hb
    · obtain ⟨τ, hτ, hlabel⟩ := hl
      rw [(Pool.step_of_turn hturn).2.2, Function.update_of_ne ht] at hτ
      exact hold _ _ _ (h.waits t l ⟨τ, hτ, hlabel⟩)
  · intro command f hf
    rcases hregistered command f hf with ⟨l, hl, hl'⟩ | ⟨t, l, ht, hl, hl'⟩
    · exact ⟨turn.task, l, hl, hl'⟩
    · refine ⟨t, l, Pool.at_of_other hl fun turn' hturn' => ?_, hl'⟩
      rw [hturn] at hturn'
      rwa [← Option.some.inj hturn']
  · intro e he command f frame hevent
    rcases hsplit e he with he | ⟨htask, hev⟩
    · obtain ⟨hecho, hb⟩ := h.returned e he command f frame hevent
      exact ⟨hecho.mono fun e' he' => hechoes ▸ he', hold _ _ _ hb⟩
    · obtain ⟨hecho, hb⟩ := hreturned command f frame (hevent ▸ hev)
      exact ⟨hecho.mono fun e' he' => hechoes ▸ he', hold _ _ _ (htask ▸ hb)⟩

/-! ### One turn at a time -/

variable {turn : Turn AckWorld AckEvent AckPoint AckResponse ℕ}

/-- A new future is there, and waits for its command. -/
theorem AckState.getElem?_register (s : AckState) (command : ℕ) :
    (s.register command).futures[s.futures.length]? = some { command := command } :=
  List.getElem?_concat_length

/-- A call that begins is none of those that wait. -/
theorem ne_of_begins (hnumbered : Numbered p) (hturn : p.turn ackSystem a = some turn)
    (hnone : turn.resumed = none) {t : ℕ} {l : AckPoint} (hat : p.At t l) : t ≠ turn.task := by
  obtain ⟨τ, hτ, _⟩ := hat
  rcases Pool.turn_cases hturn with ⟨htask, _⟩ | ⟨_, _, _, _, hsome, _⟩
  · exact htask ▸ (hnumbered.tasks t τ hτ).ne
  · cases hnone.symm.trans hsome

/-- A call registers and sends. -/
theorem Straight.of_registers (h : Straight p) (hnumbered : Numbered p)
    (hturn : p.turn ackSystem a = some turn) (hnone : turn.resumed = none)
    (hf : f = p.world.acks.futures.length)
    (hworld : (p.step ackSystem a).world.acks = p.world.acks.register command)
    (hevents : p.emitted ackSystem a = [.began command f])
    (hat : (p.step ackSystem a).At turn.task (.write command f)) :
    p.world.acks.Settles (p.step ackSystem a).world.acks ∧ Straight (p.step ackSystem a) := by
  obtain ⟨hsound, hsettles⟩ := h.sound.register command
  rw [← hworld] at hsound hsettles
  refine ⟨hsettles, h.of_turn hturn hsound hsettles ?_ ?_ ?_ ?_ ?_⟩
  · rw [hworld]
    rfl
  · intro command' f' hb
    rw [hevents] at hb
    cases List.mem_singleton.mp hb
    rw [hworld, hf]
    exact ⟨rfl, _, p.world.acks.getElem?_register command, rfl⟩
  · intro l hl
    rw [hl.unique hat, hevents]
    exact Or.inl (List.mem_singleton.mpr rfl)
  · intro command' f' hf'
    rw [hworld, AckState.waiters_register] at hf'
    -- its own future was added to its command's; all others were there
    by_cases hcommand : command' = command
    · rw [if_pos hcommand] at hf'
      rcases List.mem_append.mp hf' with hf' | hf'
      · obtain ⟨t, l, hl, hl'⟩ := h.registered command f' hf'
        rw [hcommand]
        exact Or.inr ⟨t, l, ne_of_begins hnumbered hturn hnone hl, hl, hl'⟩
      · rw [hcommand, List.mem_singleton.mp hf', ← hf]
        exact Or.inl ⟨_, hat, rfl, rfl⟩
    · rw [if_neg hcommand] at hf'
      obtain ⟨t, l, hl, hl'⟩ := h.registered command' f' hf'
      exact Or.inr ⟨t, l, ne_of_begins hnumbered hturn hnone hl, hl, hl'⟩
  · intro command' f' frame hret
    rw [hevents] at hret
    cases List.mem_singleton.mp hret

/-- Its write went out, and it waits for its future. -/
theorem Straight.of_waits (h : Straight p) (hturn : p.turn ackSystem a = some turn)
    (hbefore : p.At turn.task (.write command f))
    (hworld : (p.step ackSystem a).world = p.world) (hevents : p.emitted ackSystem a = [])
    (hat : (p.step ackSystem a).At turn.task (.wait command f)) :
    p.world.acks.Settles (p.step ackSystem a).world.acks ∧ Straight (p.step ackSystem a) := by
  have hsettles : p.world.acks.Settles (p.step ackSystem a).world.acks := by
    rw [hworld]
    exact .of_futures_eq rfl
  have hsound : (p.step ackSystem a).world.acks.Sound := by
    rw [hworld]
    exact h.sound
  refine ⟨hsettles, h.of_turn hturn hsound hsettles ?_ ?_ ?_ ?_ ?_⟩
  · rw [hworld]
  · intro command' f' hb
    rw [hevents] at hb
    cases hb
  · intro l hl
    have hbegan := h.waits turn.task _ hbefore
    rw [hl.unique hat]
    exact Or.inr hbegan
  · intro command' f' hf'
    rw [hworld] at hf'
    obtain ⟨t, l, hl, hl'⟩ := h.registered command' f' hf'
    by_cases ht : t = turn.task
    · -- it was this call's own, and still is
      subst ht
      rw [hl.unique hbefore] at hl'
      exact Or.inl ⟨_, hat, hl'⟩
    · exact Or.inr ⟨t, l, ht, hl, hl'⟩
  · intro command' f' frame hret
    rw [hevents] at hret
    cases hret

/-- It ends at once, its link being down. -/
theorem Straight.of_fails (h : Straight p) (hnumbered : Numbered p)
    (hturn : p.turn ackSystem a = some turn) (hnone : turn.resumed = none)
    (hf : f = p.world.acks.futures.length)
    (hworld : (p.step ackSystem a).world.acks =
      (p.world.acks.register command).unregister command f)
    (hevents : p.emitted ackSystem a = [.began command f, .raised command f])
    (hdone : (p.step ackSystem a).tasks turn.task = none) :
    p.world.acks.Settles (p.step ackSystem a).world.acks ∧ Straight (p.step ackSystem a) := by
  obtain ⟨hsound, hsettles⟩ := h.sound.register command
  have hfutures := (p.world.acks.register command).futures_unregister command f
  have hsettles' : p.world.acks.Settles (p.step ackSystem a).world.acks := by
    rw [hworld]
    exact hsettles.trans (.of_futures_eq hfutures)
  have hsound' : (p.step ackSystem a).world.acks.Sound := by
    rw [hworld]
    exact hsound.unregister command f
  refine ⟨hsettles', h.of_turn hturn hsound' hsettles' ?_ ?_ ?_ ?_ ?_⟩
  · rw [hworld, AckState.echoes_unregister]
    rfl
  · intro command' f' hb
    rw [hevents] at hb
    simp only [List.mem_cons, AckEvent.began.injEq, reduceCtorEq, List.not_mem_nil, or_false] at hb
    obtain ⟨rfl, rfl⟩ := hb
    rw [hworld, hfutures, hf]
    exact ⟨rfl, _, p.world.acks.getElem?_register command', rfl⟩
  · rintro l ⟨τ, hτ, _⟩
    cases hdone.symm.trans hτ
  · intro command' f' hf'
    rw [hworld, hsound.mem_unregister_iff, AckState.waiters_register] at hf'
    obtain ⟨hmem, hother⟩ := hf'
    -- its own future is off the map again, so the others were there before
    have hold : f' ∈ p.world.acks.waiters command' := by
      by_cases hcommand : command' = command
      · rw [if_pos hcommand, List.mem_append, List.mem_singleton, ← hf] at hmem
        rw [hcommand]
        exact hmem.resolve_right fun heq => hother ⟨hcommand, heq⟩
      · rw [if_neg hcommand] at hmem
        exact hmem
    obtain ⟨t, l, hl, hl'⟩ := h.registered command' f' hold
    exact Or.inr ⟨t, l, ne_of_begins hnumbered hturn hnone hl, hl, hl'⟩
  · intro command' f' frame hret
    rw [hevents] at hret
    simp at hret

/-- Its `finally` runs: its own future is off the map, and no other. -/
theorem Straight.of_ends (h : Straight p) (hturn : p.turn ackSystem a = some turn) {l : AckPoint}
    (hbefore : p.At turn.task l)
    (hends : Concludes l.command l.future p.world.acks (p.step ackSystem a).world.acks
      (p.emitted ackSystem a))
    (hdone : (p.step ackSystem a).tasks turn.task = none) :
    p.world.acks.Settles (p.step ackSystem a).world.acks ∧ Straight (p.step ackSystem a) := by
  -- first the future is cancelled, or not
  obtain ⟨s, hs, hsettles, hacks, hechoes, hworld⟩ : ∃ s, s.Sound ∧ p.world.acks.Settles s ∧
      s.pendingAcks = p.world.acks.pendingAcks ∧ s.echoes = p.world.acks.echoes ∧
      (p.step ackSystem a).world.acks = s.unregister l.command l.future := by
    rcases hends with ⟨_, _, hworld, _⟩ | ⟨hworld | hworld, _⟩
    · exact ⟨_, h.sound, .of_futures_eq rfl, rfl, rfl, hworld⟩
    · exact ⟨_, h.sound, .of_futures_eq rfl, rfl, rfl, hworld⟩
    · obtain ⟨hs, hsettles⟩ := h.sound.cancel l.future
      obtain ⟨hacks, hechoes⟩ := p.world.acks.cancel_frame l.future
      exact ⟨_, hs, hsettles, hacks, hechoes, hworld⟩
  have hsettles' : p.world.acks.Settles (p.step ackSystem a).world.acks := by
    rw [hworld]
    exact hsettles.trans (.of_futures_eq (s.futures_unregister l.command l.future))
  have hsound' : (p.step ackSystem a).world.acks.Sound := by
    rw [hworld]
    exact hs.unregister l.command l.future
  have hevents : ∀ command' f', .began command' f' ∉ p.emitted ackSystem a := by
    intro command' f' hb
    rcases hends with ⟨frame, _, _, hevents⟩ | ⟨_, hevents⟩
    · rw [hevents] at hb
      cases List.mem_singleton.mp hb
    · rw [hevents] at hb
      cases List.mem_singleton.mp hb
  refine ⟨hsettles', h.of_turn hturn hsound' hsettles' ?_ ?_ ?_ ?_ ?_⟩
  · rw [hworld, AckState.echoes_unregister, hechoes]
  · exact fun command' f' hb => absurd hb (hevents command' f')
  · rintro l ⟨τ, hτ, _⟩
    cases hdone.symm.trans hτ
  · intro command' f' hf'
    have hwaiters : s.waiters = p.world.acks.waiters := by
      funext id
      rw [AckState.waiters, hacks, AckState.waiters]
    rw [hworld, hs.mem_unregister_iff, hwaiters] at hf'
    obtain ⟨hold, hother⟩ := hf'
    obtain ⟨t, l', hl', hcommand', hfuture'⟩ := h.registered command' f' hold
    refine Or.inr ⟨t, l', fun ht => hother ?_, hl', hcommand', hfuture'⟩
    subst ht
    rw [hbefore.unique hl']
    exact ⟨hcommand'.symm, hfuture'.symm⟩
  · intro command' f' frame hret
    rcases hends with ⟨frame', hout, _, hevents⟩ | ⟨_, hevents⟩
    · rw [hevents] at hret
      obtain ⟨rfl, rfl, rfl⟩ := AckEvent.returned.inj (List.mem_singleton.mp hret)
      obtain ⟨w, hw, hout⟩ := Option.bind_eq_some_iff.mp hout
      exact ⟨h.sound.results l.future w frame hw hout, h.waits turn.task l hbefore⟩
    · rw [hevents] at hret
      cases List.mem_singleton.mp hret

/-! ### Steps and runs -/

/-- The pool with its bookkeeping: what every step keeps. -/
structure Orderly (p : AckPool) : Prop where
  numbered : Numbered p
  passes : PoolPasses Stops Ends p
  straight : Straight p

theorem orderly_idle : Orderly (Pool.idle {}) :=
  ⟨numbered_idle _, poolPasses_idle _, straight_idle⟩

/-- **One step**, by the segment its turn runs. -/
theorem Orderly.step (h : Orderly p) (a : AckAction) : Orderly (p.step ackSystem a) ∧
    p.world.acks.Settles (p.step ackSystem a).world.acks := by
  obtain ⟨hpasses, hstep⟩ := h.passes.step (S := ackSystem) sendAndWait_segments a
  suffices hstraight : p.world.acks.Settles (p.step ackSystem a).world.acks ∧
      Straight (p.step ackSystem a) from
    ⟨⟨h.numbered.step a, hpasses, hstraight.2⟩, hstraight.1⟩
  cases hturn : p.turn ackSystem a with
  | none => exact h.straight.of_no_turn hturn
  | some turn =>
    obtain ⟨hstops, hends⟩ := hstep turn hturn
    cases hτ : (p.step ackSystem a).tasks turn.task with
    | some τ =>
      have hat : (p.step ackSystem a).At turn.task τ.label := ⟨τ, hτ, rfl⟩
      have hsegment := hstops τ hτ
      generalize τ.label = l at hat hsegment
      cases l with
      | write id f =>
        obtain ⟨hnone, hf, hworld, hevents⟩ := hsegment
        exact h.straight.of_registers h.numbered hturn hnone hf hworld hevents hat
      | wait id f =>
        obtain ⟨⟨r, hresumed⟩, hworld, hevents⟩ := hsegment
        exact h.straight.of_waits hturn (Pool.at_of_resumed hturn hresumed).1 hworld hevents hat
    | none =>
      rcases hends hτ with ⟨id, f, hnone, hf, hworld, hevents⟩ | ⟨id, f, ⟨r, hresumed⟩, hend⟩
      · exact h.straight.of_fails h.numbered hturn hnone hf hworld hevents hτ
      · rcases hresumed with hresumed | hresumed
        · exact h.straight.of_ends hturn (Pool.at_of_resumed hturn hresumed).1 hend hτ
        · exact h.straight.of_ends hturn (Pool.at_of_resumed hturn hresumed).1 hend hτ

/-- What a caller of `send_and_wait` relies on, at any moment. -/
structure AcksKept (p : AckPool) : Prop where
  /-- No callback has settled a future that was done. -/
  valid : p.world.acks.invalidState = false
  /-- A frame that was returned carries the call's command id, and its echo found the call's own
  future registered. -/
  returned : ∀ e ∈ p.trace, ∀ id f frame, e.event = .returned id f frame →
    Began p e.task id f ∧ frameCommand frame = .ok id ∧
      ∃ echo ∈ p.world.acks.echoes, echo.frame = frame ∧ echo.command = id ∧ f ∈ echo.registered
  /-- Once no callback of an echo is left, every waiter registered for its command when it arrived is
  done. -/
  delivered : ∀ echo ∈ p.world.acks.echoes, (∀ d ∈ p.world.acks.deferred, ¬ echo.Posted d) →
    ∀ f ∈ echo.registered, p.world.acks.isDone f = true
  /-- A call that has ended has no waiter on the map. -/
  ended : ∀ t id f, Began p t id f → p.tasks t = none → ∀ id', f ∉ p.world.acks.waiters id'
  /-- The map has no empty list. -/
  nonempty : ∀ id ws, p.world.acks.pendingAcks.get? id = some ws → ws ≠ []

theorem Straight.acksKept (h : Straight p) : AcksKept p where
  valid := h.sound.valid
  returned := by
    intro e he id f frame hevent
    obtain ⟨⟨echo, hecho, hframe, hf⟩, hbegan⟩ := h.returned e he id f frame hevent
    obtain ⟨hcommand, hwaiters⟩ := h.sound.echoes echo hecho
    obtain ⟨w, hw, hid⟩ := h.created e.task id f hbegan
    obtain ⟨w', hw', hid'⟩ := hwaiters f hf
    -- the future waits for one command: the call's, which is the echo's
    have heq : echo.command = id := by
      rw [← hid', ← hid, Option.some.inj (hw.symm.trans hw')]
    refine ⟨hbegan, ?_, echo, hecho, hframe, heq, hf⟩
    rw [← hframe, hcommand, heq]
  delivered := by
    intro echo hecho hnone f hf
    rcases h.sound.delivered echo hecho f hf with hdone | ⟨d, hd, hposted, _⟩
    · exact hdone
    · exact absurd hposted (hnone d hd)
  ended := by
    intro t id f hbegan hdone id' hf
    obtain ⟨t', l, hat, _, hfuture⟩ := h.registered id' f hf
    have hbegan' := h.waits t' l hat
    rw [hfuture] at hbegan'
    -- one future, one call: it would still be under way
    obtain rfl := h.unique t t' _ _ f hbegan hbegan'
    obtain ⟨τ, hτ, _⟩ := hat
    cases hdone.symm.trans hτ
  nonempty := h.sound.nonempty

/-- **The waiters of `send_and_wait` are kept straight**: in every run no step changes a future that is
done, and every state it reaches is as the callers rely on. -/
theorem acks_kept (as : List AckAction) :
    AllSteps (Pool.step ackSystem)
      (fun p a => p.world.acks.Settles (p.step ackSystem a).world.acks ∧
        AcksKept (p.step ackSystem a))
      (Pool.idle {}) as := by
  refine @AllSteps.of_kept _ _ _ _ Orderly (fun p a h => ?_) as _ orderly_idle
  obtain ⟨horderly, hsettles⟩ := h.step a
  exact ⟨horderly, hsettles, horderly.straight.acksKept⟩

/-- Two calls wait for command 7: the echo that comes before the second is the first one's alone. -/
example : (run (Pool.step ackSystem) (Pool.idle {})
    [.move (.link true), .spawn 7, .resume 0 .returns, .move (.echo [0x58, 1, 1, 7, 0]), .spawn 7,
      .resume 1 .returns, .move (.deliver 0), .resume 0 .returns, .resume 1 .raises]).trace.map
        Entry.event =
    [.began 7 0, .began 7 1, .returned 7 0 [0x58, 1, 1, 7, 0], .raised 7 1] := by
  decide +kernel

end XBloom.Ble
