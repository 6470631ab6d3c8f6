/-
# XBloom.Slots.Calibration — grinder calibrations, and the timers they leave behind

`async_calibrate_grinder` raises the client's flag when its command is out and, after a refresh, creates a
task that sleeps for 180 s and then ends the calibration it finds.  The task knows neither the calibration
that started it nor the client it was started on, and nothing cancels it.

A run interleaves any number of calls, at their await points, with the timers they scheduled and with all
that happens around them.  Beside the world it keeps a ledger: when each calibration began, and when it
was over.
-/
import XBloom.Coordinator.Maintenance
import XBloom.Recipe.Tombstones
import XBloom.Slots.State
import XBloom.Telemetry.Setpoints

namespace XBloom.Slots

open XBloom.Async XBloom.Py XBloom.Ble XBloom.Recipe XBloom.Logic

/-! ## The functions -/

/-- What happens in a calibration. -/
inductive CalibrationEvent where
  | coord (e : Coordinator.Event)
  /-- `grinder_calibration_started` is fired. -/
  | started
  /-- `grinder_calibration_complete` is fired. -/
  | complete
  /-- The task of its timer is created. -/
  | scheduled
  deriving DecidableEq, Repr

/-- Where it waits. -/
inductive CalibrationAwait where
  | coord (l : Coordinator.Await)
  /-- The 180 s of its timer. -/
  | timeout
  deriving DecidableEq, Repr

/-- The `async` functions of a calibration. -/
abbrev Calibrating (α : Type) :=
  Routine World CalibrationEvent CalibrationAwait Coordinator.Response PyErr α

/-- The coordinator in them. -/
def calibrationLens :
    Lens Coordinator.World Coordinator.Event Coordinator.Await Coordinator.Response
      World CalibrationEvent CalibrationAwait Coordinator.Response where
  part := World.coord
  replace := World.setCoord
  event := .coord
  label := .coord
  response := id

/-- A function of the coordinator. -/
def linked {α : Type} (x : Coordinator.Async α) : Calibrating α := Routine.zoom calibrationLens x

namespace World

/-- `self.client.is_calibrating_grinder()`, of a client that may be gone. -/
def calibrating (w : World) : Bool :=
  w.coord.client.any fun c => (w.telemetry c).status.isCalibratingGrinder

/-- `client.status.is_calibrating_grinder = value`. -/
def setCalibrating (w : World) (c : ℕ) (value : Bool) : World :=
  { w with
    telemetry := Function.update w.telemetry c
      { w.telemetry c with status := { (w.telemetry c).status with isCalibratingGrinder := value } } }

theorem calibrating_setCalibrating {w : World} {c : ℕ} (h : w.coord.client = some c) (value : Bool) :
    (w.setCalibrating c value).calibrating = value := by
  simp [calibrating, setCalibrating, h]

end World

/-- What follows the send, with this for `self.client`. -/
def beginOn : Option ℕ → Calibrating Unit
  | some c => do
    Routine.assign fun w => w.setCalibrating c true
    Routine.emit .started
  | none => throw .attributeError

/-- The client is read after the send. -/
def beginCalibration : Calibrating Unit := do
  let w ← Routine.world
  beginOn w.coord.client

/-- `async_calibrate_grinder`: whatever it raises is logged. -/
def asyncCalibrateGrinder : Calibrating Unit := do
  let connected ← linked Coordinator.ensureConnected
  if connected then do
    let _ ← Routine.attempt do
      linked Coordinator.sendCalibration
      beginCalibration
      let _ ← Routine.await (.coord .refresh)
      Routine.emit .scheduled
  else pure ()

/-- What a timer does after its sleep, with this for `self.client`. -/
def expireOn (w : World) : Option ℕ → Calibrating Unit
  | some c =>
    if (w.telemetry c).status.isCalibratingGrinder then do
      Routine.assign fun w => w.setCalibrating c false
      Routine.emit .complete
      let _ ← Routine.await (.coord .refresh)
    else pure ()
  | none => throw .attributeError

/-- The client is read when the sleep is over. -/
def expireCalibration : Calibrating Unit := do
  let w ← Routine.world
  expireOn w w.coord.client

/-- `_async_calibration_timeout_fallback`. -/
def calibrationTimeoutFallback : Calibrating Unit := do
  let _ ← Routine.await .timeout
  expireCalibration

/-! ## The ledger -/

/-- A calibration: when it began, and when it was over. -/
structure CalibrationRun where
  started : ℕ
  ended : Option ℕ := none
  deriving DecidableEq, Repr

/-- It is going on. -/
def CalibrationRun.Going (s : CalibrationRun) : Prop := s.ended = none

/-- It began after that one was over. -/
def CalibrationRun.After (s r : CalibrationRun) : Prop := ∃ t, r.ended = some t ∧ t < s.started

/-- The calibrations so far, and a clock that ticks when one begins and when some are over. -/
structure Calibrations where
  now : ℕ := 0
  runs : List CalibrationRun := []
  deriving DecidableEq, Repr

namespace Calibrations

/-- A calibration begins. -/
def start (l : Calibrations) : Calibrations where
  now := l.now + 1
  runs := l.runs ++ [{ started := l.now }]

/-- Those that are going on are over. -/
def finish (l : Calibrations) : Calibrations where
  now := l.now + 1
  runs := l.runs.map fun r => { r with ended := some (r.ended.getD l.now) }

/-- The flag of the coordinator's client has been cleared, or has gone with its client. -/
def Lowered (before after : World) : Prop :=
  before.calibrating = true ∧ (after.coord.client ≠ before.coord.client ∨ after.calibrating = false)

/-- The flag is up, and was not: a call has raised it, or the machine has reported a start. -/
def Raised (before after : World) : Prop :=
  after.calibrating = true ∧ (after.coord.client ≠ before.coord.client ∨ before.calibrating = false)

instance (before after : World) : Decidable (Lowered before after) :=
  inferInstanceAs (Decidable (_ ∧ (_ ∨ _)))

instance (before after : World) : Decidable (Raised before after) :=
  inferInstanceAs (Decidable (_ ∧ (_ ∨ _)))

/-- **The ledger follows the flag**; a call that begins a calibration begins one whatever it finds. -/
def next (l : Calibrations) (before after : World) (begins : Bool) : Calibrations :=
  let l := if Lowered before after then l.finish else l
  if begins = true ∨ Raised before after then l.start else l

/-- The calibration at this place in the ledger is over. -/
def Over (l : Calibrations) (run : ℕ) : Prop := ∃ r, l.runs[run]? = some r ∧ r.ended ≠ none

end Calibrations

/-! ## Runs -/

/-- A call that waits, and the calibration it has begun. -/
structure Calling where
  run : Option ℕ
  resume : Coordinator.Response →
    Co World CalibrationEvent CalibrationAwait Coordinator.Response (Except PyErr Unit)

/-- The world, the ledger, the calls that wait, how many there were, and the timers that sleep, each under
the calibration whose call created it. -/
structure Bench where
  world : World
  ledger : Calibrations
  calls : ℕ → Option Calling
  spawned : ℕ
  timers : List ℕ

/-- A call begins, a call goes on, something else happens, or a timer's sleep is over. -/
inductive BenchStep where
  | call
  | resume (t : ℕ) (r : Coordinator.Response)
  | move (m : Move)
  | expire (run : ℕ)

namespace Bench

/-- Nothing called yet. -/
def idle (w : World) : Bench where
  world := w
  ledger := if w.calibrating then Calibrations.start {} else {}
  calls _ := none
  spawned := 0
  timers := []

/-- What is left of a call after a segment. -/
def rest (run : Option ℕ) :
    Co.Stop World CalibrationEvent CalibrationAwait Coordinator.Response (Except PyErr Unit) →
      Option Calling
  | .done _ => none
  | .waits _ k => some ⟨run, k⟩

/-- **A call runs a segment.**  The calibration it begins is the last of the ledger. -/
def advance (b : Bench) (t : ℕ) (run : Option ℕ)
    (body : Co World CalibrationEvent CalibrationAwait Coordinator.Response (Except PyErr Unit)) :
    Bench :=
  let segment := body.segment b.world
  let begins := decide (.started ∈ segment.2.1)
  let ledger := b.ledger.next b.world segment.1 begins
  let run := if begins then some (ledger.runs.length - 1) else run
  { b with
    world := segment.1
    ledger := ledger
    calls := Function.update b.calls t (rest run segment.2.2)
    timers := if .scheduled ∈ segment.2.1 then b.timers ++ run.toList else b.timers }

/-- What a timer does now. -/
def expiry (b : Bench) :
    World × List CalibrationEvent ×
      Co.Stop World CalibrationEvent CalibrationAwait Coordinator.Response (Except PyErr Unit) :=
  expireCalibration.run.segment b.world

variable (I : Identifiers) (yaml : YamlLayer)

/-- **One step.** -/
def step (b : Bench) : BenchStep → Bench
  | .call => { b with spawned := b.spawned + 1 }.advance b.spawned none asyncCalibrateGrinder.run
  | .resume t r =>
    match b.calls t with
    | some calling => b.advance t calling.run (calling.resume r)
    | none => b
  | .move m =>
    { b with
      world := b.world.move I yaml m
      ledger := b.ledger.next b.world (b.world.move I yaml m) false }
  | .expire run =>
    if run ∈ b.timers then
      { b with
        world := b.expiry.1
        ledger := b.ledger.next b.world b.expiry.1 false
        timers := b.timers.erase run }
    else b

/-- **A timer that expires raises nothing, and ends no calibration that began after its own was over.** -/
structure Sound (b : Bench) (run : ℕ) : Prop where
  quiet : ∀ e, b.expiry.2.2 ≠ .done (.error e)
  own : (b.world.calibrating = true ∧ b.expiry.1.calibrating = false) ∨ .complete ∈ b.expiry.2.1 →
    ∀ s ∈ b.ledger.runs, s.Going → ∀ r, b.ledger.runs[run]? = some r → ¬ s.After r

/-- Every timer that expires does so soundly. -/
def EndsOwn (b : Bench) : BenchStep → Prop
  | .expire run => run ∈ b.timers → b.Sound run
  | _ => True

/-- **There is a client when a timer expires, and no calibration if the timer's own is over.** -/
def Timely (b : Bench) : BenchStep → Prop
  | .expire run => run ∈ b.timers →
    b.world.coord.client ≠ none ∧ (b.ledger.Over run → b.world.calibrating = false)
  | _ => True

end Bench

/-! ## What the ledger keeps -/

namespace Calibrations

variable {l : Calibrations}

/-- **Those that are going on began after all that are over**, and nothing lies ahead of the clock. -/
structure Ordered (l : Calibrations) : Prop where
  started : ∀ r ∈ l.runs, r.started < l.now
  ended : ∀ r ∈ l.runs, ∀ t, r.ended = some t → t < l.now
  newer : ∀ s ∈ l.runs, s.Going → ∀ r ∈ l.runs, r.ended ≠ none → s.After r

theorem Ordered.start (h : l.Ordered) : l.start.Ordered := by
  have hmem : ∀ {r}, r ∈ l.start.runs → r ∈ l.runs ∨ r = { started := l.now } := by
    intro r hr
    rcases List.mem_append.mp hr with hr | hr
    · exact Or.inl hr
    · exact Or.inr (List.mem_singleton.mp hr)
  have hnow : l.start.now = l.now + 1 := rfl
  refine ⟨fun r hr => ?_, fun r hr t ht => ?_, fun s hs hgoing r hr hended => ?_⟩
  · rcases hmem hr with hr | rfl
    · have := h.started r hr
      omega
    · exact Nat.lt_succ_self _
  · rcases hmem hr with hr | rfl
    · have := h.ended r hr t ht
      omega
    · cases ht
  · rcases hmem hr with hr | rfl
    · rcases hmem hs with hs | rfl
      · exact h.newer s hs hgoing r hr hended
      · -- the one that begins now
        obtain ⟨t, ht⟩ := Option.ne_none_iff_exists'.mp hended
        exact ⟨t, ht, h.ended r hr t ht⟩
    · exact absurd rfl hended

theorem not_going_finish {s : CalibrationRun} (hs : s ∈ l.finish.runs) : ¬ s.Going := by
  obtain ⟨r, -, rfl⟩ := List.mem_map.mp hs
  exact fun h => by cases h

theorem Ordered.finish (h : l.Ordered) : l.finish.Ordered := by
  have hnow : l.finish.now = l.now + 1 := rfl
  refine ⟨fun s hs => ?_, fun s hs t ht => ?_, fun s hs hgoing => absurd hgoing (not_going_finish hs)⟩
  · obtain ⟨r, hr, rfl⟩ := List.mem_map.mp hs
    have := h.started r hr
    show r.started < _
    omega
  · obtain ⟨r, hr, rfl⟩ := List.mem_map.mp hs
    obtain rfl := Option.some.inj ht
    cases hended : r.ended with
    | none => exact Nat.lt_succ_self _
    | some t =>
      have := h.ended r hr t hended
      show t < _
      omega

/-- Nothing is struck out of the ledger. -/
theorem length_next (l : Calibrations) (before after : World) (begins : Bool) :
    l.runs.length ≤ (l.next before after begins).runs.length ∧
      (begins = true → l.runs.length < (l.next before after begins).runs.length) := by
  have hfinish : (if Lowered before after then l.finish else l).runs.length = l.runs.length := by
    split
    · simp [finish]
    · rfl
  unfold next
  dsimp only
  by_cases hstart : begins = true ∨ Raised before after
  · rw [if_pos hstart]
    simp [start, hfinish]
  · rw [if_neg hstart]
    exact ⟨hfinish.ge, fun hbegins => absurd (Or.inl hbegins) hstart⟩

/-- One is going on. -/
def Busy (l : Calibrations) : Prop := ∃ s ∈ l.runs, s.Going

theorem start_busy : l.start.Busy :=
  ⟨{ started := l.now }, List.mem_append_right _ (List.mem_singleton_self _), rfl⟩

end Calibrations

/-- The ledger knows of the calibration that the flag stands for. -/
structure Kept (l : Calibrations) (w : World) : Prop extends l.Ordered where
  known : w.calibrating = true → l.Busy

/-- **Whatever happens to the world, the ledger keeps up with it.** -/
theorem Kept.next {l : Calibrations} {before : World} (h : Kept l before) (after : World) (begins : Bool) :
    Kept (l.next before after begins) after := by
  have hfinish : (if Calibrations.Lowered before after then l.finish else l).Ordered := by
    split
    · exact h.toOrdered.finish
    · exact h.toOrdered
  unfold Calibrations.next
  dsimp only
  by_cases hstart : begins = true ∨ Calibrations.Raised before after
  · rw [if_pos hstart]
    exact ⟨hfinish.start, fun _ => Calibrations.start_busy⟩
  · rw [if_neg hstart]
    refine ⟨hfinish, fun hafter => ?_⟩
    -- the flag was up before, on the same client, and has not been cleared
    have hraised : ¬ Calibrations.Raised before after := fun h => hstart (Or.inr h)
    have hbefore : after.coord.client = before.coord.client ∧ before.calibrating = true := by
      unfold Calibrations.Raised at hraised
      simpa [hafter] using hraised
    have hlowered : ¬ Calibrations.Lowered before after := by
      rintro ⟨-, hclient | hcleared⟩
      · exact hclient hbefore.1
      · rw [hafter] at hcleared
        cases hcleared
    rw [if_neg hlowered]
    exact h.known hbefore.2

namespace Bench

variable {I : Identifiers} {yaml : YamlLayer} {b : Bench}

theorem step_resume {t : ℕ} {calling : Calling} (h : b.calls t = some calling)
    (r : Coordinator.Response) :
    b.step I yaml (.resume t r) = b.advance t calling.run (calling.resume r) := by
  simp only [step, h]

theorem step_resume_none {t : ℕ} (h : b.calls t = none) (r : Coordinator.Response) :
    b.step I yaml (.resume t r) = b := by
  simp only [step, h]

theorem kept_step (h : Kept b.ledger b.world) (a : BenchStep) :
    Kept (b.step I yaml a).ledger (b.step I yaml a).world := by
  cases a with
  | call => exact h.next _ _
  | resume t r =>
    cases hcall : b.calls t with
    | some calling =>
      rw [step_resume hcall]
      exact h.next _ _
    | none => rwa [step_resume_none hcall]
  | move m => exact h.next _ _
  | expire run =>
    show Kept (if run ∈ b.timers then _ else b).ledger (if run ∈ b.timers then _ else b).world
    split
    · exact h.next _ _
    · exact h

theorem kept_idle (w : World) : Kept (idle w).ledger (idle w).world := by
  have hempty : ({} : Calibrations).Ordered :=
    ⟨fun _ h => absurd h List.not_mem_nil, fun _ h => absurd h List.not_mem_nil,
      fun _ h => absurd h List.not_mem_nil⟩
  unfold idle
  dsimp only
  split
  · exact ⟨hempty.start, fun _ => Calibrations.start_busy⟩
  · rename_i hflag
    exact ⟨hempty, fun h => absurd h hflag⟩

/-! ## What a timer does -/

theorem expiry_eq (b : Bench) : b.expiry = (expireOn b.world b.world.coord.client).run.segment b.world := rfl

theorem expiry_none (h : b.world.coord.client = none) :
    b.expiry = (b.world, [], .done (.error .attributeError)) := by
  rw [expiry_eq, h]
  rfl

theorem expiry_clear (h : b.world.coord.client ≠ none) (hflag : b.world.calibrating = false) :
    b.expiry = (b.world, [], .done (.ok ())) := by
  obtain ⟨c, hc⟩ := Option.ne_none_iff_exists'.mp h
  have hclear : (b.world.telemetry c).status.isCalibratingGrinder = false := by
    simpa [World.calibrating, hc] using hflag
  rw [expiry_eq, hc]
  simp only [expireOn, hclear]
  rfl

theorem expiry_ends (h : b.world.calibrating = true) :
    b.expiry.1.calibrating = false ∧ ∀ e, b.expiry.2.2 ≠ .done (.error e) := by
  cases hc : b.world.coord.client with
  | none => simp [World.calibrating, hc] at h
  | some c =>
    have hup : (b.world.telemetry c).status.isCalibratingGrinder = true := by
      simpa [World.calibrating, hc] using h
    rw [expiry_eq, hc]
    simp only [expireOn, hup]
    exact ⟨World.calibrating_setCalibrating hc false, fun e he => by cases he⟩

theorem sound_iff (h : Kept b.ledger b.world) (run : ℕ) :
    b.Sound run ↔
      b.world.coord.client ≠ none ∧ (b.ledger.Over run → b.world.calibrating = false) := by
  cases hflag : b.world.calibrating with
  | false =>
    by_cases hclient : b.world.coord.client = none
    · refine ⟨fun hsound => ?_, fun h => absurd hclient h.1⟩
      -- without a client the timer's write raises
      have hexpiry := expiry_none hclient
      exact absurd (by rw [hexpiry]) (hsound.quiet .attributeError)
    · have hexpiry := expiry_clear hclient hflag
      refine ⟨fun _ => ⟨hclient, fun _ => rfl⟩, fun _ => ⟨fun e => ?_, fun hdone => ?_⟩⟩
      · rw [hexpiry]
        simp
      · rw [hexpiry] at hdone
        simp [hflag] at hdone
  | true =>
    obtain ⟨hcleared, hquiet⟩ := expiry_ends hflag
    have hclient : b.world.coord.client ≠ none := by
      intro hnone
      simp [World.calibrating, hnone] at hflag
    obtain ⟨s, hs, hgoing⟩ := h.known hflag
    constructor
    · intro hsound
      -- the run is over and another goes on: the timer would end that one
      refine ⟨hclient, fun ⟨r, hr, hended⟩ => ?_⟩
      exact absurd (h.newer s hs hgoing r (List.mem_of_getElem? hr) hended)
        (hsound.own (Or.inl ⟨hflag, hcleared⟩) s hs hgoing r hr)
    · rintro ⟨-, hover⟩
      refine ⟨hquiet, fun _ s _ _ r hr hafter => ?_⟩
      obtain ⟨t, ht, -⟩ := hafter
      exact absurd (hover ⟨r, hr, by simp [ht]⟩) (by simp)

/-! ## Every timer has a calibration -/

/-- Where a timer is created, a calibration has begun: before this coroutine, or in it. -/
def Begun : Bool → Co World CalibrationEvent CalibrationAwait Coordinator.Response (Except PyErr Unit) →
    Prop
  | _, .ret _ => True
  | began, .read k => ∀ w, Begun began (k w)
  | began, .write _ k => Begun began k
  | began, .emit e k => (e = .scheduled → began = true) ∧ Begun (began || decide (e = .started)) k
  | began, .await _ k => ∀ r, Begun began (k r)

/-- The coordinator's functions neither begin a calibration nor create its timer. -/
theorem Begun.linked_bind {α : Type} {began : Bool} (x : Coordinator.Async α)
    {f : Except PyErr α →
      Co World CalibrationEvent CalibrationAwait Coordinator.Response (Except PyErr Unit)}
    (hf : ∀ a, Begun began (f a)) : Begun began ((linked x).run.bind f) := by
  show Begun began ((Co.zoom calibrationLens x.run).bind f)
  generalize x.run = y
  induction y with
  | ret a => exact hf a
  | read k ih => exact fun w => ih w.coord
  | write g k ih => exact ih
  | emit e k ih =>
    refine ⟨fun h => absurd h (by simp [calibrationLens]), ?_⟩
    rw [decide_eq_false (by simp [calibrationLens]), Bool.or_false]
    exact ih
  | await l k ih => exact fun r => ih r

theorem begun_call : Begun false asyncCalibrateGrinder.run := by
  refine Begun.linked_bind _ fun connected => ?_
  cases connected with
  | error e => trivial
  | ok connected =>
    cases connected with
    | false => trivial
    | true =>
      show Begun false ((((linked Coordinator.sendCalibration).run.bind _).bind _).bind _)
      rw [Co.bind_assoc, Co.bind_assoc]
      refine Begun.linked_bind _ fun sent => ?_
      cases sent with
      | error e => trivial
      | ok _ =>
        -- the client is read, the flag raised, and the timer follows the refresh
        intro w
        show Begun false (((beginOn w.coord.client).run.bind (ExceptT.bindCont _)).bind _)
        cases w.coord.client with
        | none => trivial
        | some c => exact ⟨fun h => absurd h (by decide), fun _ => ⟨fun _ => rfl, trivial⟩⟩

/-- What a segment leaves to do knows what the segment did. -/
theorem Begun.segment {began : Bool}
    {x : Co World CalibrationEvent CalibrationAwait Coordinator.Response (Except PyErr Unit)}
    (h : Begun began x) (w : World) :
    (.scheduled ∈ (x.segment w).2.1 → began = true ∨ .started ∈ (x.segment w).2.1) ∧
      ∀ l k, (x.segment w).2.2 = .waits l k →
        ∀ r, Begun (began || decide (.started ∈ (x.segment w).2.1)) (k r) := by
  induction x generalizing began w with
  | ret a => exact ⟨fun h => absurd h List.not_mem_nil, fun l k hk => by cases hk⟩
  | read k ih => exact ih w (h w) w
  | write f k ih => exact ih h (f w)
  | await l k ih =>
    refine ⟨fun h => absurd h List.not_mem_nil, fun l' k' hk => ?_⟩
    cases hk
    intro r
    simpa [Co.segment] using h r
  -- the calibration begins at the event itself, for all that follows
  | emit e k ih =>
    obtain ⟨hscheduled, hrest⟩ := ih h.2 w
    refine ⟨fun hmem => ?_, fun l k' hk r => ?_⟩
    · rcases List.mem_cons.mp hmem with he | hmem
      · exact Or.inl (h.1 he.symm)
      · rcases hscheduled hmem with hbegan | hstarted
        · rcases (Bool.or_eq_true _ _).mp hbegan with hbegan | he
          · exact Or.inl hbegan
          · exact Or.inr (List.mem_cons.mpr (Or.inl (of_decide_eq_true he).symm))
        · exact Or.inr (List.mem_cons_of_mem _ hstarted)
    · have hbegun := hrest l k' hk r
      have hmem : (decide (e = .started) || decide (.started ∈ (k.segment w).2.1)) =
          decide (.started ∈ ((Co.emit e k).segment w).2.1) := by
        simp [Co.segment, eq_comm]
      rwa [Bool.or_assoc, hmem] at hbegun

/-- The calls that wait know whether they have begun a calibration, and every timer's is in the ledger. -/
structure Booked (b : Bench) : Prop where
  begun : ∀ t calling, b.calls t = some calling → ∀ r, Begun calling.run.isSome (calling.resume r)
  calls : ∀ t calling, b.calls t = some calling → ∀ run ∈ calling.run, run < b.ledger.runs.length
  timers : ∀ run ∈ b.timers, run < b.ledger.runs.length

/-- What a call that runs a segment has begun by its end. -/
def begunBy (b : Bench) (run : Option ℕ)
    (body : Co World CalibrationEvent CalibrationAwait Coordinator.Response (Except PyErr Unit)) :
    Option ℕ :=
  if decide (.started ∈ (body.segment b.world).2.1) then
    some ((b.ledger.next b.world (body.segment b.world).1
      (decide (.started ∈ (body.segment b.world).2.1))).runs.length - 1)
  else run

section
variable {run : Option ℕ}
  {body : Co World CalibrationEvent CalibrationAwait Coordinator.Response (Except PyErr Unit)}

theorem isSome_begunBy : (b.begunBy run body).isSome =
    (run.isSome || decide (.started ∈ (body.segment b.world).2.1)) := by
  unfold begunBy
  split
  · rename_i hstarted
    rw [hstarted, Bool.or_true]
    rfl
  · rename_i hstarted
    rw [Bool.eq_false_iff.mpr hstarted, Bool.or_false]

/-- It is in the ledger. -/
theorem begunBy_known (hrun : ∀ r ∈ run, r < b.ledger.runs.length) (t : ℕ) :
    ∀ r ∈ b.begunBy run body, r < (b.advance t run body).ledger.runs.length := by
  intro r hr
  show r < (b.ledger.next _ _ _).runs.length
  unfold begunBy at hr
  split at hr
  · rename_i hstarted
    obtain rfl := Option.some.inj hr
    have hlonger := (b.ledger.length_next b.world (body.segment b.world).1
      (decide (.started ∈ (body.segment b.world).2.1))).2 hstarted
    omega
  · exact lt_of_lt_of_le (hrun r hr) (b.ledger.length_next _ _ _).1

theorem Booked.advance (h : b.Booked) (t : ℕ) (hbegun : Begun run.isSome body)
    (hrun : ∀ r ∈ run, r < b.ledger.runs.length) : (b.advance t run body).Booked := by
  have hknown : ∀ r ∈ b.begunBy run body, r < (b.advance t run body).ledger.runs.length :=
    begunBy_known hrun t
  have hlonger : b.ledger.runs.length ≤ (b.advance t run body).ledger.runs.length :=
    (b.ledger.length_next _ _ _).1
  -- a call that waits now is the one that ran, or waited before
  have hcalls : ∀ t' calling, (b.advance t run body).calls t' = some calling →
      (calling.run = b.begunBy run body ∧
        ∃ l, (body.segment b.world).2.2 = .waits l calling.resume) ∨ b.calls t' = some calling := by
    intro t' calling hcall
    have hupdate : Function.update b.calls t (rest (b.begunBy run body) (body.segment b.world).2.2) t' =
      some calling := hcall
    rcases eq_or_ne t' t with rfl | hne
    · rw [Function.update_self] at hupdate
      cases hstop : (body.segment b.world).2.2 with
      | done r =>
        rw [hstop] at hupdate
        cases hupdate
      | waits l k =>
        rw [hstop] at hupdate
        obtain rfl := Option.some.inj hupdate
        exact Or.inl ⟨rfl, l, rfl⟩
    · rw [Function.update_of_ne hne] at hupdate
      exact Or.inr hupdate
  refine ⟨fun t' calling hcall r => ?_, fun t' calling hcall r hr => ?_, fun r hr => ?_⟩
  · rcases hcalls t' calling hcall with ⟨hrun', l, hwaits⟩ | hcall
    · rw [hrun', isSome_begunBy]
      exact (hbegun.segment b.world).2 l calling.resume hwaits r
    · exact h.begun t' calling hcall r
  · rcases hcalls t' calling hcall with ⟨hrun', -⟩ | hcall
    · rw [hrun'] at hr
      exact hknown r hr
    · exact lt_of_lt_of_le (h.calls t' calling hcall r hr) hlonger
  · -- a timer that is new was set by the run this call began
    have htimers : r ∈ b.timers ∨ r ∈ b.begunBy run body := by
      have hr : r ∈ if .scheduled ∈ (body.segment b.world).2.1 then
        b.timers ++ (b.begunBy run body).toList else b.timers := hr
      split at hr
      · exact (List.mem_append.mp hr).imp_right Option.mem_toList.mp
      · exact Or.inl hr
    rcases htimers with hr | hr
    · exact lt_of_lt_of_le (h.timers r hr) hlonger
    · exact hknown r hr

end

theorem booked_step (h : b.Booked) (a : BenchStep) : (b.step I yaml a).Booked := by
  cases a with
  | call =>
    have hcounted : Booked { b with spawned := b.spawned + 1 } := ⟨h.begun, h.calls, h.timers⟩
    exact hcounted.advance b.spawned begun_call fun r hr => by cases hr
  | resume t r =>
    cases hcall : b.calls t with
    | some calling =>
      rw [step_resume hcall]
      exact h.advance t (h.begun t calling hcall r) (h.calls t calling hcall)
    | none => rwa [step_resume_none hcall]
  | move m =>
    have hlonger := (b.ledger.length_next b.world (b.world.move I yaml m) false).1
    exact ⟨h.begun, fun t calling hcall run hrun =>
      lt_of_lt_of_le (h.calls t calling hcall run hrun) hlonger,
      fun run hrun => lt_of_lt_of_le (h.timers run hrun) hlonger⟩
  | expire run =>
    have hlonger := (b.ledger.length_next b.world b.expiry.1 false).1
    show Booked (if run ∈ b.timers then _ else b)
    split
    · exact ⟨h.begun, fun t calling hcall run hrun =>
        lt_of_lt_of_le (h.calls t calling hcall run hrun) hlonger,
        fun r hr => lt_of_lt_of_le (h.timers r (List.mem_of_mem_erase hr)) hlonger⟩
    · exact h

/-- **Every timer that sleeps is that of a calibration in the ledger**, in every run. -/
theorem booked_run (w : World) (steps : List BenchStep) :
    (run (step I yaml) (idle w) steps).Booked := by
  have hstep : ∀ (b : Bench) (a : BenchStep), b.Booked → (b.step I yaml a).Booked :=
    fun _ a h => booked_step h a
  have hidle : (idle w).Booked :=
    ⟨fun _ _ h => (by cases h), fun _ _ h => (by cases h), fun _ h => absurd h List.not_mem_nil⟩
  exact run_preserves hstep hidle steps

/-- **A call that creates a timer has begun a calibration**, and the timer is that calibration's. -/
theorem Booked.timer (h : b.Booked) {t : ℕ} {calling : Calling} (hcall : b.calls t = some calling)
    (r : Coordinator.Response)
    (hscheduled : .scheduled ∈ ((calling.resume r).segment b.world).2.1) :
    ∃ run, b.begunBy calling.run (calling.resume r) = some run ∧
      (b.step I yaml (.resume t r)).timers = b.timers ++ [run] := by
  have hbegun : (b.begunBy calling.run (calling.resume r)).isSome = true := by
    rw [isSome_begunBy, Bool.or_eq_true, decide_eq_true_eq]
    exact ((h.begun t calling hcall r).segment b.world).1 hscheduled
  obtain ⟨run, hrun⟩ := Option.isSome_iff_exists.mp hbegun
  refine ⟨run, hrun, ?_⟩
  rw [step_resume hcall]
  show (if .scheduled ∈ ((calling.resume r).segment b.world).2.1 then
    b.timers ++ (b.begunBy calling.run (calling.resume r)).toList else b.timers) = _
  rw [if_pos hscheduled, hrun]
  rfl

end Bench

/-- **Every timer ends its own calibration only, if and only if each expires in time.**  In every run of
calls, timers and all that happens around them, no timer's expiry raises, and none ends a calibration that
began after its own was over, if and only if each that expires finds a client, and no calibration if its
own is over. -/
theorem timers_end_own_iff (I : Identifiers) (yaml : YamlLayer) (w : World) (steps : List BenchStep) :
    AllSteps (Bench.step I yaml) Bench.EndsOwn (.idle w) steps ↔
      AllSteps (Bench.step I yaml) Bench.Timely (.idle w) steps := by
  have hstep : ∀ (b : Bench) (a : BenchStep), Kept b.ledger b.world →
      Kept (b.step I yaml a).ledger (b.step I yaml a).world ∧ (b.EndsOwn a ↔ b.Timely a) := by
    intro b a h
    refine ⟨Bench.kept_step h a, ?_⟩
    cases a with
    | expire run => exact imp_congr_right fun _ => Bench.sound_iff h run
    | call => exact Iff.rfl
    | resume t r => exact Iff.rfl
    | move m => exact Iff.rfl
  exact AllSteps.iff_of_kept hstep steps (Bench.kept_idle w)

/-! ## An old timer, and a timer without a client -/

/-- A machine that is connected. -/
def connectedMachine : World where
  coord :=
    { clients := [{ connected := true }]
      client := some 0
      store := { options := Dict.empty, selectedRecipe := none } }

/-- A call whose write succeeds, and its refresh. -/
def calibration (t : ℕ) : List BenchStep := [.call, .resume t .done, .resume t .done]

/-- A calibration that the machine completes, and a second one. -/
def twoCalibrations : List BenchStep :=
  calibration 0 ++ [.move (.frame 0 (Telemetry.wordFrame 0x4E 0x9E 85))] ++ calibration 1

/-- A calibration, and a disconnect. -/
def calibrationThenDisconnect : List BenchStep := calibration 0 ++ [.move (.disconnect false)]

/-- What these steps come to. -/
def benchAfter (steps : List BenchStep) : Bench :=
  run (Bench.step plainIdentifiers morningYaml) (.idle connectedMachine) steps

/-- A timer of the first call that expires after all that. -/
theorem sound_of_endsOwn {steps : List BenchStep}
    (h : AllSteps (Bench.step plainIdentifiers morningYaml) Bench.EndsOwn (.idle connectedMachine)
      (steps ++ [.expire 0])) (htimer : 0 ∈ (benchAfter steps).timers) : (benchAfter steps).Sound 0 :=
  (AllSteps.append_iff.mp h).2.1 htimer

/-- **The timer of the first calibration ends the second**, although the first was long complete; **and a
timer raises** when the link is down. -/
theorem old_timer_ends_newer :
    ¬ AllSteps (Bench.step plainIdentifiers morningYaml) Bench.EndsOwn (.idle connectedMachine)
        (twoCalibrations ++ [.expire 0]) ∧
      ¬ AllSteps (Bench.step plainIdentifiers morningYaml) Bench.EndsOwn (.idle connectedMachine)
        (calibrationThenDisconnect ++ [.expire 0]) := by
  constructor
  · intro h
    have hsound := sound_of_endsOwn h (by decide +kernel)
    have hledger : (benchAfter twoCalibrations).ledger =
        { now := 3, runs := [{ started := 0, ended := some 1 }, { started := 2 }] } := by decide +kernel
    have hown := hsound.own (Or.inl (by decide +kernel))
    rw [hledger] at hown
    exact hown { started := 2 } (by simp) rfl { started := 0, ended := some 1 } rfl ⟨1, rfl, by decide⟩
  · intro h
    have hsound := sound_of_endsOwn h (by decide +kernel)
    have hclient : (benchAfter calibrationThenDisconnect).world.coord.client = none := by decide +kernel
    exact hsound.quiet .attributeError (by rw [Bench.expiry_none hclient])

end XBloom.Slots
