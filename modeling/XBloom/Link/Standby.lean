/-
# XBloom.Link.Standby — the idle standby, and the actions it may cut short

The poll tests the flags and the idle countdown, and not the actions in flight.  Where `hass` starts a
task as soon as it is created nothing comes between that test and the teardown, so the standby is safe
exactly as long as no action without a flag outlasts the countdown.
-/
import XBloom.Link.SwitchOff

namespace XBloom.Link

open XBloom.Async XBloom.Logic

/-! ## Actions in flight -/

/-- **The actions in flight**: they have passed `_async_ensure_connected` and have not returned.  Each
with its task and the last activity noted when it passed. -/
def inFlight (p : LinkPool) : List (ℕ × ℕ) :=
  p.trace.filterMap fun e =>
    match e.event with
    | .passedGate noted => if (p.tasks e.task).isSome then some (e.task, noted) else none
    | _ => none

theorem mem_inFlight {p : LinkPool} {t noted : ℕ} :
    (t, noted) ∈ inFlight p ↔
      ∃ e ∈ p.trace, e.task = t ∧ e.event = .passedGate noted ∧ (p.tasks t).isSome = true := by
  simp only [inFlight, List.mem_filterMap]
  refine exists_congr fun e => and_congr_right fun _ => ?_
  cases e.event with
  | passedGate noted' =>
    by_cases hsome : (p.tasks e.task).isSome = true
    · simp only [hsome, if_true, Option.some.injEq, Prod.mk.injEq, Event.passedGate.injEq]
      constructor
      · rintro ⟨rfl, rfl⟩
        exact ⟨rfl, rfl, hsome⟩
      · rintro ⟨rfl, rfl, _⟩
        exact ⟨rfl, rfl⟩
    · simp only [hsome]
      constructor
      · intro h
        cases h
      · rintro ⟨rfl, _, h⟩
        exact absurd h hsome
  | _ => simp

/-- No action in flight was let in longer ago than the idle countdown. -/
def withinTimeout (p : LinkPool) : Bool :=
  (inFlight p).all fun x => decide (p.world.since x.2 ≤ 1000 * p.world.sessionTimeout)

/-! ## The conditions on steps -/

/-- `hass.async_create_task` starts the standby where it is created: it is the next to run. -/
def startsStandby (p : LinkPool) : LinkAction → Bool
  | .resume t _ => decide (∀ t' < p.spawned, p.At t' (.scheduled .standby) → t' = t)
  | _ => decide (∀ t' < p.spawned, ¬ p.At t' (.scheduled .standby))

/-- A poll that puts an idle link into standby finds no action that outlasts the countdown. -/
def pollsInTime (p : LinkPool) : LinkAction → Bool
  | .spawn .poll => !p.world.entersStandby || withinTimeout p
  | _ => true

/-- **A standby cuts nothing short**: when its teardown starts, no action is in flight and nothing is
armed, active or prompting. -/
def CutsNothing (p : LinkPool) (a : LinkAction) : Prop :=
  .standbyTeardown ∈ p.emitted system a → inFlight p = [] ∧ p.world.atRest = true

variable {p : LinkPool} {a : LinkAction}

/-- An action that finds the link up passes the gate at once. -/
theorem action_passes_gate (hup : p.world.linkUp = true) (wakes : Bool) (awaits : ℕ) :
    p.emitted system (.spawn (.action wakes awaits)) ≠ [] := by
  have hgate : (ensureConnected.run : Co World Event Point Response (Except _ Bool)).segment p.world =
      (p.world.noteActivity, [], .done (.ok true)) := by
    have hup : p.world.noteActivity.linkUp = true := hup
    show Co.segment (ExceptT.run (if p.world.noteActivity.linkUp then pure true
      else if p.world.noteActivity.idleDisconnected then asyncConnect else pure false))
        p.world.noteActivity = _
    rw [if_pos hup]
    rfl
  show ((Co.bind (Co.bind ensureConnected.run (ExceptT.bindCont _)) fun _ => .ret ()).segment
    p.world).2.1 ≠ []
  rw [Co.bind_assoc, Co.segment_bind_done hgate]
  exact List.cons_ne_nil _ _

/-! ## The invariant -/

/-- **What every pool of such a run keeps**: activity is noted in the past, no action notes a later one
when it passes the gate, and a standby that is scheduled finds nothing to cut short. -/
structure Patient (p : LinkPool) : Prop where
  orderly : Orderly p
  timely : p.world.Timely
  gates : ∀ e ∈ p.trace, ∀ noted, e.event = .passedGate noted → noted ≤ p.world.lastActivity
  standby : ∀ t, p.At t (.scheduled .standby) → inFlight p = [] ∧ p.world.atRest = true

theorem patient_initial (sessionTimeout clock : ℕ) :
    Patient (Pool.idle (World.initial sessionTimeout clock)) := by
  refine ⟨orderly_idle rfl, le_rfl, fun e he => absurd he List.not_mem_nil, fun t hat => ?_⟩
  obtain ⟨τ, hτ, _⟩ := hat
  cases hτ

/-- A poll that enters standby counts from the last activity. -/
theorem World.entersStandby_iff {w : World} (h : w.entersStandby = true) :
    w.linkUp = true ∧ w.atRest = true ∧ 1000 * w.sessionTimeout < w.since w.lastActivity := by
  unfold World.entersStandby at h
  unfold World.linkUp
  cases hclient : w.client with
  | none => simp [hclient] at h
  | some c =>
    simp only [hclient, Option.any_some, Bool.and_eq_true, World.idle, decide_eq_true_eq] at h ⊢
    exact ⟨h.1.1, h.2.1.2, h.2.2⟩

/-- **A poll finds no action in flight** when it enters standby in time. -/
theorem Patient.none_in_flight (h : Patient p) (henters : p.world.entersStandby = true)
    (htime : withinTimeout p = true) : inFlight p = [] := by
  refine List.eq_nil_iff_forall_not_mem.mpr fun ⟨t, noted⟩ hmem => ?_
  have hwithin : p.world.since noted ≤ 1000 * p.world.sessionTimeout := by
    simpa using List.all_eq_true.mp htime _ hmem
  obtain ⟨e, he, _, hevent, _⟩ := mem_inFlight.mp hmem
  have hnoted := h.gates e he noted hevent
  have hidle := (World.entersStandby_iff henters).2.2
  unfold World.since at hwithin hidle
  omega

/-- A call that begins by scheduling a standby is a poll. -/
theorem spawn_of_standby {c : Call} (hup : p.world.linkUp = true)
    (hevents : p.emitted system (.spawn c) = []) : c = .poll := by
  cases c with
  | turnOn => exact absurd (hevents ▸ turnOn_emitted p) List.not_mem_nil
  | turnOff => exact absurd (hevents ▸ turnOff_emitted p) List.not_mem_nil
  | poll => rfl
  | action wakes awaits => exact absurd hevents (action_passes_gate hup wakes awaits)

/-- **A poll schedules a standby** only when there is nothing to cut short. -/
theorem Patient.scheduled (h : Patient p) (htime : pollsInTime p a = true) {turn}
    (hturn : p.turn system a = some turn)
    (harrives : Arrives (.scheduled .standby) (p.passage system a turn)) :
    inFlight (p.step system a) = [] ∧ (p.step system a).world.atRest = true := by
  obtain ⟨_, hfound, hsegment⟩ := harrives
  have henters : p.world.entersStandby = true := hfound
  have hnone : turn.resumed = none := congrArg Segment.resumed hsegment
  have hworld : (p.step system a).world = { p.world with idleStandbyPending := true } :=
    congrArg Segment.now hsegment
  have hevents : p.emitted system a = [] := congrArg Segment.events hsegment
  obtain ⟨hup, hrest, _⟩ := World.entersStandby_iff henters
  rcases Pool.turn_cases hturn with ⟨htask, _, _, rfl⟩ | ⟨τ, r, _, _, hsome, _⟩
  · rw [spawn_of_standby hup hevents] at htime
    have hbefore := h.none_in_flight henters (by simpa [pollsInTime, henters] using htime)
    refine ⟨List.eq_nil_iff_forall_not_mem.mpr fun ⟨t, noted⟩ hmem => ?_, ?_⟩
    · -- the poll has passed no gate, and every other task waits where it did
      obtain ⟨e, he, rfl, hevent, hwaits⟩ := mem_inFlight.mp hmem
      obtain ⟨_, htrace, htasks⟩ := Pool.step_of_turn hturn
      rw [htrace, ← Pool.emitted_of_turn hturn, hevents, mark, List.map_nil, List.append_nil] at he
      have hne : e.task ≠ turn.task := by
        rw [htask]
        exact (h.orderly.numbered.trace e he).ne
      rw [htasks, Function.update_of_ne hne] at hwaits
      have hold : (e.task, noted) ∈ inFlight p := mem_inFlight.mpr ⟨e, he, rfl, hevent, hwaits⟩
      rw [hbefore] at hold
      exact absurd hold List.not_mem_nil
    · rw [hworld]
      exact hrest
  · cases hsome.symm.trans hnone

/-- **One step keeps it.** -/
theorem Patient.step (h : Patient p) (hstarts : startsStandby p a = true)
    (htime : pollsInTime p a = true) : Patient (p.step system a) := by
  have hlater : p.world.lastActivity ≤ (p.step system a).world.lastActivity ∧
      (p.step system a).world.Timely := by
    cases hturn : p.turn system a with
    | some turn => exact (h.orderly.lawful a turn hturn).timely h.timely
    | none =>
      rcases Pool.world_of_no_turn hturn with ⟨m, _, hworld⟩ | hworld
      · rw [hworld]
        exact ⟨World.move_activity h.timely m, World.move_timely h.timely m⟩
      · rw [hworld]
        exact ⟨le_rfl, h.timely⟩
  refine ⟨h.orderly.step a, hlater.2, fun e he noted hevent => ?_, fun t hat => ?_⟩
  · obtain ⟨es, hes, hemitted⟩ := p.step_adds (S := system) a
    rw [hes, List.mem_append] at he
    rcases he with he | he
    · exact (h.gates e he noted hevent).trans hlater.1
    · have hnow : .passedGate noted ∈ p.emitted system a := by
        rw [← hemitted, ← hevent]
        exact List.mem_map_of_mem he
      cases hturn : p.turn system a with
      | some turn => exact (h.orderly.lawful a turn hturn).gates h.timely noted hnow
      | none =>
        simp only [Pool.emitted, hturn] at hnow
        exact absurd hnow List.not_mem_nil
  · rcases (h.orderly.arrives a).at_step hat with ⟨hold, hother⟩ | ⟨turn, hturn, rfl, harrives⟩
    · -- the scheduled standby was the next to run
      obtain ⟨τ, hτ, hl⟩ := id hold
      have ht := h.orderly.numbered.tasks t τ hτ
      cases a with
      | resume t' r =>
        obtain rfl : t = t' := of_decide_eq_true hstarts t ht hold
        have hturn : p.turn system (.resume t r) =
            some ⟨t, τ.call, some (τ.label, r), τ.resume r⟩ := by
          simp [Pool.turn, hτ, hl, system]
        exact absurd rfl (hother _ hturn)
      | spawn c => exact absurd hold (of_decide_eq_true hstarts t ht)
      | move m => exact absurd hold (of_decide_eq_true hstarts t ht)
    · exact h.scheduled htime hturn harrives

/-! ## Standby -/

theorem Patient.cutsNothing (h : Patient p) (a : LinkAction) : CutsNothing p a := by
  intro he
  cases hturn : p.turn system a with
  | some turn =>
    obtain ⟨r, hresumed⟩ := (h.orderly.lawful a turn hturn).standby he
    exact h.standby turn.task (Pool.at_of_resumed hturn hresumed).1
  | none =>
    simp only [Pool.emitted, hturn] at he
    exact absurd he List.not_mem_nil

/-- **When idle standby cuts no action short.**  In every run in which the standby starts where it is
created, and no poll enters standby while an action is in flight that was let in longer ago than the
session timeout, no teardown starts with an action in flight or with anything armed, active or
prompting. -/
theorem standby_cuts_nothing (sessionTimeout clock : ℕ) (as : List LinkAction)
    (hstarts : AllSteps (Pool.step system) (fun p a => startsStandby p a = true)
      (Pool.idle (World.initial sessionTimeout clock)) as)
    (htime : AllSteps (Pool.step system) (fun p a => pollsInTime p a = true)
      (Pool.idle (World.initial sessionTimeout clock)) as) :
    AllSteps (Pool.step system) CutsNothing (Pool.idle (World.initial sessionTimeout clock)) as := by
  have hstep : ∀ (p : LinkPool) (a : LinkAction), Patient p →
      startsStandby p a = true ∧ pollsInTime p a = true →
        Patient (p.step system a) ∧ CutsNothing p a :=
    fun _ a h hboth => ⟨h.step hboth.1 hboth.2, h.cutsNothing a⟩
  exact AllSteps.of_invariant hstep (patient_initial sessionTimeout clock) (hstarts.and htime)

/-- The link is left alone for a minute after an action has returned, and then put into standby. -/
theorem idle_link_dropped :
    let as : List LinkAction := .spawn .turnOn :: connects 0 ++ [.spawn (.action false 1),
      .resume 1 .done, .move (.elapse 61000), .move (.notification 0 false), .spawn .poll,
      .resume 2 .done]
    AllSteps (Pool.step system) CutsNothing (Pool.idle (World.initial 60 0)) as ∧
      (run (Pool.step system) (Pool.idle (World.initial 60 0)) as).world.idleDisconnected = true :=
  ⟨standby_cuts_nothing 60 0 _ (by decide +kernel) (by decide +kernel), by decide +kernel⟩

/-- **An action that sets no flag is cut short.**  With a session timeout of ten seconds, an action that
takes eleven is in flight when the poll finds the link idle, and the teardown starts at once. -/
theorem slow_action_cut_short :
    let p := run (Pool.step system) (Pool.idle (World.initial 10 0))
      (.spawn .turnOn :: connects 0 ++ [.spawn (.action false 1), .move (.elapse 11000),
        .spawn .poll])
    p.emitted system (.resume 2 .done) = [.standbyTeardown] ∧ inFlight p = [(1, 0)] ∧
      ¬ CutsNothing p (.resume 2 .done) := by
  intro p
  have hteardown : p.emitted system (.resume 2 .done) = [.standbyTeardown] := by decide +kernel
  have hflies : inFlight p = [(1, 0)] := by decide +kernel
  refine ⟨hteardown, hflies, fun hsafe => ?_⟩
  have hnone := (hsafe (by rw [hteardown]; exact List.mem_singleton.mpr rfl)).1
  cases hflies.symm.trans hnone

end XBloom.Link
