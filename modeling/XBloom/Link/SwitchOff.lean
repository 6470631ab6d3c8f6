/-
# XBloom.Link.SwitchOff — the user's off, and what undoes it

After the switch was turned off no connect begins and no link stays up, over every interleaving that
avoids five situations: a connect already in flight is given its link, one that waits for the lock goes
ahead, an action finds a standby to undo, a drop of the coordinator's own ends and clears the flag, and
the teardown misses a link.
-/
import XBloom.Link.Runs

namespace XBloom.Link

open XBloom.Async XBloom.Logic

/-! ## The switch -/

/-- **The switch as the user left it**: on; or off, with the tasks that turned it off and the clients
whose connect has begun since. -/
inductive Switch where
  | on
  | off (tasks clients : List ℕ)
  deriving DecidableEq

/-- What an event does to it. -/
def Switch.after (s : Switch) (e : Entry Call Event) : Switch :=
  match s, e.call, e.event with
  | _, _, .turnOn => .on
  | .on, .turnOff, .turnOff => .off [e.task] []
  | .off ts ns, .turnOff, .turnOff => .off (e.task :: ts) ns
  | .off ts ns, _, .connecting n => .off ts (n :: ns)
  | s, _, _ => s

/-- The switch, as a trace shows it. -/
def switch (tr : Trace Call Event) : Switch := tr.foldl Switch.after .on

/-- A segment that does not turn the switch off leaves it off only if it was. -/
theorem off_of_mark {t : ℕ} {c : Call} {es : List Event} (hoff : .turnOff ∉ es) {s : Switch}
    {ts ns : List ℕ} (h : (mark t c es).foldl Switch.after s = .off ts ns) :
    .turnOn ∉ es ∧ ∃ ns₀, s = .off ts ns₀ ∧ ∀ n ∈ ns, n ∈ ns₀ ∨ .connecting n ∈ es := by
  induction es generalizing s with
  | nil => exact ⟨List.not_mem_nil, ns, h, fun n hn => Or.inl hn⟩
  | cons e rest ih =>
    simp only [List.mem_cons, not_or] at hoff ⊢
    obtain ⟨hon, ns₀, hs, hbegun⟩ := ih hoff.2 h
    cases e with
    | turnOn => cases hs
    | turnOff => exact absurd rfl hoff.1
    | connecting m =>
      cases s with
      | on => cases hs
      | off ts' ns' =>
        -- the client joins those whose connect began
        cases hs
        refine ⟨⟨by simp, hon⟩, ns', rfl, fun n hn => ?_⟩
        rcases hbegun n hn with hn | hn
        · rcases List.mem_cons.mp hn with rfl | hn
          · exact Or.inr (Or.inl rfl)
          · exact Or.inl hn
        · exact Or.inr (Or.inr hn)
    | _ =>
      have hsame : s = .off ts ns₀ := by
        cases s <;> exact hs
      exact ⟨⟨by simp, hon⟩, ns₀, hsame, fun n hn => (hbegun n hn).imp id Or.inr⟩

/-! ## The condition on steps -/

instance (w : World) : Decidable w.Owns :=
  decidable_of_iff (∀ c < w.clients.length, w.isConnected c = true → w.client = some c) <| by
    refine ⟨fun h c hup => h c ?_ hup, fun h c _ hup => h c hup⟩
    by_contra hlt
    simp [World.isConnected, List.getElem?_eq_none (Nat.not_lt.mp hlt)] at hup

/-- A task that is resumed here heeds the off, with these connects begun since. -/
def Point.heeds (w : World) (begun : List ℕ) : Point → Response → Bool
  | .connectLock, _ => !w.mayConnect
  | .connecting n .link, r => decide (r = .failed) || decide (n ∈ begun)
  | .disconnecting .switchOff c .bleak, r => decide (r = .done) || !w.isConnected c
  | .refreshing .staleLink, _ => false
  | .refreshing .wake, _ => false
  | _, _ => true

/-- **The step heeds the user's off.**  When the switch is turned off, every link that is up is
`self.client`'s and no reconnect is scheduled.  While it is off, no connect that had begun is given its
link and none that waited for the lock goes ahead, no action finds a standby to undo, no drop of the
coordinator's own ends, and the switch's own teardown fails only on a link that is down. -/
def heeds (p : LinkPool) (a : LinkAction) : Bool :=
  match switch p.trace, a with
  | _, .spawn .turnOff =>
    decide p.world.Owns && decide (∀ t < p.spawned, ¬ p.At t (.scheduled .reconnect))
  | .off _ _, .spawn (.action _ _) => !(p.world.idleDisconnected && p.world.mayConnect)
  | .off _ ns, .resume t r => ((p.tasks t).map Suspended.label).all fun l => l.heeds p.world ns r
  | _, _ => true

variable {p : LinkPool} {a : LinkAction} {ts ns : List ℕ}

theorem heeds_turnOff (h : heeds p (.spawn .turnOff) = true) :
    p.world.Owns ∧ ∀ t < p.spawned, ¬ p.At t (.scheduled .reconnect) := by
  cases hs : switch p.trace <;> simpa [heeds, hs] using h

theorem heeds_action (hoff : switch p.trace = .off ts ns) {wakes : Bool} {awaits : ℕ}
    (h : heeds p (.spawn (.action wakes awaits)) = true) :
    p.world.idleDisconnected = true → p.world.mayConnect = false := by
  intro hidle
  simpa [heeds, hoff, hidle] using h

theorem heeds_resume (hoff : switch p.trace = .off ts ns) {t : ℕ} {l : Point} {r : Response}
    (hat : p.At t l) (h : heeds p (.resume t r) = true) : l.heeds p.world ns r = true := by
  obtain ⟨τ, hτ, rfl⟩ := hat
  simpa [heeds, hoff, hτ] using h

/-! ## First segments -/

theorem turnOn_emitted (p : LinkPool) : .turnOn ∈ p.emitted system (.spawn .turnOn) :=
  List.mem_cons_self

theorem turnOff_emitted (p : LinkPool) : .turnOff ∈ p.emitted system (.spawn .turnOff) :=
  List.mem_cons_self

/-- A segment, if it is the first of its call, emits nothing and leaves the user's off. -/
def Polls (σ : LinkSegment) : Prop :=
  σ.resumed = none → σ.events = [] ∧ σ.now.manualDisconnect = σ.before.manualDisconnect

theorem createTask_polls {task : Background} {x : Managing Unit} :
    Passes (fun _ => Polls) Polls (createTask task x) (fun _ => Polls) fun _ => Polls := by
  have hlater : ∀ σ : LinkSegment, σ.resumed ≠ none → Polls σ := fun σ h hnone => absurd hnone h
  refine Passes.bind (Q := fun _ σ => σ.resumed ≠ none)
    (Passes.await (fun σ h => h) fun r w => by simp [Segment.start]) fun _ => ?_
  exact Passes.later (fun _ σ h => hlater σ h) (fun _ σ h => hlater σ h) (fun _ σ h => hlater σ h)
    fun σ h => h

theorem maybeScheduleReconnect_polls :
    Passes (fun _ => Polls) Polls maybeScheduleReconnect (fun _ => Polls) fun _ => Polls := by
  refine Passes.world fun w => ?_
  have hstay : Passes (fun _ => Polls) (fun σ => Polls σ ∧ σ.now = w) (pure () : Managing Unit)
      (fun _ => Polls) fun _ => Polls := Passes.pure fun σ h => h.1
  split
  · exact hstay
  · split
    · exact hstay
    · split
      · exact hstay
      · exact createTask_polls.pre fun σ h => h.1

/-- **A poll clears nothing** before what it schedules begins. -/
theorem asyncUpdateData_polls :
    Passes (fun _ => Polls) Polls asyncUpdateData (fun _ => Polls) fun _ => Polls := by
  refine Passes.world fun w => ?_
  have hreconnect : Passes (fun _ => Polls) (fun σ => Polls σ ∧ σ.now = w) maybeScheduleReconnect
      (fun _ => Polls) fun _ => Polls := maybeScheduleReconnect_polls.pre fun σ h => h.1
  split
  · exact hreconnect
  · split
    · split
      · exact Passes.bind (Q := fun _ => Polls) (Passes.assign fun σ h => h.1) fun _ =>
          createTask_polls
      · split
        · exact Passes.bind (Q := fun _ => Polls) (Passes.assign fun σ h => h.1) fun _ =>
            createTask_polls
        · exact Passes.pure fun σ h => h.1
    · exact hreconnect

theorem poll_segment (p : LinkPool) : p.emitted system (.spawn .poll) = [] ∧
    (p.step system (.spawn .poll)).world.manualDisconnect = p.world.manualDisconnect := by
  have hturn : p.turn system (.spawn .poll) = some ⟨p.spawned, .poll, none, system.program .poll⟩ :=
    rfl
  have hall : (system.program .poll).AllSegments (fun _ => Polls) Polls (.start none p.world) :=
    asyncUpdateData_polls.allSegments fun _ => ⟨rfl, rfl⟩
  obtain ⟨hwaits, hdone⟩ := passage_of_turn hturn hall
  cases hτ : (p.step system (.spawn .poll)).tasks p.spawned with
  | some τ => exact (hwaits τ hτ).1 rfl
  | none => exact hdone hτ rfl

/-! ## The invariant -/

/-- **What turning the switch off leaves**: the flag set, no reconnect scheduled, and for each task that
did it no link, or a teardown under way of the only one. -/
structure Down (p : LinkPool) (ts : List ℕ) : Prop where
  manual : p.world.manualDisconnect = true
  unscheduled : ∀ t, ¬ p.At t (.scheduled .reconnect)
  gone : ∀ t ∈ ts, p.world.NoLink ∨
    ∃ c stage, p.At t (.disconnecting .switchOff c stage) ∧ p.world.Only c

/-- **What every pool of such a run keeps.** -/
structure Heeded (p : LinkPool) : Prop where
  orderly : Orderly p
  off : ∀ ts ns, switch p.trace = .off ts ns → ns = [] ∧ Down p ts

theorem heeded_idle {w : World} (hfree : w.connectLocked = false) : Heeded (Pool.idle w) :=
  ⟨orderly_idle hfree, fun ts ns h => by cases h⟩

/-- What a segment that turns the switch off did. -/
theorem Arrives.turnsOff {l : Point} {σ : LinkSegment} (h : Arrives l σ) (he : .turnOff ∈ σ.events) :
    TurnsOff σ ∧ σ.now.manualDisconnect = true ∧
      ((∃ c, l = .disconnecting .switchOff c .stopNotify ∧ σ.before.client = some c) ∨
        σ.before.linkUp = false) := by
  -- most points are reached by calm segments only, which turn nothing off
  have hcalm : ¬ Calm σ := fun hcalm => hcalm.2 he
  cases l with
  | scheduled task =>
    cases task with
    | reconnect => exact absurd h.1 hcalm
    | dropStaleLink => exact absurd h hcalm
    | standby => exact absurd h.1 hcalm
  | connecting n stage =>
    cases stage with
    | link => exact absurd he h.1.1.noOff
    | _ => exact absurd he h.1.noOff
  | disconnecting why c stage =>
    cases stage with
    | stopNotify =>
      obtain ⟨rfl, hturns, hmanual, hclient⟩ := h.2 he
      exact ⟨hturns, hmanual, Or.inl ⟨c, rfl, hclient⟩⟩
    | bleak =>
      obtain ⟨r, w, rfl⟩ := h
      cases he
  | refreshing why =>
    obtain ⟨_, hturns, hmanual, hdown⟩ := h.2 he
    exact ⟨hturns, hmanual, Or.inr hdown⟩
  | connectLock => exact absurd h hcalm
  | wakeHandshake c => exact absurd h hcalm
  | wakePoll => exact absurd h hcalm
  | acting => exact absurd h hcalm

/-- From `stop_notify` a teardown goes on to bleak's disconnect. -/
theorem Arrives.after_stopNotify {l : Point} {σ : LinkSegment} (h : Arrives l σ) {why : Teardown}
    {c : ℕ} {r : Response} (hresumed : σ.resumed = some (.disconnecting why c .stopNotify, r)) :
    l = .disconnecting why c .bleak := by
  have hmoved : ¬ Common σ := fun hcommon => hcommon.moved why c r hresumed
  cases l with
  | scheduled task =>
    cases task with
    | reconnect => exact absurd h.1.1.toCommon hmoved
    | dropStaleLink => exact absurd h.1.toCommon hmoved
    | standby => exact absurd h.1.1.toCommon hmoved
  | connecting n stage =>
    cases stage with
    | link => exact absurd h.1.1.toCommon hmoved
    | _ => exact absurd h.1.toCommon hmoved
  | disconnecting why' c' stage =>
    cases stage with
    | stopNotify => exact absurd h.1.toCommon hmoved
    | bleak =>
      obtain ⟨r', w, rfl⟩ := h
      cases hresumed
      rfl
  | refreshing why => exact absurd h.1.toCommon hmoved
  | connectLock => exact absurd h.1.toCommon hmoved
  | wakeHandshake c => exact absurd h.1.toCommon hmoved
  | wakePoll => exact absurd h.1.toCommon hmoved
  | acting => exact absurd h.1.toCommon hmoved

/-- **While the switch is off no link comes up.** -/
theorem Heeded.links (h : Heeded p) (ha : heeds p a = true) (hoff : switch p.trace = .off ts ns)
    {c : ℕ} (hup : (p.step system a).world.isConnected c = true) : p.world.isConnected c = true := by
  rcases h.orderly.links hup with hold | ⟨t, hat, rfl⟩
  · exact hold
  · -- a connect that had begun would be given its link
    have hheeds := heeds_resume hoff hat ha
    rw [(h.off ts ns hoff).1] at hheeds
    simp [Point.heeds] at hheeds

/-- **While the switch is off nothing reopens the link**, unless the user does. -/
theorem Heeded.reopens (h : Heeded p) (ha : heeds p a = true) (hoff : switch p.trace = .off ts ns)
    {turn} (hturn : p.turn system a = some turn) (hreopens : Reopens (p.passage system a turn)) :
    .turnOn ∈ p.emitted system a ∨ a = .spawn .poll ∨ a = .spawn .turnOff := by
  rcases hreopens with hon | ⟨hnone, hidle, hmay⟩ | ⟨l, r, hresumed, hl⟩
  · exact Or.inl hon
  · rcases Pool.turn_cases hturn with ⟨_, _, _, rfl⟩ | ⟨τ, r, _, _, hsome, _⟩
    · generalize turn.call = call at ha ⊢
      cases call with
      | turnOn => exact Or.inl (turnOn_emitted p)
      | turnOff => exact Or.inr (Or.inr rfl)
      | poll => exact Or.inr (Or.inl rfl)
      | action wakes awaits =>
        have hmay : p.world.mayConnect = true := hmay
        rw [heeds_action hoff ha hidle] at hmay
        exact absurd hmay Bool.false_ne_true
    · cases hsome.symm.trans hnone
  · obtain ⟨hat, rfl⟩ := Pool.at_of_resumed hturn hresumed
    have hheeds := heeds_resume hoff hat ha
    rcases hl with ⟨rfl | rfl, hmay⟩ | rfl | rfl
    · have hmay : p.world.mayConnect = true := hmay
      simp [Point.heeds, hmay] at hheeds
    · exact absurd hat ((h.off ts ns hoff).2.unscheduled _)
    · cases hheeds
    · cases hheeds

/-- **The teardown of a switch that is off** goes on until no link is up. -/
theorem Heeded.gone (h : Heeded p) (ha : heeds p a = true) (hoff : switch p.trace = .off ts ns)
    {t : ℕ} (ht : t ∈ ts) : (p.step system a).world.NoLink ∨
      ∃ c stage, (p.step system a).At t (.disconnecting .switchOff c stage) ∧
        (p.step system a).world.Only c := by
  rcases (h.off ts ns hoff).2.gone t ht with hno | ⟨c, stage, hat, honly⟩
  · refine Or.inl (World.noLink_of_not fun c hup => ?_)
    have hold := h.links ha hoff hup
    rw [hno c] at hold
    exact Bool.noConfusion hold
  · have hstill : (p.step system a).world.Only c := fun c' hup => honly c' (h.links ha hoff hup)
    -- another task's turn leaves the teardown where it waits
    by_cases hother : ∀ turn, p.turn system a = some turn → t ≠ turn.task
    · exact Or.inr ⟨c, stage, Pool.at_of_other hat hother, hstill⟩
    · simp only [ne_eq, not_forall, not_not] at hother
      obtain ⟨turn, hturn, rfl⟩ := hother
      obtain ⟨r, hresumed, rfl⟩ := Pool.resumed_of_at h.orderly.numbered hturn hat
      obtain ⟨hwaits, hdone⟩ := h.orderly.arrives _ turn hturn
      cases stage with
      | stopNotify =>
        cases hτ : (p.step system (.resume turn.task r)).tasks turn.task with
        | some τ =>
          have hlabel := (hwaits τ hτ).after_stopNotify hresumed
          exact Or.inr ⟨c, .bleak, ⟨τ, hτ, hlabel⟩, hstill⟩
        | none => exact absurd hresumed ((hdone hτ).1.moved _ _ _)
      | bleak =>
        have hdown : (p.step system (.resume turn.task r)).world.isConnected c = false := by
          cases r with
          | done => exact (h.orderly.lawful _ turn hturn).unlinked _ c hresumed
          -- a disconnect that fails leaves the link up, which the run rules out
          | failed =>
            have hheeds := heeds_resume hoff hat ha
            refine Bool.eq_false_iff.mpr fun hup => ?_
            simp [Point.heeds, h.links ha hoff hup] at hheeds
        refine Or.inl (World.noLink_of_not fun c' hup => ?_)
        rw [hstill c' hup, hdown] at hup
        exact Bool.noConfusion hup

/-! ## One step -/

/-- What the task that turns the switch off leaves of the links. -/
theorem Heeded.turned (h : Heeded p) (howns : p.world.Owns) {turn}
    (hturn : p.turn system a = some turn) (he : .turnOff ∈ p.emitted system a)
    (hlinks : ∀ c, (p.step system a).world.isConnected c = true → p.world.isConnected c = true) :
    (p.step system a).world.NoLink ∨
      ∃ c stage, (p.step system a).At turn.task (.disconnecting .switchOff c stage) ∧
        (p.step system a).world.Only c := by
  obtain ⟨hwaits, hdone⟩ := h.orderly.arrives a turn hturn
  cases hτ : (p.step system a).tasks turn.task with
  | none => exact absurd he (hdone hτ).2
  | some τ =>
    obtain ⟨_, _, ⟨c, hl, hclient⟩ | hdown⟩ := (hwaits τ hτ).turnsOff he
    · refine Or.inr ⟨c, .stopNotify, ⟨τ, hτ, hl⟩, fun c' hup => ?_⟩
      exact Option.some.inj ((howns c' (hlinks c' hup)).symm.trans hclient)
    · refine Or.inl (World.noLink_of_not fun c hup => ?_)
      have hold := hlinks c hup
      rw [howns.noLink hdown c] at hold
      exact Bool.noConfusion hold

/-- **A step that turns the switch off.** -/
theorem Heeded.turnOff (h : Heeded p) (ha : heeds p a = true) {turn}
    (hturn : p.turn system a = some turn) (he : .turnOff ∈ p.emitted system a)
    (hoff : (mark turn.task turn.call (p.emitted system a)).foldl Switch.after (switch p.trace) =
      .off ts ns) : ns = [] ∧ Down (p.step system a) ts := by
  obtain ⟨⟨hnone, hevents⟩, hmanual⟩ : TurnsOff (p.passage system a turn) ∧
      (p.step system a).world.manualDisconnect = true := by
    obtain ⟨hwaits, hdone⟩ := h.orderly.arrives a turn hturn
    cases hτ : (p.step system a).tasks turn.task with
    | none => exact absurd he (hdone hτ).2
    | some τ =>
      obtain ⟨hturns, hmanual, _⟩ := (hwaits τ hτ).turnsOff he
      exact ⟨hturns, hmanual⟩
  have hspawn : a = .spawn turn.call := by
    rcases Pool.turn_cases hturn with ⟨_, _, _, hspawn⟩ | ⟨τ, r, _, _, hsome, _⟩
    · exact hspawn
    · cases hsome.symm.trans hnone
  have hlinks : ∀ c, (p.step system a).world.isConnected c = true →
      p.world.isConnected c = true := by
    intro c hup
    rcases h.orderly.links hup with hold | ⟨t, _, hresume⟩
    · exact hold
    · cases hspawn.symm.trans hresume
  have hunscheduled : (∀ t, ¬ p.At t (.scheduled .reconnect)) →
      ∀ t, ¬ (p.step system a).At t (.scheduled .reconnect) := by
    intro hbefore t hat
    rcases (h.orderly.arrives a).at_step hat with ⟨hold, _⟩ | ⟨turn', hturn', _, hcalm, _⟩
    · exact hbefore t hold
    · cases hturn.symm.trans hturn'
      exact hcalm.2 he
  have hevents : p.emitted system a = [.turnOff] := hevents
  rw [hevents] at hoff
  by_cases hcall : turn.call = .turnOff
  · rw [hcall] at hspawn hoff
    subst hspawn
    obtain ⟨howns, hbefore⟩ := heeds_turnOff ha
    have hbefore : ∀ t, ¬ p.At t (.scheduled .reconnect) := fun t hat => by
      obtain ⟨τ, hτ, _⟩ := id hat
      exact hbefore t (h.orderly.numbered.tasks t τ hτ) hat
    have hturned := h.turned howns hturn he hlinks
    cases hs : switch p.trace with
    | on =>
      rw [hs] at hoff
      obtain ⟨rfl, rfl⟩ : [turn.task] = ts ∧ [] = ns := by simpa [mark, Switch.after] using hoff
      refine ⟨rfl, hmanual, hunscheduled hbefore, fun t ht => ?_⟩
      rw [List.mem_singleton.mp ht]
      exact hturned
    | off ts₀ ns₀ =>
      -- it had been turned off before
      rw [hs] at hoff
      obtain ⟨rfl, rfl⟩ : turn.task :: ts₀ = ts ∧ ns₀ = ns := by simpa [mark, Switch.after] using hoff
      refine ⟨(h.off ts₀ ns₀ hs).1, hmanual, hunscheduled hbefore, fun t ht => ?_⟩
      rcases List.mem_cons.mp ht with rfl | ht
      · exact hturned
      · exact h.gone ha hs ht
  · -- only the switch turns itself off
    have hs : switch p.trace = .off ts ns := by
      have hsame : Switch.after (switch p.trace) ⟨turn.task, turn.call, .turnOff⟩ = switch p.trace := by
        unfold Switch.after
        split <;> simp_all
      exact hsame.symm.trans hoff
    obtain ⟨hns, hdown⟩ := h.off ts ns hs
    exact ⟨hns, hmanual, hunscheduled hdown.unscheduled, fun t ht => h.gone ha hs ht⟩

/-- A step keeps the switch down that was, and leaves it down if it turned it off. -/
theorem Heeded.step (h : Heeded p) (ha : heeds p a = true) : Heeded (p.step system a) := by
  refine ⟨h.orderly.step a, fun ts ns hoff => ?_⟩
  cases hturn : p.turn system a with
  | none =>
    rw [(Pool.step_of_no_turn hturn).1] at hoff
    obtain ⟨hns, hdown⟩ := h.off ts ns hoff
    refine ⟨hns, ?_, fun t hat => ?_, fun t ht => h.gone ha hoff ht⟩
    · rcases Pool.world_of_no_turn hturn with ⟨m, _, hworld⟩ | hworld
      · rw [hworld]
        exact (p.world.move_manual m).trans hdown.manual
      · rw [hworld]
        exact hdown.manual
    · obtain ⟨τ, hτ, hl⟩ := hat
      rw [(Pool.step_of_no_turn hturn).2] at hτ
      exact hdown.unscheduled t ⟨τ, hτ, hl⟩
  | some turn =>
    have htrace : (p.step system a).trace = p.trace ++ mark turn.task turn.call (p.emitted system a) := by
      rw [(Pool.step_of_turn hturn).2.1, Pool.emitted_of_turn hturn]
    rw [htrace, switch, List.foldl_append] at hoff
    by_cases he : .turnOff ∈ p.emitted system a
    · exact h.turnOff ha hturn he hoff
    · -- the switch was off before
      obtain ⟨hon, ns₀, hbefore, hbegun⟩ := off_of_mark he hoff
      obtain ⟨rfl, hdown⟩ := h.off ts ns₀ hbefore
      have hkept : ¬ Reopens (p.passage system a turn) ∨ a = .spawn .poll := by
        by_cases hreopens : Reopens (p.passage system a turn)
        · rcases h.reopens ha hbefore hturn hreopens with hturnsOn | hpoll | rfl
          · exact absurd hturnsOn hon
          · exact Or.inr hpoll
          · exact absurd (turnOff_emitted p) he
        · exact Or.inl hreopens
      refine ⟨List.eq_nil_iff_forall_not_mem.mpr fun n hn => ?_, ?_, fun t hat => ?_, fun t ht =>
        h.gone ha hbefore ht⟩
      · have hconnecting := (hbegun n hn).resolve_left List.not_mem_nil
        rcases hkept with hno | rfl
        · exact hno ((h.orderly.lawful a turn hturn).connects n hconnecting)
        · rw [(poll_segment p).1] at hconnecting
          cases hconnecting
      · rcases hkept with hno | rfl
        · exact ((h.orderly.lawful a turn hturn).manual hdown.manual).resolve_right hno
        · exact (poll_segment p).2.trans hdown.manual
      · rcases (h.orderly.arrives a).at_step hat with ⟨hold, _⟩ | ⟨turn', _, _, _, hclear⟩
        · exact hdown.unscheduled t hold
        · exact absurd (hdown.manual.symm.trans hclear) Bool.noConfusion

/-! ## Switched off -/

/-- **The user's off is respected.**  In every run whose steps heed it, since the switch was turned off
(and until it is turned on) no connect begins, and once that has completed no link is up. -/
theorem switch_off_respected (sessionTimeout clock : ℕ) (as : List LinkAction)
    (h : AllSteps (Pool.step system) (fun p a => heeds p a = true)
      (Pool.idle (World.initial sessionTimeout clock)) as) :
    let p := run (Pool.step system) (Pool.idle (World.initial sessionTimeout clock)) as
    ∀ ts ns, switch p.trace = .off ts ns → ns = [] ∧ ∀ t ∈ ts, p.tasks t = none → p.world.NoLink := by
  intro p ts ns hoff
  have hstep : ∀ (p : LinkPool) (a : LinkAction), Heeded p → heeds p a = true →
      Heeded (p.step system a) := fun _ _ h ha => h.step ha
  have hheeded : Heeded p := run_invariant hstep (heeded_idle rfl) h
  obtain ⟨hns, hdown⟩ := hheeded.off ts ns hoff
  refine ⟨hns, fun t ht hdone => ?_⟩
  rcases hdown.gone t ht with hno | ⟨c, stage, ⟨τ, hτ, _⟩, _⟩
  · exact hno
  · cases hdone.symm.trans hτ

/-- The switch is turned off on a link that is up; a poll and an action that follow leave it down. -/
theorem off_respected :
    let p := run (Pool.step system) (Pool.idle (World.initial 60 0))
      (.spawn .turnOn :: connects 0 ++ [.spawn .turnOff, .resume 1 .done, .resume 1 .done,
        .resume 1 .done, .spawn .poll, .spawn (.action true 0)])
    switch p.trace = .off [1] [] ∧ p.world.NoLink := by
  intro p
  have hoff : switch p.trace = .off [1] [] := by decide +kernel
  exact ⟨hoff, (switch_off_respected 60 0 _ (by decide +kernel) [1] [] hoff).2 1 (by simp)
    (by decide +kernel)⟩

/-- **An action undoes the user's off.**  The idle link goes into standby, then the user turns the
switch off, which finds nothing to tear down; the next action connects again. -/
theorem standby_undoes_off :
    let p := run (Pool.step system) (Pool.idle (World.initial 60 0))
      (.spawn .turnOn :: connects 0 ++ [.move (.elapse 61000), .move (.notification 0 false),
        .spawn .poll, .resume 1 .done, .resume 1 .done, .resume 1 .done, .resume 1 .done,
        .spawn .turnOff, .resume 2 .done, .spawn (.action true 0)] ++ connects 3)
    switch p.trace = .off [2] [1] ∧ p.tasks 2 = none ∧ p.world.isConnected 1 = true := by
  decide +kernel

end XBloom.Link
