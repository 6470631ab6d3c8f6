/-
# XBloom.Telemetry.BackOut — whether backing out with the knob disarms

A grind or pour that is armed from Home Assistant has its page open on the machine.  When the user backs
out with the knob, `_reconcile_armed_with_screen` is to drop the arm: at a poll that finds the machine on
the home screen when the poll before found it on the armed page.  So the rule remembers one screen.  It
misses the way home over any other screen, and it takes a page that was left before the arm for the
armed one.
-/
import XBloom.Telemetry.Setpoints

namespace XBloom.Telemetry

open XBloom.Py XBloom.Ble XBloom.Coordinator XBloom.Logic

/-! ## Looks -/

/-- A frame of the machine (a status code, a page event or any other), and the poll after it. -/
structure Look where
  frame : Bytes
  sinceNotification : ℚ := 0
  sinceActivity : ℚ := 0

/-- The coordinator after the frame and the poll. -/
def State.look (st : State) (l : Look) : State :=
  (st.receive l.frame).poll l.sinceNotification l.sinceActivity

/-- What a poll sees of the machine, if it comes to look: the client is connected, and its link is
neither dropped nor sent into standby. -/
def State.sees (st : State) (sinceNotification sinceActivity : ℚ) : Option Coordinator.DeviceStatus :=
  st.client.bind fun c =>
    if st.connected && !st.silent c.status sinceNotification && !st.idleTooLong sinceActivity then
      some c.status.bookkeeping
    else none

/-- What the poll of a look sees. -/
def State.seen (st : State) (l : Look) : Option Coordinator.DeviceStatus :=
  (st.receive l.frame).sees l.sinceNotification l.sinceActivity

theorem copyReadings_armed (w : World) (s : DeviceStatus) :
    (copyReadings w s).armedOperation = w.armedOperation := by
  unfold copyReadings
  cases s.pourPatternLive <;> dsimp only <;> split_ifs <;> rfl

/-- **What a poll does to the arm**: the two reconciliations, of what it sees. -/
theorem poll_armed (st : State) (sinceNotification sinceActivity : ℚ) :
    (st.poll sinceNotification sinceActivity).world.armedOperation =
      match st.sees sinceNotification sinceActivity with
      | some s =>
        ((st.world.reconcileArmedWithScreen s).reconcileManualOperation s).armedOperation
      | none => st.world.armedOperation := by
  unfold State.poll State.sees
  cases st.client with
  | none => rfl
  | some c =>
    rw [Option.bind_some]
    cases hconnected : st.connected with
    | false => simp
    | true =>
      cases hsilent : st.silent c.status sinceNotification with
      | true => simp [hsilent]
      | false =>
        cases hidle : st.idleTooLong sinceActivity with
        | true => simp [hsilent]
        | false =>
          simp only [hsilent, Bool.not_false, Bool.and_self, if_true, Bool.true_eq_false,
            Bool.false_eq_true, if_false]
          split
          · exact copyReadings_armed _ _
          · rfl

/-! ## An arm and what was seen of it -/

/-- A coordinator since an arm, and whether a poll since then has seen the armed page. -/
structure SinceArm where
  state : State
  pageSeen : Bool := false

/-- A look at the machine on the armed page. -/
def onArmedPage (op : Armed) (s : Coordinator.DeviceStatus) : Bool :=
  (World.armedPage op).any fun page => s.screen == some page

/-- A frame and the poll after it. -/
def SinceArm.step (op : Armed) (x : SinceArm) (l : Look) : SinceArm where
  state := x.state.look l
  pageSeen := x.pageSeen || (x.state.seen l).any (onArmedPage op)

/-- A coordinator when `async_arm_grind` or `async_arm_pour` has armed. -/
def State.armed (st : State) (op : Armed) : SinceArm where
  state := { st with world := { st.world with armedOperation := some op } }

/-! ## The property -/

/-- **Backing out disarms.**  A poll that sees the home screen once a poll since the arm has seen the
armed page leaves no such arm; and the rule drops the arm at no poll before the page was seen. -/
structure Disarms (op : Armed) (x : SinceArm) (l : Look) : Prop where
  backedOut : ∀ s ∈ x.state.seen l, s.screen = some .home → x.pageSeen = true →
    (x.state.look l).world.armedOperation ≠ some op
  notBefore : ∀ s ∈ x.state.seen l, x.pageSeen = false →
    (x.state.receive l.frame).world.armedOperation = some op →
    ((x.state.receive l.frame).world.reconcileArmedWithScreen s).armedOperation = some op

/-! ## Its condition -/

/-- The machine is found running the armed operation, which then is the active one. -/
def takenOver (w : World) (s : Coordinator.DeviceStatus) (op : Armed) : Bool :=
  match s.lastPage.bind World.pageOperations with
  | some running =>
    World.manualRunning s running && w.activeOperation.isNone && decide (s.lastPage = World.armedPage op)
  | none => false

/-- **A straight way home**: while the arm stands, a poll that sees the home screen follows one that saw
the armed page exactly if a poll since the arm has seen it, or the operation is taken over then. -/
def StraightHome (op : Armed) (x : SinceArm) (l : Look) : Prop :=
  ∀ s ∈ x.state.seen l, s.screen = some .home →
    (x.state.receive l.frame).world.armedOperation = some op →
    ((x.state.receive l.frame).world.lastReconcileScreen = World.armedPage op ↔ x.pageSeen = true) ∨
      (x.pageSeen = true ∧ takenOver (x.state.receive l.frame).world s op = true)

/-! ## One poll -/

section
variable {w : World} {s : Coordinator.DeviceStatus} {op : Armed} {page : Screen}

/-- **The rule**: an arm with a page is dropped at the home screen after that page. -/
theorem reconcileArmed_drops (hpage : World.armedPage op = some page) (harmed : w.armedOperation = some op) :
    (w.reconcileArmedWithScreen s).armedOperation =
      if s.screen = some .home ∧ w.lastReconcileScreen = some page then none else some op := by
  unfold World.reconcileArmedWithScreen
  simp only [harmed, Option.bind_some, hpage]
  split <;> rfl

theorem reconcileArmed_active : (w.reconcileArmedWithScreen s).activeOperation = w.activeOperation := by
  unfold World.reconcileArmedWithScreen
  dsimp only
  split
  · split <;> rfl
  · rfl

theorem endManualRun_armed : (w.endManualRun s).armedOperation = w.armedOperation := by
  unfold World.endManualRun
  split
  · rfl
  · split_ifs <;> rfl

/-- The tracking of a run takes an arm of its own page when nothing is active. -/
theorem trackManualRun_armed {running : Operation} {seenPage : Screen}
    (hpage : World.armedPage op = some page) (harmed : w.armedOperation = some op) :
    (w.trackManualRun seenPage running).armedOperation =
      if w.activeOperation = none ∧ page = seenPage then none else some op := by
  unfold World.trackManualRun
  simp only [harmed, Option.bind_some, hpage, reduceCtorEq, false_or, Option.some.injEq]
  by_cases htaken : w.activeOperation = none ∧ page = seenPage
  · simp only [if_pos htaken]
    split_ifs <;> rfl
  · simp only [if_neg htaken]
    split_ifs <;> exact harmed

/-- **The other reconciliation** drops the arm exactly when the operation is taken over. -/
theorem reconcileManual_armed (hpage : World.armedPage op = some page) (harmed : w.armedOperation = some op) :
    (w.reconcileManualOperation s).armedOperation = if takenOver w s op then none else some op := by
  unfold World.reconcileManualOperation takenOver
  cases hlast : s.lastPage with
  | none =>
    rw [endManualRun_armed, harmed]
    rfl
  | some seenPage =>
    rw [Option.bind_some]
    dsimp only
    cases hop : World.pageOperations seenPage with
    | none =>
      rw [endManualRun_armed, harmed]
      rfl
    | some running =>
      dsimp only
      by_cases hrunning : World.manualRunning s running = true
      · rw [if_pos hrunning, trackManualRun_armed hpage harmed, hpage]
        simp only [hrunning, Bool.true_and, Bool.and_eq_true, Option.isNone_iff_eq_none,
          decide_eq_true_eq, Option.some.injEq, eq_comm (a := seenPage)]
      · rw [if_neg hrunning, endManualRun_armed, harmed]
        simp [hrunning]

theorem takenOver_reconcileArmed :
    takenOver (w.reconcileArmedWithScreen s) s op = takenOver w s op := by
  unfold takenOver
  rw [reconcileArmed_active]

/-- **Both reconciliations of a standing arm.** -/
theorem reconcile_armed (hpage : World.armedPage op = some page) (harmed : w.armedOperation = some op) :
    ((w.reconcileArmedWithScreen s).reconcileManualOperation s).armedOperation =
      if (s.screen = some .home ∧ w.lastReconcileScreen = some page) ∨ takenOver w s op then none
      else some op := by
  have hdrops := reconcileArmed_drops (s := s) hpage harmed
  by_cases hrule : s.screen = some .home ∧ w.lastReconcileScreen = some page
  · rw [if_pos hrule] at hdrops
    rw [if_pos (Or.inl hrule)]
    rcases World.reconcileManualOperation_clears (w.reconcileArmedWithScreen s) s with hkept | hnone
    · exact hkept.trans hdrops
    · exact hnone
  · rw [if_neg hrule] at hdrops
    rw [reconcileManual_armed hpage hdrops, takenOver_reconcileArmed]
    simp only [hrule, false_or]

/-- No reconciliation arms anything. -/
theorem reconcile_not_armed (h : w.armedOperation ≠ some op) :
    ((w.reconcileArmedWithScreen s).reconcileManualOperation s).armedOperation ≠ some op := by
  rcases (w.reconcileArmedWithScreen_clears s).trans (World.reconcileManualOperation_clears _ s) with
    hkept | hnone
  · rw [hkept]
    exact h
  · rw [hnone]
    simp

end

/-! ## One look -/

/-- **A look disarms** exactly when the machine goes straight home. -/
theorem disarms_iff {op : Armed} (hop : op ≠ .recipe) (x : SinceArm) (l : Look) :
    Disarms op x l ↔ StraightHome op x l := by
  obtain ⟨page, hpage⟩ : ∃ page, World.armedPage op = some page := by
    cases op with
    | grind => exact ⟨.grind, rfl⟩
    | pour => exact ⟨.pour, rfl⟩
    | recipe => exact absurd rfl hop
  have hafter : (x.state.look l).world.armedOperation = _ :=
    poll_armed (x.state.receive l.frame) l.sinceNotification l.sinceActivity
  have hafter' : ∀ s ∈ x.state.seen l, (x.state.look l).world.armedOperation =
      (((x.state.receive l.frame).world.reconcileArmedWithScreen s).reconcileManualOperation
        s).armedOperation := by
    intro s hs
    have hseen : (x.state.receive l.frame).sees l.sinceNotification l.sinceActivity = some s := hs
    rw [hafter, hseen]
  constructor
  · intro h s hs hhome harmed
    -- what the look did and what it should have done, each as the rule's condition
    have hback := h.backedOut s hs hhome
    have hbefore := h.notBefore s hs
    rw [hafter' s hs, reconcile_armed hpage harmed] at hback
    rw [reconcileArmed_drops hpage harmed] at hbefore
    rw [hpage]
    by_cases hlast : (x.state.receive l.frame).world.lastReconcileScreen = some page
    · exact Or.inl (by simp_all)
    · by_cases hpageSeen : x.pageSeen = true
      · exact Or.inr (by simp_all)
      · exact Or.inl (iff_of_false hlast hpageSeen)
  · intro h
    refine ⟨?_, ?_⟩
    · intro s hs hhome hpageSeen
      rw [hafter' s hs]
      by_cases harmed : (x.state.receive l.frame).world.armedOperation = some op
      · rw [reconcile_armed hpage harmed, if_pos]
        · simp
        · rcases h s hs hhome harmed with hiff | htaken
          · exact Or.inl ⟨hhome, (hiff.mpr hpageSeen).trans hpage⟩
          · exact Or.inr htaken.2
      · exact reconcile_not_armed harmed
    · intro s hs hpageSeen harmed
      rw [reconcileArmed_drops hpage harmed]
      -- home without the page: the rule does not fire
      refine if_neg fun hrule => ?_
      rcases h s hs hrule.1 harmed with hiff | htaken
      · exact absurd (hiff.mp (hrule.2.trans hpage.symm)) (by simp [hpageSeen])
      · exact absurd htaken.1 (by simp [hpageSeen])

/-- **When backing out with the knob disarms.**  From any state with a grind or pour just armed, along
any frames with a poll after each: it does at every look, exactly when at every look the machine goes
straight home. -/
theorem backing_out_disarms_iff {op : Armed} (hop : op ≠ .recipe) (st : State) (looks : List Look) :
    AllSteps (SinceArm.step op) (Disarms op) (st.armed op) looks ↔
      AllSteps (SinceArm.step op) (StraightHome op) (st.armed op) looks :=
  ⟨AllSteps.imp fun x l => (disarms_iff hop x l).mp, AllSteps.imp fun x l => (disarms_iff hop x l).mpr⟩

/-! ## Ways home -/

/-- A status frame. -/
def statusLook (code : UInt8) : Look where
  frame := wordFrame 0x57 0x1F code

/-- The armed pour page, then home. -/
def straightHome : List Look := [statusLook 0x03, statusLook 0x01]

/-- The armed pour page, a settings page, then home. -/
def overSettings : List Look := [statusLook 0x03, statusLook 0x17, statusLook 0x01]

/-- A coordinator that has seen the machine on its pour page, which the user then opened from Home
Assistant as well. -/
def State.onPourPage : State := State.fresh.look (statusLook 0x03)

instance (op : Armed) (x : SinceArm) (l : Look) : Decidable (StraightHome op x l) :=
  match h : x.state.seen l with
  | none => .isTrue fun s hs => by
    rw [h] at hs
    cases hs
  | some s =>
    decidable_of_iff (s.screen = some .home →
      (x.state.receive l.frame).world.armedOperation = some op →
      ((x.state.receive l.frame).world.lastReconcileScreen = World.armedPage op ↔
          x.pageSeen = true) ∨
        (x.pageSeen = true ∧ takenOver (x.state.receive l.frame).world s op = true))
      ⟨fun hall s' hs' => by
        obtain rfl : s = s' := Option.some.inj (h.symm.trans hs')
        exact hall, fun hall => hall s h⟩

/-- Straight home from the pour page disarms. -/
theorem straight_home_disarms :
    AllSteps (SinceArm.step .pour) (Disarms .pour) (State.fresh.armed .pour) straightHome :=
  (backing_out_disarms_iff (by decide) State.fresh straightHome).mpr (by decide +kernel)

/-- **Two ways that break the rule.**  Home by way of a settings page leaves the arm standing; and an arm
from the pour page, whose first poll finds the machine still at home, is dropped before its page was
seen. -/
theorem rule_forgets_and_mistakes :
    ¬ AllSteps (SinceArm.step .pour) (Disarms .pour) (State.fresh.armed .pour) overSettings ∧
      ¬ AllSteps (SinceArm.step .pour) (Disarms .pour) (State.onPourPage.armed .pour)
        [statusLook 0x01] := by
  have hpour : Armed.pour ≠ .recipe := by decide
  constructor
  · intro h
    exact absurd (h.imp fun x l => (disarms_iff hpour x l).mp) (by decide +kernel)
  · intro h
    exact absurd (h.imp fun x l => (disarms_iff hpour x l).mp) (by decide +kernel)

end XBloom.Telemetry
