/-
# XBloom.Coordinator.Manual — what is kept of a manual run, and what a poll makes of it

A manual pour or grind has no end that the machine announces: the coordinator keeps the operation and
three flags, and reads the end off the polls.  `Manual.Polls` is what one poll may do, case by case
(`poll_polls`); everything about polls follows from it.

Whether that is right is a matter of the past: has a poll seen the run since it began, has the paused
page been seen since the pause.  `Notes` are such facts, and `Manual.Backed` says what the flags are worth: the
paused-seen flag tells that the pause was seen or the resume sent, and the run-seen flag that the run was
seen, or was left standing from an earlier one.
-/
import XBloom.Coordinator.Operations

namespace XBloom.Coordinator

/-! ## The run and its flags -/

/-- What the coordinator keeps of a manual run. -/
structure Manual where
  active : Option Operation := none
  paused : Bool := false
  runSeen : Bool := false
  pauseSeen : Bool := false
  deriving DecidableEq, Repr

/-- What a world keeps of it. -/
def World.manual (w : World) : Manual :=
  ⟨w.activeOperation, w.manualPaused, w.manualRunSeen, w.manualPauseSeen⟩

/-- The page of the active manual operation. -/
def Manual.page (m : Manual) : Option Screen := m.active.bind World.operationPages

/-- The machine shows that page. -/
def Manual.OnPage (m : Manual) (s : DeviceStatus) : Prop := m.page ≠ none ∧ s.screen = m.page

instance (m : Manual) (s : DeviceStatus) : Decidable (m.OnPage s) :=
  inferInstanceAs (Decidable (m.page ≠ none ∧ s.screen = m.page))

/-- The manual operation a status shows running, which is that of its last page. -/
def DeviceStatus.runs (s : DeviceStatus) : Option Operation :=
  (s.lastPage.bind World.pageOperations).filter (World.manualRunning s)

/-- The status a poll reads, on a connected machine. -/
def World.polled (w : World) : Option DeviceStatus := (w.client.filter w.isConnected).map w.status

/-! ## A poll -/

/-- **What a poll makes of a manual run.** -/
inductive Manual.Polls (s : DeviceStatus) (m : Manual) : Manual → Prop
  /-- It runs, and is the active operation or becomes it. -/
  | tracked {op : Operation} (hruns : s.runs = some op)
      (hactive : m.active = some op ∨ m.active = none) :
      Polls s m ⟨some op, m.paused && !m.pauseSeen, true, false⟩
  /-- Another operation runs. -/
  | other {op : Operation} (hruns : s.runs = some op) (hactive : m.active ≠ some op) : Polls s m m
  /-- Nothing runs and no manual operation is active. -/
  | idle (hruns : s.runs = none) (hpage : m.page = none) : Polls s m { active := m.active }
  /-- The machine has left the page. -/
  | left (hruns : s.runs = none) (hpage : m.page ≠ none) (hscreen : s.screen ≠ none)
      (hleft : s.screen ≠ m.page) : Polls s m {}
  /-- The paused page. -/
  | pausedPage (hruns : s.runs = none) (hpage : m.OnPage s) (hpaused : m.paused = true) :
      Polls s m { m with pauseSeen := true }
  /-- Back on its page. -/
  | finished (hruns : s.runs = none) (hpage : m.OnPage s) (hpaused : m.paused = false)
      (hseen : m.runSeen = true) : Polls s m {}
  /-- On its page and not yet seen running, or no page is shown. -/
  | waiting (hruns : s.runs = none) (hpage : m.page ≠ none)
      (hscreen : s.screen = none ∨ s.screen = m.page ∧ m.paused = false ∧ m.runSeen = false) :
      Polls s m m

namespace World

variable {w : World} {s : DeviceStatus}

theorem reconcileArmedWithScreen_manual (w : World) (s : DeviceStatus) :
    (w.reconcileArmedWithScreen s).manual = w.manual := by
  unfold reconcileArmedWithScreen
  dsimp only
  split
  · split
    · rfl
    · rfl
  · rfl

theorem trackManualRun_polls {page : Screen} {op : Operation} (hruns : s.runs = some op) :
    Manual.Polls s w.manual (w.trackManualRun page op).manual := by
  by_cases hactive : w.activeOperation = some op
  · -- the promotion needs no operation to be active
    have htrack : (w.trackManualRun page op).manual =
        ⟨some op, w.manualPaused && !w.manualPauseSeen, true, false⟩ := by
      unfold trackManualRun
      simp only [hactive, reduceCtorEq, false_and, if_false, if_true]
      cases hseen : w.manualPauseSeen <;> simp [manual]
    rw [htrack]
    exact .tracked hruns (Or.inl hactive)
  · by_cases hfits : w.activeOperation = none ∧ (w.armedOperation = none ∨
        w.armedOperation.bind armedPage = some page)
    · have htrack : (w.trackManualRun page op).manual =
          ⟨some op, w.manualPaused && !w.manualPauseSeen, true, false⟩ := by
        unfold trackManualRun
        simp only [if_pos hfits, if_true]
        cases hseen : w.manualPauseSeen <;> simp [manual]
      rw [htrack]
      exact .tracked hruns (Or.inr hfits.1)
    · have htrack : w.trackManualRun page op = w := by
        unfold trackManualRun
        simp only [if_neg hfits, if_neg hactive]
      rw [htrack]
      exact .other hruns hactive

theorem endManualRun_polls (hruns : s.runs = none) :
    Manual.Polls s w.manual (w.endManualRun s).manual := by
  unfold endManualRun
  cases hpage : w.activeOperation.bind operationPages with
  | none => exact .idle hruns hpage
  | some ownPage =>
    have hown : w.manual.page = some ownPage := hpage
    have hne : w.manual.page ≠ none := by simp [hown]
    dsimp only
    by_cases hleft : s.screen ≠ none ∧ s.screen ≠ some ownPage
    · rw [if_pos hleft]
      exact .left hruns hne hleft.1 (by rw [hown]; exact hleft.2)
    rw [if_neg hleft]
    by_cases hscreen : s.screen = some ownPage
    · have hon : w.manual.OnPage s := ⟨hne, hscreen.trans hown.symm⟩
      by_cases hpaused : w.manualPaused = true
      · rw [if_pos ⟨hscreen, hpaused⟩]
        exact .pausedPage hruns hon hpaused
      rw [if_neg fun h => hpaused h.2]
      have hunpaused : w.manualPaused = false := by simpa using hpaused
      by_cases hseen : w.manualRunSeen = true
      · rw [if_pos ⟨hscreen, hseen⟩]
        exact .finished hruns hon hunpaused hseen
      · rw [if_neg fun h => hseen h.2]
        have hunseen : w.manualRunSeen = false := by simpa using hseen
        exact .waiting hruns hne (Or.inr ⟨hon.2, hunpaused, hunseen⟩)
    · rw [if_neg fun h => hscreen h.1, if_neg fun h => hscreen h.1]
      -- no page is shown, so none is left
      refine .waiting hruns hne (Or.inl ?_)
      by_contra hset
      exact hleft ⟨hset, hscreen⟩

theorem reconcileManualOperation_polls (w : World) (s : DeviceStatus) :
    Manual.Polls s w.manual (w.reconcileManualOperation s).manual := by
  unfold reconcileManualOperation
  cases hpage : s.lastPage with
  | none => exact endManualRun_polls (by simp [DeviceStatus.runs, hpage])
  | some page =>
    dsimp only
    cases hop : pageOperations page with
    | none => exact endManualRun_polls (by simp [DeviceStatus.runs, hpage, hop])
    | some op =>
      dsimp only
      by_cases hrunning : manualRunning s op = true
      · rw [if_pos hrunning]
        exact trackManualRun_polls (by simp [DeviceStatus.runs, hpage, hop, Option.filter, hrunning])
      · rw [if_neg hrunning]
        exact endManualRun_polls (by simp [DeviceStatus.runs, hpage, hop, Option.filter, hrunning])

/-- **A poll of a connected machine.** -/
theorem poll_polls (version : String) (h : w.polled = some s) :
    Manual.Polls s w.manual (w.poll version).manual := by
  obtain ⟨c, hc, rfl⟩ := Option.map_eq_some_iff.mp h
  obtain ⟨hclient, hconnected⟩ := Option.filter_eq_some_iff.mp hc
  unfold poll
  rw [hclient]
  dsimp only
  rw [if_pos hconnected]
  have hpolls := reconcileManualOperation_polls (w.reconcileArmedWithScreen (w.status c)) (w.status c)
  rw [reconcileArmedWithScreen_manual] at hpolls
  exact hpolls

/-- Without a link a poll reads nothing. -/
theorem poll_manual (version : String) (h : w.polled = none) : (w.poll version).manual = w.manual := by
  unfold poll
  cases hclient : w.client with
  | none => rfl
  | some c =>
    dsimp only
    split
    · rename_i hconnected
      simp [polled, hclient, Option.filter, hconnected] at h
    · rfl

end World

/-! ## Notes of the past -/

/-- What happened since. -/
structure Notes where
  /-- A poll has seen the run since it began. -/
  running : Bool := false
  /-- A poll has seen the paused page, or the resume was sent, since the pause. -/
  resumable : Bool := false
  /-- The run began while `_manual_run_seen` stood. -/
  leftover : Bool := false
  deriving DecidableEq, Repr

namespace Notes

/-- A run begins, by a call or at the machine. -/
def started (n : Notes) (m : Manual) : Notes := { n with running := false, leftover := m.runSeen }

/-- A pause was sent. -/
def paused (n : Notes) : Notes := { n with resumable := false }

/-- A resume was sent. -/
def resumed (n : Notes) : Notes := { n with resumable := true }

/-- A poll; a run that it finds begins with it, and nothing is left over. -/
def polled (n : Notes) (s : DeviceStatus) (m m' : Manual) : Notes where
  running := n.running || decide (s.runs ≠ none ∧ s.runs = m'.active)
  resumable := n.resumable || decide (s.runs = none ∧ m.OnPage s ∧ m.paused = true)
  leftover := n.leftover && decide (m'.active = m.active)

end Notes

/-- **What the flags tell.** -/
structure Manual.Backed (m : Manual) (n : Notes) : Prop where
  pauseSeen : m.pauseSeen = true → n.resumable = true
  runSeen : m.page ≠ none → (m.runSeen = true ↔ n.leftover = true ∨ n.running = true)

/-- No manual run begins: its operation and its run-seen flag stay, or none is active. -/
structure Manual.Ends (m m' : Manual) : Prop where
  stays : m'.active = m.active ∧ m'.runSeen = m.runSeen ∨ m'.page = none
  pauseSeen : m'.pauseSeen = true → m.pauseSeen = true

theorem Manual.Ends.refl (m : Manual) : m.Ends m := ⟨Or.inl ⟨rfl, rfl⟩, id⟩

namespace Manual.Backed

variable {m m' : Manual} {n : Notes} {s : DeviceStatus}

/-- The flags of a beginning are taken at their word. -/
theorem start (m : Manual) : Backed m { running := m.runSeen, resumable := m.pauseSeen } :=
  ⟨id, fun _ => by simp⟩

theorem begins (h : Backed m n) (op : Operation) :
    Backed { m with active := some op } (n.started m) :=
  ⟨h.pauseSeen, fun _ => by simp [Notes.started]⟩

theorem ends (h : Backed m n) (hends : m.Ends m') : Backed m' n := by
  refine ⟨fun hseen => h.pauseSeen (hends.pauseSeen hseen), fun hpage => ?_⟩
  rcases hends.stays with ⟨hactive, hseen⟩ | hnone
  · rw [hseen]
    refine h.runSeen ?_
    unfold Manual.page at hpage ⊢
    rwa [hactive] at hpage
  · exact absurd hnone hpage

theorem pauses (h : Backed m n) : Backed { m with paused := true, pauseSeen := false } n.paused :=
  ⟨fun hseen => (by cases hseen), h.runSeen⟩

theorem resumes (h : Backed m n) : Backed { m with pauseSeen := true } n.resumed :=
  ⟨fun _ => rfl, h.runSeen⟩

/-- A poll that leaves the operation and sees nothing of it running notes nothing of the run. -/
theorem polled_runSeen (h : Backed m n) (hactive : m'.active = m.active) (hseen : m'.runSeen = m.runSeen)
    (hruns : s.runs = none ∨ s.runs ≠ m.active) (hpage : m'.page ≠ none) :
    m'.runSeen = true ↔ (n.polled s m m').leftover = true ∨ (n.polled s m m').running = true := by
  have hrunning : (n.polled s m m').running = n.running := by
    rcases hruns with hruns | hruns
    · simp [Notes.polled, hruns]
    · simp [Notes.polled, hactive, hruns]
  have hleftover : (n.polled s m m').leftover = n.leftover := by simp [Notes.polled, hactive]
  rw [hrunning, hleftover, hseen]
  refine h.runSeen ?_
  unfold Manual.page at hpage ⊢
  rwa [hactive] at hpage

/-- **A poll keeps what the flags tell.** -/
theorem polled (h : Backed m n) (hpolls : Manual.Polls s m m') : Backed m' (n.polled s m m') := by
  have hresumable : n.resumable = true → (n.polled s m m').resumable = true := by
    intro hn
    simp [Notes.polled, hn]
  cases hpolls with
  | tracked hruns hactive =>
    refine ⟨fun hseen => (by cases hseen), fun _ => ?_⟩
    simp [Notes.polled, hruns]
  | other hruns hactive =>
    refine ⟨fun hseen => hresumable (h.pauseSeen hseen), h.polled_runSeen rfl rfl (Or.inr ?_)⟩
    rw [hruns]
    exact fun heq => hactive heq.symm
  | idle hruns hpage => exact ⟨fun hseen => (by cases hseen), fun hne => absurd hpage hne⟩
  | left hruns hpage hscreen hleft =>
    exact ⟨fun hseen => (by cases hseen), fun hne => absurd rfl hne⟩
  | pausedPage hruns hpage hpaused =>
    refine ⟨fun _ => ?_, h.polled_runSeen rfl rfl (Or.inl hruns)⟩
    simp [Notes.polled, hruns, hpage, hpaused]
  | finished hruns hpage hpaused hseen =>
    exact ⟨fun hseen => (by cases hseen), fun hne => absurd rfl hne⟩
  | waiting hruns hpage hscreen =>
    exact ⟨fun hseen => hresumable (h.pauseSeen hseen), h.polled_runSeen rfl rfl (Or.inl hruns)⟩

end Manual.Backed

/-! ## What a poll should do -/

/-- Nothing runs and no start or brew is shown. -/
def DeviceStatus.Still (s : DeviceStatus) : Prop :=
  s.grinderRunning = false ∧ s.brewerRunning = false ∧
    s.rawStateLabel ≠ some .starting ∧ s.rawStateLabel ≠ some .brewing

/-- **Off its page, nothing is left of a run.** -/
def EndsOffPage (s : DeviceStatus) (m m' : Manual) : Prop :=
  s.Still → s.screen ≠ none → s.screen ≠ m.page →
    m'.page = none ∧ m'.paused = false ∧ m'.runSeen = false ∧ m'.pauseSeen = false

/-- **On its page, a run is cleared only after a poll has seen it.** -/
def ClearsSeen (n : Notes) (s : DeviceStatus) (m m' : Manual) : Prop :=
  m.OnPage s → m'.active = none → n.running = true

/-- **A paused run stays** while its page is shown, and its flag is dropped only when it runs again. -/
def KeepsPaused (n : Notes) (s : DeviceStatus) (m m' : Manual) : Prop :=
  m.page ≠ none → m.paused = true → (m.OnPage s → m'.active = m.active) ∧
    (m'.active = m.active → m'.paused = false → s.runs = m.active ∧ n.resumable = true)

/-- All three. -/
def TracksRun (n : Notes) (s : DeviceStatus) (m m' : Manual) : Prop :=
  EndsOffPage s m m' ∧ ClearsSeen n s m m' ∧ KeepsPaused n s m m'

/-- **The branch that goes wrong is not taken**: a run that began with a flag left over is not polled on
its page, unpaused and not running, before a poll has seen it running. -/
def NoLeftover (n : Notes) (s : DeviceStatus) (m : Manual) : Prop :=
  m.OnPage s → s.runs = none → m.paused = false → n.leftover = true → n.running = true

namespace Manual.Polls

variable {m m' : Manual} {n : Notes} {s : DeviceStatus}

theorem still_runs (h : s.Still) : s.runs = none := by
  obtain ⟨hgrinder, hbrewer, hstarting, hbrewing⟩ := h
  refine Option.filter_eq_none_iff.mpr fun op _ => ?_
  cases op <;> simp [World.manualRunning, hgrinder, hbrewer, hstarting, hbrewing]

theorem endsOffPage (h : Polls s m m') : EndsOffPage s m m' := by
  intro hstill hscreen hleft
  have hnone := still_runs hstill
  cases h with
  | tracked hruns hactive => rw [hnone] at hruns; cases hruns
  | other hruns hactive => rw [hnone] at hruns; cases hruns
  | idle hruns hpage => exact ⟨hpage, rfl, rfl, rfl⟩
  | left => exact ⟨rfl, rfl, rfl, rfl⟩
  | pausedPage hruns hpage hpaused => exact absurd hpage.2 hleft
  | finished hruns hpage hpaused hseen => exact absurd hpage.2 hleft
  | waiting hruns hpage hwaits =>
    rcases hwaits with hunset | hown
    · exact absurd hunset hscreen
    · exact absurd hown.1 hleft

theorem keepsPaused (h : Polls s m m') (hbacked : Backed m n) : KeepsPaused n s m m' := by
  intro hpage hpaused
  cases h with
  | @tracked op hruns hactive =>
    have hsame : m.active = some op := hactive.resolve_right fun hnone => hpage (by simp [page, hnone])
    refine ⟨fun _ => hsame.symm, fun _ hdropped => ⟨hruns.trans hsame.symm, hbacked.pauseSeen ?_⟩⟩
    simpa [hpaused] using hdropped
  | other hruns hactive => exact ⟨fun _ => rfl, fun _ hdropped => by simp [hpaused] at hdropped⟩
  | idle hruns hnone => exact absurd hnone hpage
  | left hruns _ hscreen hleft =>
    refine ⟨fun hon => absurd hon.2 hleft, fun hsame => absurd ?_ hpage⟩
    simp [page, ← hsame]
  | pausedPage hruns hon _ => exact ⟨fun _ => rfl, fun _ hdropped => by simp [hpaused] at hdropped⟩
  | finished hruns hon hunpaused hseen => rw [hpaused] at hunpaused; cases hunpaused
  | waiting hruns _ hwaits => exact ⟨fun _ => rfl, fun _ hdropped => by simp [hpaused] at hdropped⟩

/-- **When a poll clears a run on its page.** -/
theorem cleared_iff (h : Polls s m m') (hon : m.OnPage s) :
    m'.active = none ↔ s.runs = none ∧ m.paused = false ∧ m.runSeen = true := by
  have hactive : m.active ≠ none := fun hnone => hon.1 (by simp [page, hnone])
  cases h with
  | tracked hruns _ => simp [hruns]
  | other hruns _ => simp [hruns, hactive]
  | idle hruns hnone => exact absurd hnone hon.1
  | left hruns _ hscreen hleft => exact absurd hon.2 hleft
  | pausedPage hruns _ hpaused => simp [hactive, hpaused]
  | finished hruns _ hpaused hseen => simp [hruns, hpaused, hseen]
  | waiting hruns _ hwaits =>
    have hseen : m.runSeen = false := by
      rcases hwaits with hunset | hown
      · exact absurd (hon.2.symm.trans hunset) hon.1
      · exact hown.2.2
    simp [hactive, hseen]

/-- It clears only what was seen, exactly when nothing left over is taken for it. -/
theorem clearsSeen_iff (h : Polls s m m') (hbacked : Backed m n) :
    ClearsSeen n s m m' ↔ NoLeftover n s m := by
  refine forall_congr' fun hon => ?_
  rw [h.cleared_iff hon, hbacked.runSeen hon.1]
  constructor
  · exact fun hclears hruns hpaused hleft => hclears ⟨hruns, hpaused, Or.inl hleft⟩
  · rintro hspares ⟨hruns, hpaused, hleft | hrunning⟩
    · exact hspares hruns hpaused hleft
    · exact hrunning

/-- **A poll does what it should exactly when** nothing left over is taken for the run. -/
theorem tracksRun_iff (h : Polls s m m') (hbacked : Backed m n) : TracksRun n s m m' ↔ NoLeftover n s m := by
  rw [← h.clearsSeen_iff hbacked]
  exact ⟨fun htracks => htracks.2.1, fun hclears => ⟨h.endsOffPage, hclears, h.keepsPaused hbacked⟩⟩

end Manual.Polls

end XBloom.Coordinator
