/-
# XBloom.Link.Passes — the functions of the connection manager, one triple each

From the sends up to the calls: every segment that ends in waiting does what its point requires
(`SegmentArrives`), and every segment that ends a call is calm.
-/
import XBloom.Link.Spec

namespace XBloom.Link

open XBloom.Async XBloom.Py XBloom.Ble

variable {A : LinkSegment → Prop}

/-! ## Sends -/

/-- **A command**, given what to make of each way it can end. -/
theorem sendCommand_passes {c : ℕ} {command : Command} {at_ : Point} {Q : Unit → LinkSegment → Prop}
    {X : PyErr → LinkSegment → Prop}
    (hsend : ∀ σ, A σ → σ.now.isConnected c = true →
      SegmentArrives at_ { σ with events := σ.events ++ [.sent c command] })
    (hdone : ∀ w, Q () (.start (some (at_, .done)) w))
    (hfailed : ∀ w, X .connectionError (.start (some (at_, .failed)) w))
    (hdown : ∀ σ, A σ → σ.now.isConnected c = false → X .connectionError σ) :
    Passes SegmentArrives A (sendCommand c command at_) Q X := by
  refine Passes.world fun w => ?_
  split
  · rename_i hup
    refine Passes.bind (Q := fun _ σ => SegmentArrives at_ σ)
      (Passes.emit fun σ h => hsend σ h.1 (by rw [h.2, hup])) fun _ => ?_
    refine Passes.bind (Q := fun r σ => ∃ w, σ = .start (some (at_, r)) w)
      (Passes.await (fun σ h => h) fun r w => ⟨w, rfl⟩) fun r => ?_
    cases r with
    | done =>
      refine Passes.pure ?_
      rintro σ ⟨w, rfl⟩
      exact hdone w
    | failed =>
      refine Passes.throw ?_
      rintro σ ⟨w, rfl⟩
      exact hfailed w
  · rename_i hdown'
    exact Passes.throw fun σ h => hdown σ h.1 (by rw [h.2, Bool.eq_false_iff.mpr hdown'])

/-- **The handshake**, which is no stop command. -/
theorem sendHandshake_passes {c : ℕ} {at_ : Point} {B : LinkSegment → Prop}
    {X : PyErr → LinkSegment → Prop}
    (hsend : ∀ σ, A σ → SegmentArrives at_ { σ with events := σ.events ++ [.sent c .handshake] })
    (hresume : ∀ r w, B (.start (some (at_, r)) w)) (hskip : ∀ σ, A σ → B σ) :
    Passes SegmentArrives A (sendHandshake c at_) (fun _ => B) X := by
  refine Passes.world fun w => Passes.when (fun _ => ?_) fun _ σ h => hskip σ h.1
  refine Passes.bind (Q := fun _ => B) (Passes.attempt ?_) fun _ => Passes.pure fun σ h => h
  exact sendCommand_passes (fun σ h _ => hsend σ h.1) (fun w => hresume _ w)
    (fun w => hresume _ w) fun σ h _ => hskip σ h.1

/-! ## Connecting -/

/-- Inside the lock, with no link up. -/
def Linkless (σ : LinkSegment) : Prop := Inside σ ∧ (FindsOwned σ → σ.now.NoLink)

/-- Inside the lock, with no link up but `self.client`'s. -/
def Owning (σ : LinkSegment) : Prop := Inside σ ∧ (FindsOwned σ → σ.now.Owns)

theorem Linkless.connecting {σ : LinkSegment} (h : Linkless σ) (n : ℕ) : Connecting n σ :=
  ⟨h.1, fun hfinds => (h.2 hfinds).only n⟩

/-- A step of a connect that emits nothing and has nothing due. -/
theorem connecting_await {n : ℕ} {stage : ConnectStage} {X : PyErr → LinkSegment → Prop}
    (hstage : stage ≠ .link) (hplain : ∀ r, stage.cleansUp r = false) :
    Passes SegmentArrives (Given (Connecting n))
      (Routine.await (.connecting n stage) : Managing Response) (fun _ => Given (Connecting n)) X := by
  refine Passes.await (fun σ h hfinds => ?_) fun r w => connecting_resume (hplain r)
  cases stage with
  | link => exact absurd rfl hstage
  | _ => exact h hfinds

/-- A segment that resumes the cleanup. -/
def Due (n : ℕ) (stage : ConnectStage) (σ : LinkSegment) : Prop :=
  ∃ r w, σ = .start (some (.connecting n stage, r)) w ∧ stage.cleansUp r = true

/-- A segment that resumes the cleanup, and what it has emitted since. -/
theorem Due.common {n : ℕ} {stage : ConnectStage} {σ : LinkSegment} (h : Due n stage σ)
    {es : List Event}
    (hes : (es = [] ∧ σ.now.isConnected n = false) ∨
      (σ.now.isConnected n = true ∧ ∃ command ∈ stopCommands, es = [.sent n command])) :
    Common { σ with events := es } := by
  obtain ⟨r, w, rfl, hclean⟩ := h
  refine ⟨⟨fun c hc => .inl hc, fun why c hresumed => (by cases hresumed), fun n' he => ?_,
    fun hbefore => .inl hbefore, rfl, fun hbefore => ⟨le_rfl, hbefore⟩, fun _ s he => ?_,
    fun c command he hstop => ?_, ?_, fun he => ?_⟩, fun why c r' hresumed => (by cases hresumed)⟩
  · rcases hes with ⟨rfl, _⟩ | ⟨_, command, _, rfl⟩
    · cases he
    · cases List.mem_singleton.mp he
  · rcases hes with ⟨rfl, _⟩ | ⟨_, command, _, rfl⟩
    · cases he
    · cases List.mem_singleton.mp he
  · rcases hes with ⟨rfl, _⟩ | ⟨hup, command, _, rfl⟩
    · cases he
    · exact ⟨n, stage, r, rfl, hclean, hup⟩
  · rintro ⟨n', stage', r', hresumed, _, hup⟩
    cases hresumed
    rcases hes with ⟨_, hdown⟩ | ⟨_, command, hstop, rfl⟩
    · exact absurd (hdown.symm.trans hup) Bool.false_ne_true
    · exact ⟨n, command, hstop, List.mem_singleton.mpr rfl⟩
  · rcases hes with ⟨rfl, _⟩ | ⟨_, command, _, rfl⟩
    · cases he
    · cases List.mem_singleton.mp he

/-- What a segment that resumes the cleanup knows of the links. -/
theorem Due.connecting {n : ℕ} {stage : ConnectStage} {σ : LinkSegment} (h : Due n stage σ)
    {es : List Event}
    (hes : (es = [] ∧ σ.now.isConnected n = false) ∨
      (σ.now.isConnected n = true ∧ ∃ command ∈ stopCommands, es = [.sent n command])) :
    Given (Connecting n) { σ with events := es } := by
  intro hfinds
  have hcommon := h.common hes
  obtain ⟨r, w, rfl, _⟩ := h
  refine ⟨⟨hcommon, (Lock.holds_start rfl (finds_so_far hfinds)).frame rfl _, fun he => ?_⟩,
    fun hfinds => (hfinds.connecting n stage r rfl).1⟩
  rcases hes with ⟨rfl, _⟩ | ⟨_, command, _, rfl⟩
  · cases he
  · cases List.mem_singleton.mp he

/-- **A command of the cleanup.** -/
theorem stopCommand_passes {n : ℕ} {command : Command} {stage written : ConnectStage}
    (hstop : command ∈ stopCommands) (hwritten : written ≠ .link)
    (hplain : written.cleansUp .failed = false) {Q : LinkSegment → Prop}
    (hnext : ∀ w, Q (.start (some (.connecting n written, .done)) w)) :
    Passes SegmentArrives (Due n stage) (sendCommand n command (.connecting n written))
      (fun _ => Q) (fun _ => Given (Connecting n)) := by
  refine sendCommand_passes (fun σ h hup hfinds => ?_) hnext
    (fun w => connecting_resume hplain) fun σ h hdown hfinds => ?_
  · have hevents : σ.events = [] := by
      obtain ⟨r, w, rfl, _⟩ := h
      rfl
    have hconnecting : Given (Connecting n) { σ with events := [.sent n command] } :=
      h.connecting (.inr ⟨hup, command, hstop, rfl⟩)
    rw [hevents, List.nil_append] at hfinds ⊢
    cases written with
    | link => exact absurd rfl hwritten
    | _ => exact hconnecting hfinds
  · have hevents : σ.events = [] := by
      obtain ⟨r, w, rfl, _⟩ := h
      rfl
    have hconnecting : Given (Connecting n) { σ with events := [] } :=
      h.connecting (.inl ⟨rfl, hdown⟩)
    rw [← hevents] at hconnecting
    exact hconnecting hfinds

/-- **The cleanup.** -/
theorem cleanUp_passes (n : ℕ) :
    Passes SegmentArrives (Due n .handshakeGap) (cleanUp n) (fun _ => Given (Connecting n))
      (fun _ => Given (Connecting n)) := by
  refine Passes.bind (stopCommand_passes (by decide) (by decide) rfl
    (Q := Given (Connecting n)) fun w => connecting_resume rfl) fun _ => ?_
  refine Passes.bind (Q := fun _ => Due n .stopGap)
    (Passes.await (fun σ h => h) fun r w => ⟨r, w, rfl, rfl⟩) fun _ => ?_
  refine Passes.bind (stopCommand_passes (by decide) (by decide) rfl
    (Q := Due n .brewerQuitWritten) fun w => ⟨_, w, rfl, rfl⟩) fun _ => ?_
  refine Passes.bind (stopCommand_passes (by decide) (by decide) rfl
    (Q := Given (Connecting n)) fun w => connecting_resume rfl) fun _ => ?_
  exact Passes.bind (connecting_await (by decide) fun r => rfl) fun _ => Passes.pure fun σ h => h

/-- The handshake inside the lock. -/
theorem connecting_handshake {n : ℕ} {σ : LinkSegment} (h : Given (Connecting n) σ) :
    SegmentArrives (.connecting n .handshakeWritten)
      { σ with events := σ.events ++ [.sent n .handshake] } := by
  intro hfinds
  obtain ⟨hinside, honly⟩ := h (finds_so_far hfinds)
  refine ⟨⟨hinside.toCommon.emit (fun n he => (by cases he)) (fun c command he hstop => ?_)
    (fun s he => (by cases he)) fun he => (by cases he), hinside.holds.frame rfl _,
    noOff_append hinside.noOff (by simp)⟩,
    fun hfinds => honly hfinds.so_far⟩
  cases he
  exact absurd hstop (by decide)

/-- **`_reset_state`**. -/
theorem resetState_passes (n : ℕ) {X : PyErr → LinkSegment → Prop} :
    Passes SegmentArrives (Given (Connecting n)) (resetState n) (fun _ => Given (Connecting n)) X := by
  refine Passes.bind (sendHandshake_passes (B := Given (Connecting n))
    (fun σ h => connecting_handshake h) (fun r w => connecting_resume rfl) fun σ h => h) fun _ => ?_
  refine Passes.bind (Q := fun _ => Due n .handshakeGap)
    (Passes.await (fun σ h => h) fun r w => ⟨r, w, rfl, rfl⟩) fun _ => ?_
  exact Passes.bind (Q := fun _ => Given (Connecting n)) (Passes.attempt (cleanUp_passes n))
    fun _ => Passes.pure fun σ h => h

/-- What a link that came up, or did not, leaves. -/
theorem linkless_failed {n : ℕ} {stage : ConnectStage} {w : World}
    (hplain : stage.cleansUp .failed = false)
    (hdown : FindsOwned (.start (some (.connecting n stage, .failed)) w) → w.isConnected n = false) :
    Given Linkless (.start (some (.connecting n stage, .failed)) w) := by
  intro hfinds
  obtain ⟨hinside, honly⟩ := connecting_resume hplain hfinds
  refine ⟨hinside, fun h => World.noLink_of_not fun c hc => ?_⟩
  have hc' : w.isConnected c = true := hc
  rw [honly h c hc, hdown h] at hc'
  exact Bool.noConfusion hc'

/-- **The link comes up.** -/
theorem connecting_linked {n : ℕ} {w : World} :
    Given (Connecting n) ⟨some (.connecting n .link, .done), w, w.setConnected n true, []⟩ := by
  intro hfinds
  have hstart : Connecting n (.start (some (.connecting n .link, .done)) w) :=
    connecting_resume rfl ⟨hfinds.inside, hfinds.waiting⟩
  obtain ⟨hinside, honly⟩ := hstart
  refine ⟨⟨{ hinside.toCommon with
      links := fun c hc => ?_
      unlinked := fun why c hresumed => (by cases hresumed) },
    hinside.holds.frame rfl [], hinside.noOff⟩, fun h c hc => ?_⟩
  · rcases World.of_setConnected_true hc with rfl | hold
    · exact Or.inr rfl
    · exact Or.inl hold
  · rcases World.of_setConnected_true hc with rfl | hold
    · rfl
    · exact honly ⟨h.connecting, h.owns, h.notify, h.teardown⟩ c hold

/-- **`XBloomClient.connect`**: it returns with its own link at most, and raises without one. -/
theorem clientConnect_passes (n : ℕ) :
    Passes SegmentArrives (Given Linkless) (clientConnect n)
      (fun connected => Given (if connected then Connecting n else Linkless))
      (fun _ => Given Linkless) := by
  refine Passes.bind (Q := fun r σ => ∃ w, σ = .start (some (.connecting n .link, r)) w)
    (Passes.await (fun σ h hfinds => ⟨(h hfinds).connecting n, fun howned => (h hfinds).2 howned n⟩)
      fun r w => ⟨w, rfl⟩) fun linked => ?_
  split
  · rename_i hfailed
    refine Passes.pure ?_
    rintro σ ⟨w, rfl⟩
    rw [hfailed]
    exact linkless_failed rfl fun h => (h.connecting n .link .failed rfl).2 rfl
  · rename_i hlinked
    have hdone : linked = .done := by
      cases linked with
      | done => rfl
      | failed => exact absurd rfl hlinked
    refine Passes.bind (Q := fun _ => Given (Connecting n)) (Passes.assign ?_) fun _ => ?_
    · rintro σ ⟨w, rfl⟩
      rw [hdone]
      exact connecting_linked
    refine Passes.bind (Q := fun r σ => ∃ w, σ = .start (some (.connecting n .notify, r)) w)
      (Passes.await (fun σ h => h) fun r w => ⟨w, rfl⟩) fun notifying => ?_
    split
    · rename_i hfailed
      refine Passes.throw ?_
      rintro σ ⟨w, rfl⟩
      rw [hfailed]
      -- the link came up without notifications: it raises, and owns nothing
      exact linkless_failed rfl fun h => h.notify n rfl
    · refine Passes.bind (Q := fun _ => Given (Connecting n)) (Passes.pre
        (connecting_await (by decide) fun r => rfl) ?_) fun _ => ?_
      · rintro σ ⟨w, rfl⟩
        exact connecting_resume rfl
      refine Passes.bind (resetState_passes n) fun _ => ?_
      refine Passes.bind (connecting_await (by decide) fun r => rfl) fun _ => ?_
      exact Passes.pure fun σ h => h

/-- The backoff is no matter of the link. -/
theorem linkless_backoff {f : World → World}
    (hf : ∀ w, ∃ failures until_, f w =
      { w with reconnectFailures := failures, reconnectBlockedUntil := until_ })
    {X : PyErr → LinkSegment → Prop} :
    Passes SegmentArrives (Given Linkless) (Routine.assign f : Managing Unit)
      (fun _ => Given Linkless) X := by
  refine Passes.assign fun σ h hfinds => ?_
  obtain ⟨hinside, hno⟩ := h (finds_so_far hfinds)
  obtain ⟨failures, until_, heq⟩ := hf σ.now
  rw [heq]
  exact ⟨hinside.frame (fun c hc => hc) (fun h => .inl h) rfl (.inl rfl) rfl,
    fun hfinds => hno hfinds.so_far⟩

/-- **`_note_connect_failure`**, also when it raises. -/
theorem noteConnectFailure_passes :
    Passes SegmentArrives (Given Linkless) noteConnectFailure (fun _ => Given Linkless)
      (fun _ => Given Linkless) := by
  refine Passes.bind (linkless_backoff fun w => ⟨_, _, rfl⟩) fun _ => ?_
  refine Passes.world fun w => ?_
  refine Passes.bind (Q := fun _ => Given Linkless)
    (Passes.lift (fun _ _ σ h => h.1) fun _ _ σ h => h.1) fun delay => ?_
  exact Passes.bind (linkless_backoff fun w => ⟨_, _, rfl⟩) fun _ => Passes.pure fun σ h => h

/-- A connect that failed leaves no link, and no client unless its note raised. -/
theorem connectFailed_passes :
    Passes SegmentArrives (Given Linkless) connectFailed (fun _ => Given Owning)
      (fun _ => Given Linkless) := by
  refine Passes.bind noteConnectFailure_passes fun _ => ?_
  refine Passes.bind (Q := fun _ => Given Owning) (Passes.assign fun σ h hfinds => ?_) fun _ =>
    Passes.pure fun σ h => h
  obtain ⟨hinside, hno⟩ := h (finds_so_far hfinds)
  exact ⟨hinside.frame (fun c hc => hc) (fun h => .inl h) rfl (.inl rfl) rfl,
    fun hfinds => World.NoLink.owns fun c => hno hfinds.so_far c⟩

theorem connectClient_passes (n : ℕ) :
    Passes SegmentArrives (Given Linkless) (connectClient n) (fun _ => Given Owning)
      (fun _ => Given Linkless) := by
  refine Passes.bind (clientConnect_passes n) fun connected => ?_
  split
  · refine Passes.bind (Q := fun _ => Given (Connecting n)) (Passes.assign fun σ h hfinds => ?_)
      fun _ => ?_
    · obtain ⟨hinside, honly⟩ := h (finds_so_far hfinds)
      exact ⟨hinside.frame (fun c hc => hc) (fun h => .inl h) rfl (.inl rfl) rfl,
        fun hfinds => honly hfinds.so_far⟩
    refine Passes.bind (connecting_await (by decide) fun r => rfl) fun _ => ?_
    refine Passes.bind (Q := fun _ => Given Owning) (Passes.assign fun σ h hfinds => ?_) fun _ =>
      Passes.pure fun σ h => h
    obtain ⟨hinside, honly⟩ := h (finds_so_far hfinds)
    refine ⟨hinside.frame (fun c hc => hc) (fun h => .inl h) rfl (.inl rfl) rfl,
      fun hfinds c hc => ?_⟩
    exact congrArg some (honly hfinds.so_far c hc).symm
  · exact connectFailed_passes

/-- **A new client** has no link, and takes the place of one that had none. -/
theorem owning_newClient {σ : LinkSegment} (h : Owning σ) (hreopens : Reopens σ)
    (hdown : σ.now.linkUp = false) :
    Linkless { σ with now := { σ.now.noteActivity with
      manualDisconnect := false, idleDisconnected := false
      clients := σ.now.clients ++ [{ lastNotification := σ.now.clock }]
      client := some σ.now.clients.length } } := by
  have hnew : ∀ c, World.isConnected { σ.now.noteActivity with
      manualDisconnect := false, idleDisconnected := false
      clients := σ.now.clients ++ [{ lastNotification := σ.now.clock }]
      client := some σ.now.clients.length } c = true → σ.now.isConnected c = true := fun c hc =>
    have hdown : (⟨false, false, σ.now.clock⟩ : Client).connected = false := rfl
    World.of_new_client hdown rfl hc
  refine ⟨h.1.frame hnew (fun _ => .inr hreopens) rfl (.inr rfl) rfl, fun hfinds => ?_⟩
  have hno := (h.2 hfinds.so_far).noLink hdown
  refine World.noLink_of_not fun c hc => ?_
  have hc := hnew c hc
  rw [hno c] at hc
  exact Bool.noConfusion hc

/-- **The body of `async_connect`.** -/
theorem connectLocked_passes :
    Passes SegmentArrives (Given fun σ => Owning σ ∧ (σ.now.linkUp = false → Reopens σ)) connectLocked
      (fun _ => Given Owning) (fun _ => Given Owning) := by
  refine Passes.world fun w => ?_
  split
  · exact Passes.pure fun σ h hfinds => (h.1 hfinds).1
  · rename_i hdown
    refine Passes.bind (Q := fun _ => Given fun σ => Owning σ ∧ Reopens σ ∧ σ.now = w)
      (Passes.emit fun σ h hfinds => ?_) fun _ => ?_
    · obtain ⟨hgiven, rfl⟩ := h
      obtain ⟨⟨hinside, howns⟩, hmay⟩ := hgiven (finds_so_far hfinds)
      have hreopens := hmay (Bool.eq_false_iff.mpr hdown)
      exact ⟨⟨⟨hinside.toCommon.emit (fun n he => hreopens) (fun c command he => (by cases he))
        (fun s he => (by cases he)) fun he => (by cases he), hinside.holds.frame rfl _,
        noOff_append hinside.noOff (by simp)⟩, fun howned => howns howned.so_far⟩,
        hreopens.emit _, rfl⟩
    refine Passes.bind (Q := fun _ => Given Linkless) (Passes.assign fun σ h hfinds => ?_) fun _ => ?_
    · obtain ⟨howning, hreopens, rfl⟩ := h (finds_so_far hfinds)
      exact owning_newClient howning hreopens (Bool.eq_false_iff.mpr hdown)
    refine Passes.bind (Q := ending (fun _ => Given Owning) fun _ => Given Linkless)
      (Passes.attempt (connectClient_passes _)) fun connected => ?_
    cases connected with
    | ok b => exact Passes.pure fun σ h => h
    | error e =>
      refine connectFailed_passes.weaken (fun σ h => h) (fun b σ h => h) fun e σ h hfinds => ?_
      exact ⟨(h hfinds).1, fun howned => World.NoLink.owns ((h hfinds).2 howned)⟩

/-- **`async_connect`**, by those who may reopen the link. -/
theorem asyncConnect_passes {X : PyErr → LinkSegment → Prop} (hX : ∀ e σ, Given Calm σ → X e σ) :
    Passes SegmentArrives (Given fun σ => Calm σ ∧ (σ.now.mayConnect = true → Reopens σ)) asyncConnect
      (fun _ => Given Calm) X := by
  refine Passes.world fun w => ?_
  refine Passes.bind (Q := fun _ => Given fun σ => Calm σ ∧ (σ.now.mayConnect = true → Reopens σ) ∧
    σ.now.connectLocked = false) ?_ fun _ => ?_
  · refine Passes.when (fun _ => ?_) fun hfree σ h hfinds =>
      ⟨(h.1 hfinds).1, (h.1 hfinds).2, by rw [h.2, hfree]⟩
    refine Passes.bind (Q := fun _ => Given fun σ => Calm σ ∧ (σ.now.mayConnect = true → Reopens σ) ∧
      σ.now.connectLocked = false) (Passes.await (fun σ h hfinds => (h.1 hfinds).1)
        fun r w hfinds => ?_) fun _ => Passes.pure fun σ h => h
    exact ⟨calm_resume rfl rfl hfinds, fun hmay => .inr (.inr ⟨_, r, rfl, .inl ⟨.inl rfl, hmay⟩⟩),
      hfinds.waiting _ r rfl rfl⟩
  refine Passes.bind (Q := fun _ => Given fun σ => Owning σ ∧ (σ.now.linkUp = false → Reopens σ))
    (Passes.assign fun σ h hfinds => ?_) fun _ => ?_
  · obtain ⟨⟨houtside, hoff⟩, hmay, hfree⟩ := h (finds_so_far hfinds)
    refine ⟨⟨⟨houtside.toCommon.frame (fun c hc => hc) (fun h => .inl h) rfl (.inl rfl),
      houtside.keeps.take hfree rfl, hoff⟩, fun howned => ?_⟩, fun hdown => hmay ?_⟩
    · exact houtside.owned howned.so_far hfree
    · -- taking the lock moves no link
      have hdown : σ.now.linkUp = false := hdown
      rw [World.mayConnect, hfree, hdown]
      rfl
  refine Passes.bind (Q := fun _ => Given Owning) (Passes.attempt connectLocked_passes)
    fun connected => ?_
  refine Passes.bind (Q := fun _ => Given Calm) (Passes.assign fun σ h hfinds => ?_) fun _ =>
    Passes.lift (fun _ _ σ h => h) fun e _ σ h => hX e σ h
  obtain ⟨hinside, howns⟩ := h (finds_so_far hfinds)
  refine ⟨⟨hinside.toCommon.frame (fun c hc => hc) (fun h => .inl h) rfl (.inl rfl),
    hinside.holds.release _, fun hlocked => (by cases hlocked), fun howned _ => ?_⟩, hinside.noOff⟩
  exact howns howned.so_far

/-! ## Disconnecting -/

/-- If the segment turns the switch off, it has changed nothing but the flag so far. -/
def Asked (why : Teardown) (σ : LinkSegment) : Prop :=
  .turnOff ∈ σ.events → why = .switchOff ∧ TurnsOff σ ∧ σ.now.manualDisconnect = true ∧
    σ.now.client = σ.before.client ∧ σ.now.clients = σ.before.clients

/-- If the segment turns the switch off, it found no link of `self.client`'s. -/
def FoundDown (why : Teardown) (σ : LinkSegment) : Prop :=
  .turnOff ∈ σ.events → why = .switchOff ∧ TurnsOff σ ∧ σ.now.manualDisconnect = true ∧
    σ.before.linkUp = false

/-- The teardown is over: unless another call connects, no link is up. -/
def TornDown (why : Teardown) (σ : LinkSegment) : Prop :=
  Outside σ ∧ FoundDown why σ ∧ (FindsOwned σ → σ.now.connectLocked = false → σ.now.NoLink)

/-- **bleak's disconnect fails**: then the link is down already, or another call connects. -/
theorem tornDown_failed {why why' : Teardown} {c : ℕ} {w : World} :
    Given (TornDown why') (.start (some (.disconnecting why c .bleak, .failed)) w) := by
  intro hfinds
  obtain ⟨houtside, hoff⟩ := calm_resume (l := .disconnecting why c .bleak) (r := .failed) (w := w)
    rfl rfl hfinds
  refine ⟨houtside, fun he => absurd he hoff, fun h hfree => World.noLink_of_not fun c' hc' => ?_⟩
  have hclient := houtside.owned h hfree c' hc'
  have hdone := (h.teardown why c .failed rfl hfree c' hclient hc').2
  cases hdone

/-- **The link goes down.** -/
theorem tornDown_done {why why' : Teardown} {c : ℕ} {w : World} :
    Given (TornDown why')
      ⟨some (.disconnecting why c .bleak, .done), w, w.setConnected c false, []⟩ := by
  intro hfinds
  have hlinks : ∀ d, (w.setConnected c false).isConnected d = true → w.isConnected d = true :=
    fun d hd => (World.of_setConnected_false hd).2
  have hcommon : Common
      ⟨some (.disconnecting why c .bleak, .done), w, w.setConnected c false, []⟩ := by
    refine ⟨⟨fun d hd => .inl (hlinks d hd), fun why d hresumed => ?_, fun n he => (by cases he),
      fun h => .inl h, rfl, fun h => ⟨le_rfl, h⟩, fun _ s he => (by cases he),
      fun d command he => (by cases he), fun hcleans => ?_, fun he => (by cases he)⟩,
      fun why d r hresumed => (by cases hresumed)⟩
    · cases hresumed
      exact Bool.eq_false_iff.mpr fun hup => (World.of_setConnected_false hup).1 rfl
    · obtain ⟨n, stage, r, hresumed, _⟩ := hcleans
      cases hresumed
  have hentered : ¬ connectLock.Entered
      (⟨some (.disconnecting why c .bleak, .done), w, w.setConnected c false, []⟩ : LinkSegment) := by
    rintro ⟨l, r, hresumed, hin⟩
    cases hresumed
    cases hin
  have hno : FindsOwned ⟨some (.disconnecting why c .bleak, .done), w, w.setConnected c false, []⟩ →
      w.connectLocked = false → (w.setConnected c false).NoLink := by
    -- the link of any other client would be `self.client`'s, which is this one
    refine fun h hfree => World.noLink_of_not fun d hd => ?_
    obtain ⟨hne, hup⟩ := World.of_setConnected_false hd
    exact hne (h.teardown why c .done rfl hfree d (h.owns hentered hfree d hup) hup).1
  exact ⟨⟨hcommon, fun h => .inr h, fun h => ⟨hentered, h⟩, fun h hfree => (hno h hfree).owns⟩,
    fun he => (by cases he), hno⟩

/-- **`XBloomClient.disconnect`** of `self.client`. -/
theorem clientDisconnect_passes (why : Teardown) (c : ℕ) :
    Passes SegmentArrives
      (Given fun σ => Outside σ ∧ Asked why σ ∧ σ.now.client = some c) (clientDisconnect why c)
      (fun _ => Given (TornDown why)) (fun _ => Given (TornDown why)) := by
  refine Passes.world fun w => Passes.when (fun _ => ?_) fun hdown σ h hfinds => ?_
  · refine Passes.bind (Q := fun r σ => ∃ w, σ = .start (some (.disconnecting why c .stopNotify, r)) w)
      (Passes.await (fun σ h hfinds => ?_) fun r w => ⟨w, rfl⟩) fun stopped => ?_
    · obtain ⟨houtside, hasked, hclient⟩ := h.1 hfinds
      refine ⟨houtside, fun he => ?_⟩
      obtain ⟨hwhy, hnone, hmanual, hsame, _⟩ := hasked he
      exact ⟨hwhy, hnone, hmanual, hsame.symm.trans hclient⟩
    refine Passes.bind (Q := fun r σ => ∃ w, σ = .start (some (.disconnecting why c .bleak, r)) w)
      (Passes.await ?_ fun r w => ⟨w, rfl⟩) fun unlinked => ?_
    · rintro σ ⟨w, rfl⟩ _
      exact ⟨stopped, w, rfl⟩
    split
    · rename_i hfailed
      refine Passes.throw ?_
      rintro σ ⟨w, rfl⟩
      rw [hfailed]
      exact tornDown_failed
    · rename_i hne
      have hdone : unlinked = .done := by
        cases unlinked with
        | done => rfl
        | failed => exact absurd rfl hne
      refine Passes.assign ?_
      rintro σ ⟨w, rfl⟩
      rw [hdone]
      exact tornDown_done
  · -- no link to take down
    obtain ⟨hgiven, rfl⟩ := h
    obtain ⟨houtside, hasked, hclient⟩ := hgiven hfinds
    have hlinkDown : σ.now.linkUp = false := by
      rw [World.linkUp, hclient]
      exact hdown
    refine ⟨houtside, fun he => ?_, fun h hfree => (houtside.owned h hfree).noLink hlinkDown⟩
    obtain ⟨hwhy, hnone, hmanual, hsame, hclients⟩ := hasked he
    refine ⟨hwhy, hnone, hmanual, ?_⟩
    rw [World.linkUp, ← hsame, hclient]
    exact (World.isConnected_congr hclients.symm c).trans hdown

/-- **The teardown of `async_disconnect`.** -/
theorem dropClient_passes (why : Teardown) {X : PyErr → LinkSegment → Prop} :
    Passes SegmentArrives (Given fun σ => Outside σ ∧ Asked why σ) (dropClient why)
      (fun _ => Given fun σ => Outside σ ∧ FoundDown why σ) X := by
  refine Passes.world fun w => ?_
  split
  · rename_i c hc
    refine Passes.bind (Q := fun _ => Given (TornDown why)) (Passes.attempt
      ((clientDisconnect_passes why c).pre fun σ h hfinds =>
        ⟨(h.1 hfinds).1, (h.1 hfinds).2, by rw [h.2, hc]⟩)) fun _ => ?_
    refine Passes.assign fun σ h hfinds => ?_
    obtain ⟨houtside, hfound, hno⟩ := h (finds_so_far hfinds)
    refine ⟨⟨houtside.toCommon.frame (fun c hc => hc) (fun h => .inl h) rfl (.inl rfl),
      houtside.keeps.frame rfl _, houtside.settled.frame rfl _, fun howned hfree => ?_⟩, hfound⟩
    exact World.NoLink.owns fun c => hno howned.so_far hfree c
  · rename_i hnone
    refine Passes.pure fun σ h hfinds => ?_
    obtain ⟨hgiven, rfl⟩ := h
    obtain ⟨houtside, hasked⟩ := hgiven hfinds
    refine ⟨houtside, fun he => ?_⟩
    obtain ⟨hwhy, hresumed, hmanual, hsame, _⟩ := hasked he
    refine ⟨hwhy, hresumed, hmanual, ?_⟩
    rw [World.linkUp, ← hsame, hnone]
    rfl

/-- **`async_disconnect`**: what follows it is a segment of its own. -/
theorem asyncDisconnect_passes (why : Teardown) {Q X : LinkSegment → Prop}
    {Y : PyErr → LinkSegment → Prop}
    (hX : ∀ σ, X σ → Given (fun σ => Outside σ ∧ (.turnOff ∈ σ.events → why = .switchOff ∧
      TurnsOff σ ∧ σ.now.client = σ.before.client ∧ σ.now.clients = σ.before.clients)) σ)
    (hnext : ∀ r w, Q (.start (some (.refreshing why, r)) w)) :
    Passes SegmentArrives X (asyncDisconnect why) (fun _ => Q) Y := by
  refine Passes.bind (Q := fun _ => Given fun σ => Outside σ ∧ Asked why σ)
    (Passes.assign fun σ h hfinds => ?_) fun _ => ?_
  · obtain ⟨houtside, hasked⟩ := hX σ h (finds_so_far hfinds)
    refine ⟨houtside.frame (fun c hc => hc) (fun _ => .inl rfl) rfl (.inl rfl) rfl rfl, fun he => ?_⟩
    obtain ⟨hwhy, hnone, hclient, hclients⟩ := hasked he
    exact ⟨hwhy, hnone, rfl, hclient, hclients⟩
  refine Passes.bind (dropClient_passes why) fun _ => ?_
  exact Passes.bind (Q := fun _ => Q) (Passes.await (fun σ h => h) fun r w => hnext r w)
    fun _ => Passes.pure fun σ h => h

/-- A calm segment goes on. -/
theorem Calm.frame {σ : LinkSegment} {w : World} (h : Calm σ)
    (hlinks : ∀ c, w.isConnected c = true → σ.now.isConnected c = true)
    (hmanual : σ.now.manualDisconnect = true → w.manualDisconnect = true ∨ Reopens σ)
    (hclock : w.clock = σ.now.clock)
    (hactivity : w.lastActivity = σ.now.lastActivity ∨ w.lastActivity = w.clock)
    (hlock : w.connectLocked = σ.now.connectLocked)
    (hclient : w.client = σ.now.client) : Calm { σ with now := w } :=
  ⟨h.1.frame hlinks hmanual hclock hactivity hlock hclient, h.2⟩

/-- A drop of the coordinator's own begins in a calm segment. -/
theorem calm_drops {why : Teardown} {σ : LinkSegment} (h : Given Calm σ) :
    Given (fun σ => Outside σ ∧ (.turnOff ∈ σ.events → why = .switchOff ∧
      TurnsOff σ ∧ σ.now.client = σ.before.client ∧ σ.now.clients = σ.before.clients)) σ :=
  fun hfinds => ⟨(h hfinds).1, fun he => absurd he (h hfinds).2⟩

/-- A segment after a drop of the coordinator's own may clear the user's off. -/
theorem reopens_dropped {why : Teardown} (hwhy : why = .staleLink ∨ why = .wake) {r : Response}
    {w : World} : Reopens (.start (some (.refreshing why, r)) w) := by
  refine Or.inr (Or.inr ⟨_, r, rfl, Or.inr ?_⟩)
  rcases hwhy with rfl | rfl
  · exact Or.inl rfl
  · exact Or.inr rfl

/-- **`_async_drop_stale_link`**. -/
theorem asyncDropStaleLink_passes :
    Passes SegmentArrives (Given Calm) asyncDropStaleLink (fun _ => Given Calm)
      (fun _ => Given Calm) := by
  refine Passes.bind (Q := fun _ => Given Calm) (Passes.attempt ?_) fun dropped => ?_
  · refine Passes.bind (asyncDisconnect_passes .staleLink
      (Q := fun σ => ∃ r w, σ = .start (some (.refreshing .staleLink, r)) w)
      (fun σ h => calm_drops h) fun r w => ⟨r, w, rfl⟩) fun _ => ?_
    refine Passes.assign ?_
    rintro σ ⟨r, w, rfl⟩ hfinds
    exact (calm_resume rfl rfl (finds_so_far hfinds)).frame (fun c hc => hc)
      (fun _ => .inr (reopens_dropped (.inl rfl))) rfl (.inl rfl) rfl rfl
  · refine Passes.bind (Q := fun _ => Given Calm) (Passes.assign fun σ h hfinds => ?_) fun _ =>
      Passes.lift (fun _ _ σ h => h) fun _ _ σ h => h
    exact (h (finds_so_far hfinds)).frame (fun c hc => hc) (fun h => .inl h) rfl (.inl rfl) rfl rfl

/-- **`_async_enter_idle_standby`**, when its task begins. -/
theorem asyncEnterIdleStandby_passes :
    Passes SegmentArrives (fun σ => ∃ r w, σ = .start (some (.scheduled .standby, r)) w)
      asyncEnterIdleStandby (fun _ => Given Calm) (fun _ => Given Calm) := by
  refine Passes.bind (Q := fun _ σ => (∃ r, σ.resumed = some (.scheduled .standby, r)) ∧ Given Calm σ)
    (Passes.assign ?_) fun _ => ?_
  · rintro σ ⟨r, w, rfl⟩
    exact ⟨⟨r, rfl⟩, fun hfinds => (calm_resume rfl rfl (finds_so_far hfinds)).frame
      (fun c hc => hc) (fun h => .inl h) rfl (.inl rfl) rfl rfl⟩
  refine Passes.bind (Q := fun _ => Given Calm) (Passes.emit fun σ h hfinds => ?_) fun _ => ?_
  · obtain ⟨hscheduled, hcalm⟩ := h
    obtain ⟨houtside, hoff⟩ := hcalm (finds_so_far hfinds)
    exact ⟨houtside.emit (fun n he => (by cases he)) (fun c command he => (by cases he))
      (fun s he => (by cases he)) fun _ => hscheduled, noOff_append hoff (by decide)⟩
  refine Passes.bind (Q := fun _ => Given Calm) (Passes.attempt (asyncDisconnect_passes .standby
    (fun σ h => calm_drops h) fun r w => calm_resume rfl rfl)) fun dropped => ?_
  refine Passes.bind (Q := fun _ => Given Calm) (Passes.assign fun σ h hfinds => ?_) fun _ =>
    Passes.lift (fun _ _ σ h => h) fun _ _ σ h => h
  exact (h (finds_so_far hfinds)).frame (fun c hc => hc) (fun h => .inl h) rfl (.inl rfl) rfl rfl

/-! ## The poll -/

/-- `_maybe_schedule_reconnect`: nothing while the user's off stands. -/
theorem maybeScheduleReconnect_passes {σ₀ : LinkSegment} (hcalm : Given Calm σ₀)
    (hsame : σ₀.now = σ₀.before) :
    Passes SegmentArrives (fun σ => σ = σ₀) maybeScheduleReconnect (fun _ => Given Calm)
      (fun _ => Given Calm) := by
  refine Passes.world fun w => ?_
  have hstay : Passes SegmentArrives (fun σ => σ = σ₀ ∧ σ.now = w) (pure () : Managing Unit)
      (fun _ => Given Calm) (fun _ => Given Calm) := Passes.pure fun σ h => h.1 ▸ hcalm
  split
  · exact hstay
  · rename_i hflags
    split
    · exact hstay
    · split
      · exact hstay
      · refine Passes.bind (Q := fun r σ => ∃ w, σ = .start (some (.scheduled .reconnect, r)) w)
          (Passes.await ?_ fun r w => ⟨w, rfl⟩) fun r => ?_
        · rintro σ ⟨rfl, hw⟩ hfinds
          refine ⟨hcalm hfinds, ?_⟩
          rw [← hsame, hw]
          cases hmanual : w.manualDisconnect with
          | false => rfl
          | true =>
            rw [hmanual] at hflags
            exact absurd rfl hflags
        · refine Passes.bind (Q := fun _ => Given Calm) (Passes.pre
            (asyncConnect_passes fun _ _ h => h) ?_) fun _ => Passes.pure fun σ h => h
          rintro σ ⟨w, rfl⟩ hfinds
          exact ⟨calm_resume rfl rfl hfinds,
            fun hmay => .inr (.inr ⟨_, r, rfl, .inl ⟨.inr rfl, hmay⟩⟩)⟩

/-- **`_async_update_data`**. -/
theorem asyncUpdateData_passes (w₀ : World) :
    Passes SegmentArrives (fun σ => σ = .start none w₀) asyncUpdateData (fun _ => Given Calm)
      (fun _ => Given Calm) := by
  refine Passes.world fun w => ?_
  have hreconnect : Passes SegmentArrives (fun σ => σ = .start none w₀ ∧ σ.now = w)
      maybeScheduleReconnect (fun _ => Given Calm) (fun _ => Given Calm) :=
    (maybeScheduleReconnect_passes (calm_spawn w₀) rfl).pre fun σ h => h.1
  split
  · exact hreconnect
  · rename_i c hclient
    split
    · rename_i hup
      split
      · -- the stale link
        refine Passes.bind (Q := fun _ => Given Calm) (Passes.assign ?_) fun _ => ?_
        · rintro σ ⟨rfl, rfl⟩ hfinds
          exact (calm_spawn w₀ (finds_so_far hfinds)).frame (fun c hc => hc) (fun h => .inl h) rfl
            (.inl rfl) rfl rfl
        · exact Passes.bind (Q := fun _ => Given Calm) (Passes.await (fun σ h => h) fun r w =>
            calm_resume rfl rfl) fun _ => asyncDropStaleLink_passes
      · split
        · -- the idle countdown
          rename_i hfresh hidle
          refine Passes.bind (Q := fun _ σ => w₀.entersStandby = true ∧
            σ = ⟨none, w₀, { w₀ with idleStandbyPending := true }, []⟩) (Passes.assign ?_) fun _ => ?_
          · rintro σ ⟨rfl, rfl⟩
            have hclient : w₀.client = some c := hclient
            have hfresh : w₀.stale c = false := Bool.eq_false_iff.mpr hfresh
            exact ⟨by simpa [World.entersStandby, hclient] using ⟨⟨hup, hfresh⟩, hidle⟩, rfl⟩
          · refine Passes.bind (Q := fun r σ => ∃ r w, σ = .start (some (.scheduled .standby, r)) w)
              (Passes.await ?_ fun r w => ⟨r, w, rfl⟩) fun _ => asyncEnterIdleStandby_passes
            rintro σ ⟨hidle, rfl⟩ hfinds
            exact ⟨(calm_spawn w₀ ⟨hfinds.inside, hfinds.waiting⟩).frame
              (w := { w₀ with idleStandbyPending := true }) (fun c hc => hc) (fun h => .inl h) rfl
              (.inl rfl) rfl rfl, hidle, rfl⟩
        · exact Passes.pure fun σ h => h.1 ▸ calm_spawn w₀
    · exact hreconnect

/-! ## Actions -/

/-- **`_async_ensure_connected`**: of an off of the user it undoes none but a standby's. -/
theorem ensureConnected_passes (w₀ : World) :
    Passes SegmentArrives (fun σ => σ = .start none w₀) ensureConnected (fun _ => Given Calm)
      (fun _ => Given Calm) := by
  refine Passes.bind (Q := fun _ σ => σ = ⟨none, w₀, w₀.noteActivity, []⟩) (Passes.assign ?_)
    fun _ => ?_
  · rintro σ rfl
    rfl
  have hcalm : Given Calm ⟨none, w₀, w₀.noteActivity, []⟩ := fun hfinds =>
    (calm_spawn w₀ ⟨hfinds.inside, hfinds.waiting⟩).frame (w := w₀.noteActivity) (fun c hc => hc)
      (fun h => .inl h) rfl (.inr rfl) rfl rfl
  refine Passes.world fun w => ?_
  split
  · exact Passes.pure fun σ h => h.1 ▸ hcalm
  · rename_i hdown
    split
    · rename_i hidle
      refine (asyncConnect_passes fun _ _ h => h).pre ?_
      rintro σ ⟨rfl, rfl⟩ hfinds
      exact ⟨hcalm hfinds, fun hmay => .inr (.inl ⟨rfl, hidle, hmay⟩)⟩
    · exact Passes.pure fun σ h => h.1 ▸ hcalm

/-- An await outside the lock, at a point that asks for nothing more. -/
theorem calm_await {l : Point} {X : PyErr → LinkSegment → Prop}
    (harrives : ∀ σ, Calm σ → Arrives l σ) (hplain : ∀ r, l.plain r = true)
    (houtside : connectLock.inside l = false) :
    Passes SegmentArrives (Given Calm) (Routine.await l : Managing Response) (fun _ => Given Calm) X :=
  Passes.await (fun _ h hfinds => harrives _ (h hfinds)) fun r _ => calm_resume (hplain r) houtside

theorem waitAwake_passes (n : ℕ) {X : PyErr → LinkSegment → Prop} :
    Passes SegmentArrives (Given Calm) (waitAwake n) (fun _ => Given Calm) X := by
  induction n with
  | zero => exact Passes.world fun w => Passes.pure fun σ h => h.1
  | succ n ih =>
    refine Passes.world fun w => ?_
    split
    · exact Passes.bind ((calm_await (l := .wakePoll) (fun _ h => h) (fun _ => rfl) rfl).pre
        fun σ h => And.left h) fun _ => ih
    · exact Passes.pure fun σ h => h.1

theorem wakeByHandshake_passes {X : PyErr → LinkSegment → Prop} :
    Passes SegmentArrives (Given Calm) wakeByHandshake (fun _ => Given Calm) X := by
  refine Passes.world fun w => ?_
  split
  · rename_i c hc
    refine Passes.bind (sendHandshake_passes (B := Given Calm) (fun σ h hfinds => ?_)
      (fun r w => calm_resume rfl rfl) fun σ h => h.1) fun _ => waitAwake_passes 30
    obtain ⟨houtside, hoff⟩ := h.1 (finds_so_far hfinds)
    refine ⟨houtside.emit (fun n he => (by cases he)) (fun c command he hstop => ?_)
      (fun s he => (by cases he)) fun he => (by cases he), noOff_append hoff (by simp)⟩
    cases he
    exact absurd hstop (by decide)
  · exact Passes.pure fun σ h => h.1

/-- **`_async_wake_machine`**. -/
theorem wakeMachine_passes :
    Passes SegmentArrives (Given Calm) wakeMachine (fun _ => Given Calm) (fun _ => Given Calm) := by
  refine Passes.bind wakeByHandshake_passes fun woke => ?_
  split
  · exact Passes.pure fun σ h => h
  · refine Passes.world fun w => ?_
    split
    · exact Passes.pure fun σ h => h.1
    · refine Passes.bind (asyncDisconnect_passes .wake
        (Q := fun σ => ∃ r w, σ = .start (some (.refreshing .wake, r)) w)
        (fun σ h => calm_drops h.1) fun r w => ⟨r, w, rfl⟩) fun _ => ?_
      refine Passes.bind (Q := fun _ => Given fun σ => Calm σ ∧ (σ.now.mayConnect = true → Reopens σ))
        (Passes.assign ?_) fun _ => ?_
      · rintro σ ⟨r, w, rfl⟩ hfinds
        exact ⟨(calm_resume rfl rfl (finds_so_far hfinds)).frame (fun c hc => hc)
          (fun _ => .inr (reopens_dropped (.inr rfl))) rfl (.inl rfl) rfl rfl,
          fun _ => reopens_dropped (.inr rfl)⟩
      · exact Passes.bind (asyncConnect_passes fun _ _ h => h) fun _ => Passes.pure fun σ h => h

theorem act_passes (n : ℕ) {X : PyErr → LinkSegment → Prop} :
    Passes SegmentArrives (Given Calm) (act n) (fun _ => Given Calm) X := by
  induction n with
  | zero => exact Passes.pure fun σ h => h
  | succ n ih =>
    exact Passes.bind (calm_await (fun _ h => h) (fun _ => rfl) rfl) fun _ => ih

/-- **An action.** -/
theorem action_passes (wakes : Bool) (awaits : ℕ) (w₀ : World) :
    Passes SegmentArrives (fun σ => σ = .start none w₀) (action wakes awaits) (fun _ => Given Calm)
      (fun _ => Given Calm) := by
  refine Passes.bind (ensureConnected_passes w₀) fun connected => Passes.when (fun _ => ?_)
    fun _ σ h => h
  refine Passes.world fun w => ?_
  refine Passes.bind (Q := fun _ => Given Calm) (Passes.emit fun σ h hfinds => ?_) fun _ => ?_
  · obtain ⟨hgiven, rfl⟩ := h
    obtain ⟨houtside, hoff⟩ := hgiven (finds_so_far hfinds)
    refine ⟨houtside.emit (fun n he => (by cases he)) (fun c command he => (by cases he))
      (fun s he => ?_) fun he => (by cases he), noOff_append hoff (by simp)⟩
    cases he
    exact le_rfl
  refine Passes.bind (Q := fun _ => Given Calm) (Passes.when (fun _ => wakeMachine_passes)
    fun _ σ h => h) fun _ => act_passes awaits

/-! ## Calls -/

/-- **Every segment of every call.** -/
theorem program_passes (c : Call) (w₀ : World) :
    (system.program c).AllSegments SegmentArrives (Given Calm) (.start none w₀) := by
  have hroutine : Passes SegmentArrives (fun σ => σ = .start none w₀) c.routine
      (fun _ => Given Calm) (fun _ => Given Calm) := by
    cases c with
    | turnOn =>
      refine Passes.bind (Q := fun _ => Given fun σ => Calm σ ∧ (σ.now.mayConnect = true → Reopens σ))
        (Passes.emit ?_) fun _ => Passes.bind (asyncConnect_passes fun _ _ h => h) fun _ =>
          Passes.pure fun σ h => h
      rintro σ rfl hfinds
      obtain ⟨houtside, hoff⟩ := calm_spawn w₀ (finds_so_far hfinds)
      exact ⟨⟨houtside.emit (fun n he => (by cases he)) (fun c command he => (by cases he))
        (fun s he => (by cases he)) fun he => (by cases he), noOff_append hoff (by decide)⟩,
        fun _ => .inl (List.mem_singleton.mpr rfl)⟩
    | turnOff =>
      refine Passes.bind (Q := fun _ => Given fun σ => Outside σ ∧ TurnsOff σ ∧
        σ.now = σ.before) (Passes.emit ?_) fun _ => asyncDisconnect_passes .switchOff
        (fun σ h hfinds => ?_) fun r w => calm_resume rfl rfl
      · rintro σ rfl hfinds
        obtain ⟨houtside, hoff⟩ := calm_spawn w₀ (finds_so_far hfinds)
        exact ⟨houtside.emit (fun n he => (by cases he)) (fun c command he => (by cases he))
          (fun s he => (by cases he)) fun he => (by cases he), ⟨rfl, rfl⟩, rfl⟩
      · obtain ⟨houtside, hnone, hsame⟩ := h hfinds
        exact ⟨houtside, fun _ => ⟨rfl, hnone, by rw [hsame], by rw [hsame]⟩⟩
    | poll => exact asyncUpdateData_passes w₀
    | action wakes awaits => exact action_passes wakes awaits w₀
  exact hroutine.allSegments rfl

end XBloom.Link
