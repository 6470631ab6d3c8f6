/-
# XBloom.Link.Spec — what every segment of a call does to the link

One lemma for each function of the connection manager, over segments.  Outside the connect lock a
segment keeps the link that is up with `self.client`; inside, only the client being connected may have
one.  A segment clears the user's off only where it connects or ends a drop of its own, and sends the
stop and quit commands only where a connect resumes its cleanup.
-/
import XBloom.Async.Locks
import XBloom.Link.Manager

namespace XBloom.Link

open XBloom.Async XBloom.Py XBloom.Ble

/-- A segment of a call of the connection manager. -/
abbrev LinkSegment := Segment World Event Point Response

/-! ## Links -/

namespace World

theorem isConnected_congr {w w' : World} (h : w'.clients = w.clients) (c : ℕ) :
    w'.isConnected c = w.isConnected c := by
  unfold isConnected
  rw [h]

theorem isConnected_setClient (w : World) (c d : ℕ) {f : Client → Client}
    (hf : ∀ client, (f client).connected = client.connected) :
    (w.setClient c f).isConnected d = w.isConnected d := by
  unfold isConnected setClient
  dsimp only
  rw [List.getElem?_modify]
  cases hclient : w.clients[d]? with
  | none => rfl
  | some client =>
    by_cases hcd : c = d
    · simp [hcd, hf]
    · simp [hcd]

theorem of_setConnected_true {w : World} {c d : ℕ}
    (h : (w.setConnected c true).isConnected d = true) : d = c ∨ w.isConnected d = true := by
  unfold isConnected setConnected setClient at h
  dsimp only at h
  rw [List.getElem?_modify] at h
  by_cases hcd : c = d
  · exact Or.inl hcd.symm
  · right
    unfold isConnected
    cases hclient : w.clients[d]? with
    | none => simp [hclient] at h
    | some client => simpa [hclient, hcd] using h

theorem of_setConnected_false {w : World} {c d : ℕ}
    (h : (w.setConnected c false).isConnected d = true) : d ≠ c ∧ w.isConnected d = true := by
  unfold isConnected setConnected setClient at h
  dsimp only at h
  rw [List.getElem?_modify] at h
  cases hclient : w.clients[d]? with
  | none => simp [hclient] at h
  | some client =>
    by_cases hcd : c = d
    · simp [hclient, hcd] at h
    · refine ⟨fun hd => hcd hd.symm, ?_⟩
      unfold isConnected
      simpa [hclient, hcd] using h

/-- A new client has no link. -/
theorem of_new_client {w : World} {client : Client} (hclient : client.connected = false) {w' : World}
    (hw' : w'.clients = w.clients ++ [client]) {c : ℕ} (h : w'.isConnected c = true) :
    w.isConnected c = true := by
  unfold isConnected at h ⊢
  rw [hw', List.getElem?_append] at h
  split at h
  · exact h
  · cases hc : [client][c - w.clients.length]? with
    | none => simp [hc] at h
    | some client' =>
      rw [hc] at h
      rw [List.getElem?_singleton] at hc
      split at hc
      · cases hc
        exact absurd (hclient.symm.trans h) Bool.false_ne_true
      · cases hc

theorem linkUp_iff {w : World} :
    w.linkUp = true ↔ ∃ c, w.client = some c ∧ w.isConnected c = true := by
  unfold linkUp
  cases w.client with
  | none => simp
  | some c => simp

/-- No link is up. -/
def NoLink (w : World) : Prop := ∀ c, w.isConnected c = false

/-- Only this client's link may be up. -/
def Only (w : World) (n : ℕ) : Prop := ∀ c, w.isConnected c = true → c = n

/-- Every link that is up is `self.client`'s. -/
def Owns (w : World) : Prop := ∀ c, w.isConnected c = true → w.client = some c

theorem NoLink.only {w : World} (h : w.NoLink) (n : ℕ) : w.Only n := fun c hc => by
  rw [h c] at hc
  exact absurd hc Bool.false_ne_true

theorem NoLink.owns {w : World} (h : w.NoLink) : w.Owns := fun c hc => by
  rw [h c] at hc
  exact absurd hc Bool.false_ne_true

theorem noLink_of_not {w : World} (h : ∀ c, w.isConnected c ≠ true) : w.NoLink := fun c =>
  Bool.eq_false_iff.mpr (h c)

/-- A coordinator that owns its link and finds none has none. -/
theorem Owns.noLink {w : World} (h : w.Owns) (hdown : w.linkUp = false) : w.NoLink := by
  refine noLink_of_not fun c hc => ?_
  rw [linkUp_iff.mpr ⟨c, h c hc, hc⟩] at hdown
  exact Bool.noConfusion hdown

end World

/-! ## Assertions -/

/-- `_connect_lock`. -/
def connectLock : Lock World Point where
  locked := World.connectLocked
  inside
    | .connecting _ _ => true
    | _ => false
  waiting
    | .connectLock => true
    | _ => false

/-- 40519, 8013, 8012, 3505 and 4507. -/
def stopCommands : List Command :=
  [.recipeStop, .brewerQuit, .grinderQuit, .grinderStop, .brewerStop]

/-- `_reset_state` goes on with its cleanup when it is resumed here. -/
def ConnectStage.cleansUp : ConnectStage → Response → Bool
  | .handshakeGap, _ => true
  | .stopGap, _ => true
  | .brewerQuitWritten, .done => true
  | _, _ => false

/-- The segment resumes the cleanup of a connect, and finds its link up. -/
def CleansUp (σ : LinkSegment) : Prop :=
  ∃ n stage r, σ.resumed = some (.connecting n stage, r) ∧ stage.cleansUp r = true ∧
    σ.before.isConnected n = true

/-- A connect would go ahead: the lock is free and the link is down. -/
def World.mayConnect (w : World) : Bool := !w.connectLocked && !w.linkUp

/-- **The segment may clear the user's off**: the user turned the switch on, an action finds a standby
to undo, a connect that was scheduled or waited for the lock goes ahead, or a drop of the
coordinator's own ends. -/
def Reopens (σ : LinkSegment) : Prop :=
  .turnOn ∈ σ.events ∨
    (σ.resumed = none ∧ σ.before.idleDisconnected = true ∧ σ.before.mayConnect = true) ∨
    ∃ l r, σ.resumed = some (l, r) ∧
      ((l = .connectLock ∨ l = .scheduled .reconnect) ∧ σ.before.mayConnect = true ∨
        l = .refreshing .staleLink ∨ l = .refreshing .wake)

/-- The poll puts an idle link into standby. -/
def World.entersStandby (w : World) : Bool :=
  w.client.any fun c => w.isConnected c && !w.stale c && w.idle

/-- The last activity is not in the future. -/
def World.Timely (w : World) : Prop := w.lastActivity ≤ w.clock

/-- **The ownership of the link a segment finds**: `self.client`'s, or while it connects its client's.
`notify` and `teardown` say that no link was left up by a failure, or under another client's name. -/
structure FindsOwned (σ : LinkSegment) : Prop where
  connecting : ∀ n stage r, σ.resumed = some (.connecting n stage, r) →
    σ.before.Only n ∧ (stage = .link → σ.before.isConnected n = false)
  owns : ¬ connectLock.Entered σ → σ.before.connectLocked = false → σ.before.Owns
  notify : ∀ n, σ.resumed = some (.connecting n .notify, .failed) → σ.before.isConnected n = false
  teardown : ∀ why c r, σ.resumed = some (.disconnecting why c .bleak, r) →
    σ.before.connectLocked = false → ∀ c', σ.before.client = some c' →
      σ.before.isConnected c' = true → c' = c ∧ r = .done

/-- **What holds of every segment.** -/
structure Lawful (σ : LinkSegment) : Prop where
  links : ∀ c, σ.now.isConnected c = true → σ.before.isConnected c = true ∨
    σ.resumed = some (.connecting c .link, .done)
  unlinked : ∀ why c, σ.resumed = some (.disconnecting why c .bleak, .done) →
    σ.now.isConnected c = false
  connects : ∀ n, .connecting n ∈ σ.events → Reopens σ
  manual : σ.before.manualDisconnect = true → σ.now.manualDisconnect = true ∨ Reopens σ
  clock : σ.now.clock = σ.before.clock
  timely : σ.before.Timely → σ.before.lastActivity ≤ σ.now.lastActivity ∧ σ.now.Timely
  gates : σ.before.Timely → ∀ s, .passedGate s ∈ σ.events → s ≤ σ.now.lastActivity
  stops : ∀ c command, .sent c command ∈ σ.events → command ∈ stopCommands → CleansUp σ
  cleans : CleansUp σ → ∃ c command, command ∈ stopCommands ∧ .sent c command ∈ σ.events
  standby : .standbyTeardown ∈ σ.events → ∃ r, σ.resumed = some (.scheduled .standby, r)

/-- What holds of every segment but the one between the two awaits of a disconnect. -/
structure Common (σ : LinkSegment) : Prop extends Lawful σ where
  moved : ∀ why c r, σ.resumed ≠ some (.disconnecting why c .stopNotify, r)

/-- Outside the connect lock: the link that is up is `self.client`'s. -/
structure Outside (σ : LinkSegment) : Prop extends Common σ where
  keeps : connectLock.Keeps σ
  settled : connectLock.Settled σ
  owned : FindsOwned σ → σ.now.connectLocked = false → σ.now.Owns

/-- Outside the lock, in a segment that does not turn the switch off. -/
def Calm (σ : LinkSegment) : Prop := Outside σ ∧ .turnOff ∉ σ.events

/-- Inside the lock. -/
structure Inside (σ : LinkSegment) : Prop extends Common σ where
  holds : connectLock.Holds σ
  noOff : .turnOff ∉ σ.events

/-- Inside the lock, with only this client's link up. -/
def Connecting (n : ℕ) (σ : LinkSegment) : Prop := Inside σ ∧ (FindsOwned σ → σ.now.Only n)

/-- A call that begins turns the switch off, and emits nothing else. -/
def TurnsOff (σ : LinkSegment) : Prop := σ.resumed = none ∧ σ.events = [.turnOff]

/-- **What a segment that waits at a point does.** -/
def Arrives : Point → LinkSegment → Prop
  | .scheduled .reconnect, σ => Calm σ ∧ σ.before.manualDisconnect = false
  | .scheduled .standby, σ => Calm σ ∧ σ.before.entersStandby = true ∧
      σ = ⟨none, σ.before, { σ.before with idleStandbyPending := true }, []⟩
  | .connecting n .link, σ => Connecting n σ ∧ (FindsOwned σ → σ.now.isConnected n = false)
  | .connecting n _, σ => Connecting n σ
  | .disconnecting why c .stopNotify, σ => Outside σ ∧
      (.turnOff ∈ σ.events → why = .switchOff ∧ TurnsOff σ ∧ σ.now.manualDisconnect = true ∧
        σ.before.client = some c)
  | .disconnecting why c .bleak, σ =>
      ∃ r w, σ = .start (some (.disconnecting why c .stopNotify, r)) w
  | .refreshing why, σ => Outside σ ∧
      (.turnOff ∈ σ.events → why = .switchOff ∧ TurnsOff σ ∧ σ.now.manualDisconnect = true ∧
        σ.before.linkUp = false)
  | _, σ => Calm σ

/-- Given the lock as it should be. -/
abbrev Given (Q : LinkSegment → Prop) : LinkSegment → Prop := fun σ => connectLock.Finds σ → Q σ

/-- The specification of a segment that waits. -/
abbrev SegmentArrives (l : Point) : LinkSegment → Prop := Given (Arrives l)

variable {σ : LinkSegment} {A : LinkSegment → Prop} {w : World}

/-! ## A segment begins -/

/-- A point at whose resumption nothing is owed: no link goes down, no command is due. -/
def Point.plain : Point → Response → Bool
  | .connecting _ stage, r => !stage.cleansUp r
  | .disconnecting _ _ .stopNotify, _ => false
  | .disconnecting _ _ .bleak, .done => false
  | _, _ => true

theorem not_cleansUp_of_plain {l : Point} {r : Response} (hplain : l.plain r = true) :
    ¬ CleansUp (.start (some (l, r)) w) := by
  rintro ⟨n, stage, r', hresumed, hclean, _⟩
  cases hresumed
  simp [Point.plain, hclean] at hplain

/-- A segment that begins, if no link has to go down and the cleanup is not due. -/
theorem lawful_start {resumed : Option (Point × Response)}
    (hunlinked : ∀ why c, resumed ≠ some (.disconnecting why c .bleak, .done))
    (hcleans : ¬ CleansUp (.start resumed w)) : Lawful (.start resumed w) where
  links _ h := .inl h
  unlinked why c h := absurd h (hunlinked why c)
  connects _ he := absurd he List.not_mem_nil
  manual h := .inl h
  clock := rfl
  timely h := ⟨le_rfl, h⟩
  gates _ _ he := absurd he List.not_mem_nil
  stops _ _ he := absurd he List.not_mem_nil
  cleans h := absurd h hcleans
  standby he := absurd he List.not_mem_nil

theorem common_resume {l : Point} {r : Response} (hplain : l.plain r = true) :
    Common (.start (some (l, r)) w) := by
  refine ⟨lawful_start (fun why c h => ?_) (not_cleansUp_of_plain hplain), fun why c r' h => ?_⟩
  · cases h
    simp [Point.plain] at hplain
  · cases h
    simp [Point.plain] at hplain

/-- A call that begins. -/
theorem calm_spawn (w : World) : Given Calm (.start none w) := by
  intro _
  refine ⟨⟨⟨lawful_start (fun _ _ h => (by cases h)) ?_, fun _ _ _ h => (by cases h)⟩,
    Lock.keeps_start _ _, Lock.settled_start fun l r h => (by cases h),
    fun h hfree => h.owns (fun ⟨l, r, hresumed, _⟩ => (by cases hresumed)) hfree⟩, List.not_mem_nil⟩
  rintro ⟨n, stage, r, hresumed, _⟩
  cases hresumed

/-- A call that is resumed outside the lock. -/
theorem calm_resume {l : Point} {r : Response} (hplain : l.plain r = true)
    (houtside : connectLock.inside l = false) : Given Calm (.start (some (l, r)) w) := by
  intro _
  have hinside : ∀ l' r', some (l, r) = some (l', r') → connectLock.inside l' = false := by
    intro l' r' h
    cases h
    exact houtside
  refine ⟨⟨common_resume hplain, Lock.keeps_start _ _, Lock.settled_start hinside,
    fun h hfree => h.owns ?_ hfree⟩, List.not_mem_nil⟩
  rintro ⟨l', r', hresumed, hin⟩
  rw [hinside l' r' hresumed] at hin
  exact Bool.noConfusion hin

/-- A connect that is resumed inside the lock. -/
theorem connecting_resume {n : ℕ} {stage : ConnectStage} {r : Response}
    (hplain : stage.cleansUp r = false) :
    Given (Connecting n) (.start (some (.connecting n stage, r)) w) := fun hfinds =>
  ⟨⟨common_resume (by simp [Point.plain, hplain]), Lock.holds_start rfl hfinds, List.not_mem_nil⟩,
    fun h => (h.connecting n stage r rfl).1⟩

/-! ## A segment goes on -/

/-- The world changes, and no link comes up. -/
theorem Common.frame (h : Common σ)
    (hlinks : ∀ c, w.isConnected c = true → σ.now.isConnected c = true)
    (hmanual : σ.now.manualDisconnect = true → w.manualDisconnect = true ∨ Reopens σ)
    (hclock : w.clock = σ.now.clock)
    (hactivity : w.lastActivity = σ.now.lastActivity ∨ w.lastActivity = w.clock) :
    Common { σ with now := w } where
  links c hc := h.links c (hlinks c hc)
  unlinked why c hresumed := by
    have hdown := h.unlinked why c hresumed
    -- a link that is up now was up before
    by_contra hup
    rw [hlinks c (Bool.not_eq_false _ ▸ hup)] at hdown
    exact Bool.noConfusion hdown
  moved := h.moved
  connects := h.connects
  manual hbefore := (h.manual hbefore).elim (fun hnow => hmanual hnow) .inr
  clock := hclock.trans h.clock
  timely hbefore := by
    obtain ⟨hle, htimely⟩ := h.timely hbefore
    have htimely : σ.now.lastActivity ≤ σ.now.clock := htimely
    show σ.before.lastActivity ≤ w.lastActivity ∧ w.lastActivity ≤ w.clock
    rcases hactivity with hsame | hnow
    · omega
    · omega
  gates hbefore s he := by
    have hs := h.gates hbefore s he
    have htimely : σ.now.lastActivity ≤ σ.now.clock := (h.timely hbefore).2
    show s ≤ w.lastActivity
    rcases hactivity with hsame | hnow
    · omega
    · omega
  stops := h.stops
  cleans := h.cleans
  standby := h.standby

/-- What is emitted further takes no reopening back. -/
theorem Reopens.emit (h : Reopens σ) (e : Event) : Reopens { σ with events := σ.events ++ [e] } := by
  rcases h with hon | hrest
  · exact Or.inl (List.mem_append_left _ hon)
  · exact Or.inr hrest

/-- Something is emitted. -/
theorem Common.emit (h : Common σ) {e : Event}
    (hconnects : ∀ n, e = .connecting n → Reopens σ)
    (hstops : ∀ c command, e = .sent c command → command ∈ stopCommands → CleansUp σ)
    (hgate : ∀ s, e = .passedGate s → s ≤ σ.now.lastActivity)
    (hstandby : e = .standbyTeardown → ∃ r, σ.resumed = some (.scheduled .standby, r)) :
    Common { σ with events := σ.events ++ [e] } where
  links := h.links
  unlinked := h.unlinked
  moved := h.moved
  connects n he := by
    rcases List.mem_append.mp he with he | he
    · exact (h.connects n he).emit e
    · exact (hconnects n (List.mem_singleton.mp he).symm).emit e
  manual hbefore := (h.manual hbefore).imp id fun hreopens => hreopens.emit e
  clock := h.clock
  timely := h.timely
  gates hbefore s he := by
    rcases List.mem_append.mp he with he | he
    · exact h.gates hbefore s he
    · exact hgate s (List.mem_singleton.mp he).symm
  stops c command he hstop := by
    rcases List.mem_append.mp he with he | he
    · exact h.stops c command he hstop
    · exact hstops c command (List.mem_singleton.mp he).symm hstop
  cleans hcleans := by
    obtain ⟨c, command, hstop, he⟩ := h.cleans hcleans
    exact ⟨c, command, hstop, List.mem_append_left _ he⟩
  standby he := by
    rcases List.mem_append.mp he with he | he
    · exact h.standby he
    · exact hstandby (List.mem_singleton.mp he).symm

/-- Inside the lock the world changes. -/
theorem Inside.frame (h : Inside σ)
    (hlinks : ∀ c, w.isConnected c = true → σ.now.isConnected c = true)
    (hmanual : σ.now.manualDisconnect = true → w.manualDisconnect = true ∨ Reopens σ)
    (hclock : w.clock = σ.now.clock)
    (hactivity : w.lastActivity = σ.now.lastActivity ∨ w.lastActivity = w.clock)
    (hlock : w.connectLocked = σ.now.connectLocked) : Inside { σ with now := w } :=
  ⟨h.toCommon.frame hlinks hmanual hclock hactivity, h.holds.frame hlock _, h.noOff⟩

/-- Outside the lock the world changes. -/
theorem Outside.frame (h : Outside σ)
    (hlinks : ∀ c, w.isConnected c = true → σ.now.isConnected c = true)
    (hmanual : σ.now.manualDisconnect = true → w.manualDisconnect = true ∨ Reopens σ)
    (hclock : w.clock = σ.now.clock)
    (hactivity : w.lastActivity = σ.now.lastActivity ∨ w.lastActivity = w.clock)
    (hlock : w.connectLocked = σ.now.connectLocked)
    (hclient : w.client = σ.now.client) : Outside { σ with now := w } where
  toCommon := h.toCommon.frame hlinks hmanual hclock hactivity
  keeps := h.keeps.frame hlock _
  settled := h.settled.frame hlock _
  owned hfinds hfree c hc :=
    hclient.trans (h.owned ⟨hfinds.connecting, hfinds.owns, hfinds.notify, hfinds.teardown⟩
      (hlock.symm.trans hfree) c (hlinks c hc))

/-- Outside the lock something is emitted. -/
theorem Outside.emit (h : Outside σ) {e : Event}
    (hconnects : ∀ n, e = .connecting n → Reopens σ)
    (hstops : ∀ c command, e = .sent c command → command ∈ stopCommands → CleansUp σ)
    (hgate : ∀ s, e = .passedGate s → s ≤ σ.now.lastActivity)
    (hstandby : e = .standbyTeardown → ∃ r, σ.resumed = some (.scheduled .standby, r)) :
    Outside { σ with events := σ.events ++ [e] } where
  toCommon := h.toCommon.emit hconnects hstops hgate hstandby
  keeps := h.keeps.frame rfl _
  settled := h.settled.frame rfl _
  owned hfinds := h.owned ⟨hfinds.connecting, hfinds.owns, hfinds.notify, hfinds.teardown⟩

/-- What is emitted does not turn the switch off. -/
theorem noOff_append {es : List Event} {e : Event} (hes : .turnOff ∉ es) (he : e ≠ .turnOff) :
    .turnOff ∉ es ++ [e] := by
  simp [hes, he.symm]

/-- What a segment finds does not change while it runs. -/
theorem FindsOwned.so_far {es : List Event} (h : FindsOwned { σ with now := w, events := es }) :
    FindsOwned σ := ⟨h.connecting, h.owns, h.notify, h.teardown⟩

theorem finds_so_far {es : List Event}
    (h : connectLock.Finds ({ σ with now := w, events := es } : LinkSegment)) :
    connectLock.Finds σ := ⟨h.inside, h.waiting⟩

end XBloom.Link
