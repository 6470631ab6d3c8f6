/-
# XBloom.Ble.Acks — the waiters of `send_and_wait`, and what settles them

`_pending_acks` maps a command id to the futures of the calls that wait for its echo.  A notification
or a lost link does not settle a future itself: it posts a callback (`call_soon_threadsafe`) for every
waiter registered at that moment, and the event loop runs the callbacks later, in between whatever else
happens.  Here are the map, the futures and the callbacks as one state, every operation on it, and what
each of them keeps (`AckState.Sound`).

Futures are numbered in the order they are created, and keep the command they were created for;
callbacks are numbered in the order they are posted.  The state also remembers each frame that carried
a command id, with the waiters registered for it then and the numbers of the callbacks posted for it.
The source does not: only the arrival of a frame (`echo`) writes that record, around the source's own
`_parse_response`, and none of the source's operations reads it.
-/
import XBloom.Ble.Scanner
import XBloom.Py.Dict

namespace XBloom.Ble

open XBloom.Py

/-! ## State -/

/-- How a future is settled. -/
inductive Outcome where
  | result (frame : Bytes)
  | exception
  | cancelled
  deriving DecidableEq, Repr

/-- A future of `send_and_wait`: the command it waits for, and how it was settled. -/
structure Waiter where
  command : ℕ
  outcome : Option Outcome := none
  deriving DecidableEq, Repr

/-- A callback posted to the event loop: it settles a future unless that is done. -/
structure Delivery where
  future : ℕ
  outcome : Outcome
  number : ℕ
  deriving DecidableEq, Repr

/-- A frame that arrived: its command, the waiters registered for that then, and how many callbacks
had been posted before it and after it. -/
structure Echo where
  command : ℕ
  frame : Bytes
  registered : List ℕ
  first : ℕ
  last : ℕ
  deriving DecidableEq, Repr

/-- A callback posted for this echo. -/
def Echo.Posted (e : Echo) (d : Delivery) : Prop := e.first ≤ d.number ∧ d.number < e.last

/-- `_pending_acks`, the futures, the callbacks not run yet, how many were posted, whether one of them
has raised `InvalidStateError`, and the frames that arrived. -/
structure AckState where
  pendingAcks : Dict ℕ (List ℕ) := Dict.empty
  futures : List Waiter := []
  deferred : List Delivery := []
  posted : ℕ := 0
  invalidState : Bool := false
  echoes : List Echo := []

namespace AckState

/-- The waiters registered for a command. -/
def waiters (s : AckState) (command : ℕ) : List ℕ := (s.pendingAcks.get? command).getD []

/-- `future.done()`. -/
def isDone (s : AckState) (f : ℕ) : Bool := (s.futures[f]?).any fun w => w.outcome.isSome

/-! ## The source's operations -/

/-- A new future, registered: `setdefault(command, []).append(future)`. -/
def register (s : AckState) (command : ℕ) : AckState :=
  { s with
    futures := s.futures ++ [{ command := command }]
    pendingAcks := s.pendingAcks.insert command (s.waiters command ++ [s.futures.length]) }

/-- The list of a command, changed in place, or deleted when it is left empty. -/
def setWaiters (s : AckState) (command : ℕ) (ws : List ℕ) : AckState :=
  { s with pendingAcks :=
      if ws = [] then s.pendingAcks.erase command else s.pendingAcks.insert command ws }

/-- The `finally` of `send_and_wait`. -/
def unregister (s : AckState) (command f : ℕ) : AckState :=
  match s.pendingAcks.get? command with
  | none => s
  | some ws => s.setWaiters command (if f ∈ ws then ws.erase f else ws)

/-- `set_result`, `set_exception`: `InvalidStateError` on a future that is done. -/
def settle (s : AckState) (f : ℕ) (o : Outcome) : AckState :=
  if s.isDone f then { s with invalidState := true }
  else { s with futures := s.futures.modify f fun w => { w with outcome := some o } }

/-- `Future.cancel`: nothing on a future that is done. -/
def cancel (s : AckState) (f : ℕ) : AckState :=
  if s.isDone f then s else s.settle f .cancelled

/-- A posted callback runs. -/
def runDelivery (s : AckState) (d : Delivery) : AckState :=
  if s.isDone d.future then s else s.settle d.future d.outcome

/-- The event loop runs one of the callbacks. -/
def deliver (s : AckState) (i : ℕ) : AckState :=
  match s.deferred[i]? with
  | none => s
  | some d => { s with deferred := s.deferred.eraseIdx i }.runDelivery d

/-- `call_soon_threadsafe` with a callback that settles a future. -/
def callSoon (s : AckState) (f : ℕ) (o : Outcome) : AckState :=
  { s with deferred := s.deferred ++ [⟨f, o, s.posted⟩], posted := s.posted + 1 }

/-- A loop of both: a callback for every waiter of a list that is not done. -/
def settleSoon (s : AckState) (fs : List ℕ) (o : Outcome) : AckState :=
  fs.foldl (fun s f => if s.isDone f then s else s.callSoon f o) s

/-- `_resolve_pending_acks`. -/
def resolvePendingAcks (s : AckState) (command : ℕ) (frame : Bytes) : AckState :=
  s.settleSoon (s.waiters command) (.result frame)

/-- `_fail_pending_acks`. -/
def failPendingAcks (s : AckState) : AckState :=
  { s.pendingAcks.entries.foldl (fun s ws => s.settleSoon ws.2 .exception) s with
    pendingAcks := Dict.empty }

/-- `_parse_response` up to the waiters: a frame too short for a command id raises before them. -/
def parseResponse (s : AckState) (frame : Bytes) : AckState :=
  match frameCommand frame with
  | .ok command => s.resolvePendingAcks command frame
  | .error _ => s

/-- What is remembered of a frame, which `_parse_response` takes from `s` to `s'`. -/
def arrival (s s' : AckState) (frame : Bytes) : List Echo :=
  match frameCommand frame with
  | .ok command => [⟨command, frame, s.waiters command, s.posted, s'.posted⟩]
  | .error _ => []

/-- A frame arrives. -/
def echo (s : AckState) (frame : Bytes) : AckState :=
  { s.parseResponse frame with echoes := s.echoes ++ s.arrival (s.parseResponse frame) frame }

/-! ## What the operations keep -/

/-- An echo of a waiter's own command, with this frame, found it registered. -/
def EchoFor (s : AckState) (f : ℕ) (frame : Bytes) : Prop :=
  ∃ e ∈ s.echoes, e.frame = frame ∧ f ∈ e.registered

/-- **What holds of the waiters at any time.** -/
structure Sound (s : AckState) : Prop where
  /-- A waiter is registered for its own command only. -/
  registered : ∀ command f, f ∈ s.waiters command →
    ∃ w, s.futures[f]? = some w ∧ w.command = command
  /-- It is registered once. -/
  nodup : ∀ command, (s.waiters command).Nodup
  /-- No list is empty. -/
  nonempty : ∀ command ws, s.pendingAcks.get? command = some ws → ws ≠ []
  /-- An echo is a frame of its command, and the waiters it found wait for that. -/
  echoes : ∀ e ∈ s.echoes, frameCommand e.frame = .ok e.command ∧
    ∀ f ∈ e.registered, ∃ w, s.futures[f]? = some w ∧ w.command = e.command
  /-- A callback hands on a frame only to a waiter its echo found. -/
  deferred : ∀ d ∈ s.deferred, ∀ frame, d.outcome = .result frame → s.EchoFor d.future frame
  /-- And so a future gets a frame only from such an echo. -/
  results : ∀ (f : ℕ) w frame, s.futures[f]? = some w → w.outcome = some (.result frame) →
    s.EchoFor f frame
  /-- A waiter an echo found is done, or the echo's callback for it is still to run. -/
  delivered : ∀ e ∈ s.echoes, ∀ f ∈ e.registered,
    s.isDone f = true ∨ ∃ d ∈ s.deferred, e.Posted d ∧ d.future = f
  /-- No callback has raised. -/
  valid : s.invalidState = false

theorem sound_init : ({} : AckState).Sound where
  registered := fun _ _ h => by cases h
  nodup := fun _ => List.nodup_nil
  nonempty := fun _ _ h => by cases h
  echoes := fun _ h => by cases h
  deferred := fun _ h => by cases h
  results := fun _ _ _ h => by cases h
  delivered := fun _ h => absurd h List.not_mem_nil
  valid := rfl

/-! ### Futures -/

/-- What becomes of the futures: none is lost, each keeps its command, and one that is done stays as
it is. -/
structure Settles (s s' : AckState) : Prop where
  kept : ∀ (f : ℕ) w, s.futures[f]? = some w → ∃ w', s'.futures[f]? = some w' ∧ w'.command = w.command
  done : ∀ (f : ℕ) w, s.futures[f]? = some w → w.outcome.isSome → s'.futures[f]? = some w

theorem Settles.of_futures_eq {s s' : AckState} (h : s'.futures = s.futures) : s.Settles s' where
  kept := fun f w hw => ⟨w, by rw [h, hw], rfl⟩
  done := fun f w hw _ => by rw [h, hw]

theorem Settles.trans {s s' s'' : AckState} (h : s.Settles s') (h' : s'.Settles s'') :
    s.Settles s'' where
  kept := by
    intro f w hw
    obtain ⟨w', hw', hc⟩ := h.kept f w hw
    obtain ⟨w'', hw'', hc'⟩ := h'.kept f w' hw'
    exact ⟨w'', hw'', hc'.trans hc⟩
  done := fun f w hw hdone => h'.done f w (h.done f w hw hdone) hdone

theorem isDone_iff {s : AckState} {f : ℕ} :
    s.isDone f = true ↔ ∃ w, s.futures[f]? = some w ∧ w.outcome.isSome = true := by
  unfold isDone
  rw [Option.any_eq_true]

theorem Settles.isDone {s s' : AckState} (h : s.Settles s') {f : ℕ} (hdone : s.isDone f = true) :
    s'.isDone f = true := by
  obtain ⟨w, hw, hsome⟩ := isDone_iff.mp hdone
  exact isDone_iff.mpr ⟨w, h.done f w hw hsome, hsome⟩

theorem settle_getElem? (s : AckState) (f : ℕ) (o : Outcome) (g : ℕ) :
    (s.settle f o).futures[g]? =
      if g = f ∧ s.isDone f = false then (s.futures[f]?).map fun w => { w with outcome := some o }
      else s.futures[g]? := by
  unfold settle
  cases hdone : s.isDone f with
  | true => simp
  | false =>
    simp only [Bool.false_eq_true, if_false, and_true, List.getElem?_modify]
    by_cases hg : f = g
    · rw [if_pos hg.symm, hg]
      simp
    · rw [if_neg fun h => hg h.symm]
      simp [hg]

theorem settles_settle (s : AckState) (f : ℕ) (o : Outcome) : s.Settles (s.settle f o) where
  kept := by
    intro g w hw
    rw [settle_getElem?]
    split
    · rename_i h
      rw [← h.1, hw]
      exact ⟨_, rfl, rfl⟩
    · exact ⟨w, hw, rfl⟩
  done := by
    intro g w hw hsome
    rw [settle_getElem?, if_neg]
    · exact hw
    · rintro ⟨rfl, hpending⟩
      rw [isDone_iff.mpr ⟨w, hw, hsome⟩] at hpending
      cases hpending

/-- A future that is pending and is settled is done. -/
theorem isDone_settle {s : AckState} {f : ℕ} {w : Waiter} (hw : s.futures[f]? = some w)
    (o : Outcome) : (s.settle f o).isDone f = true := by
  cases hdone : s.isDone f with
  | true => exact (settles_settle s f o).isDone hdone
  | false =>
    refine isDone_iff.mpr ⟨{ w with outcome := some o }, ?_, rfl⟩
    rw [settle_getElem?, if_pos ⟨rfl, hdone⟩, hw]
    rfl

/-- What settling leaves alone. -/
theorem settle_pending {s : AckState} {f : ℕ} (o : Outcome) (hpending : s.isDone f = false) :
    (s.settle f o).pendingAcks = s.pendingAcks ∧ (s.settle f o).deferred = s.deferred ∧
      (s.settle f o).echoes = s.echoes ∧ (s.settle f o).invalidState = s.invalidState := by
  unfold settle
  rw [hpending]
  exact ⟨rfl, rfl, rfl, rfl⟩

/-! ### One operation at a time -/

variable {s : AckState}

theorem waiters_setWaiters (s : AckState) (command : ℕ) (ws : List ℕ) (command' : ℕ) :
    (s.setWaiters command ws).waiters command' =
      if command' = command then ws else s.waiters command' := by
  unfold setWaiters waiters
  by_cases hnil : ws = []
  · rw [if_pos hnil, hnil]
    show ((s.pendingAcks.erase command).get? command').getD [] = _
    rw [Dict.get?_erase]
    split <;> rfl
  · rw [if_neg hnil]
    show ((s.pendingAcks.insert command ws).get? command').getD [] = _
    rw [Dict.get?_insert]
    split <;> rfl

/-- Another list for a command is sound when its waiters wait for that, each once. -/
theorem Sound.setWaiters (h : s.Sound) {command : ℕ} {ws : List ℕ} (hnodup : ws.Nodup)
    (hws : ∀ f ∈ ws, ∃ w, s.futures[f]? = some w ∧ w.command = command) :
    (s.setWaiters command ws).Sound := by
  refine ⟨?_, ?_, ?_, h.echoes, h.deferred, h.results, h.delivered, h.valid⟩
  · intro command' f hf
    rw [waiters_setWaiters] at hf
    split at hf
    · rename_i heq
      rw [heq]
      exact hws f hf
    · exact h.registered command' f hf
  · intro command'
    rw [waiters_setWaiters]
    split
    · exact hnodup
    · exact h.nodup command'
  · intro command' ws' hget
    unfold AckState.setWaiters at hget
    by_cases hnil : ws = []
    · simp only [if_pos hnil, Dict.get?_erase] at hget
      split at hget
      · cases hget
      · exact h.nonempty command' ws' hget
    · simp only [if_neg hnil, Dict.get?_insert] at hget
      split at hget
      · rw [← Option.some.inj hget]
        exact hnil
      · exact h.nonempty command' ws' hget

theorem waiters_of_get? {command : ℕ} {ws : List ℕ} (h : s.pendingAcks.get? command = some ws) :
    s.waiters command = ws := by
  rw [waiters, h, Option.getD_some]

theorem waiters_unregister (s : AckState) (command f command' : ℕ) :
    (s.unregister command f).waiters command' =
      if command' = command then (s.waiters command).erase f else s.waiters command' := by
  unfold unregister
  cases hget : s.pendingAcks.get? command with
  | none =>
    by_cases hcommand : command' = command
    · rw [if_pos hcommand, hcommand, waiters, hget]
      rfl
    · rw [if_neg hcommand]
  | some ws =>
    dsimp only
    rw [waiters_setWaiters, waiters_of_get? hget]
    by_cases hf : f ∈ ws
    · rw [if_pos hf]
    · rw [if_neg hf, List.erase_of_not_mem hf]

theorem futures_unregister (s : AckState) (command f : ℕ) :
    (s.unregister command f).futures = s.futures := by
  unfold unregister
  cases s.pendingAcks.get? command with
  | none => rfl
  | some ws => rfl

theorem echoes_unregister (s : AckState) (command f : ℕ) :
    (s.unregister command f).echoes = s.echoes := by
  unfold unregister
  cases s.pendingAcks.get? command with
  | none => rfl
  | some ws => rfl

theorem Sound.unregister (h : s.Sound) (command f : ℕ) : (s.unregister command f).Sound := by
  unfold AckState.unregister
  cases hget : s.pendingAcks.get? command with
  | none => exact h
  | some ws =>
    have hws := waiters_of_get? hget
    have hsub : List.Sublist (if f ∈ ws then ws.erase f else ws) ws := by
      split
      · exact List.erase_sublist
      · exact List.Sublist.refl ws
    refine h.setWaiters ((hws ▸ h.nodup command).sublist hsub) fun g hg => ?_
    exact h.registered command g (hws ▸ hsub.subset hg)

/-- Only its own registration goes. -/
theorem Sound.mem_unregister_iff (h : s.Sound) {command f command' f' : ℕ} :
    f' ∈ (s.unregister command f).waiters command' ↔
      f' ∈ s.waiters command' ∧ ¬ (command' = command ∧ f' = f) := by
  rw [waiters_unregister]
  by_cases hcommand : command' = command
  · rw [if_pos hcommand, (h.nodup command).mem_erase_iff, hcommand]
    simp only [true_and]
    exact and_comm
  · rw [if_neg hcommand]
    exact ⟨fun hf => ⟨hf, fun heq => hcommand heq.1⟩, fun hf => hf.1⟩

/-- A future more, and everything said of the others still holds. -/
theorem Sound.addFuture (h : s.Sound) (w : Waiter) (hpending : w.outcome = none) :
    ({ s with futures := s.futures ++ [w] } : AckState).Sound ∧
      s.Settles { s with futures := s.futures ++ [w] } := by
  have hold : ∀ (f : ℕ) w', s.futures[f]? = some w' → (s.futures ++ [w])[f]? = some w' := by
    intro f w' hf
    rw [List.getElem?_append_left (List.getElem?_eq_some_iff.mp hf).1, hf]
  have hsettles : s.Settles { s with futures := s.futures ++ [w] } :=
    ⟨fun f w' hf => ⟨w', hold f w' hf, rfl⟩, fun f w' hf _ => hold f w' hf⟩
  refine ⟨⟨?_, h.nodup, h.nonempty, ?_, h.deferred, ?_, ?_, h.valid⟩, hsettles⟩
  · intro command f hf
    obtain ⟨w', hw', hc⟩ := h.registered command f hf
    exact ⟨w', hold f w' hw', hc⟩
  · intro e he
    refine ⟨(h.echoes e he).1, fun f hf => ?_⟩
    obtain ⟨w', hw', hc⟩ := (h.echoes e he).2 f hf
    exact ⟨w', hold f w' hw', hc⟩
  · intro f w' frame hf hout
    rcases Nat.lt_or_ge f s.futures.length with hlt | hge
    · rw [show (s.futures ++ [w])[f]? = s.futures[f]? from List.getElem?_append_left hlt] at hf
      exact h.results f w' frame hf hout
    · -- the new future is pending
      rw [show (s.futures ++ [w])[f]? = [w][f - s.futures.length]? from
        List.getElem?_append_right hge] at hf
      have hmem := List.mem_of_getElem? hf
      rw [List.mem_singleton.mp hmem, hpending] at hout
      cases hout
  · intro e he f hf
    rcases h.delivered e he f hf with hdone | hdeferred
    · exact Or.inl (hsettles.isDone hdone)
    · exact Or.inr hdeferred

theorem waiters_register (s : AckState) (command command' : ℕ) :
    (s.register command).waiters command' =
      if command' = command then s.waiters command ++ [s.futures.length]
      else s.waiters command' := by
  unfold register
  show ((s.pendingAcks.insert command _).get? command').getD [] = _
  rw [Dict.get?_insert]
  split <;> rfl

theorem register_eq (s : AckState) (command : ℕ) : s.register command =
    ({ s with futures := s.futures ++ [{ command := command }] } : AckState).setWaiters command
      (s.waiters command ++ [s.futures.length]) := by
  unfold register setWaiters
  rw [if_neg (by simp)]

theorem Sound.register (h : s.Sound) (command : ℕ) :
    (s.register command).Sound ∧ s.Settles (s.register command) := by
  obtain ⟨hsound, hsettles⟩ := h.addFuture { command := command } rfl
  rw [register_eq]
  refine ⟨hsound.setWaiters ?_ ?_, hsettles.trans (.of_futures_eq rfl)⟩
  · refine List.nodup_append.mpr ⟨h.nodup command, List.nodup_singleton _, ?_⟩
    rintro f hf g hg rfl
    obtain ⟨w, hw, _⟩ := h.registered command f hf
    rw [List.mem_singleton.mp hg] at hw
    exact absurd (List.getElem?_eq_some_iff.mp hw).1 (lt_irrefl _)
  · intro f hf
    rcases List.mem_append.mp hf with hf | hf
    · exact hsound.registered command f hf
    · rw [List.mem_singleton.mp hf]
      exact ⟨_, List.getElem?_concat_length, rfl⟩

/-- **Futures are settled and callbacks run**: sound, when no future got a frame that was not its own,
and the callbacks that are gone have left their futures done. -/
theorem Sound.of_settles (h : s.Sound) {s' : AckState} (hsettles : s.Settles s')
    (hacks : s'.pendingAcks = s.pendingAcks) (hechoes : s'.echoes = s.echoes)
    (hvalid : s'.invalidState = false) (hdeferred : ∀ d ∈ s'.deferred, d ∈ s.deferred)
    (hrun : ∀ d ∈ s.deferred, d ∈ s'.deferred ∨
      ((∃ w, s.futures[d.future]? = some w) → s'.isDone d.future = true))
    (hresults : ∀ (f : ℕ) w frame, s'.futures[f]? = some w → w.outcome = some (.result frame) →
      s.EchoFor f frame) : s'.Sound := by
  have hwaiters : ∀ command, s'.waiters command = s.waiters command := by
    intro command
    rw [waiters, hacks, waiters]
  have hecho : ∀ f frame, s.EchoFor f frame → s'.EchoFor f frame := by
    intro f frame hf
    unfold EchoFor
    rw [hechoes]
    exact hf
  have hkept : ∀ (f : ℕ) command, (∃ w, s.futures[f]? = some w ∧ w.command = command) →
      ∃ w, s'.futures[f]? = some w ∧ w.command = command := by
    rintro f command ⟨w, hw, rfl⟩
    exact hsettles.kept f w hw
  constructor
  case registered =>
    intro command f hf
    rw [hwaiters] at hf
    exact hkept f command (h.registered command f hf)
  case nodup => exact fun command => hwaiters command ▸ h.nodup command
  case nonempty =>
    intro command ws hget
    rw [hacks] at hget
    exact h.nonempty command ws hget
  case echoes =>
    intro e he
    rw [hechoes] at he
    exact ⟨(h.echoes e he).1, fun f hf => hkept f _ ((h.echoes e he).2 f hf)⟩
  case deferred =>
    intro d hd frame hframe
    exact hecho _ _ (h.deferred d (hdeferred d hd) frame hframe)
  case results => exact fun f w frame hw hout => hecho f frame (hresults f w frame hw hout)
  -- a callback that is gone has run, and left its future done
  case delivered =>
    intro e he f hf
    rw [hechoes] at he
    obtain ⟨w, hw, _⟩ := (h.echoes e he).2 f hf
    rcases h.delivered e he f hf with hdone | ⟨d, hd, hposted, rfl⟩
    · exact Or.inl (hsettles.isDone hdone)
    · rcases hrun d hd with hd | hdone
      · exact Or.inr ⟨d, hd, hposted, rfl⟩
      · exact Or.inl (hdone ⟨w, hw⟩)
  case valid => exact hvalid

/-- What a pending future that is settled may have got. -/
theorem results_settle (h : s.Sound) {f : ℕ} {o : Outcome}
    (ho : ∀ frame, o = .result frame → s.EchoFor f frame) {g : ℕ} {w : Waiter} {frame : Bytes}
    (hw : (s.settle f o).futures[g]? = some w) (hout : w.outcome = some (.result frame)) :
    s.EchoFor g frame := by
  rw [settle_getElem?] at hw
  split at hw
  · rename_i hg
    obtain ⟨w', hw', rfl⟩ := Option.map_eq_some_iff.mp hw
    rw [hg.1]
    exact ho frame (Option.some.inj hout)
  · exact h.results g w frame hw hout

theorem Sound.cancel (h : s.Sound) (f : ℕ) : (s.cancel f).Sound ∧ s.Settles (s.cancel f) := by
  unfold AckState.cancel
  cases hdone : s.isDone f with
  | true => exact ⟨h, .of_futures_eq rfl⟩
  | false =>
    have hsettles := settles_settle s f .cancelled
    obtain ⟨hacks, hdeferred, hechoes, hvalid⟩ := settle_pending .cancelled hdone
    refine ⟨h.of_settles hsettles hacks hechoes (hvalid.trans h.valid) ?_ ?_ ?_, hsettles⟩
    · exact fun d hd => hdeferred ▸ hd
    · exact fun d hd => Or.inl (hdeferred.symm ▸ hd)
    · exact fun g w frame => results_settle h (fun frame hframe => by cases hframe)

theorem cancel_frame (s : AckState) (f : ℕ) :
    (s.cancel f).pendingAcks = s.pendingAcks ∧ (s.cancel f).echoes = s.echoes := by
  unfold AckState.cancel
  cases hdone : s.isDone f with
  | true => exact ⟨rfl, rfl⟩
  | false =>
    obtain ⟨hacks, _, hechoes, _⟩ := settle_pending .cancelled hdone
    exact ⟨hacks, hechoes⟩

/-- A callback runs: its future is done then, and nothing else has changed. -/
theorem Sound.deliver (h : s.Sound) (i : ℕ) : (s.deliver i).Sound ∧ s.Settles (s.deliver i) := by
  unfold AckState.deliver
  cases hd : s.deferred[i]? with
  | none => exact ⟨h, .of_futures_eq rfl⟩
  | some d =>
    have hmem : d ∈ s.deferred := List.mem_of_getElem? hd
    let s₁ : AckState := { s with deferred := s.deferred.eraseIdx i }
    have hleft : ∀ d' ∈ s₁.deferred, d' ∈ s.deferred := fun d' hd' => List.mem_of_mem_eraseIdx hd'
    -- only the callback that runs is taken off the queue
    have hrest : ∀ d' ∈ s.deferred, d' ∈ s₁.deferred ∨ d' = d := by
      intro d' hd'
      obtain ⟨j, hj⟩ := List.mem_iff_getElem?.mp hd'
      by_cases hij : j = i
      · rw [hij, hd] at hj
        exact Or.inr (Option.some.inj hj).symm
      · exact Or.inl (List.mem_eraseIdx_iff_getElem?.mpr ⟨j, hij, hj⟩)
    show (s₁.runDelivery d).Sound ∧ s.Settles (s₁.runDelivery d)
    unfold runDelivery
    cases hdone : s₁.isDone d.future with
    | true =>
      have hsettles : s.Settles s₁ := .of_futures_eq rfl
      refine ⟨h.of_settles hsettles rfl rfl h.valid hleft ?_ h.results, hsettles⟩
      intro d' hd'
      rcases hrest d' hd' with hd' | rfl
      · exact Or.inl hd'
      · exact Or.inr fun _ => hdone
    | false =>
      have htaken : s.Settles s₁ := .of_futures_eq rfl
      have hsettles := htaken.trans (settles_settle s₁ d.future d.outcome)
      obtain ⟨hacks, hdeferred, hechoes, hvalid⟩ := settle_pending d.outcome hdone
      refine ⟨h.of_settles hsettles hacks hechoes (hvalid.trans h.valid) ?_ ?_ ?_, hsettles⟩
      · exact fun d' hd' => hleft d' (hdeferred ▸ hd')
      · intro d' hd'
        rcases hrest d' hd' with hd' | rfl
        · exact Or.inl (hdeferred.symm ▸ hd')
        · exact Or.inr fun ⟨w, hw⟩ => isDone_settle (s := s₁) hw d'.outcome
      · -- what it settles got the frame it was queued with
        intro g w frame hw hout
        have hs₁ : s₁.settle d.future d.outcome = { s.settle d.future d.outcome with
            deferred := s.deferred.eraseIdx i } := by
          unfold settle
          rw [hdone, show s.isDone d.future = false from hdone]
          rfl
        rw [hs₁] at hw
        exact results_settle h (h.deferred d hmem) hw hout

/-- A callback registers nobody, and is no echo. -/
theorem deliver_frame (s : AckState) (i : ℕ) :
    (s.deliver i).pendingAcks = s.pendingAcks ∧ (s.deliver i).echoes = s.echoes := by
  unfold AckState.deliver
  cases s.deferred[i]? with
  | none => exact ⟨rfl, rfl⟩
  | some d =>
    show (runDelivery _ d).pendingAcks = _ ∧ (runDelivery _ d).echoes = _
    unfold runDelivery settle
    split
    · exact ⟨rfl, rfl⟩
    · exact ⟨rfl, rfl⟩

/-! ### Callbacks are posted -/

/-- The callbacks a loop posts: one for every waiter that is not done, in order. -/
def callbacks (s : AckState) (fs : List ℕ) (o : Outcome) : List Delivery :=
  (fs.filter fun f => !s.isDone f).mapIdx fun i f => ⟨f, o, s.posted + i⟩

/-- **What a loop does**: it posts its callbacks, and nothing else. -/
theorem settleSoon_eq (s : AckState) (fs : List ℕ) (o : Outcome) :
    s.settleSoon fs o = { s with
      deferred := s.deferred ++ s.callbacks fs o
      posted := s.posted + (s.callbacks fs o).length } := by
  induction fs generalizing s with
  | nil => simp [settleSoon, callbacks]
  | cons f fs ih =>
    unfold settleSoon at ih ⊢
    rw [List.foldl_cons, ih]
    cases hdone : s.isDone f with
    | true => simp [callbacks, hdone]
    | false =>
      -- the others are numbered from the next number on, and no future has changed
      have hrest : (s.callSoon f o).callbacks fs o =
          (fs.filter fun f => !s.isDone f).mapIdx fun i f => ⟨f, o, s.posted + (i + 1)⟩ := by
        unfold callbacks
        refine congrArg₂ List.mapIdx (funext fun i => funext fun g => ?_) rfl
        rw [show (s.callSoon f o).posted = s.posted + 1 from rfl, Nat.add_right_comm, Nat.add_assoc]
      have hcallbacks : s.callbacks (f :: fs) o =
          ⟨f, o, s.posted⟩ :: (s.callSoon f o).callbacks fs o := by
        rw [hrest]
        unfold callbacks
        rw [List.filter_cons_of_pos (by rw [hdone]; rfl), List.mapIdx_cons, Nat.add_zero]
      rw [if_neg (by simp), hcallbacks]
      unfold callSoon
      simp only [List.append_assoc, List.singleton_append, List.length_cons]
      rw [Nat.add_assoc, Nat.add_comm 1]

theorem mem_callbacks {fs : List ℕ} {o : Outcome} {d : Delivery} (hd : d ∈ s.callbacks fs o) :
    d.future ∈ fs ∧ d.outcome = o := by
  obtain ⟨i, hi, rfl⟩ := List.mem_mapIdx.mp hd
  exact ⟨(List.mem_filter.mp (List.getElem_mem hi)).1, rfl⟩

/-- Every waiter that is not done has its callback, numbered from those posted so far on. -/
theorem exists_callback {fs : List ℕ} {f : ℕ} (o : Outcome) (hf : f ∈ fs)
    (hpending : s.isDone f = false) : ∃ d ∈ s.callbacks fs o, d.future = f ∧
      s.posted ≤ d.number ∧ d.number < s.posted + (s.callbacks fs o).length := by
  have hmem : f ∈ fs.filter fun f => !s.isDone f := List.mem_filter.mpr ⟨hf, by simp [hpending]⟩
  obtain ⟨i, hi, hget⟩ := List.mem_iff_getElem.mp hmem
  refine ⟨⟨f, o, s.posted + i⟩, List.mem_mapIdx.mpr ⟨i, hi, by rw [hget]⟩, rfl, ?_, ?_⟩
  · exact Nat.le_add_right _ _
  · refine Nat.add_lt_add_left ?_ _
    rwa [callbacks, List.length_mapIdx]

/-- Posting keeps what holds of the waiters when every frame it posts was echoed to its waiter. -/
theorem Sound.settleSoon (h : s.Sound) (fs : List ℕ) {o : Outcome}
    (ho : ∀ f ∈ fs, ∀ frame, o = .result frame → s.EchoFor f frame) : (s.settleSoon fs o).Sound := by
  rw [settleSoon_eq]
  refine ⟨h.registered, h.nodup, h.nonempty, h.echoes, ?_, h.results, ?_, h.valid⟩
  · intro d hd frame hframe
    rcases List.mem_append.mp hd with hd | hd
    · exact h.deferred d hd frame hframe
    · obtain ⟨hf, hout⟩ := mem_callbacks hd
      exact ho d.future hf frame (hout.symm.trans hframe)
  · intro e he f hf
    rcases h.delivered e he f hf with hdone | ⟨d, hd, hd'⟩
    · exact Or.inl hdone
    · exact Or.inr ⟨d, List.mem_append_left _ hd, hd'⟩

/-- **A frame arrives**: every waiter registered for its command is done, or has a callback to
come. -/
theorem Sound.resolve (h : s.Sound) {command : ℕ} {frame : Bytes}
    (hframe : frameCommand frame = .ok command) :
    ({ s.resolvePendingAcks command frame with
      echoes := s.echoes ++ [⟨command, frame, s.waiters command, s.posted,
        (s.resolvePendingAcks command frame).posted⟩] } : AckState).Sound := by
  unfold resolvePendingAcks
  rw [settleSoon_eq]
  refine ⟨h.registered, h.nodup, h.nonempty, ?_, ?_, ?_, ?_, h.valid⟩
  · intro e he
    rcases List.mem_append.mp he with he | he
    · exact h.echoes e he
    · rw [List.mem_singleton.mp he]
      exact ⟨hframe, h.registered command⟩
  · intro d hd frame' hout
    rcases List.mem_append.mp hd with hd | hd
    · obtain ⟨e, he, hf⟩ := h.deferred d hd frame' hout
      exact ⟨e, List.mem_append_left _ he, hf⟩
    · obtain ⟨hf, hout'⟩ := mem_callbacks hd
      obtain rfl : frame = frame' := Outcome.result.inj (hout'.symm.trans hout)
      exact ⟨_, List.mem_append_right _ List.mem_cons_self, rfl, hf⟩
  · intro f w frame' hw hout
    obtain ⟨e, he, hf⟩ := h.results f w frame' hw hout
    exact ⟨e, List.mem_append_left _ he, hf⟩
  · intro e he f hf
    rcases List.mem_append.mp he with he | he
    · rcases h.delivered e he f hf with hdone | ⟨d, hd, hd'⟩
      · exact Or.inl hdone
      · exact Or.inr ⟨d, List.mem_append_left _ hd, hd'⟩
    · -- the frame that has just arrived
      rw [List.mem_singleton.mp he] at hf ⊢
      cases hdone : s.isDone f with
      | true => exact Or.inl hdone
      | false =>
        obtain ⟨d, hd, hfuture, hposted⟩ := exists_callback (.result frame) hf hdone
        exact Or.inr ⟨d, List.mem_append_right _ hd, hposted, hfuture⟩

theorem Sound.echo (h : s.Sound) (frame : Bytes) : (s.echo frame).Sound := by
  unfold AckState.echo parseResponse arrival
  cases hcommand : frameCommand frame with
  | ok command => exact h.resolve hcommand
  | error e =>
    dsimp only
    rw [List.append_nil]
    exact h

/-- `_parse_response` leaves the waiters and the futures as they are. -/
theorem parseResponse_frame (s : AckState) (frame : Bytes) :
    (s.parseResponse frame).pendingAcks = s.pendingAcks ∧
      (s.parseResponse frame).futures = s.futures := by
  unfold parseResponse resolvePendingAcks
  cases frameCommand frame with
  | ok command =>
    dsimp only
    rw [settleSoon_eq]
    exact ⟨rfl, rfl⟩
  | error e => exact ⟨rfl, rfl⟩

/-- The two loops of `_fail_pending_acks` are one. -/
theorem failPendingAcks_eq (s : AckState) : s.failPendingAcks =
    { s.settleSoon (s.pendingAcks.entries.flatMap Prod.snd) .exception with
      pendingAcks := Dict.empty } := by
  unfold failPendingAcks settleSoon
  rw [List.foldl_flatMap]

/-- The link is lost: no waiter is registered any more. -/
theorem Sound.fail (h : s.Sound) : s.failPendingAcks.Sound := by
  have hposted := h.settleSoon (s.pendingAcks.entries.flatMap Prod.snd) (o := .exception)
    fun f _ frame hframe => by cases hframe
  rw [failPendingAcks_eq]
  refine ⟨?_, fun _ => List.nodup_nil, ?_, hposted.echoes, hposted.deferred, hposted.results,
    hposted.delivered, hposted.valid⟩
  · intro command f hf
    cases hf
  · intro command ws hget
    cases hget

/-- No future is settled then, and no echo forgotten. -/
theorem failPendingAcks_frame (s : AckState) :
    s.failPendingAcks.futures = s.futures ∧ s.failPendingAcks.echoes = s.echoes := by
  rw [failPendingAcks_eq, settleSoon_eq]
  exact ⟨rfl, rfl⟩

end AckState

end XBloom.Ble
