/-
# XBloom.Slots.Attempts — which client the attempts of a retried action send to

Every user action goes through `_async_retry_while_sleeping`, which wakes a sleeping machine first, if
need be with a new client, and then attempts the action up to three times.  The callers hand it a lambda
that looks `self.client` up, so each attempt sends to the client of its own beginning.  The grinder
calibration hands it a method of the client it found before.
-/
import XBloom.Async.Marks
import XBloom.Coordinator.Footprints
import XBloom.Coordinator.Maintenance
import XBloom.Coordinator.RecipeCalls
import XBloom.Slots.Write

namespace XBloom.Slots

open XBloom.Async XBloom.Py XBloom.Ble XBloom.Brewing XBloom.Logic

/-! ## The attempts -/

/-- The `async` functions around the slots, with a mark where an attempt begins. -/
abbrev Attempting (α : Type) := Routine World (Marked Event) Await Answer PyErr α

/-- A function without attempts of its own. -/
def within {α : Type} (x : Async α) : Attempting α := Routine.zoom (unmarked World Event Await Answer) x

/-- One attempt of an action. -/
def attempting {α : Type} (action : Async α) : Attempting α := do
  signal
  within action

/-- The attempts of `_async_retry_while_sleeping`, with this many left after the current one. -/
def attempts {α : Type} (asleep : Bool) (action : Async α) : ℕ → Attempting α
  | 0 => attempting action
  | n + 1 => do
    let result ← Routine.attempt (attempting action)
    match result with
    | .ok a => do
      let w ← Routine.world
      if w.coord.asleep then do
        let _ ← Routine.await (.coord .retryDelay)
        attempts asleep action n
      else pure a
    | .error e => do
      let w ← Routine.world
      if e = .ackTimeout ∧ (asleep || w.coord.asleep) = true then do
        let _ ← Routine.await (.coord .retryDelay)
        attempts asleep action n
      else throw e

/-- `_async_retry_while_sleeping`, with its attempts marked. -/
def retryMarked {α : Type} (action : Async α) : Attempting α := do
  let w ← Routine.world
  Routine.when w.coord.asleep (within (connection Coordinator.wakeMachine))
  attempts w.coord.asleep action 2

/-! ## They are the retry's -/

section
variable {α : Type}

theorem attempting_erase (action : Async α) : (attempting action).erase = action := by
  show ((signal >>= fun _ => within action : Attempting α)).erase = action
  rw [Routine.erase_bind]
  exact Routine.erase_unmarked action

/-- A branch of an attempt's end, without the marks. -/
theorem again_erase {b : Bool} {x : Attempting α} {y : Async α} {r : Attempting α} {s : Async α}
    (hxy : x.erase = y) (hrs : r.erase = s) :
    (if b then do
        let _ ← Routine.await (.coord .retryDelay)
        x
      else r : Attempting α).erase =
      if b then do
        let _ ← Routine.await (.coord .retryDelay)
        y
      else s := by
  cases b with
  | true =>
    show (Routine.await _ >>= fun _ => x : Attempting α).erase = Routine.await _ >>= fun _ => y
    rw [Routine.erase_bind, hxy]
    rfl
  | false => exact hrs

theorem attempts_erase (asleep : Bool) (action : Async Unit) (n : ℕ) :
    (attempts asleep action n).erase = retryAttempts asleep action n := by
  induction n with
  | zero => exact attempting_erase action
  | succ n ih =>
    show (Routine.attempt (attempting action) >>= _).erase = Routine.attempt action >>= _
    rw [Routine.erase_bind, Routine.erase_attempt, attempting_erase]
    refine congrArg (Routine.attempt action >>= ·) (funext fun result => ?_)
    cases result with
    | ok a =>
      show (Routine.world >>= _ : Attempting Unit).erase = Routine.world >>= _
      rw [Routine.erase_bind]
      exact congrArg (Routine.world >>= ·) (funext fun w => again_erase ih rfl)
    | error e =>
      show (Routine.world >>= _ : Attempting Unit).erase = Routine.world >>= _
      rw [Routine.erase_bind]
      refine congrArg (Routine.world >>= ·) (funext fun w => ?_)
      by_cases h : e = .ackTimeout ∧ (asleep || w.coord.asleep) = true
      · simp only [if_pos h]
        exact @again_erase Unit true _ _ (throw e) (throw e) ih rfl
      · simp only [if_neg h]
        rfl

/-- **Without the marks it is the retry of a slot write.** -/
theorem retryMarked_erase (action : Async Unit) :
    (retryMarked action).erase = retryWhileSleeping action := by
  show (Routine.world >>= _ : Attempting Unit).erase = Routine.world >>= _
  rw [Routine.erase_bind]
  refine congrArg (Routine.world >>= ·) (funext fun w => ?_)
  show (Routine.when _ _ >>= _ : Attempting Unit).erase = Routine.when _ _ >>= _
  rw [Routine.erase_bind]
  have hwhen : (Routine.when w.coord.asleep (within (connection Coordinator.wakeMachine))).erase =
      Routine.when w.coord.asleep (connection Coordinator.wakeMachine) := by
    cases w.coord.asleep with
    | true => exact Routine.erase_unmarked _
    | false => rfl
  rw [hwhen]
  exact congrArg (Routine.when _ _ >>= ·) (funext fun _ => attempts_erase _ action 2)

theorem attempts_erase_connection (asleep : Bool) (action : Coordinator.Async α) (n : ℕ) :
    (attempts asleep (connection action) n).erase =
      connection (Coordinator.retryAttempts asleep action n) := by
  induction n with
  | zero => exact attempting_erase (connection action)
  | succ n ih =>
    show (Routine.attempt (attempting (connection action)) >>= _).erase =
      Routine.zoom connectionLens (Routine.attempt action >>= _)
    rw [Routine.erase_bind, Routine.erase_attempt, attempting_erase, zoom_bind, zoom_attempt]
    refine congrArg (Routine.attempt (connection action) >>= ·) (funext fun result => ?_)
    cases result with
    | ok a =>
      show (Routine.world >>= _ : Attempting α).erase = Routine.world >>= _
      rw [Routine.erase_bind]
      refine congrArg (Routine.world >>= ·) (funext fun w => ?_)
      refine (again_erase ih rfl).trans ?_
      cases hasleep : w.coord.asleep with
      | true =>
        show _ = Routine.zoom connectionLens (if w.coord.asleep then _ else _)
        rw [hasleep]
        rfl
      | false =>
        show _ = Routine.zoom connectionLens (if w.coord.asleep then _ else _)
        rw [hasleep]
        rfl
    | error e =>
      show (Routine.world >>= _ : Attempting α).erase = Routine.world >>= _
      rw [Routine.erase_bind]
      refine congrArg (Routine.world >>= ·) (funext fun w => ?_)
      show _ = Routine.zoom connectionLens (if e = .ackTimeout ∧ (asleep || w.coord.asleep) = true
        then _ else _)
      by_cases h : e = .ackTimeout ∧ (asleep || w.coord.asleep) = true
      · simp only [if_pos h]
        exact @again_erase α true _ _ (throw e) (throw e) ih rfl
      · simp only [if_neg h]
        rfl

/-- **And the retry of the coordinator's actions.** -/
theorem retryMarked_erase_connection (action : Coordinator.Async α) :
    (retryMarked (connection action)).erase = connection (Coordinator.retryWhileSleeping action) := by
  show (Routine.world >>= _ : Attempting α).erase =
    Routine.world >>= fun w : World => Routine.zoom connectionLens
      (Routine.when w.coord.asleep Coordinator.wakeMachine >>= fun _ =>
        Coordinator.retryAttempts w.coord.asleep action 2)
  rw [Routine.erase_bind]
  refine congrArg (Routine.world >>= ·) (funext fun w => ?_)
  show (Routine.when _ _ >>= _ : Attempting α).erase = _
  rw [Routine.erase_bind, zoom_bind]
  have hwhen : (Routine.when w.coord.asleep (within (connection Coordinator.wakeMachine))).erase =
      Routine.zoom connectionLens (Routine.when w.coord.asleep Coordinator.wakeMachine) := by
    cases w.coord.asleep with
    | true => exact Routine.erase_unmarked _
    | false => rfl
  rw [hwhen]
  exact congrArg (Routine.zoom connectionLens _ >>= ·)
    (funext fun _ => attempts_erase_connection _ action 2)

end

/-! ## The actions -/

/-- What is run through the retry. -/
inductive UserAction where
  | pour
  | armPour
  | confirmPour
  | grind
  | armGrind
  | confirmGrind
  | executeRecipe (prepared : Coordinator.Prepared)
  | armRecipe (prepared : Coordinator.Prepared)
  | confirmRecipe
  | writeEasySlot (slotRecipes : Letter → SlotSource)
  | tareScale
  | enterScaleMode
  | exitScaleMode
  | calibrateGrinder

/-- A command of either type. -/
inductive AnyCommand where
  | coord (command : Ble.Command)
  | slots (command : Command)
  deriving DecidableEq, Repr

namespace UserAction

/-- What it returns. -/
abbrev Result : UserAction → Type
  | armRecipe _ => Option (List UInt8)
  | _ => Unit

/-- **The action of each caller.**  All but the last look the client up when they are attempted; the last
is a method of the client that the caller found. -/
def action (found : Option ℕ) : (a : UserAction) → Async a.Result
  | pour => connection Coordinator.brewerStart
  | armPour => connection Coordinator.brewerEnterMode
  | confirmPour => connection Coordinator.brewerStart
  | grind => connection (Coordinator.withGrinder Coordinator.grinderStart)
  | armGrind => connection (Coordinator.withGrinder Coordinator.grinderEnterMode)
  | confirmGrind => connection (Coordinator.withGrinder Coordinator.grinderConfirmStart)
  | executeRecipe prepared =>
    connection (Coordinator.withClient fun c => Coordinator.brewRecipe c prepared)
  | armRecipe prepared =>
    connection (Coordinator.withClient fun c => Coordinator.armRecipe c prepared)
  | confirmRecipe => connection Coordinator.sendConfirm
  | writeEasySlot slotRecipes => withClient (writeEasySlots slotRecipes)
  | tareScale => connection (Coordinator.withClient Coordinator.asyncTare)
  | enterScaleMode => connection (Coordinator.withClient Coordinator.asyncEnterScale)
  | exitScaleMode => connection (Coordinator.withClient Coordinator.asyncExitScale)
  | calibrateGrinder =>
    match found with
    | some c => connection (Coordinator.clientCalibrateGrinder c)
    | none => throw .attributeError

/-- The command that does what the action is for, of coffee or tea. -/
def commands : UserAction → List AnyCommand
  | pour => [.coord .brewerStart]
  | armPour => [.coord .brewerIn]
  | confirmPour => [.coord .brewerStart]
  | grind => [.coord .grinderStart]
  | armGrind => [.coord .grinderIn]
  | confirmGrind => [.coord .grinderStart]
  | executeRecipe _ => [.coord .recipeExecute, .coord .teaRecipeMake]
  | armRecipe _ => [.coord .recipeSendAuto, .coord .recipeSendManual, .coord .teaRecipeCode]
  | confirmRecipe => [.coord .recipeExecute, .coord .teaRecipeMake]
  | writeEasySlot _ => [.slots .easyRecipeOrder]
  | tareScale => [.coord .scaleTare]
  | enterScaleMode => [.coord .scaleIn]
  | exitScaleMode => [.coord .scaleQuit]
  | calibrateGrinder => [.coord .calibrateGrinder]

/-- The arguments of its first packet can be encoded. -/
def Encodes (w : World) : UserAction → Prop
  | pour => ∃ args, Coordinator.brewerStartArgs w.coord = .ok args
  | confirmPour => ∃ args, Coordinator.brewerStartArgs w.coord = .ok args
  | executeRecipe prepared => isTeaRecipe prepared.recipe = false →
    ∃ dose, armDose prepared.recipe = .ok dose
  | armRecipe prepared => isTeaRecipe prepared.recipe = false →
    ∃ dose, armDose prepared.recipe = .ok dose
  | confirmRecipe => w.coord.armedRecipeIsTea = true → w.coord.armedRecipeTeaPayload ≠ none
  | writeEasySlot slotRecipes => ∃ payload, slotPayload .a (slotRecipes .a).recipe = .ok payload
  | _ => True

/-- It is a method of the client the caller found, not a function that looks the client up. -/
def isMethod : UserAction → Bool
  | calibrateGrinder => true
  | _ => false

/-- **The action under its retry**, for a caller that found this client. -/
def call (found : Option ℕ) (a : UserAction) : Attempting a.Result :=
  if a.isMethod && found.isNone then throw .attributeError else retryMarked (a.action found)

/-- **What the source runs**: the retry of each caller. -/
def retried : (a : UserAction) → Async a.Result
  | pour => connection (Coordinator.retryWhileSleeping Coordinator.brewerStart)
  | armPour => connection (Coordinator.retryWhileSleeping Coordinator.brewerEnterMode)
  | confirmPour => connection (Coordinator.retryWhileSleeping Coordinator.brewerStart)
  | grind => connection
    (Coordinator.retryWhileSleeping (Coordinator.withGrinder Coordinator.grinderStart))
  | armGrind => connection
    (Coordinator.retryWhileSleeping (Coordinator.withGrinder Coordinator.grinderEnterMode))
  | confirmGrind => connection
    (Coordinator.retryWhileSleeping (Coordinator.withGrinder Coordinator.grinderConfirmStart))
  | executeRecipe prepared => connection (Coordinator.retryWhileSleeping
    (Coordinator.withClient fun c => Coordinator.brewRecipe c prepared))
  | armRecipe prepared => connection (Coordinator.retryWhileSleeping
    (Coordinator.withClient fun c => Coordinator.armRecipe c prepared))
  | confirmRecipe => connection (Coordinator.retryWhileSleeping Coordinator.sendConfirm)
  | writeEasySlot slotRecipes => retryWhileSleeping (withClient (writeEasySlots slotRecipes))
  | tareScale => connection
    (Coordinator.retryWhileSleeping (Coordinator.withClient Coordinator.asyncTare))
  | enterScaleMode => connection
    (Coordinator.retryWhileSleeping (Coordinator.withClient Coordinator.asyncEnterScale))
  | exitScaleMode => connection
    (Coordinator.retryWhileSleeping (Coordinator.withClient Coordinator.asyncExitScale))
  | calibrateGrinder => connection Coordinator.sendCalibration

end UserAction

/-! ## What is sent -/

/-- The client a packet goes to, and its command. -/
def Event.sentTo : Event → Option (ℕ × AnyCommand)
  | .coord (.sent c packet) => some (c, .coord packet.command)
  | .sent c packet => some (c, .slots packet.command)
  | _ => none

section
variable {M : Type}

/-- The stories of attempts. -/
abbrev Telling (M : Type) := Story World Event Await Answer M

/-- The packets of a story. -/
def sentIn (σ : Telling M) : List (ℕ × AnyCommand) := σ.beats.filterMap fun
  | .emitted _ e => e.sentTo
  | _ => none

/-- The worlds in which the attempts of a call begin. -/
def attemptsIn (σ : Story World (Marked Event) Await Answer M) : List World := σ.beats.filterMap fun
  | .emitted w none => some w
  | _ => none

variable (move : World → M → World)

/-- One attempt from a world on. -/
def UserAction.attempt (a : UserAction) (found : Option ℕ) (v : World) (replies : ℕ → Reply Answer M) :
    Except PyErr a.Result × Telling M :=
  (a.action found).run.play move (.start v) replies

/-- **An attempt aims at the coordinator's client**: every packet goes to the client of its beginning,
one is sent if that client is connected, and an attempt that returns has sent its command. -/
structure Aims (a : UserAction) (found : Option ℕ) (v : World) : Prop where
  target : ∀ replies, ∀ x ∈ sentIn (a.attempt move found v replies).2, v.coord.client = some x.1
  sends : v.coord.linkUp = true → a.Encodes v →
    ∀ replies, sentIn (a.attempt move found v replies).2 ≠ []
  command : ∀ replies r, (a.attempt move found v replies).1 = .ok r →
    ∃ x ∈ sentIn (a.attempt move found v replies).2, x.2 ∈ a.commands

/-- **The client that was found is still the one to send to**, or there is none to send to at all. -/
def StillFound (found : Option ℕ) (v : World) : Prop :=
  v.coord.client = found ∨ (found.any v.coord.isConnected = false ∧ v.coord.linkUp = false)

end

/-- **Without its marks the call is the source's**: its result, and all it does. -/
theorem call_play {M : Type} (move : World → M → World) (a : UserAction) (w : World)
    (replies : ℕ → Reply Answer M) :
    a.retried.run.play move (.start w) replies =
      (((a.call w.coord.client).run.play move (.start w) replies).1,
        ((a.call w.coord.client).run.play move (.start w) replies).2.erase) := by
  rw [← Co.play_erase]
  have hdeferred : ∀ {α : Type} (x : Coordinator.Async α),
      (retryMarked (connection x)).erase = connection (Coordinator.retryWhileSleeping x) :=
    fun x => retryMarked_erase_connection x
  have herase : a.isMethod = false → (a.call w.coord.client).erase = a.retried := by
    intro ha
    cases a with
    | calibrateGrinder => cases ha
    | writeEasySlot slotRecipes => exact retryMarked_erase _
    | _ => exact hdeferred _
  cases a with
  | calibrateGrinder =>
    -- the method is looked up on the client of this moment
    have hread : ∀ g : Coordinator.World → Coordinator.Async Unit,
        (connection (Routine.world >>= g)).run.play move (.start w) replies =
          (connection (g w.coord)).run.play move (.start w) replies := fun _ => rfl
    refine (hread _).trans ?_
    unfold UserAction.call
    cases w.coord.client with
    | none => rfl
    | some c =>
      show _ = (retryMarked (connection (Coordinator.clientCalibrateGrinder c))).erase.run.play _ _ _
      rw [hdeferred]
      rfl
  | _ => exact congrArg (fun x : Async _ => x.run.play move (.start w) replies) (herase rfl).symm

/-! ## Where packets go -/

/-- Every packet so far went to this client. -/
def Only {M : Type} (c : ℕ) (σ : Telling M) : Prop := ∀ x ∈ sentIn σ, x.1 = c

/-- One of these commands was sent. -/
def Has {M : Type} (commands : List AnyCommand) (σ : Telling M) : Prop :=
  ∃ x ∈ sentIn σ, x.2 ∈ commands

/-- Sending to one client only. -/
def towards (c : ℕ) : Footprint World Event Await where
  awaits _ := True
  emits e := ∀ x, e.sentTo = some x → x.1 = c
  writes _ _ := True

/-- The same, of the coordinator. -/
def onlyTo (c : ℕ) : Coordinator.CoordinatorFootprint where
  awaits _ := True
  emits e := ∀ c' packet, e = .sent c' packet → c' = c
  writes _ _ := True

theorem onlyTo_covers (c : ℕ) : connectionLens.Covers (onlyTo c) (towards c) := by
  refine ⟨fun _ _ _ => trivial, fun e he x hx => ?_, fun _ _ => trivial⟩
  cases e with
  | sent c' packet =>
    obtain rfl := Option.some.inj hx
    exact he c' packet rfl
  | armed op => cases hx
  | connecting armed => cases hx
  | chain armed uid => cases hx
  | confirming armed => cases hx
  | naming uid => cases hx

section
variable {M : Type} {move : World → M → World} {c : ℕ} {K : List AnyCommand} {α : Type}
  {σ : Telling M}

theorem sentIn_emit (σ : Telling M) (e : Event) : sentIn (σ.emit e) = sentIn σ ++ e.sentTo.toList := by
  unfold sentIn
  show (σ.beats ++ [_]).filterMap _ = _
  rw [List.filterMap_append]
  refine congrArg (_ ++ ·) ?_
  cases h : e.sentTo with
  | none => simp [h]
  | some x => simp [h]

theorem sentIn_answer (σ : Telling M) (l : Await) (reply : Reply Answer M) :
    sentIn (σ.answer move l reply) = sentIn σ := by
  unfold sentIn
  show (σ.beats ++ (_ ++ [_])).filterMap _ = _
  simp [List.filterMap_append, List.filterMap_map]

theorem Only.emit (h : Only c σ) {e : Event} (he : ∀ x, e.sentTo = some x → x.1 = c) :
    Only c (σ.emit e) := by
  intro x hx
  rw [sentIn_emit] at hx
  rcases List.mem_append.mp hx with hx | hx
  · exact h x hx
  · exact he x (Option.mem_toList.mp hx)

/-- A packet that goes out is one that was sent. -/
theorem Only.emit_sent (h : Only c σ) {e : Event} {k : AnyCommand} (he : e.sentTo = some (c, k)) :
    Only c (σ.emit e) ∧ Has [k] (σ.emit e) := by
  refine ⟨h.emit fun x hx => ?_, (c, k), ?_, List.mem_singleton_self k⟩
  · rw [he] at hx
    obtain rfl := Option.some.inj hx
    rfl
  · rw [sentIn_emit, he]
    exact List.mem_append_right _ (List.mem_singleton_self _)

theorem keeps_only : Keeps move (towards c) (Only (M := M) c) where
  write _ _ _ h := h
  emit _ he _ h := h.emit he
  answer l _ σ reply h := by
    unfold Only
    rw [sentIn_answer]
    exact h

theorem keeps_aimed : Keeps move (towards c) fun σ : Telling M => Only c σ ∧ Has K σ where
  write _ _ _ h := h
  emit e he σ h := by
    obtain ⟨x, hx, hk⟩ := h.2
    refine ⟨h.1.emit he, x, ?_, hk⟩
    rw [sentIn_emit]
    exact List.mem_append_left _ hx
  answer l hl σ reply h := by
    refine ⟨keeps_only.answer l hl σ reply h.1, ?_⟩
    unfold Has
    rw [sentIn_answer]
    exact h.2

/-- What went out stays out, whatever happens. -/
theorem keeps_sent_any {P : Footprint World Event Await} :
    Keeps move P fun σ : Telling M => sentIn σ ≠ [] where
  write _ _ _ h := h
  emit e _ σ h := by
    rw [sentIn_emit]
    exact List.append_ne_nil_of_left_ne_nil h _
  answer l _ σ reply h := by
    rw [sentIn_answer]
    exact h

/-! ## The coordinator's actions -/

/-- A part of an attempt that sends to one client. -/
def Steady (move : World → M → World) (c : ℕ) (x : Coordinator.Async α) : Prop :=
  Zooms connectionLens move (Only c) x (fun _ => Only c) fun _ => Only c

/-- A part that, if it returns, has sent its command. -/
def Aiming (move : World → M → World) (c : ℕ) (K : List AnyCommand) (x : Coordinator.Async α) : Prop :=
  Zooms connectionLens move (Only c) x (fun _ σ => Only c σ ∧ Has K σ) fun _ => Only c

theorem Steady.of_within {x : Coordinator.Async α} (h : Within (onlyTo c) x) : Steady move c x :=
  Zooms.of_within (onlyTo_covers c) keeps_only h

theorem Aiming.steady {x : Coordinator.Async α} (h : Aiming move c K x) : Steady move c x :=
  h.weaken (fun _ h => h) (fun _ _ h => h.1) fun _ _ h => h

/-- What was sent stays sent. -/
theorem Aiming.then {β : Type} {x : Coordinator.Async α} {f : α → Coordinator.Async β}
    (hx : Aiming move c K x) (hf : ∀ a, Within (onlyTo c) (f a)) : Aiming move c K (x >>= f) :=
  Zooms.bind hx fun a => (Zooms.of_within (onlyTo_covers c) keeps_aimed (hf a)).weaken
    (fun _ h => h) (fun _ _ h => h) fun _ _ h => h.1

theorem Steady.then {β : Type} {x : Coordinator.Async α} {f : α → Coordinator.Async β}
    (hx : Steady move c x) (hf : ∀ a, Aiming move c K (f a)) : Aiming move c K (x >>= f) :=
  Zooms.bind hx hf

theorem Aiming.mono {K' : List AnyCommand} {x : Coordinator.Async α} (h : Aiming move c K x)
    (hK : ∀ k ∈ K, k ∈ K') : Aiming move c K' x :=
  h.weaken (fun _ h => h) (fun _ _ h => ⟨h.1, h.2.imp fun _ hx => ⟨hx.1, hK _ hx.2⟩⟩) fun _ _ h => h

theorem lift_steady {x : Except PyErr α} : Steady move c (Routine.lift x : Coordinator.Async α) :=
  .of_within (.lift _)

theorem sendCommand_aiming {packet : Ble.Packet} :
    Aiming move c [.coord packet.command] (Coordinator.sendCommand c packet) := by
  refine Zooms.world fun w => ?_
  split
  · refine Zooms.bind (Q := fun _ σ => Only c σ ∧ Has [.coord packet.command] σ)
      (Zooms.emit fun σ h => h.1.emit_sent rfl) fun _ => ?_
    refine (Zooms.of_within (onlyTo_covers c) keeps_aimed (.bind (.await trivial) fun r => ?_)).weaken
      (fun _ h => h) (fun _ _ h => h) fun _ _ h => h.1
    split
    · exact .throw _
    · exact .pure _
  · exact Zooms.throw fun _ h => h.1

theorem sendAndWait_aiming {packet : Ble.Packet} :
    Aiming move c [.coord packet.command] (Coordinator.sendAndWait c packet) := by
  refine sendCommand_aiming.then fun _ => .bind (.await trivial) fun r => ?_
  split
  · exact .throw _
  · exact .pure _

theorem ackStep_aiming {packet : Ble.Packet} :
    Aiming move c [.coord packet.command] (Coordinator.ackStep c packet) := by
  refine sendAndWait_aiming.then fun echoed => ?_
  split
  · exact .pure _
  · exact .bind (.await trivial) fun _ => .pure _

theorem requireConnected_steady : Steady move c (Coordinator.requireConnected c) :=
  .of_within Coordinator.requireConnected_within

/-! ## Deferred actions -/

/-- Something was sent. -/
def Sends (σ : Telling M) : Prop := sentIn σ ≠ []

/-- An attempt that begins in this world. -/
def At (v : World) (σ : Telling M) : Prop := σ.world = v ∧ sentIn σ = []

theorem At.only {v : World} (h : At v σ) : Only c σ := by
  intro x hx
  rw [h.2] at hx
  cases hx

/-- **An action that looks its client up when it is attempted.** -/
structure Deferred (move : World → M → World) (v : World) (K : List AnyCommand) (encodes : Prop)
    (x : Async α) : Prop where
  aims : ∀ c, v.coord.client = some c →
    Plays move (At v) x (fun _ σ => Only c σ ∧ Has K σ) fun _ => Only c
  sends : v.coord.linkUp = true → encodes → Plays move (At v) x (fun _ => Sends) fun _ => Sends
  silent : v.coord.client = none → Plays move (At v) x (fun _ _ => False) fun _ σ => sentIn σ = []

/-! ## The coordinator's recipes -/

theorem asyncArmCoffee_aiming {recipe : XBloomRecipe} {volume temperature : PyFloat} :
    Aiming move c [.coord (recipeCommand recipe)]
      (Coordinator.asyncArmCoffee c recipe volume temperature) :=
  requireConnected_steady.then fun _ => lift_steady.then fun _ => ackStep_aiming.steady.then fun _ =>
    lift_steady.then fun _ => ackStep_aiming.steady.then fun _ => lift_steady.then fun _ =>
      ackStep_aiming.steady.then fun _ => lift_steady.then fun _ => ackStep_aiming

theorem asyncArmTea_aiming {recipe : XBloomRecipe} :
    Aiming move c [.coord .teaRecipeCode] (Coordinator.asyncArmTea c recipe) :=
  requireConnected_steady.then fun _ => ackStep_aiming.steady.then fun _ => lift_steady.then fun _ =>
    ackStep_aiming.steady.then fun _ => lift_steady.then fun _ => ackStep_aiming.steady.then fun _ =>
      lift_steady.then fun _ => ackStep_aiming.then fun _ => .pure _

theorem makeTea_aiming {payload : List UInt8} :
    Aiming move c [.coord .teaRecipeMake] (Coordinator.makeTea c payload) :=
  sendAndWait_aiming.then fun _ => .pure _

theorem executeCoffeeRecipe_aiming :
    Aiming move c [.coord .recipeExecute] (Coordinator.executeCoffeeRecipe c) := by
  refine sendCommand_aiming.then fun _ => (Coordinator.verifyBrewStarted_within 80).mono ?_
  exact Coordinator.sends_le (fun _ _ => trivial) (fun _ _ h => absurd h List.not_mem_nil)
    (fun h => by cases h) fun _ _ _ => trivial

theorem brewRecipe_aiming {prepared : Coordinator.Prepared} :
    Aiming move c [.coord .recipeExecute, .coord .teaRecipeMake]
      (Coordinator.brewRecipe c prepared) := by
  have hgap : Steady move c (Routine.await .startGap : Coordinator.Async Coordinator.Response) :=
    .of_within (.await trivial)
  unfold Coordinator.brewRecipe
  split
  · exact asyncArmTea_aiming.steady.then fun _ => hgap.then fun _ => makeTea_aiming.mono (by simp)
  · exact asyncArmCoffee_aiming.steady.then fun _ => hgap.then fun _ =>
      executeCoffeeRecipe_aiming.mono (by simp)

theorem recipeCommand_eq (recipe : XBloomRecipe) :
    recipeCommand recipe = .recipeSendAuto ∨ recipeCommand recipe = .recipeSendManual := by
  unfold recipeCommand
  split
  · exact Or.inl rfl
  · exact Or.inr rfl

theorem armRecipe_aiming {prepared : Coordinator.Prepared} :
    Aiming move c [.coord .recipeSendAuto, .coord .recipeSendManual, .coord .teaRecipeCode]
      (Coordinator.armRecipe c prepared) := by
  unfold Coordinator.armRecipe
  split
  · exact (asyncArmTea_aiming.mono (by simp)).then fun _ => .pure _
  · refine (asyncArmCoffee_aiming.mono fun k hk => ?_).then fun _ => .pure _
    rw [List.mem_singleton.mp hk]
    rcases recipeCommand_eq prepared.recipe with h | h <;> simp [h]

theorem confirmRecipe_aiming {isTea : Bool} {payload : Option (List UInt8)} :
    Aiming move c [.coord .recipeExecute, .coord .teaRecipeMake]
      (Coordinator.confirmRecipe c isTea payload) := by
  unfold Coordinator.confirmRecipe
  split
  · split
    · exact makeTea_aiming.mono (by simp)
    · exact Zooms.throw fun _ h => h
  · exact executeCoffeeRecipe_aiming.mono (by simp)

theorem grinderStart_aiming {size speed : ℤ} :
    Aiming move c [.coord .grinderStart] (Coordinator.grinderStart c size speed) := by
  have hgap : Steady move c (Routine.await .burrGap : Coordinator.Async Coordinator.Response) :=
    .of_within (.await trivial)
  exact sendCommand_aiming.steady.then fun _ => hgap.then fun _ => sendCommand_aiming

theorem sendChecked_aiming {command : Ble.Command} :
    Aiming move c [.coord command] (Coordinator.sendChecked command c) :=
  requireConnected_steady.then fun _ => sendCommand_aiming

/-! ## What is sent at once -/

/-- **A part of an attempt that sends at once**, on a connected client. -/
def Reaching (move : World → M → World) (c : ℕ) (x : Coordinator.Async α) : Prop :=
  Zooms connectionLens move (fun σ => σ.world.coord.isConnected c = true) x (fun _ => Sends)
    fun _ => Sends

/-- What was sent stays sent, whatever comes next. -/
theorem Reaching.then {β : Type} {x : Coordinator.Async α} {f : α → Coordinator.Async β}
    (hx : Reaching move c x) : Reaching move c (x >>= f) :=
  Zooms.bind hx fun a => Plays.of_keeps keeps_sent_any (Routine.zoom connectionLens (f a))

theorem sendCommand_reaching {packet : Ble.Packet} :
    Reaching move c (Coordinator.sendCommand c packet) := by
  refine Zooms.world fun w => ?_
  by_cases hw : w.isConnected c = true
  · rw [if_pos hw]
    refine Zooms.bind (Q := fun _ => Sends) (Zooms.emit fun σ _ => ?_)
      fun _ => Plays.of_keeps keeps_sent_any _
    unfold Sends
    rw [sentIn_emit]
    exact List.append_ne_nil_of_right_ne_nil _ (by simp [connectionLens, Event.sentTo])
  · -- the world read here is the one the attempt began in
    exact fun σ h => absurd (h.2 ▸ h.1) hw

theorem requireConnected_then {f : Unit → Coordinator.Async α} (hf : Reaching move c (f ())) :
    Reaching move c (Coordinator.requireConnected c >>= f) := by
  refine Zooms.bind (Q := fun _ (σ : Telling M) => σ.world.coord.isConnected c = true)
    (Zooms.world fun w => ?_) fun _ => hf
  split
  · exact Zooms.pure fun _ h => h.1
  · rename_i hw
    exact fun σ h => absurd (h.2 ▸ h.1) hw

theorem lift_then {β : Type} {x : Except PyErr α} {f : α → Coordinator.Async β}
    (hx : ∃ a, x = .ok a) (hf : ∀ a, Reaching move c (f a)) :
    Reaching move c (Routine.lift x >>= f) := by
  obtain ⟨a, rfl⟩ := hx
  exact Zooms.bind (Q := fun _ (σ : Telling M) => σ.world.coord.isConnected c = true)
    (Zooms.lift (fun _ _ _ h => h) fun _ he => by cases he) hf

theorem asyncArmCoffee_reaching {recipe : XBloomRecipe} {volume temperature : PyFloat}
    (hencodes : ∃ dose, armDose recipe = .ok dose) :
    Reaching move c (Coordinator.asyncArmCoffee c recipe volume temperature) :=
  requireConnected_then (lift_then hencodes fun _ =>
    Reaching.then (Reaching.then (Reaching.then sendCommand_reaching)))

theorem asyncArmTea_reaching {recipe : XBloomRecipe} :
    Reaching move c (Coordinator.asyncArmTea c recipe) :=
  requireConnected_then (Reaching.then (Reaching.then (Reaching.then sendCommand_reaching)))

theorem brewRecipe_reaching {prepared : Coordinator.Prepared}
    (hencodes : isTeaRecipe prepared.recipe = false → ∃ dose, armDose prepared.recipe = .ok dose) :
    Reaching move c (Coordinator.brewRecipe c prepared) := by
  unfold Coordinator.brewRecipe
  split
  · exact asyncArmTea_reaching.then
  · rename_i htea
    exact (asyncArmCoffee_reaching (hencodes (by simpa using htea))).then

theorem armRecipe_reaching {prepared : Coordinator.Prepared}
    (hencodes : isTeaRecipe prepared.recipe = false → ∃ dose, armDose prepared.recipe = .ok dose) :
    Reaching move c (Coordinator.armRecipe c prepared) := by
  unfold Coordinator.armRecipe
  split
  · exact asyncArmTea_reaching.then
  · rename_i htea
    exact (asyncArmCoffee_reaching (hencodes (by simpa using htea))).then

theorem confirmRecipe_reaching {isTea : Bool} {payload : Option (List UInt8)}
    (hencodes : isTea = true → payload ≠ none) :
    Reaching move c (Coordinator.confirmRecipe c isTea payload) := by
  unfold Coordinator.confirmRecipe
  split
  · rename_i htea
    split
    · exact Reaching.then (Reaching.then sendCommand_reaching)
    · exact absurd rfl (hencodes htea)
  · exact sendCommand_reaching.then

theorem sendChecked_reaching {command : Ble.Command} :
    Reaching move c (Coordinator.sendChecked command c) :=
  requireConnected_then sendCommand_reaching

/-! ## The coordinator's client -/

variable {v : World} {encodes : Prop}

/-- A connected client is the coordinator's. -/
theorem client_of_linkUp (h : v.coord.linkUp = true) :
    ∃ c, v.coord.client = some c ∧ v.coord.isConnected c = true := by
  cases hclient : v.coord.client with
  | none => simp [Coordinator.World.linkUp, hclient] at h
  | some c => exact ⟨c, rfl, by simpa [Coordinator.World.linkUp, hclient] using h⟩

/-- A read of the coordinator where an attempt begins. -/
theorem zooms_read {f : Coordinator.World → Coordinator.Async α} {Q : α → Telling M → Prop}
    {X : PyErr → Telling M → Prop} (h : Zooms connectionLens move (At v) (f v.coord) Q X) :
    Zooms connectionLens move (At v) (Routine.world >>= f) Q X := by
  refine Zooms.world fun w σ hσ => ?_
  obtain rfl : w = v.coord := hσ.2.symm.trans (congrArg World.coord hσ.1.1)
  exact h σ hσ.1

/-- `self.client` in a world of known client. -/
theorem withClient_deferred {f : ℕ → Coordinator.Async α} (haims : ∀ c, Aiming move c K (f c))
    (hsends : encodes → ∀ c, Reaching move c (f c)) :
    Deferred move v K encodes (connection (Coordinator.withClient f)) := by
  refine ⟨fun c hc => zooms_read ?_, fun hlink hencodes => zooms_read ?_, fun hnone => zooms_read ?_⟩
  · rw [hc]
    exact Zooms.pre (haims c) fun _ h => h.only
  · obtain ⟨c, hc, hconnected⟩ := client_of_linkUp hlink
    rw [hc]
    refine Zooms.pre (hsends hencodes c) fun σ h => ?_
    rw [h.1]
    exact hconnected
  · rw [hnone]
    exact Zooms.throw fun _ h => h.2

/-- A read of the world before it. -/
theorem world_deferred {f : Coordinator.World → Coordinator.Async α}
    (h : Deferred move v K encodes (connection (f v.coord))) :
    Deferred move v K encodes (connection (Routine.world >>= f)) :=
  ⟨fun c hc => zooms_read (h.aims c hc), fun hlink hencodes => zooms_read (h.sends hlink hencodes),
    fun hnone => zooms_read (h.silent hnone)⟩

/-! ## The slot write -/

theorem sendCommandRaw_towards {packet : Packet} : Within (towards c) (sendCommandRaw packet c) := by
  refine .world fun w => ?_
  split
  · refine .bind (.emit fun x hx => ?_) fun _ => .bind (.await trivial) fun r => ?_
    · obtain rfl := Option.some.inj hx
      rfl
    · split
      · exact .throw _
      · exact .pure _
  · exact .throw _

theorem writeSlots_towards {slotRecipes : Letter → SlotSource} (letters : List Letter) :
    Within (towards c) (writeSlots c slotRecipes letters) := by
  induction letters with
  | nil => exact .pure _
  | cons letter rest ih =>
    exact .bind (.lift _) fun _ => .bind sendCommandRaw_towards fun _ => .bind (.await trivial) fun _ => ih

theorem sendOrder_aims {payload : List UInt8} :
    Plays move (Only c) (sendCommandRaw (.order payload) c)
      (fun _ σ => Only c σ ∧ Has [.slots .easyRecipeOrder] σ) fun _ => Only c := by
  refine .world fun w => ?_
  split
  · refine .bind (Q := fun _ σ => Only c σ ∧ Has [.slots .easyRecipeOrder] σ)
      (.emit fun σ h => h.1.emit_sent rfl) fun _ => ?_
    refine (Within.plays keeps_aimed (.bind (.await trivial) fun r => ?_)).weaken
      (fun _ h => h) (fun _ _ h => h) fun _ _ h => h.1
    split
    · exact .throw _
    · exact .pure _
  · exact .throw fun _ h => h.1

theorem writeEasySlots_aims {slotRecipes : Letter → SlotSource} :
    Plays move (Only c) (writeEasySlots slotRecipes c)
      (fun _ σ => Only c σ ∧ Has [.slots .easyRecipeOrder] σ) fun _ => Only c := by
  refine .world fun w => ?_
  split
  · refine .bind (Q := fun _ => Only c) ((Within.plays keeps_only (writeSlots_towards _)).pre
      fun _ h => h.1) fun _ => .bind sendOrder_aims fun _ => ?_
    exact (Within.plays keeps_aimed (.bind (.await trivial) fun _ => .pure _)).weaken
      (fun _ h => h) (fun _ _ h => h) fun _ _ h => h.1
  · exact .throw fun _ h => h.1

theorem sendCommandRaw_sends {packet : Packet} (hconnected : v.coord.isConnected c = true) :
    Plays move (At v) (sendCommandRaw packet c) (fun _ => Sends) fun _ => Sends := by
  refine .world fun w => ?_
  by_cases hw : w.coord.isConnected c = true
  · rw [if_pos hw]
    refine .bind (Q := fun _ => Sends) (.emit fun σ _ => ?_) fun _ => Plays.of_keeps keeps_sent_any _
    unfold Sends
    rw [sentIn_emit]
    exact List.append_ne_nil_of_right_ne_nil _ (by simp [Event.sentTo])
  · refine fun σ h => absurd ?_ hw
    rw [← h.2, h.1.1]
    exact hconnected

theorem writeEasySlots_sends {slotRecipes : Letter → SlotSource}
    (hconnected : v.coord.isConnected c = true)
    (hencodes : ∃ payload, slotPayload .a (slotRecipes .a).recipe = .ok payload) :
    Plays move (At v) (writeEasySlots slotRecipes c) (fun _ => Sends) fun _ => Sends := by
  obtain ⟨payload, hpayload⟩ := hencodes
  refine .world fun w => ?_
  by_cases hw : w.coord.isConnected c = true
  · rw [if_pos hw]
    refine .bind (Q := fun _ => Sends) (.bind (Q := fun _ => At v) ?_ fun _ => .bind (Q := fun _ => Sends)
      (sendCommandRaw_sends hconnected) fun _ => Plays.of_keeps keeps_sent_any _)
        fun _ => Plays.of_keeps keeps_sent_any _
    exact .lift (fun _ _ _ h => h.1) fun e he => by rw [hpayload] at he; cases he
  · refine fun σ h => absurd ?_ hw
    rw [← h.2, h.1.1]
    exact hconnected

theorem writeEasySlot_deferred {slotRecipes : Letter → SlotSource} :
    Deferred move v [.slots .easyRecipeOrder]
      (∃ payload, slotPayload .a (slotRecipes .a).recipe = .ok payload)
      (withClient (writeEasySlots slotRecipes)) := by
  have hread : ∀ {Q : Unit → Telling M → Prop} {X : PyErr → Telling M → Prop},
      Plays move (At v) (match v.coord.client with
        | some c => writeEasySlots slotRecipes c
        | none => throw .attributeError) Q X →
        Plays move (At v) (withClient (writeEasySlots slotRecipes)) Q X := by
    intro Q X hplays
    refine .world fun w => ?_
    by_cases hw : w = v
    · subst hw
      exact hplays.pre fun _ h => h.1
    · exact fun σ h => absurd (h.2.symm.trans h.1.1) hw
  refine ⟨fun c hc => hread ?_, fun hlink hencodes => hread ?_, fun hnone => hread ?_⟩
  · rw [hc]
    exact writeEasySlots_aims.pre fun _ h => h.only
  · obtain ⟨c, hc, hconnected⟩ := client_of_linkUp hlink
    rw [hc]
    exact writeEasySlots_sends hconnected hencodes
  · rw [hnone]
    exact .throw fun _ h => h.2

/-! ## Every action but one -/

/-- **Every caller but the calibration's defers.** -/
theorem action_deferred {a : UserAction} (ha : a ≠ .calibrateGrinder) (found : Option ℕ) :
    Deferred move v a.commands (a.Encodes v) (a.action found) := by
  cases a with
  | pour => exact world_deferred (withClient_deferred
      (fun _ => lift_steady.then fun _ => sendCommand_aiming)
      fun h _ => lift_then h fun _ => sendCommand_reaching)
  | armPour =>
    exact withClient_deferred (fun _ => sendCommand_aiming) fun _ _ => sendCommand_reaching
  | confirmPour => exact world_deferred (withClient_deferred
      (fun _ => lift_steady.then fun _ => sendCommand_aiming)
      fun h _ => lift_then h fun _ => sendCommand_reaching)
  | grind => exact world_deferred (withClient_deferred (fun _ => grinderStart_aiming)
      fun _ _ => sendCommand_reaching.then)
  | armGrind => exact world_deferred (withClient_deferred (fun _ => sendCommand_aiming)
      fun _ _ => sendCommand_reaching)
  | confirmGrind => exact world_deferred (withClient_deferred (fun _ => sendCommand_aiming)
      fun _ _ => sendCommand_reaching)
  | executeRecipe prepared =>
    have haims : ∀ c, Aiming move c _ (Coordinator.brewRecipe c prepared) := fun _ => brewRecipe_aiming
    exact withClient_deferred haims fun h _ => brewRecipe_reaching h
  | armRecipe prepared =>
    have haims : ∀ c, Aiming move c _ (Coordinator.armRecipe c prepared) := fun _ => armRecipe_aiming
    exact withClient_deferred haims fun h _ => armRecipe_reaching h
  | confirmRecipe => exact world_deferred (withClient_deferred (fun _ => confirmRecipe_aiming)
      fun h _ => confirmRecipe_reaching h)
  | writeEasySlot slotRecipes => exact writeEasySlot_deferred
  | tareScale =>
    exact withClient_deferred (fun _ => sendChecked_aiming) fun _ _ => sendChecked_reaching
  | enterScaleMode =>
    exact withClient_deferred (fun _ => sendChecked_aiming) fun _ _ => sendChecked_reaching
  | exitScaleMode =>
    exact withClient_deferred (fun _ => sendChecked_aiming) fun _ _ => sendChecked_reaching
  | calibrateGrinder => exact absurd rfl ha

/-- An action that defers aims. -/
theorem Deferred.attempt_aims {a : UserAction} {found : Option ℕ}
    (h : Deferred move v a.commands (a.Encodes v) (a.action found)) : Aims move a found v := by
  have hstart : At v (.start v : Telling M) := ⟨rfl, rfl⟩
  refine ⟨fun replies x hx => ?_, fun hlink hencodes replies => ?_, fun replies r hr => ?_⟩
  · cases hclient : v.coord.client with
    | none =>
      have hsilent := ((h.silent hclient).weaken (fun _ h => h) (fun _ _ h => h.elim)
        fun _ _ h => h).play_story hstart replies
      have hempty : sentIn (a.attempt move found v replies).2 = [] := hsilent
      rw [hempty] at hx
      cases hx
    | some c =>
      have honly := ((h.aims c hclient).weaken (fun _ h => h) (fun _ _ h => h.1)
        fun _ _ h => h).play_story hstart replies
      exact congrArg some (honly x hx).symm
  · exact (h.sends hlink hencodes).play_story hstart replies
  · cases hclient : v.coord.client with
    | none =>
      have hends := (h.silent hclient).play hstart replies
      have hresult : ((a.action found).run.play move (.start v) replies).1 = .ok r := hr
      rw [hresult] at hends
      exact hends.elim
    | some c =>
      have hends := (h.aims c hclient).play hstart replies
      have hresult : ((a.action found).run.play move (.start v) replies).1 = .ok r := hr
      rw [hresult] at hends
      exact hends.2

/-! ## The grinder calibration -/

/-- A method of a client that is not connected sends nothing. -/
theorem calibration_silent (hv : v.coord.isConnected c = false) :
    Plays move (At v) (connection (Coordinator.clientCalibrateGrinder c)) (fun _ _ => False)
      fun _ σ => sentIn σ = [] := by
  show Zooms connectionLens move (At v) (Coordinator.sendCommand c _) _ _
  refine Zooms.world fun w => ?_
  by_cases hw : w.isConnected c = true
  · refine fun σ h => absurd hw ?_
    rw [← h.2, h.1.1]
    simp [connectionLens, hv]
  · rw [if_neg hw]
    exact Zooms.throw fun _ h => h.1.2

/-- An attempt that sends nothing aims where there is nothing to send to. -/
theorem silent_aims_iff {found : Option ℕ}
    (hsilent : ∀ replies, sentIn (UserAction.calibrateGrinder.attempt move found v replies).2 = [])
    (hfails : ∀ replies r, (UserAction.calibrateGrinder.attempt move found v replies).1 ≠ .ok r) :
    Aims move .calibrateGrinder found v ↔ v.coord.linkUp = false := by
  constructor
  · intro h
    refine Bool.eq_false_iff.mpr fun hlink => ?_
    exact h.sends hlink trivial (fun _ => ⟨[], {}⟩) (hsilent _)
  · intro hlink
    refine ⟨fun replies x hx => ?_, fun h => ?_, fun replies r hr => absurd hr (hfails replies r)⟩
    · rw [hsilent replies] at hx
      cases hx
    · rw [hlink] at h
      cases h

/-- A method of the coordinator's client does what a lookup does. -/
theorem calibration_deferred (h : v.coord.client = some c) :
    Deferred move v UserAction.calibrateGrinder.commands True
      (connection (Coordinator.clientCalibrateGrinder c)) := by
  refine ⟨fun c' hc' => ?_, fun hlink _ => ?_, fun hnone => ?_⟩
  · obtain rfl : c = c' := Option.some.inj (h.symm.trans hc')
    have haims : Aiming move c UserAction.calibrateGrinder.commands
      (Coordinator.clientCalibrateGrinder c) := sendCommand_aiming
    exact Zooms.pre haims fun _ h => h.only
  · have hreach : Reaching move c (Coordinator.clientCalibrateGrinder c) := sendCommand_reaching
    refine Zooms.pre hreach fun σ hσ => ?_
    rw [hσ.1]
    simpa [Coordinator.World.linkUp, h] using hlink
  · rw [h] at hnone
    cases hnone

/-- **The calibration aims while the client that was found is the coordinator's.** -/
theorem calibration_aims_iff (found : Option ℕ) :
    Aims move .calibrateGrinder found v ↔ StillFound found v := by
  have hstart : At v (.start v : Telling M) := ⟨rfl, rfl⟩
  cases found with
  | none =>
    have hnothing : ∀ replies, UserAction.calibrateGrinder.attempt move none v replies =
        (.error .attributeError, .start v) := fun _ => rfl
    rw [silent_aims_iff (fun replies => by rw [hnothing]; rfl) fun replies r => by rw [hnothing]; simp]
    constructor
    · exact fun h => Or.inr ⟨rfl, h⟩
    · rintro (h | ⟨-, h⟩)
      · simp [Coordinator.World.linkUp, h]
      · exact h
  | some c =>
    cases hconnected : v.coord.isConnected c with
    | false =>
      have hsilent : ∀ replies,
          sentIn (UserAction.calibrateGrinder.attempt move (some c) v replies).2 = [] ∧
            ∀ r, (UserAction.calibrateGrinder.attempt move (some c) v replies).1 ≠ .ok r :=
        Plays.play_result (P := fun r σ => sentIn σ = [] ∧ ∀ a, r ≠ .ok a)
          ((calibration_silent hconnected).weaken (fun _ h => h) (fun _ _ h => h.elim)
            fun _ _ h => ⟨h, fun _ h => by cases h⟩) hstart
      rw [silent_aims_iff (fun replies => (hsilent replies).1) fun replies => (hsilent replies).2]
      constructor
      · exact fun h => Or.inr ⟨hconnected, h⟩
      · rintro (h | ⟨-, h⟩)
        · simp [Coordinator.World.linkUp, h, hconnected]
        · exact h
    | true =>
      constructor
      · intro h
        have hreach : Reaching move c (Coordinator.clientCalibrateGrinder c) := sendCommand_reaching
        have haims : Aiming move c [.coord .calibrateGrinder] (Coordinator.clientCalibrateGrinder c) :=
          sendCommand_aiming
        have hsends := (Zooms.pre hreach fun σ (hσ : At v σ) => by rw [hσ.1]; exact hconnected).play_story
          hstart (fun _ => ⟨[], {}⟩)
        have honly := (haims.steady.pre fun σ (hσ : At v σ) => hσ.only).play_story hstart
          (fun _ => ⟨[], {}⟩)
        -- it sends to the client that was found, and so the target has to be that one
        obtain ⟨x, hx⟩ := List.exists_mem_of_ne_nil _ hsends
        exact Or.inl ((h.target _ x hx).trans (congrArg some (honly x hx)))
      · rintro (h | ⟨h, -⟩)
        · exact (calibration_deferred h).attempt_aims
        · rw [Option.any_some, hconnected] at h
          cases h

/-! ## After a wake-up -/

end

/-! ## A calibration of a sleeping machine -/

/-- A machine that sleeps on a link that is up. -/
def asleepMachine : World where
  coord :=
    { clients := [{ connected := true, status := { isSleeping := true } }]
      client := some 0
      store := { options := Dict.empty, selectedRecipe := none } }

/-- Every write and every connection succeeds, and nothing else happens. -/
def allDone (_ : ℕ) : Reply Answer Empty where
  moves := []
  response := {}

/-- Its calibration. -/
def asleepCalibration : Except PyErr Unit × Story World (Marked Event) Await Answer Empty :=
  (UserAction.calibrateGrinder.call (some 0)).run.play (fun w _ => w) (.start asleepMachine) allDone

end XBloom.Slots
