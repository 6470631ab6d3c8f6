/-
# XBloom.Coordinator.Finality — when a cancel is final

A cancel clears the flags and sends a stop, but it ends no other coroutine.  A call in flight is
*settled* at the points where it has no start command left to send and no flag left to set: its start
is out and it waits for the write, the echo or the machine, or it is an armed pour pushing its
setpoints.  From there every segment leaves the flags alone (`settled_segment`), so a cancel is final
when every operating call in flight is settled (`cancel_is_final`); a grind that waits for its burrs
is not, and starts after the cancel (`grind_starts_after_cancel`).
-/
import XBloom.Coordinator.Cancel

namespace XBloom.Coordinator

open XBloom.Async XBloom.Logic XBloom.Py XBloom.Ble XBloom.Recipe XBloom.Brewing

/-! ## Settled points -/

/-- A start command is sent. -/
def Event.starts : Event → Bool
  | .sent _ packet => startCommand packet.command
  | _ => false

/-- An event that starts nothing. -/
def NoStart (e : Entry Call Event) : Prop := e.event.starts = false

/-- The points where a call has no start command left to send and no flag left to set. -/
def settled : Await → Bool
  | .written command => startCommand command || setpointCommand command
  | .acked command => startCommand command
  | .startPoll => true
  | .pageSettle => true
  | .pageGap => true
  | _ => false

/-- The flags of operations stay as they are or are cleared. -/
structure World.OnlyClears (w w' : World) : Prop where
  armed : w.ClearsArmed w'
  active : w'.activeOperation = w.activeOperation ∨ w'.activeOperation = none

theorem World.OnlyClears.refl (w : World) : w.OnlyClears w := ⟨Or.inl rfl, Or.inl rfl⟩

theorem World.OnlyClears.trans {w w' w'' : World} (h : w.OnlyClears w') (h' : w'.OnlyClears w'') :
    w.OnlyClears w'' := by
  refine ⟨h.armed.trans h'.armed, ?_⟩
  rcases h'.active with hactive | hactive
  · rcases h.active with hold | hold
    · exact Or.inl (hactive.trans hold)
    · exact Or.inr (hactive.trans hold)
  · exact Or.inr hactive

/-- A segment that begins at a settled point, with its send done, on a machine that is awake.  The
deadline of the start check may pass. -/
def Calm (o : CoordinatorOrigin) : Prop :=
  ∃ l r, o.resumed = some (l, r) ∧ settled l = true ∧ (r = .failed → l = .startPoll) ∧
    o.state.1.asleep = false

/-- A segment that begins at a call or at a point that is not settled. -/
def Unsettled (o : CoordinatorOrigin) : Prop :=
  ∀ l r, o.resumed = some (l, r) → settled l = false

theorem Unsettled.not_calm {o : CoordinatorOrigin} (h : Unsettled o) : ¬ Calm o := by
  rintro ⟨l, r, hresumed, hsettled, _⟩
  rw [h l r hresumed] at hsettled
  cases hsettled

theorem unsettled_at {l : Await} {r : Response} {s : CoordinatorState}
    (h : settled l = false) : Unsettled ⟨some (l, r), s⟩ := by
  intro l' r' hresumed
  cases hresumed
  exact h

/-- **The contract of finality**: a calm segment starts nothing, only clears flags, and stops at a
settled point. -/
def finality : CoordinatorContract where
  inv _ := True
  rely _ _ _ _ := True
  guarantee _ o s s' := Calm o → s.1.OnlyClears s'.1 ∧ Adds NoStart s.2 s'.2
  stop _ o l := Calm o → ∀ l', l = some l' → settled l' = true
  assume _ _ := True
  ensure _ _ := True
  rely_refl _ _ _ := trivial
  rely_trans _ _ _ _ _ _ _ := trivial
  guarantee_refl _ _ s _ := ⟨.refl s.1, .refl s.2⟩
  guarantee_trans _ _ _ _ _ h h' hcalm :=
    ⟨(h hcalm).1.trans (h' hcalm).1, (h hcalm).2.trans (h' hcalm).2⟩

/-! ## Assertions -/

/-- The call may have something left to start. -/
def pending : CoordinatorAssertion := fun o _ => Unsettled o

/-- If the segment is calm, the machine is awake. -/
def awake : CoordinatorAssertion := fun o s => Calm o → s.1.asleep = false

/-- If the segment is calm, the machine is awake and no echo timed out. -/
def raised (e : PyErr) : CoordinatorAssertion := fun o s => awake o s ∧ (Calm o → e ≠ .ackTimeout)

variable {c : Call} {t : ℕ} {α : Type}

theorem pending_awake (o : CoordinatorOrigin) (s : CoordinatorState) (h : pending o s) :
    awake o s := fun hcalm => absurd hcalm (Unsettled.not_calm h)

theorem pending_raised (e : PyErr) (o : CoordinatorOrigin) (s : CoordinatorState)
    (h : pending o s) : raised e o s :=
  ⟨pending_awake o s h, fun hcalm => absurd hcalm (Unsettled.not_calm h)⟩

/-- A routine that waits at unsettled points only. -/
def unsettledFootprint : CoordinatorFootprint where
  awaits l := settled l = false
  emits _ := True
  writes _ _ := True

theorem pending_stable : Stable finality c t unsettledFootprint pending where
  write _ _ _ h _ := ⟨fun hcalm => absurd hcalm (Unsettled.not_calm h), h⟩
  emit _ _ _ h _ _ := ⟨trivial, fun hcalm => absurd hcalm (Unsettled.not_calm h), h⟩
  await _ _ _ h hl :=
    ⟨⟨trivial, fun hcalm => absurd hcalm (Unsettled.not_calm h)⟩, fun _ _ _ _ => unsettled_at hl⟩

/-- **A routine that waits at unsettled points only** leaves its call pending. -/
theorem pending_meets {x : Async α} (h : Within unsettledFootprint x) :
    Meets finality c t pending x (fun _ => pending) raised :=
  (h.meets pending_stable).weaken (fun _ _ h => h) (fun _ _ _ h => h) pending_raised

/-- A routine that may start something: from a pending call, it ends awake when its last segment was
calm, and a calm segment of it raises no `AckTimeout`. -/
def Goes (x : Async α) : Prop :=
  ∀ c t, Meets finality c t pending x (fun _ => awake) raised

theorem Goes.of_within {x : Async α} (h : Within unsettledFootprint x) : Goes x := fun _ _ =>
  (pending_meets h).weaken (fun _ _ h => h) (fun _ => pending_awake) fun _ _ _ h => h

/-- What a pending call runs first leaves it pending. -/
theorem Goes.after {β : Type} {x : Async α} {f : α → Async β} (hx : Within unsettledFootprint x)
    (hf : ∀ a, Goes (f a)) : Goes (x >>= f) := fun c t =>
  (pending_meets hx).bind fun a => hf a c t

theorem Goes.world {f : World → Async α} (h : ∀ w, Goes (f w)) : Goes (Routine.world >>= f) :=
  fun c t => .world fun w => (h w c t).pre fun _ _ hP => hP.1

theorem Goes.withClient {f : ℕ → Async α} (h : ∀ client, Goes (f client)) :
    Goes (withClient f) := by
  refine .world fun w => ?_
  split
  · exact h _
  · exact .of_within (.throw _)

/-- A footprint of sends whose points are all unsettled. -/
theorem sends_unsettled {awaits : List Await} {commands : List Command} {connects : Bool}
    (h : ∀ l ∈ awaits, settled l = false) : sends awaits commands connects ≤ unsettledFootprint :=
  sends_le h (fun _ _ _ => trivial) (fun _ _ => trivial) fun _ _ _ => trivial

theorem quiet_unsettled : quietFootprint ≤ unsettledFootprint := sends_unsettled (by decide)

theorem link_unsettled : linkFootprint ≤ unsettledFootprint := sends_unsettled (by decide)

theorem chain_unsettled : chainFootprint ≤ unsettledFootprint := sends_unsettled (by decide)

theorem stop_unsettled : stopFootprint ≤ unsettledFootprint := sends_unsettled (by decide)

/-! ## Start commands -/

/-- **A send**: once it is out, all that matters of its call is whether the machine is awake. -/
theorem sendCommand_goes (client : ℕ) (packet : Packet) : Goes (sendCommand client packet) := by
  refine .world fun w => ?_
  split
  · refine .after (.emit trivial) fun _ c t => .bind (Q := fun _ => awake) ?_ fun r => ?_
    · refine .await (fun o s hP => ⟨trivial, fun hcalm => absurd hcalm (Unsettled.not_calm hP)⟩) ?_
      rintro o s r s' _ _ _ ⟨l, r', _, _, _, hawake⟩
      exact hawake
    · split
      · exact .throw fun o s hP => ⟨hP, fun _ => by simp⟩
      · exact .pure fun o s hP => hP
  · exact .of_within (.throw _)

/-- 4512 and its echo. -/
theorem makeTea_goes (client : ℕ) (payload : List UInt8) : Goes (makeTea client payload) := by
  intro c t
  refine .bind (Q := fun _ => awake) ?_ fun _ => .pure fun _ _ h => h
  refine .bind (sendCommand_goes client _ c t) fun _ => .bind (Q := fun r o s =>
    awake o s ∧ (Calm o → r ≠ .failed)) ?_ fun r => ?_
  · refine .await (fun o s hP => ⟨trivial, fun _ l hl => by cases hl; rfl⟩) ?_
    intro o s r s' _ _ _
    constructor
    · rintro ⟨l, r', _, _, _, hawake⟩
      exact hawake
    · rintro ⟨l, r', hresumed, _, hfailed, _⟩ rfl
      cases hresumed
      cases hfailed rfl
  · split
    · exact .throw fun o s hP => ⟨hP.1, fun hcalm => absurd ‹_› (hP.2 hcalm)⟩
    · exact .pure fun o s hP => hP.1

theorem startUnconfirmed_raised : Meets finality c t awake startUnconfirmed (fun _ => awake) raised :=
  .throw fun _ _ h => ⟨h, fun _ => by simp⟩

/-- The start check waits at a settled point and never for an echo. -/
theorem verifyBrewStarted_awake (client : ℕ) : ∀ n, Meets finality c t awake
    (verifyBrewStarted client n) (fun _ => awake) raised := by
  intro n
  induction n with
  | zero => exact startUnconfirmed_raised
  | succ n ih =>
    refine .world fun w => ?_
    dsimp only
    split
    · exact .pure fun _ _ h => h.1
    · split
      · exact startUnconfirmed_raised.pre fun _ _ h => h.1
      · refine .bind (Q := fun _ => awake) ?_ fun polled => ?_
        · refine .await (fun o s hP => ⟨trivial, fun _ l hl => by cases hl; rfl⟩) ?_
          rintro o s r s' _ _ _ ⟨l, r', _, _, _, hawake⟩
          exact hawake
        · split
          · exact startUnconfirmed_raised
          · exact ih

theorem executeCoffeeRecipe_goes (client : ℕ) : Goes (executeCoffeeRecipe client) := fun c t =>
  (sendCommand_goes client _ c t).bind fun _ => verifyBrewStarted_awake client 80

/-! ## The wake-up retry -/

/-- **An action that went well on an awake machine is not tried again.** -/
theorem retryAttempts_goes {asleep : Bool} {action : Async α} (h : Goes action) :
    ∀ n, Goes (retryAttempts asleep action n) := by
  intro n
  induction n with
  | zero => exact h
  | succ n ih =>
    intro c t
    -- the retry delay is only awaited where the segment before was not calm
    have hdelay : ∀ P : CoordinatorAssertion, (∀ o s, P o s → ¬ Calm o) →
        Meets finality c t P (do
          let _ ← Routine.await .retryDelay
          retryAttempts asleep action n) (fun _ => awake) raised := by
      intro P hP
      refine .bind (Q := fun _ => pending) ?_ fun _ => ih c t
      exact .await (fun o s h => ⟨trivial, fun hcalm => absurd hcalm (hP o s h)⟩)
        fun _ _ _ _ _ _ _ => unsettled_at rfl
    refine .bind (Q := outcome (fun _ => awake) raised) ?_ fun result => ?_
    · exact .attempt (h c t)
    · cases result with
      | ok a =>
        refine .world fun w => ?_
        split
        · refine hdelay _ fun o s hP hcalm => ?_
          have hawake : s.1.asleep = false := hP.1 hcalm
          rw [hP.2] at hawake
          exact Bool.false_ne_true (hawake.symm.trans ‹_›)
        · exact .pure fun o s hP => hP.1
      | error e =>
        refine .world fun w => ?_
        split
        · rename_i htimeout
          exact hdelay _ fun o s hP hcalm => hP.1.2 hcalm htimeout.1
        · exact .throw fun o s hP => hP.1

theorem retryWhileSleeping_goes {action : Async α} (h : Goes action) :
    Goes (retryWhileSleeping action) :=
  .world fun _ => .after (.when (wakeMachine_within.mono link_unsettled)) fun _ =>
    retryAttempts_goes h 2

/-! ## Chains -/

theorem brewRecipe_goes (client : ℕ) (prepared : Prepared) : Goes (brewRecipe client prepared) := by
  unfold brewRecipe
  split
  · exact .after (asyncArmTea_within.mono chain_unsettled) fun _ => .after (.await rfl) fun _ =>
      makeTea_goes client _
  · exact .after (asyncArmCoffee_within.mono chain_unsettled) fun _ => .after (.await rfl) fun _ =>
      executeCoffeeRecipe_goes client

theorem confirmRecipe_goes (client : ℕ) (isTea : Bool) (payload : Option (List UInt8)) :
    Goes (confirmRecipe client isTea payload) := by
  unfold confirmRecipe
  split
  · split
    · exact makeTea_goes client _
    · exact .of_within (.throw _)
  · exact executeCoffeeRecipe_goes client

/-! ## Calls -/

/-- A routine that keeps the contract from a pending call to its end. -/
def Keeps (x : Async α) : Prop :=
  ∀ c t, Meets finality c t pending x (fun _ _ _ => True) fun _ _ _ => True

theorem Goes.keeps {x : Async α} (h : Goes x) : Keeps x := fun c t =>
  (h c t).weaken (fun _ _ h => h) (fun _ _ _ _ => trivial) fun _ _ _ _ => trivial

theorem Keeps.of_within {x : Async α} (h : Within unsettledFootprint x) : Keeps x :=
  (Goes.of_within h).keeps

theorem Keeps.after {β : Type} {x : Async α} {f : α → Async β} (hx : Within unsettledFootprint x)
    (hf : ∀ a, Keeps (f a)) : Keeps (x >>= f) := fun c t =>
  ((pending_meets hx).weaken (fun _ _ h => h) (fun _ _ _ h => h) fun _ _ _ _ => trivial).bind
    fun a => hf a c t

theorem Keeps.world {f : World → Async α} (h : ∀ w, Keeps (f w)) : Keeps (Routine.world >>= f) :=
  fun c t => .world fun w => (h w c t).pre fun _ _ hP => hP.1

/-- A routine that waits at settled points only, starts nothing and leaves the flags. -/
def settledFootprint : CoordinatorFootprint where
  awaits l := settled l = true
  emits e := e.starts = false
  writes := World.OnlyClears

theorem settled_stable : Stable finality c t settledFootprint fun _ _ => True where
  write _ s _ _ hclears := ⟨fun _ => ⟨hclears, .refl s.2⟩, trivial⟩
  emit _ s e _ he _ := by
    have hone : Adds NoStart s.2 (s.2 ++ [⟨t, c, e⟩]) := .one he s.2
    exact ⟨trivial, fun _ => ⟨.refl s.1, hone⟩, trivial⟩
  await _ _ _ _ hl := by
    refine ⟨⟨trivial, fun _ l' hl' => ?_⟩, fun _ _ _ _ => trivial⟩
    cases hl'
    exact hl

/-- **A tail that only clears flags keeps the contract** wherever it begins. -/
theorem Keeps.then_clears {β : Type} {x : Async α} {f : Except PyErr α → Async β} (hx : Goes x)
    (hf : ∀ r, Within settledFootprint (f r)) : Keeps (Routine.attempt x >>= f) := fun c t =>
  .bind (Q := fun _ _ _ => True)
    (.attempt ((hx c t).weaken (fun _ _ h => h) (fun _ _ _ _ => trivial) fun _ _ _ _ => trivial))
    fun r => (hf r).meets settled_stable

theorem ensureConnected_unsettled : Within unsettledFootprint ensureConnected :=
  ensureConnected_within.mono link_unsettled

/-- Behind the connection check of every operation. -/
theorem Keeps.connected {x : Async α} {a : α} (h : Keeps x) :
    Keeps (ensureConnected >>= fun connected => if connected then x else pure a) := by
  refine .after ensureConnected_unsettled fun connected => ?_
  cases connected with
  | true => exact h
  | false => exact .of_within (.pure _)

theorem beginConfirm_within : Within unsettledFootprint beginConfirm :=
  .world fun _ => .emit trivial

theorem brewerStart_goes : Goes brewerStart :=
  .world fun _ => .withClient fun client => .after (.lift _) fun _ => sendCommand_goes client _

theorem grinderEnterMode_within {client : ℕ} {size speed : ℤ} :
    Within unsettledFootprint (grinderEnterMode client size speed) := sendCommand_within rfl trivial

theorem grinderStart_goes (client : ℕ) (size speed : ℤ) : Goes (grinderStart client size speed) :=
  .after grinderEnterMode_within fun _ => .after (.await rfl) fun _ => sendCommand_goes client _

theorem Goes.withGrinder {f : ℕ → ℤ → ℤ → Async Unit} (h : ∀ client size speed, Goes (f client size speed)) :
    Goes (withGrinder f) := .world fun w => .withClient fun client => h client w.grindSize w.rpm

/-- A start under its operation's flag. -/
theorem started_goes {f : World → World} {x : Async Unit} (h : Goes x) :
    Goes (Routine.assign f >>= fun _ => retryWhileSleeping x) :=
  .after (.assign fun _ => trivial) fun _ => retryWhileSleeping_goes h

theorem asyncPour_keeps : Keeps asyncPour :=
  .connected (.then_clears (started_goes brewerStart_goes) fun _ => .pure _)

theorem asyncGrind_keeps : Keeps asyncGrind :=
  .connected (.then_clears (started_goes (.withGrinder grinderStart_goes)) fun _ => .pure _)

theorem asyncConfirmPour_keeps : Keeps asyncConfirmPour :=
  .after beginConfirm_within fun _ => .connected (.then_clears (started_goes brewerStart_goes)
    fun _ => .bind (.assign fun _ => ⟨Or.inr rfl, Or.inl rfl⟩) fun _ => .pure _)

theorem asyncConfirmGrind_keeps : Keeps asyncConfirmGrind :=
  .after beginConfirm_within fun _ => .connected
    (.then_clears (started_goes (.withGrinder fun client _ _ => sendCommand_goes client _))
      fun _ => .bind (.assign fun _ => ⟨Or.inr rfl, Or.inl rfl⟩) fun _ => .pure _)

theorem setArmed_within {op : Armed} : Within unsettledFootprint (setArmed op) :=
  .bind (.emit trivial) fun _ => .assign fun _ => trivial

theorem asyncArmGrind_keeps : Keeps asyncArmGrind :=
  .connected (.of_within (.bind (.attempt (.bind (retryWhileSleeping_within
    (.world fun _ => withClient_within fun _ => grinderEnterMode_within) rfl link_unsettled)
      fun _ => setArmed_within)) fun _ => .pure _))

theorem pushPourPage_within : Within settledFootprint pushPourPage :=
  .world fun _ => .bind (withClient_within fun _ => .bind (.lift _) fun _ =>
    sendCommand_within rfl rfl) fun _ => .bind (.await rfl) fun _ => .world fun _ =>
      withClient_within fun _ => sendCommand_within rfl rfl

theorem asyncArmPour_keeps : Keeps asyncArmPour := by
  refine .connected (.after (.attempt (.bind (retryWhileSleeping_within
    (withClient_within fun _ => sendCommand_within rfl trivial) rfl link_unsettled)
      fun _ => setArmed_within)) fun armed => ?_)
  cases armed with
  | error e => exact .of_within (.pure _)
  | ok a =>
    -- the arm is over; from here on only setpoints are pushed
    have htail : Within settledFootprint (do
        let _ ← Routine.await .pageSettle
        let _ ← Routine.attempt pushPourPage
        pure true : Async Bool) :=
      .bind (.await rfl) fun _ => .bind (.attempt pushPourPage_within) fun _ => .pure _
    exact fun c t => (htail.meets settled_stable).pre fun _ _ _ => trivial

theorem asyncCancel_within : Within unsettledFootprint asyncCancel := by
  refine .world fun w => .bind (.assign fun _ => trivial) fun _ =>
    .bind ensureConnected_unsettled fun connected => ?_
  split
  · exact .bind (.attempt (sendStops_within.mono stop_unsettled)) fun _ => .pure _
  · exact .pure _

theorem beginChain_within {prepared : Prepared} : Within unsettledFootprint (beginChain prepared) :=
  .world fun _ => .emit trivial

theorem executePrepared_keeps (prepared : Prepared) : Keeps (executePrepared prepared) := by
  refine .after beginChain_within fun _ => .then_clears
    (started_goes (.withClient fun client => brewRecipe_goes client prepared)) fun brewed => ?_
  cases brewed with
  | ok a => exact .pure _
  | error e => exact .assign fun _ => ⟨Or.inl rfl, Or.inr rfl⟩

theorem armPrepared_within {prepared : Prepared} :
    Within unsettledFootprint (armPrepared prepared) := by
  refine .bind beginChain_within fun _ => .bind (.attempt (.bind (retryWhileSleeping_within
    (withClient_within fun _ => armRecipe_within.mono chain_unsettled) rfl link_unsettled) fun _ =>
      .bind setArmed_within fun _ => .assign fun _ => trivial)) fun armed => ?_
  cases armed with
  | ok a => exact .pure _
  | error e => exact .assign fun _ => trivial

theorem asyncConfirmRecipe_keeps : Keeps asyncConfirmRecipe := by
  refine .after beginConfirm_within fun _ => .connected (.then_clears (started_goes
    (.world fun w => .withClient fun client => confirmRecipe_goes client _ _)) fun started => ?_)
  cases started with
  | ok a => exact .bind (.assign fun _ => ⟨Or.inr rfl, Or.inl rfl⟩) fun _ => .pure _
  | error e => exact .bind (.assign fun _ => ⟨Or.inr rfl, Or.inr rfl⟩) fun _ => .pure _

section
variable {I : Identifiers} {yaml : YamlLayer}

theorem withPrepared_keeps {args : BrewArgs} {f : Prepared → Async Unit}
    (h : ∀ prepared, Keeps (f prepared)) : Keeps (withPrepared I yaml args f) := by
  refine .connected (.world fun w => .after (.lift _) fun prepared => ?_)
  cases prepared with
  | some prepared => exact h prepared
  | none => exact .of_within (.pure _)

theorem asyncArmRecipe_keeps (args : BrewArgs) : Keeps (asyncArmRecipe I yaml args) :=
  withPrepared_keeps fun _ => .of_within armPrepared_within

theorem Keeps.drop {x : Async Bool} (h : Keeps x) : Keeps (drop x) := fun c t =>
  (h c t).bind fun _ => .pure fun _ _ h => h

theorem press_keeps {op : Armed} {confirm arm : Async Unit} (hconfirm : Keeps confirm)
    (harm : Keeps arm) : Keeps (press op confirm arm) := by
  refine .world fun w => ?_
  split
  · exact hconfirm
  · exact harm

theorem toolPhase_keeps (args : ToolArgs) (name : String) (recipe : RecipeDict) :
    Keeps (toolPhase I yaml args name recipe) := by
  refine .world fun w => ?_
  split
  · exact .of_within (.pure _)
  · split
    · exact .after (.emit trivial) fun _ => .drop asyncConfirmRecipe_keeps
    · exact .after (.assign fun _ => trivial) fun _ => .world fun w =>
        .after (.when asyncCancel_within) fun _ => asyncArmRecipe_keeps _

theorem executeRecipeTool_keeps (args : ToolArgs) : Keeps (executeRecipeTool I yaml args) := by
  refine .world fun w => ?_
  split
  · exact .of_within (.pure _)
  · split
    · exact toolPhase_keeps _ _ _
    · refine .after (asyncConnect_within.mono link_unsettled) fun connected => ?_
      split
      · exact toolPhase_keeps _ _ _
      · exact .of_within (.pure _)

/-- **Every call keeps the contract of finality.** -/
theorem routine_keeps (call : Call) : Keeps (call.routine I yaml) := by
  have hquiet : ∀ {x : Async Unit}, Within quietFootprint x → Keeps x :=
    fun h => .of_within (h.mono quiet_unsettled)
  cases call with
  | pour => exact asyncPour_keeps
  | armPour => exact .drop asyncArmPour_keeps
  | confirmPour => exact .drop asyncConfirmPour_keeps
  | grind => exact asyncGrind_keeps
  | armGrind => exact .drop asyncArmGrind_keeps
  | confirmGrind => exact .drop asyncConfirmGrind_keeps
  | executeRecipe args => exact withPrepared_keeps executePrepared_keeps
  | armRecipe args => exact asyncArmRecipe_keeps args
  | confirmRecipe => exact .drop asyncConfirmRecipe_keeps
  | cancel => exact .of_within asyncCancel_within
  | connect => exact .drop (.of_within (asyncConnect_within.mono link_unsettled))
  | disconnect => exact hquiet asyncDisconnect_within
  | dropStaleLink => exact hquiet asyncDropStaleLink_within
  | enterIdleStandby => exact hquiet asyncEnterIdleStandby_within
  | pressGrind => exact press_keeps (.drop asyncConfirmGrind_keeps) (.drop asyncArmGrind_keeps)
  | pressPour => exact press_keeps (.drop asyncConfirmPour_keeps) (.drop asyncArmPour_keeps)
  | pressRecipe => exact press_keeps (.drop asyncConfirmRecipe_keeps) (asyncArmRecipe_keeps _)
  | executeRecipeTool args => exact executeRecipeTool_keeps args

/-! ## Cancels -/

theorem finality_wp (call : Call) (t : ℕ) (s : CoordinatorState) :
    wp finality call t (fun _ => finality.rests call none) ((system I yaml).program call)
      ⟨none, s⟩ s := by
  show wp finality call t _ ((call.routine I yaml).run.bind fun _ => .ret ()) ⟨none, s⟩ s
  rw [wp_bind]
  refine wp_mono (routine_keeps call call t ⟨none, s⟩ s fun l r h => by cases h) ?_
  exact fun _ _ _ _ => ⟨trivial, fun _ l hl => by cases hl⟩

/-- Nothing is relied on and nothing assumed, so every step keeps the contract. -/
theorem finality_stepOk (p : CoordinatorPool) (a : CoordinatorAction) :
    StepOk finality (system I yaml) p a where
  begins call _ := finality_wp call p.spawned p.state
  assumed _ _ := emits_of_forall (fun _ _ => trivial) _ _
  heeded _ _ _ _ _ _ _ _ := trivial
  moved _ _ := ⟨trivial, fun _ _ _ _ => trivial⟩

/-- **A calm segment** starts nothing, clears flags at most, and ends or waits at a settled point. -/
theorem settled_segment {p : CoordinatorPool} {a : CoordinatorAction}
    {turn : Turn World Event Await Response Call} (hp : PoolOk finality p)
    (hturn : p.turn (system I yaml) a = some turn) (hcalm : Calm ⟨turn.resumed, p.state⟩) :
    (∀ e ∈ p.emitted (system I yaml) a, e.starts = false) ∧
      p.world.OnlyClears (p.step (system I yaml) a).world ∧
      ∀ τ, (p.step (system I yaml) a).tasks turn.task = some τ → settled τ.label = true := by
  obtain ⟨hworld, _, htasks⟩ := Pool.step_of_turn hturn
  obtain ⟨_, hguarantee, hrests, _⟩ :=
    turn_ok (hp.turn_wp (finality_stepOk p a) hturn) (emits_of_forall (fun _ _ => trivial) _ _)
  obtain ⟨hclears, es, htrace, hes⟩ := hguarantee hcalm
  refine ⟨fun e he => ?_, ?_, fun τ hτ => ?_⟩
  · rw [Pool.emitted_of_turn hturn] at he
    have hmark : mark turn.task turn.call (turn.body.segment p.world).2.1 = es :=
      List.append_cancel_left htrace
    exact hes ⟨turn.task, turn.call, e⟩ (by rw [← hmark]; exact List.mem_map_of_mem he)
  · rw [hworld]
    exact hclears
  · rw [htasks, Function.update_self] at hτ
    refine hrests.2 hcalm τ.label ?_
    show (turn.body.segment p.world).2.2.label = some τ.label
    cases hstop : (turn.body.segment p.world).2.2 with
    | done a =>
      rw [hstop] at hτ
      cases hτ
    | waits l k =>
      rw [hstop] at hτ
      cases hτ
      rfl

/-- The calls that start or arm an operation. -/
def Call.operates : Call → Bool
  | .cancel => false
  | .connect => false
  | .disconnect => false
  | .dropStaleLink => false
  | .enterIdleStandby => false
  | _ => true

/-- Every operating call of the first `n` is settled. -/
def AllSettled (n : ℕ) (p : CoordinatorPool) : Prop :=
  ∀ t τ, t < n → p.tasks t = some τ → τ.call.operates = true → settled τ.label = true

section
variable (I : Identifiers) (yaml : YamlLayer)

/-- When a step resumes an operating call of the first `n`, its send went well and the machine is
awake. -/
def GoesWell (n : ℕ) (p : CoordinatorPool) (a : CoordinatorAction) : Prop :=
  ∀ turn l r, p.turn (system I yaml) a = some turn → turn.task < n → turn.call.operates = true →
    turn.resumed = some (l, r) → (r = .failed → l = .startPoll) ∧ p.world.asleep = false

/-- When a step moves an operating call of the first `n`, it sends no start command and sets no flag. -/
def StartsNothing (n : ℕ) (p : CoordinatorPool) (a : CoordinatorAction) : Prop :=
  ∀ turn, p.turn (system I yaml) a = some turn → turn.task < n → turn.call.operates = true →
    (∀ e ∈ p.emitted (system I yaml) a, e.starts = false) ∧
      p.world.OnlyClears (p.step (system I yaml) a).world

end

/-- What a run after a cancel keeps. -/
structure Settled (n : ℕ) (p : CoordinatorPool) : Prop where
  ok : PoolOk finality p
  settled : AllSettled n p
  spawned : n ≤ p.spawned

theorem Settled.step {n : ℕ} {p : CoordinatorPool} {a : CoordinatorAction} (h : Settled n p)
    (ha : GoesWell I yaml n p a) :
    Settled n (p.step (system I yaml) a) ∧ StartsNothing I yaml n p a := by
  -- a turn of one of the first `n` calls begins at a settled point
  have hcalm : ∀ turn, p.turn (system I yaml) a = some turn → turn.task < n →
      turn.call.operates = true → Calm ⟨turn.resumed, p.state⟩ := by
    intro turn hturn hlt hoperates
    rcases Pool.turn_cases hturn with ⟨htask, _⟩ | ⟨τ, r, hτ, hcall, hresumed, _⟩
    · exact absurd (htask ▸ hlt) (by have := h.spawned; omega)
    · obtain ⟨hfailed, hawake⟩ := ha turn τ.label r hturn hlt hoperates hresumed
      exact ⟨τ.label, r, hresumed, h.settled _ τ hlt hτ (hcall ▸ hoperates), hfailed, hawake⟩
  refine ⟨⟨(h.ok.step (finality_stepOk p a)).1, ?_, ?_⟩, fun turn hturn hlt hoperates => ?_⟩
  · intro t τ hlt hτ hoperates
    cases hturn : p.turn (system I yaml) a with
    | some turn =>
      by_cases ht : t = turn.task
      · subst ht
        have hcall : turn.call = τ.call := by
          rw [(Pool.step_of_turn hturn).2.2, Function.update_self] at hτ
          cases hstop : (turn.body.segment p.world).2.2 with
          | done a =>
            rw [hstop] at hτ
            cases hτ
          | waits l k =>
            rw [hstop] at hτ
            cases hτ
            rfl
        exact (settled_segment h.ok hturn (hcalm turn hturn hlt (hcall ▸ hoperates))).2.2 τ hτ
      · rw [(Pool.step_of_turn hturn).2.2, Function.update_of_ne ht] at hτ
        exact h.settled t τ hlt hτ hoperates
    | none =>
      rw [(Pool.step_of_no_turn hturn).2] at hτ
      exact h.settled t τ hlt hτ hoperates
  · exact h.spawned.trans ((p.spawned_le a).trans (p.step_spawned a).ge)
  · obtain ⟨hstarts, hclears, _⟩ := settled_segment h.ok hturn (hcalm turn hturn hlt hoperates)
    exact ⟨hstarts, hclears⟩

/-- **When a cancel is final.**  In every run in which a cancel is called on a connected machine while
every operating call in flight is settled, and from then on those calls find the machine awake and
their sends succeed: the cancel has sent its command, and none of those calls sends a start command or
sets a flag afterwards. -/
theorem cancel_is_final (p : CoordinatorPool) (hp : Reachable I yaml p)
    (hlink : p.world.linkUp = true) (hsettled : AllSettled p.spawned p)
    (after : List CoordinatorAction)
    (hwell : AllSteps (Pool.step (system I yaml)) (GoesWell I yaml p.spawned)
      (p.step (system I yaml) (.spawn .cancel)) after) :
    (∃ client, (p.step (system I yaml) (.spawn .cancel)).trace =
      p.trace ++ [⟨p.spawned, .cancel, .sent client { command := p.world.cancelCommand }⟩]) ∧
      AllSteps (Pool.step (system I yaml)) (StartsNothing I yaml p.spawned)
        (p.step (system I yaml) (.spawn .cancel)) after := by
  have hok : PoolOk finality p := by
    obtain ⟨w, as, rfl⟩ := hp
    exact run_preserves (fun q a hq => (hq.step (finality_stepOk q a)).1) (poolOk_idle trivial) as
  obtain ⟨client, hc, hconnected⟩ := linkUp_iff.mp hlink
  refine ⟨⟨client, (cancel_step hc hconnected).1⟩, ?_⟩
  have hstep : ∀ q a, Settled p.spawned q → GoesWell I yaml p.spawned q a →
      Settled p.spawned (q.step (system I yaml) a) ∧ StartsNothing I yaml p.spawned q a :=
    fun q a hq ha => hq.step ha
  refine AllSteps.of_invariant hstep ?_ hwell
  refine ⟨(hok.step (finality_stepOk p _)).1, fun t τ hlt hτ hoperates => ?_, Nat.le_succ _⟩
  have hturn : p.turn (system I yaml) (.spawn .cancel) = some _ := rfl
  have hne : t ≠ p.spawned := by omega
  rw [(Pool.step_of_turn hturn).2.2, Function.update_of_ne hne] at hτ
  exact hsettled t τ hlt hτ hoperates

end

/-! ## A grind that has started, and one that has not -/

/-- A step that resumes a task well, on a machine that is awake. -/
theorem goesWell_done {I : Identifiers} {yaml : YamlLayer} {n t : ℕ} {p : CoordinatorPool}
    (h : p.world.asleep = false) : GoesWell I yaml n p (.resume t .done) := by
  intro turn l r hturn _ _ hresumed
  rcases Pool.turn_cases hturn with ⟨_, hnone, _⟩ | ⟨τ, r', _, _, hsome, _, ha⟩
  · rw [hnone] at hresumed
    cases hresumed
  · cases ha
    rw [hsome] at hresumed
    cases hresumed
    exact ⟨fun hfailed => absurd hfailed (by decide), h⟩

/-- The start command of this grind is being written when the cancel is called. -/
def startedGrind : List CoordinatorAction := [.spawn .grind, .resume 0 .done, .resume 0 .done]

/-- After that cancel the grind ends, and starts nothing more. -/
theorem started_grind_ends :
    AllSteps (Pool.step (system plainIdentifiers morningYaml))
      (StartsNothing plainIdentifiers morningYaml (connectedRun startedGrind).spawned)
      ((connectedRun startedGrind).step (system plainIdentifiers morningYaml) (.spawn .cancel))
      [.resume 0 .done] := by
  refine (cancel_is_final (connectedRun startedGrind) ⟨connectedWorld, startedGrind, rfl⟩
    (by decide +kernel) ?_ [.resume 0 .done] ⟨goesWell_done (by decide +kernel), trivial⟩).2
  intro t τ hlt hτ _
  have hspawned : (connectedRun startedGrind).spawned = 1 := by decide +kernel
  have hlabel : ((connectedRun startedGrind).tasks 0).map Suspended.label =
      some (.written .grinderStart) := by decide +kernel
  obtain rfl : t = 0 := by omega
  rw [hτ] at hlabel
  rw [Option.some.inj hlabel]
  rfl

/-- **A grind starts after the cancel.**  The cancel is called while the burrs move into place; it
clears the flag and sends 3505, and two seconds later the grind sends 3500. -/
theorem grind_starts_after_cancel :
    let p := connectedRun [.spawn .grind, .resume 0 .done]
    let q := continueFrom plainIdentifiers morningYaml p [.spawn .cancel, .resume 0 .done]
    p.world.linkUp = true ∧ p.world.asleep = false ∧
      q.trace.map (fun e => (e.task, e.event.command)) =
        [(0, some .grinderIn), (1, some .grinderStop), (0, some .grinderStart)] := by
  decide +kernel

end XBloom.Coordinator
