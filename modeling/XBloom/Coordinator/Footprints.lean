/-
# XBloom.Coordinator.Footprints — where the coroutines wait, and what they touch

Every coroutine below the calls sends a few commands only and waits at a few points.  Waking and
dropping a link sends the handshake at most, connecting one adds the cleanup and the push of unit changes,
a chain its four steps, a cancel its stops and quits; none of them writes a flag of an operation or a recipe.
-/
import XBloom.Async.Rules
import XBloom.Coordinator.Calls

namespace XBloom.Coordinator

open XBloom.Async XBloom.Py XBloom.Ble XBloom.Recipe XBloom.Brewing

/-- The footprints of the coordinator. -/
abbrev CoordinatorFootprint := Footprint World Event Await

/-- The flags of operations, the recipes and the grinder's sliders are as they were, and no status is
made up but that of a new client. -/
structure World.SameOperations (w w' : World) : Prop where
  armed : w'.armedOperation = w.armedOperation
  active : w'.activeOperation = w.activeOperation
  manualPaused : w'.manualPaused = w.manualPaused
  manualRunSeen : w'.manualRunSeen = w.manualRunSeen
  manualPauseSeen : w'.manualPauseSeen = w.manualPauseSeen
  store : w'.store = w.store
  executing : w'.executingRecipe = w.executingRecipe
  pours : w'.activeRecipePours = w.activeRecipePours
  grindSize : w'.grindSize = w.grindSize
  rpm : w'.rpm = w.rpm
  statuses : ∀ c' ∈ w'.clients, c'.status = {} ∨ ∃ c ∈ w.clients, c'.status = c.status

/-- The flags of the link are no operation's. -/
theorem World.same_link {w : World} {client : Option ℕ}
    {locked manual idle force standby : Bool} : w.SameOperations { w with
      client := client, connectLocked := locked, manualDisconnect := manual
      idleDisconnected := idle, forceReconnectPending := force, idleStandbyPending := standby } :=
  ⟨rfl, rfl, rfl, rfl, rfl, rfl, rfl, rfl, rfl, rfl, fun c hc => Or.inr ⟨c, hc, rfl⟩⟩

/-- A client's link comes up or goes down; its status stays. -/
theorem World.same_linked {w : World} {c : ℕ} {linked : Bool} :
    w.SameOperations (w.setClient c fun client => { client with connected := linked }) := by
  refine ⟨rfl, rfl, rfl, rfl, rfl, rfl, rfl, rfl, rfl, rfl, fun c' hc' => Or.inr ?_⟩
  obtain ⟨n, hn⟩ := List.mem_iff_getElem?.mp hc'
  have hmodify : (w.clients.modify c fun client => { client with connected := linked })[n]? =
      some c' := hn
  rw [List.getElem?_modify] at hmodify
  obtain ⟨client, hclient, rfl⟩ := Option.map_eq_some_iff.mp hmodify
  refine ⟨client, List.mem_of_getElem? hclient, ?_⟩
  split
  · rfl
  · rfl

/-- A new client has the status of none. -/
theorem World.same_newClient {w : World} {client : Option ℕ} {manual idle : Bool} :
    w.SameOperations { w with
      clients := w.clients ++ [{}], client := client, manualDisconnect := manual
      idleDisconnected := idle } := by
  refine ⟨rfl, rfl, rfl, rfl, rfl, rfl, rfl, rfl, rfl, rfl, fun c' hc' => ?_⟩
  rcases List.mem_append.mp hc' with hold | hnew
  · exact Or.inr ⟨c', hold, rfl⟩
  · exact Or.inl (by rw [List.mem_singleton.mp hnew])

/-- What is pending for the machine is no operation's either. -/
theorem World.same_pending {w : World} {pending : Finset UnitKey} {locked : Bool} :
    w.SameOperations { w with pendingUnitPushes := pending, unitPushLocked := locked } :=
  ⟨rfl, rfl, rfl, rfl, rfl, rfl, rfl, rfl, rfl, rfl, fun c hc => Or.inr ⟨c, hc, rfl⟩⟩

/-- Waiting at some points, sending some commands, and starting connects if `connects`. -/
def sends (awaits : List Await) (commands : List Command) (connects : Bool) :
    CoordinatorFootprint where
  awaits l := awaits.contains l = true
  emits
    | .sent _ packet => commands.contains packet.command = true
    | .connecting _ => connects = true
    | _ => False
  writes := World.SameOperations

/-- The quiet half of the link: the handshake, and drops. -/
def quietFootprint : CoordinatorFootprint :=
  sends [.unlink, .refresh, .wakePoll, .written .handshake] [.handshake] false

/-- The commands of a push of unit changes. -/
def pushCommands : List Command := [.weightUnitSet, .tempUnitSet, .waterSourceSet, .backToHome]

/-- Where a connect or a push waits. -/
def linkAwaits : List Await :=
  [.unlink, .refresh, .wakePoll, .written .handshake, .lock, .link, .notify, .resetGap,
    .written .recipeStop, .written .brewerQuit, .written .grinderQuit, .unitLock, .unitRetry,
    .settingSettle] ++ pushCommands.flatMap fun k => [.written k, .acked k]

/-- The link: also connects, with their cleanup and what is pending. -/
def linkFootprint : CoordinatorFootprint :=
  sends linkAwaits ([.handshake, .recipeStop, .brewerQuit, .grinderQuit] ++ pushCommands) true

/-- The commands of a chain before its go. -/
def chainCommands : List Command :=
  [.backToHome, .setBypass, .setCup, .recipeSendAuto, .recipeSendManual, .teaRecipeCode]

/-- A chain before its go. -/
def chainFootprint : CoordinatorFootprint :=
  sends (.settle :: chainCommands.flatMap fun k => [.written k, .acked k]) chainCommands false

/-- 8002, 4512, 3500 and 4506. -/
def startCommand : Command → Bool
  | .recipeExecute => true
  | .teaRecipeMake => true
  | .grinderStart => true
  | .brewerStart => true
  | _ => false

/-- The setpoints an armed pour pushes. -/
def setpointCommand : Command → Bool
  | .brewerSetTemperature => true
  | .brewerSetPattern => true
  | _ => false

/-- The go commands of recipes. -/
def goFootprint : CoordinatorFootprint :=
  sends [.written .recipeExecute, .written .teaRecipeMake, .acked .teaRecipeMake, .startPoll]
    [.recipeExecute, .teaRecipeMake] false

/-- The polls of the start check. -/
def pollFootprint : CoordinatorFootprint := sends [.startPoll] [] false

/-- The stops and quits of a cancel. -/
def stopFootprint : CoordinatorFootprint :=
  sends
    [.written .recipeStop, .written .grinderStop, .written .brewerStop, .written .grinderQuit,
      .written .brewerQuit, .written .recipeStartQuit, .stopPoll, .stopGap]
    [.recipeStop, .grinderStop, .brewerStop, .grinderQuit, .brewerQuit, .recipeStartQuit] false

variable {F : CoordinatorFootprint} {α : Type} {c : ℕ} {packet : Packet}

/-- What a footprint of sends is allowed by. -/
theorem sends_le {awaits : List Await} {commands : List Command} {connects : Bool}
    (hawaits : ∀ l ∈ awaits, F.awaits l)
    (hsent : ∀ c packet, packet.command ∈ commands → F.emits (.sent c packet))
    (hconnecting : connects = true → ∀ armed, F.emits (.connecting armed))
    (hwrites : ∀ w w', w.SameOperations w' → F.writes w w') : sends awaits commands connects ≤ F := by
  refine ⟨fun l hl => hawaits l (List.contains_iff_mem.mp hl), fun e he => ?_, hwrites⟩
  cases e with
  | sent c packet => exact hsent c packet (List.contains_iff_mem.mp he)
  | connecting armed => exact hconnecting he armed
  | armed op => cases he
  | chain armed uid => cases he
  | confirming armed => cases he
  | naming uid => cases he

/-- The link does what its quiet half does. -/
theorem quiet_le_link : quietFootprint ≤ linkFootprint :=
  have hawaits : ∀ l ∈ [Await.unlink, .refresh, .wakePoll, .written .handshake],
      linkFootprint.awaits l := by
    simp [linkFootprint, sends, linkAwaits]
  sends_le hawaits (fun _ _ h => by simp [linkFootprint, sends, List.mem_singleton.mp h])
    (fun h => absurd h (by decide)) fun _ _ h => h

/-! ## Sends -/

/-- A send waits for its write only. -/
theorem sendCommand_within (hawait : F.awaits (.written packet.command))
    (hsent : F.emits (.sent c packet)) : Within F (sendCommand c packet) := by
  refine .world fun w => ?_
  split
  · refine .bind (.emit hsent) fun _ => .bind (.await hawait) fun r => ?_
    split
    · exact .throw _
    · exact .pure _
  · exact .throw _

/-- A send that waits for its echo waits for its write and that. -/
theorem sendAndWait_within (hwritten : F.awaits (.written packet.command))
    (hacked : F.awaits (.acked packet.command)) (hsent : F.emits (.sent c packet)) :
    Within F (sendAndWait c packet) := by
  refine .bind (sendCommand_within hwritten hsent) fun _ => .bind (.await hacked) fun r => ?_
  split
  · exact .throw _
  · exact .pure _

/-- A method of the client does what it does with some client; without one it raises. -/
theorem withClient_within {f : ℕ → Async α} (h : ∀ c, Within F (f c)) : Within F (withClient f) := by
  refine .world fun w => ?_
  split
  · exact h _
  · exact .throw _

/-! ## Connecting and dropping -/

/-- The handshake, whose failure is reported and not raised. -/
theorem sendHandshake_within : Within quietFootprint (sendHandshake c) := by
  refine .world fun w => ?_
  split
  · exact .bind (.attempt (sendCommand_within rfl rfl)) fun _ => .pure _
  · exact .pure _

/-- The cleanup: a recipe stop and two quits, with gaps between them. -/
theorem cleanUp_within : Within linkFootprint (cleanUp c) :=
  .bind (sendCommand_within rfl rfl) fun _ => .bind (.await rfl) fun _ =>
    .bind (sendCommand_within rfl rfl) fun _ => .bind (sendCommand_within rfl rfl) fun _ =>
      .bind (.await rfl) fun _ => .pure _

/-- The reset is a handshake and a cleanup. -/
theorem resetState_within : Within linkFootprint (resetState c) :=
  .bind (sendHandshake_within.mono quiet_le_link) fun _ => .bind (.await rfl) fun _ =>
    .bind (.attempt cleanUp_within) fun _ => .pure _

/-- A client that connects is reset. -/
theorem clientConnect_within : Within linkFootprint (clientConnect c) := by
  refine .bind (.await rfl) fun linked => ?_
  split
  · exact .pure _
  · refine .bind (.assign fun _ => World.same_linked) fun _ =>
      .bind (.await rfl) fun notifying => ?_
    split
    · exact .throw _
    · exact .bind (.await rfl) fun _ => .bind resetState_within fun _ =>
        .bind (.await rfl) fun _ => .pure _

/-- A setting is sent again until it is echoed. -/
theorem unitAttempts_within (h : packet.command ∈ pushCommands) (asleep : Bool) (n : ℕ) :
    Within linkFootprint (unitAttempts c packet asleep n) := by
  have hawaits : ∀ k ∈ pushCommands, linkAwaits.contains (.written k) = true ∧
      linkAwaits.contains (.acked k) = true := by decide
  have hsent : linkFootprint.emits (.sent c packet) :=
    List.contains_iff_mem.mpr (List.mem_append_right _ h)
  have hsend : Within linkFootprint (sendAndWait c packet) :=
    sendAndWait_within (hawaits _ h).1 (hawaits _ h).2 hsent
  induction n with
  | zero => exact .bind hsend fun _ => .pure _
  | succ n ih =>
    refine .bind (.attempt hsend) fun sent => ?_
    split
    · exact .pure _
    · split
      · exact .bind (.when (.bind (.await rfl) fun _ => .pure _)) fun _ => ih
      · exact .throw _

/-- So is the setting of a key. -/
theorem sendUnitCommand_within {client : Option ℕ} {push : Command × ℤ} (h : push.1 ∈ pushCommands) :
    Within linkFootprint (sendUnitCommand client push) := by
  unfold sendUnitCommand
  split
  · exact .world fun _ => .bind (.lift _) fun _ => unitAttempts_within h _ _
  · exact .throw _

/-- 8022 is written once, and what it raises is logged. -/
theorem returnMachineHome_within {client : Option ℕ} :
    Within linkFootprint (returnMachineHome client) := by
  refine .bind (.await rfl) fun _ => .bind (.attempt ?_) fun _ => .pure _
  split
  · exact sendAndWait_within rfl rfl rfl
  · exact .throw _

theorem World.unitPushCommand_mem (w : World) (key : UnitKey) :
    (w.unitPushCommand key).1 ∈ pushCommands := by
  cases key <;> simp [World.unitPushCommand, pushCommands]

theorem World.same_discardSent (w : World) (key : UnitKey) (payload : ℤ) :
    w.SameOperations (w.discardSent key payload) := by
  unfold World.discardSent
  split
  · exact World.same_pending
  · exact World.same_pending

/-- The keys that are pending go out one after the other. -/
theorem pushKeys_within {client : Option ℕ} (keys : List UnitKey) (sent : Bool) :
    Within linkFootprint (pushKeys client keys sent) := by
  induction keys generalizing sent with
  | nil => exact .pure _
  | cons key rest ih =>
    refine .world fun w => ?_
    split
    · refine .bind (.attempt (sendUnitCommand_within (w.unitPushCommand_mem key))) fun outcome => ?_
      have hnext : Within linkFootprint (do
          Routine.assign fun v => v.discardSent key (w.unitPushCommand key).2
          pushKeys client rest true) :=
        .bind (.assign fun v => v.same_discardSent _ _) fun _ => ih true
      split
      · exact hnext
      · split
        · exact hnext
        · exact .pure _
    · exact ih sent

/-- **A push touches the link only**: its lock, the pending keys and their commands. -/
theorem applyUnitPreferences_within {client : Option ℕ} :
    Within linkFootprint (applyUnitPreferences client) :=
  .world fun _ => .bind (.when (.bind (.await rfl) fun _ => .pure _)) fun _ =>
    .bind (.assign fun _ => World.same_pending) fun _ =>
      .bind (.attempt (.bind (pushKeys_within _ _) fun _ => .when returnMachineHome_within)) fun _ =>
        .bind (.assign fun _ => World.same_pending) fun _ => .lift _

/-- A new client is connected and told what is pending, or it is forgotten. -/
theorem connectClient_within : Within linkFootprint (connectClient c) := by
  refine .bind clientConnect_within fun connected => ?_
  split
  · exact .world fun _ => .bind (.when applyUnitPreferences_within) fun _ => .bind (.await rfl) fun _ =>
      .bind (.assign fun _ => World.same_link) fun _ => .pure _
  · exact .bind (.assign fun _ => World.same_link) fun _ => .pure _

/-- A connect that raises forgets its client. -/
theorem connectNew_within {n : ℕ} : Within linkFootprint (connectNew n) := by
  refine .bind (.assign fun _ => World.same_newClient) fun _ =>
    .bind (.attempt connectClient_within) fun connected => ?_
  split
  · exact .pure _
  · exact .bind (.assign fun _ => World.same_link) fun _ => .pure _

/-- Under the lock a link that is up is left alone. -/
theorem connectLocked_within : Within linkFootprint connectLocked := by
  refine .world fun w => ?_
  split
  · exact .pure _
  · exact .bind (.emit rfl) fun _ => connectNew_within

/-- **A connect touches the link only**: its lock, its clients and the cleanup. -/
theorem asyncConnect_within : Within linkFootprint asyncConnect := by
  refine .world fun w => .bind (.when (.bind (.await rfl) fun _ => .pure _)) fun _ =>
    .bind (.assign fun _ => World.same_link) fun _ => .bind (.attempt connectLocked_within) fun _ =>
      .bind (.assign fun _ => World.same_link) fun _ => .lift _

/-- A disconnect sends nothing. -/
theorem clientDisconnect_within : Within quietFootprint (clientDisconnect c) := by
  refine .world fun w => ?_
  split
  · refine .bind (.await rfl) fun _ => .bind (.await rfl) fun unlinked => ?_
    split
    · exact .throw _
    · exact .assign fun _ => World.same_linked
  · exact .pure _

/-- A client that is dropped is forgotten, whatever its disconnect raises. -/
theorem dropClient_within : Within quietFootprint dropClient := by
  refine .world fun w => ?_
  split
  · exact .bind (.attempt clientDisconnect_within) fun _ => .assign fun _ => World.same_link
  · exact .pure _

/-- **A disconnect is quiet**: it drops the client and refreshes. -/
theorem asyncDisconnect_within : Within quietFootprint asyncDisconnect :=
  .bind (.assign fun _ => World.same_link) fun _ => .bind dropClient_within fun _ =>
    .bind (.await rfl) fun _ => .pure _

/-- So is the drop of a stale link, which takes the user's mark back. -/
theorem asyncDropStaleLink_within : Within quietFootprint asyncDropStaleLink :=
  .bind (.attempt (.bind asyncDisconnect_within fun _ => .assign fun _ => World.same_link)) fun _ =>
    .bind (.assign fun _ => World.same_link) fun _ => .lift _

/-- So is the standby. -/
theorem asyncEnterIdleStandby_within : Within quietFootprint asyncEnterIdleStandby :=
  .bind (.assign fun _ => World.same_link) fun _ => .bind (.attempt asyncDisconnect_within) fun _ =>
    .bind (.assign fun _ => World.same_link) fun _ => .lift _

/-- A call that wants a link connects only from standby. -/
theorem ensureConnected_within : Within linkFootprint ensureConnected := by
  refine .world fun w => ?_
  split
  · exact .pure _
  · split
    · exact asyncConnect_within
    · exact .pure _

/-! ## The sleeping machine -/

/-- Waiting for the machine to wake sends nothing. -/
theorem waitAwake_within : ∀ n, Within quietFootprint (waitAwake n) := by
  intro n
  induction n with
  | zero => exact .world fun w => .pure _
  | succ n ih =>
    refine .world fun w => ?_
    split
    · exact .bind (.await rfl) fun _ => ih
    · exact .pure _

/-- Waking by a handshake is quiet. -/
theorem wakeByHandshake_within : Within quietFootprint wakeByHandshake := by
  refine .world fun w => ?_
  split
  · exact .bind sendHandshake_within fun _ => waitAwake_within 30
  · exact .pure _

/-- Waking by a reconnect touches the link. -/
theorem wakeMachine_within : Within linkFootprint wakeMachine := by
  refine .bind (wakeByHandshake_within.mono quiet_le_link) fun woke => ?_
  split
  · exact .pure _
  · refine .world fun w => ?_
    split
    · exact .pure _
    · exact .bind (asyncDisconnect_within.mono quiet_le_link) fun _ =>
        .bind (.assign fun _ => World.same_link) fun _ => .bind asyncConnect_within fun _ => .pure _

/-- The attempts of a retry do what the action does, with a delay between two of them. -/
theorem retryAttempts_within {asleep : Bool} {action : Async α} (haction : Within F action)
    (hdelay : F.awaits .retryDelay) : ∀ n, Within F (retryAttempts asleep action n) := by
  intro n
  induction n with
  | zero => exact haction
  | succ n ih =>
    refine .bind (.attempt haction) fun result => ?_
    split
    · refine .world fun w => ?_
      split
      · exact .bind (.await hdelay) fun _ => ih
      · exact .pure _
    · refine .world fun w => ?_
      split
      · exact .bind (.await hdelay) fun _ => ih
      · exact .throw _

/-- **The wake-up retry touches the link, its delay, and what its action touches.** -/
theorem retryWhileSleeping_within {action : Async α} (haction : Within F action)
    (hdelay : F.awaits .retryDelay) (hlink : linkFootprint ≤ F) :
    Within F (retryWhileSleeping action) := by
  exact .world fun w => .bind (.when (wakeMachine_within.mono hlink)) fun _ =>
    retryAttempts_within haction hdelay 2

/-! ## Chains -/

/-- A step of a chain waits for its write, its echo and its settle delay. -/
theorem ackStep_waits (hwritten : F.awaits (.written packet.command))
    (hacked : F.awaits (.acked packet.command)) (hsettle : F.awaits .settle)
    (hsent : F.emits (.sent c packet)) : Within F (ackStep c packet) := by
  refine .bind (sendAndWait_within hwritten hacked hsent) fun echoed => ?_
  split
  · exact .pure _
  · exact .bind (.await hsettle) fun _ => .pure _

/-- A step of a chain, when its command is one. -/
theorem ackStep_within (h : chainCommands.contains packet.command = true) :
    Within chainFootprint (ackStep c packet) := by
  have hawaits : chainFootprint.awaits (.written packet.command) ∧
      chainFootprint.awaits (.acked packet.command) := by
    cases hk : packet.command <;> rw [hk] at h <;> first | exact ⟨rfl, rfl⟩ | cases h
  exact ackStep_waits hawaits.1 hawaits.2 rfl h

/-- A check of the link does nothing. -/
theorem requireConnected_within : Within F (requireConnected c) := by
  refine .world fun w => ?_
  split
  · exact .pure _
  · exact .throw _

/-- A recipe is sent by a command of the chain, automatic or manual. -/
theorem recipeCommand_chain (recipe : XBloomRecipe) :
    chainCommands.contains (recipeCommand recipe) = true := by
  unfold recipeCommand
  split <;> rfl

/-- **A coffee is armed by its chain only.** -/
theorem asyncArmCoffee_within {recipe : XBloomRecipe} {volume temperature : PyFloat} :
    Within chainFootprint (asyncArmCoffee c recipe volume temperature) :=
  .bind requireConnected_within fun _ => .bind (.lift _) fun _ => .bind (ackStep_within rfl) fun _ =>
    .bind (.lift _) fun _ => .bind (ackStep_within rfl) fun _ => .bind (.lift _) fun _ =>
      .bind (ackStep_within rfl) fun _ => .bind (.lift _) fun _ =>
        ackStep_within (recipeCommand_chain recipe)

/-- **So is a tea.** -/
theorem asyncArmTea_within {recipe : XBloomRecipe} :
    Within chainFootprint (asyncArmTea c recipe) :=
  .bind requireConnected_within fun _ => .bind (ackStep_within rfl) fun _ => .bind (.lift _) fun _ =>
    .bind (ackStep_within rfl) fun _ => .bind (.lift _) fun _ => .bind (ackStep_within rfl) fun _ =>
      .bind (.lift _) fun _ => .bind (ackStep_within rfl) fun _ => .pure _

/-- Arming a recipe is one chain or the other. -/
theorem armRecipe_within {prepared : Prepared} : Within chainFootprint (armRecipe c prepared) := by
  unfold armRecipe
  split
  · exact .bind asyncArmTea_within fun _ => .pure _
  · exact .bind asyncArmCoffee_within fun _ => .pure _

/-! ## Go commands -/

/-- The go of a tea waits for its echo. -/
theorem makeTea_within {payload : List UInt8} : Within goFootprint (makeTea c payload) :=
  .bind (sendAndWait_within rfl rfl rfl) fun _ => .pure _

/-- The start check polls and sends nothing. -/
theorem verifyBrewStarted_within : ∀ n, Within pollFootprint (verifyBrewStarted c n) := by
  intro n
  induction n with
  | zero => exact .throw _
  | succ n ih =>
    refine .world fun w => ?_
    dsimp only
    split
    · exact .pure _
    · split
      · exact .throw _
      · refine .bind (.await rfl) fun polled => ?_
        split
        · exact .throw _
        · exact ih

/-- Its polls are among what a go waits for. -/
theorem poll_le_go : pollFootprint ≤ goFootprint := by
  refine sends_le (fun l hl => ?_) (fun _ _ h => absurd h List.not_mem_nil) (fun h => by cases h)
    fun _ _ h => h
  rw [List.mem_singleton.mp hl]
  rfl

/-- The go of a coffee is checked by polls. -/
theorem executeCoffeeRecipe_within : Within goFootprint (executeCoffeeRecipe c) :=
  .bind (sendCommand_within rfl rfl) fun _ => (verifyBrewStarted_within 80).mono poll_le_go

/-- A brew is a chain, a gap and a go. -/
theorem brewRecipe_within {prepared : Prepared} (hchain : chainFootprint ≤ F)
    (hgo : goFootprint ≤ F) (hgap : F.awaits .startGap) : Within F (brewRecipe c prepared) := by
  unfold brewRecipe
  split
  · exact .bind (asyncArmTea_within.mono hchain) fun _ => .bind (.await hgap) fun _ =>
      makeTea_within.mono hgo
  · exact .bind (asyncArmCoffee_within.mono hchain) fun _ => .bind (.await hgap) fun _ =>
      executeCoffeeRecipe_within.mono hgo

/-! ## Stops -/

/-- A command without data. -/
theorem sendBare_within {command : Command} (hawait : F.awaits (.written command))
    (hsent : ∀ c, F.emits (.sent c { command })) : Within F (sendBare command) :=
  withClient_within fun c => sendCommand_within hawait (hsent c)

/-- Commands without data, one after the other. -/
theorem sendQuits_within {commands : List Command}
    (h : ∀ k ∈ commands, F.awaits (.written k) ∧ ∀ c, F.emits (.sent c { command := k })) :
    Within F (sendQuits commands) := by
  induction commands with
  | nil => exact .pure _
  | cons command rest ih =>
    obtain ⟨hawait, hsent⟩ := h command List.mem_cons_self
    exact .bind (sendBare_within hawait hsent) fun _ =>
      ih fun k hk => h k (List.mem_cons_of_mem _ hk)

/-- The polls of a stopped component send nothing. -/
theorem stillRunning_within {isRunning : DeviceStatus → Bool} : ∀ n,
    Within stopFootprint (stillRunning isRunning c n) := by
  intro n
  induction n with
  | zero => exact .pure _
  | succ n ih =>
    refine .world fun w => ?_
    split
    · exact .bind (.await rfl) fun _ => ih
    · exact .pure _

/-- A component is stopped, polled, stopped again if it still runs, and quit. -/
theorem stopComponent_within {isRunning : DeviceStatus → Bool} {stop quit : Command}
    (hstop : stopFootprint.awaits (.written stop) ∧ ∀ c, stopFootprint.emits (.sent c { command := stop }))
    (hquit : stopFootprint.awaits (.written quit) ∧ ∀ c, stopFootprint.emits (.sent c { command := quit })) :
    Within stopFootprint (stopComponent isRunning stop quit) := by
  refine .bind (sendBare_within hstop.1 hstop.2) fun _ => .bind (.world fun w => ?_) fun _ =>
    .bind (.await rfl) fun _ => sendBare_within hquit.1 hquit.2
  split
  · exact .pure _
  · refine .bind (stillRunning_within 10) fun running => ?_
    split
    · exact sendBare_within hstop.1 hstop.2
    · exact .pure _

/-- The quits, as opposed to the stops. -/
def quits : List Command := [.grinderQuit, .brewerQuit, .recipeStartQuit]

/-- What a cancel quits by is a quit, whatever is armed. -/
theorem quitCommands_subset {armed : Option Armed} {podPrompt : Bool} :
    ∀ k ∈ quitCommands armed podPrompt, k ∈ quits := by
  rcases armed with _ | op <;> cases podPrompt
  · decide
  · decide
  · cases op <;> decide
  · cases op <;> decide

/-- A cancel may send any of the quits. -/
theorem quits_stop : ∀ k ∈ quits, stopFootprint.awaits (.written k) ∧
    ∀ c, stopFootprint.emits (.sent c { command := k }) := by
  simp [quits, stopFootprint, sends]

/-- What a cancel sends, it sends as stops and quits. -/
theorem sendStops_within {active : Option Operation} {armed : Option Armed} {podPrompt : Bool} :
    Within stopFootprint (sendStops active armed podPrompt) := by
  unfold sendStops
  split
  · exact sendQuits_within fun k hk => quits_stop k (quitCommands_subset k hk)
  · split
    · exact stopComponent_within ⟨rfl, fun _ => rfl⟩ ⟨rfl, fun _ => rfl⟩
    · exact stopComponent_within ⟨rfl, fun _ => rfl⟩ ⟨rfl, fun _ => rfl⟩
    · exact sendBare_within rfl fun _ => rfl

/-! ## The starts -/

/-- Waiting and sending anywhere. -/
def anywhere (writes : World → World → Prop) : CoordinatorFootprint where
  awaits _ := True
  emits _ := True
  writes := writes

/-- Whatever sends and leaves the operations alone may do so anywhere. -/
theorem sends_anywhere {writes : World → World → Prop} {awaits : List Await} {commands : List Command}
    {connects : Bool} (h : ∀ w w', w.SameOperations w' → writes w w') :
    sends awaits commands connects ≤ anywhere writes :=
  sends_le (fun _ _ => trivial) (fun _ _ _ => trivial) (fun _ _ => trivial) h

section
variable {writes : World → World → Prop}

/-- The brewer's start. -/
theorem brewerStart_within : Within (anywhere writes) brewerStart :=
  .world fun _ => withClient_within fun _ => .bind (.lift _) fun _ => sendCommand_within trivial trivial

/-- The grinder's start: its page, the gap of the burrs, its go. -/
theorem grinderStart_within {client : ℕ} {size speed : ℤ} :
    Within (anywhere writes) (grinderStart client size speed) :=
  .bind (sendCommand_within trivial trivial) fun _ => .bind (.await trivial) fun _ =>
    sendCommand_within trivial trivial

/-- A method of the grinder, with the sliders' values. -/
theorem withGrinder_within {f : ℕ → ℤ → ℤ → Async Unit}
    (h : ∀ client size speed, Within (anywhere writes) (f client size speed)) :
    Within (anywhere writes) (withGrinder f) :=
  .world fun w => withClient_within fun client => h client w.grindSize w.rpm

variable (h : ∀ w w', w.SameOperations w' → writes w w')
include h

/-- What a confirm sends is the go of its recipe. -/
theorem sendConfirm_within : Within (anywhere writes) sendConfirm := by
  refine .world fun w => withClient_within fun client => ?_
  unfold confirmRecipe
  split
  · split
    · exact makeTea_within.mono (sends_anywhere h)
    · exact .throw _
  · exact executeCoffeeRecipe_within.mono (sends_anywhere h)

/-- A brew on the client at hand. -/
theorem withBrew_within {prepared : Prepared} :
    Within (anywhere writes) (withClient fun client => brewRecipe client prepared) :=
  withClient_within fun _ => brewRecipe_within (sends_anywhere h) (sends_anywhere h) trivial

/-- An arm on the client at hand. -/
theorem withArm_within {prepared : Prepared} :
    Within (anywhere writes) (withClient fun client => armRecipe client prepared) :=
  withClient_within fun _ => armRecipe_within.mono (sends_anywhere h)

/-- A start under the wake-up retry. -/
theorem retry_within {action : Async α} (haction : Within (anywhere writes) action) :
    Within (anywhere writes) (retryWhileSleeping action) :=
  retryWhileSleeping_within haction trivial (sends_anywhere h)

end

/-! ## The calls -/

/-- Writes that allow what the link does, and what the recipe calls, the arms and a cancel write. -/
structure AllowsCalls (writes : World → World → Prop) : Prop where
  same : ∀ w w', w.SameOperations w' → writes w w'
  noteBrew : ∀ w pours, writes w (w.noteBrew pours)
  noteConfirm : ∀ w, writes w w.noteConfirm
  dropBrew : ∀ w, writes w w.dropBrew
  disarmRecipe : ∀ w, writes w w.disarmRecipe
  dropConfirm : ∀ w, writes w w.dropBrew.disarmRecipe
  setArmed : ∀ w op, writes w { w with armedOperation := some op }
  noteArm : ∀ w prepared payload, writes w (w.noteArm prepared payload)
  dropArm : ∀ w, writes w { w with activeRecipePours := none }
  clearOperations : ∀ w, writes w w.clearOperations

namespace AllowsCalls

variable {writes : World → World → Prop} {I : Identifiers} {yaml : YamlLayer}
  (h : AllowsCalls writes)
include h

/-- A link is wanted. -/
theorem ensureConnected : Within (anywhere writes) ensureConnected :=
  ensureConnected_within.mono (sends_anywhere h.same)

/-- A call with a prepared recipe. -/
theorem withPrepared {args : BrewArgs} {f : Prepared → Async Unit}
    (hf : ∀ prepared, Within (anywhere writes) (f prepared)) :
    Within (anywhere writes) (withPrepared I yaml args f) := by
  refine .bind h.ensureConnected fun connected => ?_
  split
  · refine .world fun w => .bind (.lift _) fun prepared => ?_
    split
    · exact hf _
    · exact .pure _
  · exact .pure _

/-- Executing a recipe notes the brew first, and drops the note if it fails. -/
theorem asyncExecuteRecipe {args : BrewArgs} :
    Within (anywhere writes) (asyncExecuteRecipe I yaml args) := by
  refine h.withPrepared fun prepared => .bind (.world fun _ => .emit trivial) fun _ => .bind (.attempt
    (.bind (.assign fun _ => h.noteBrew _ _) fun _ => retry_within h.same (withBrew_within h.same)))
    fun brewed => ?_
  split
  · exact .pure _
  · exact .assign h.dropBrew

/-- Arming a recipe sets the flag once the chain is out. -/
theorem asyncArmRecipe {args : BrewArgs} :
    Within (anywhere writes) (asyncArmRecipe I yaml args) := by
  refine h.withPrepared fun prepared => .bind (.world fun _ => .emit trivial) fun _ => .bind (.attempt
    (.bind (retry_within h.same (withArm_within h.same)) fun _ =>
      .bind (.bind (.emit trivial) fun _ => .assign fun _ => h.setArmed _ _) fun _ =>
        .assign fun _ => h.noteArm _ _ _)) fun armed => ?_
  split
  · exact .pure _
  · exact .assign h.dropArm

/-- Confirming a recipe clears the flag, whether it starts or not. -/
theorem asyncConfirmRecipe : Within (anywhere writes) asyncConfirmRecipe := by
  refine .bind (.world fun _ => .emit trivial) fun _ => .bind h.ensureConnected fun connected => ?_
  split
  · refine .bind (.attempt (.bind (.assign h.noteConfirm) fun _ =>
      retry_within h.same (sendConfirm_within h.same))) fun started => ?_
    split
    · exact .bind (.assign h.disarmRecipe) fun _ => .pure _
    · exact .bind (.assign h.dropConfirm) fun _ => .pure _
  · exact .pure _

/-- Arming a pour opens its page and pushes its setpoints. -/
theorem asyncArmPour : Within (anywhere writes) asyncArmPour := by
  refine .bind h.ensureConnected fun connected => ?_
  split
  · refine .bind (.attempt (.bind (retry_within h.same (withClient_within fun _ =>
      sendCommand_within trivial trivial)) fun _ => .bind (.emit trivial) fun _ =>
        .assign fun _ => h.setArmed _ _)) fun armed => ?_
    split
    · exact .pure _
    · refine .bind (.await trivial) fun _ => .bind (.attempt ?_) fun _ => .pure _
      exact .world fun _ => .bind (withClient_within fun _ => .bind (.lift _) fun _ =>
        sendCommand_within trivial trivial) fun _ => .bind (.await trivial) fun _ => .world fun _ =>
          withClient_within fun _ => sendCommand_within trivial trivial
  · exact .pure _

/-- Arming a grind opens its page. -/
theorem asyncArmGrind : Within (anywhere writes) asyncArmGrind := by
  refine .bind h.ensureConnected fun connected => ?_
  split
  · exact .bind (.attempt (.bind (retry_within h.same (withGrinder_within fun _ _ _ =>
      sendCommand_within trivial trivial)) fun _ => .bind (.emit trivial) fun _ =>
        .assign fun _ => h.setArmed _ _)) fun _ => .pure _
  · exact .pure _

/-- A cancel clears the flags before it sends. -/
theorem asyncCancel : Within (anywhere writes) asyncCancel := by
  refine .world fun w => .bind (.assign h.clearOperations) fun _ =>
    .bind h.ensureConnected fun connected => ?_
  split
  · exact .bind (.attempt (sendStops_within.mono (sends_anywhere h.same))) fun _ => .pure _
  · exact .pure _

/-- The tool, where its selection is allowed too. -/
theorem executeRecipeTool {args : ToolArgs}
    (hselect : ∀ w name recipe, writes w (w.selectForTool yaml args name recipe)) :
    Within (anywhere writes) (executeRecipeTool I yaml args) := by
  have hphase : ∀ name recipe, Within (anywhere writes) (toolPhase I yaml args name recipe) := by
    refine fun name recipe => .world fun w => ?_
    split
    · exact .pure _
    · split
      · exact .bind (.emit trivial) fun _ => .bind h.asyncConfirmRecipe fun _ => .pure _
      · exact .bind (.assign fun w => hselect w name recipe) fun _ => .world fun _ =>
          .bind (.when h.asyncCancel) fun _ => h.asyncArmRecipe
  refine .world fun w => ?_
  split
  · exact .pure _
  · split
    · exact hphase _ _
    · refine .bind (asyncConnect_within.mono (sends_anywhere h.same)) fun connected => ?_
      split
      · exact hphase _ _
      · exact .pure _

end AllowsCalls

/-! ## Triples of sends and retries -/

section
variable {Γ : CoordinatorContract} {call : Call} {t : ℕ}
  {P J : CoordinatorAssertion}

/-- An assertion that survives a wait at a point. -/
def Waits (Γ : CoordinatorContract) (call : Call)
    (J : CoordinatorAssertion) (l : Await) : Prop :=
  ∀ o s, J o s → Γ.rests call (some l) o s ∧
    ∀ r s', Γ.rely call l s s' → Γ.inv s' → J ⟨some (l, r), s'⟩ s'

/-- A wait that keeps an assertion, as a triple. -/
theorem Waits.meets {l : Await} (h : Waits Γ call J l) :
    Meets Γ call t J (Routine.await l : Async Response) (fun _ => J) fun _ => J :=
  .await (fun o s hJ => (h o s hJ).1) fun o s r s' hJ hrely hinv => (h o s hJ).2 r s' hrely hinv

/-- A method of the client, in a triple: without a client it raises where it stands. -/
theorem withClient_meets {Q : α → CoordinatorAssertion} {X : PyErr → CoordinatorAssertion}
    {f : ℕ → Async α} (h : ∀ client, Meets Γ call t P (f client) Q X) (hX : ∀ e o s, P o s → X e o s) :
    Meets Γ call t P (withClient f) Q X := by
  refine .world fun w => ?_
  split
  · exact (h _).pre fun _ _ h => h.1
  · exact .throw fun o s h => hX _ o s h.1

/-- **A send**: from `P`, it is refused on a lost link, or it is out and leaves `J`. -/
theorem sendCommand_meets
    (hsent : ∀ o s, P o s → Γ.assume s.2 ⟨t, call, .sent c packet⟩ →
      Γ.ensure s.2 ⟨t, call, .sent c packet⟩ ∧
        Γ.guarantee call o s (s.1, s.2 ++ [⟨t, call, .sent c packet⟩]) ∧
        J o (s.1, s.2 ++ [⟨t, call, .sent c packet⟩]))
    (hwritten : Waits Γ call J (.written packet.command)) :
    Meets Γ call t P (sendCommand c packet) (fun _ => J) fun _ o s => P o s ∨ J o s := by
  refine .world fun w => ?_
  split
  · refine .bind (Q := fun _ => J) (.emit fun o s hP => hsent o s hP.1) fun _ =>
      .bind (hwritten.meets.weaken (fun _ _ h => h) (fun _ _ _ h => h) fun _ _ _ h => Or.inr h)
        fun r => ?_
    split
    · exact .throw fun _ _ h => Or.inr h
    · exact .pure fun _ _ h => h
  · exact .throw fun _ _ hP => Or.inl hP.1

/-- **A chain step**: refused, or out, echoed and settled. -/
theorem ackStep_meets
    (hsent : ∀ o s, P o s → Γ.assume s.2 ⟨t, call, .sent c packet⟩ →
      Γ.ensure s.2 ⟨t, call, .sent c packet⟩ ∧
        Γ.guarantee call o s (s.1, s.2 ++ [⟨t, call, .sent c packet⟩]) ∧
        J o (s.1, s.2 ++ [⟨t, call, .sent c packet⟩]))
    (hwritten : Waits Γ call J (.written packet.command))
    (hacked : Waits Γ call J (.acked packet.command)) (hsettle : Waits Γ call J .settle) :
    Meets Γ call t P (ackStep c packet) (fun _ => J) fun _ o s => P o s ∨ J o s := by
  have hraise : ∀ {l : Await}, Waits Γ call J l →
      Meets Γ call t J (Routine.await l : Async Response) (fun _ => J) fun _ o s => P o s ∨ J o s :=
    fun h => h.meets.weaken (fun _ _ h => h) (fun _ _ _ h => h) fun _ _ _ h => Or.inr h
  refine .bind (Q := fun _ => J) ?_ fun echoed => ?_
  · refine .bind (sendCommand_meets hsent hwritten) fun _ => .bind (hraise hacked) fun r => ?_
    split
    · exact .throw fun _ _ h => Or.inr h
    · exact .pure fun _ _ h => h
  · split
    · exact .pure fun _ _ h => h
    · exact .bind (hraise hsettle) fun _ => .pure fun _ _ h => h

/-- **The wake-up retry** keeps what the wake-up, the delay and a failed action keep. -/
theorem retryWhileSleeping_meets {action : Async α}
    {Q : α → CoordinatorAssertion}
    (hwake : Meets Γ call t J wakeMachine (fun _ => J) fun _ => J)
    (hdelay : Waits Γ call J .retryDelay)
    (haction : Meets Γ call t J action Q fun _ => J) (hQ : ∀ a o s, Q a o s → J o s) :
    Meets Γ call t J (retryWhileSleeping action) Q fun _ => J := by
  have hattempts : ∀ asleep n, Meets Γ call t J (retryAttempts asleep action n) Q fun _ => J := by
    intro asleep n
    induction n with
    | zero => exact haction
    | succ n ih =>
      refine .bind (Q := outcome Q fun _ => J) (.attempt haction) fun result => ?_
      cases result with
      | ok a =>
        refine .world fun w => ?_
        split
        · exact .bind (hdelay.meets.pre fun o s h => hQ a o s h.1) fun _ => ih
        · exact .pure fun o s h => h.1
      | error e =>
        refine .world fun w => ?_
        split
        · exact .bind (hdelay.meets.pre fun o s h => h.1) fun _ => ih
        · exact .throw fun o s h => h.1
  refine .world fun w => .bind (Q := fun _ => J) (.when (fun _ => hwake.pre fun _ _ h => h.1)
    fun _ _ _ h => h.1) fun _ => hattempts w.asleep 2

end

end XBloom.Coordinator
