/-
# XBloom.Slots.Confirm — whether a confirmed mode switch was confirmed

A mode switch polls `mode_ack_hex` for its code and takes it for the acknowledgement.  The field is a latch:
the acknowledgement of an earlier switch stays in it, and a mode chosen at the machine does not change
it.  A client that has latched the code confirms at the first poll, with no frame at all; one that has
not confirms truly, whatever happens (`switch_confirmed_iff`).
-/
import XBloom.Slots.Restore
import XBloom.Telemetry.ModeAck

namespace XBloom.Slots

open XBloom.Async XBloom.Logic XBloom.Py XBloom.Ble XBloom.Recipe XBloom.Cloud

/-! ## The property -/

/-- A frame that acknowledges a mode. -/
def Move.acknowledges (mode : Mode) : Move → Bool
  | .frame _ raw => Telemetry.acknowledges (modeSwitchHex mode) raw
  | _ => false

/-- A packet of the switch to a mode goes out. -/
def isSwitchSent (mode : Mode) : Beat World Event Await Answer Move → Bool
  | .emitted _ (.sent _ (.easyMode m)) => decide (m = mode)
  | _ => false

/-- The acknowledgement of a mode comes in. -/
def isModeAck (mode : Mode) : Beat World Event Await Answer Move → Bool
  | .moved m => m.acknowledges mode
  | _ => false

/-- From the first packet of the switch on an acknowledgement came in. -/
def acked (mode : Mode) (σ : Tale) : Bool := anyFrom (isSwitchSent mode) (isModeAck mode) σ.beats

variable (I : Identifiers) (yaml : YamlLayer)

/-- **A confirmed switch was confirmed**: if it says so, an acknowledgement came in after its first packet. -/
def ConfirmsTruly (w : World) (mode : Mode) (replies : Replies) : Prop :=
  (w.switchMode I yaml mode replies).1 = .ok true →
    acked mode (w.switchMode I yaml mode replies).2 = true

/-! ## Its condition -/

/-- The client has not latched the mode. -/
def Unlatched (mode : Mode) (w : World) : Prop :=
  ∀ c, w.coord.client = some c → w.modeAckHex c ≠ some (modeSwitchHex mode)

/-- A client that is connected has not latched the mode. -/
def Fresh (mode : Mode) (w : World) : Prop :=
  ∀ c, w.coord.client = some c → w.coord.isConnected c = true →
    w.modeAckHex c ≠ some (modeSwitchHex mode)

variable {I yaml} {mode : Mode}

theorem Unlatched.fresh {w : World} (h : Unlatched mode w) : Fresh mode w := fun c hc _ => h c hc

/-! ## The surroundings -/

/-- Events change what runs, not the client. -/
theorem dispatchEvent_client (w : Coordinator.World) (e : Coordinator.BleEvent) :
    (w.dispatchEvent e).client = w.client := by
  have hwater : (w.noteWater e).client = w.client := by
    unfold Coordinator.World.noteWater
    split <;> rfl
  have hpod : ((w.noteWater e).notePod e).client = (w.noteWater e).client := by
    unfold Coordinator.World.notePod
    split <;> rfl
  have hstart : ∀ w : Coordinator.World, (w.noteStart e).client = w.client := by
    intro w
    unfold Coordinator.World.noteStart
    split <;> first | rfl | (split <;> rfl)
  have hprogress : ∀ w : Coordinator.World, (w.noteProgress e).client = w.client := by
    intro w
    unfold Coordinator.World.noteProgress
    split <;> first | rfl | (split <;> first | rfl | (split <;> rfl))
  show (((w.noteWater e).notePod e).noteStart e |>.noteProgress e).client = w.client
  rw [hprogress, hstart, hpod, hwater]

/-- A poll reconciles what runs, not the client. -/
theorem coord_poll_client (w : Coordinator.World) (version : String) :
    (w.poll version).client = w.client := by
  have harmed : ∀ s, (w.reconcileArmedWithScreen s).client = w.client := by
    intro s
    unfold Coordinator.World.reconcileArmedWithScreen
    dsimp only
    split
    · split <;> rfl
    · rfl
  have htrack : ∀ (w : Coordinator.World) page op, (w.trackManualRun page op).client = w.client := by
    intro w page op
    unfold Coordinator.World.trackManualRun
    dsimp only
    split_ifs <;> rfl
  have hend : ∀ (w : Coordinator.World) s, (w.endManualRun s).client = w.client := by
    intro w s
    unfold Coordinator.World.endManualRun
    split
    · rfl
    · split_ifs <;> rfl
  have hmanual : ∀ (w : Coordinator.World) s, (w.reconcileManualOperation s).client = w.client := by
    intro w s
    unfold Coordinator.World.reconcileManualOperation
    split
    · exact hend w s
    · split
      · exact hend w s
      · split
        · exact htrack w _ _
        · exact hend w s
  unfold Coordinator.World.poll
  split
  · rfl
  · split
    · exact (hmanual _ _).trans (harmed _)
    · rfl

theorem selectRecipe_client (w : Coordinator.World) (name : Option String) :
    (w.selectRecipe yaml name).client = w.client := by
  obtain ⟨_, _, hwrites⟩ := w.selectRecipe_writes yaml name
  rw [hwrites]

/-- A client that is new has latched nothing. -/
theorem Unlatched.setCoord {w : World} (h : Unlatched mode w) {coord : Coordinator.World}
    (hclient : ∀ c, coord.client = some c → w.coord.client = some c ∨ w.coord.clients.length ≤ c) :
    Unlatched mode (w.setCoord coord) := by
  intro c hc hlatched
  unfold World.modeAckHex World.setCoord at hlatched
  dsimp only at hlatched
  split at hlatched
  · rename_i hknown
    rcases hclient c hc with hsame | hnew
    · exact h c hsame hlatched
    · omega
  · cases hlatched

/-- What a client parses latches the mode only if it was latched. -/
theorem Unlatched.setTelemetry {w : World} (h : Unlatched mode w) (c : ℕ) {client : Telemetry.Client}
    (hlatch : client.status.modeAckHex = some (modeSwitchHex mode) →
      w.modeAckHex c = some (modeSwitchHex mode)) : Unlatched mode (w.setTelemetry c client) := by
  intro d hd hlatched
  unfold World.setTelemetry at hd hlatched
  split at hlatched
  · rename_i hknown
    rw [if_pos hknown] at hd
    unfold World.modeAckHex at hlatched
    dsimp only at hlatched
    by_cases hdc : d = c
    · rw [hdc, Function.update_self] at hlatched
      exact h d hd (hdc ▸ hlatch hlatched)
    · rw [Function.update_of_ne hdc] at hlatched
      exact h d hd hlatched
  · rename_i hunknown
    rw [if_neg hunknown] at hd
    exact h d hd hlatched

/-- A poll reads the client. -/
theorem poll_sameClient (w : World) (drops : Bool) :
    (w.poll drops).coord.client = w.coord.client ∧ (w.poll drops).telemetry = w.telemetry := by
  unfold World.poll
  split
  · dsimp only
    split
    · exact ⟨rfl, rfl⟩
    · exact ⟨coord_poll_client w.coord _, rfl⟩
  · exact ⟨coord_poll_client w.coord _, rfl⟩

/-- A frame latches the mode it acknowledges. -/
theorem receiveFrame_latches (client : Telemetry.Client) (frame : Bytes)
    (hnot : Telemetry.acknowledges (modeSwitchHex mode) frame = false)
    (h : (receiveFrame client frame).status.modeAckHex = some (modeSwitchHex mode)) :
    client.status.modeAckHex = some (modeSwitchHex mode) := by
  unfold receiveFrame at h
  split at h
  · rename_i received hreceive
    rcases Telemetry.receive_modeAckHex hreceive h with hlatched | hack
    · exact hlatched
    · rw [hnot] at hack
      cases hack
  · exact (client.scanForStatusFrame_sameReadings frame).modeAckHex ▸ h

/-- **Nothing but an acknowledgement latches a mode.** -/
theorem Unlatched.move {w : World} (h : Unlatched mode w) {m : Move}
    (hnot : m.acknowledges mode = false) : Unlatched mode (w.move I yaml m) := by
  cases m with
  | scanned c raw =>
    refine h.setTelemetry c fun hlatched => ?_
    rw [Telemetry.preScan_modeAckHex] at hlatched
    exact hlatched
  | frame c frame => exact h.setTelemetry c (receiveFrame_latches _ frame hnot)
  | event e => exact h.setCoord fun c hc => Or.inl ((dispatchEvent_client w.coord e) ▸ hc)
  | linkLost c => exact h.setCoord fun c hc => Or.inl hc
  | unexpectedDisconnect =>
    refine h.setCoord fun c hc => Or.inl ?_
    have hclient : (w.coord.handleUnexpectedDisconnect).client = some c := hc
    unfold Coordinator.World.handleUnexpectedDisconnect at hclient
    split at hclient
    · exact hclient
    · cases hclient
  -- a new client, with nothing latched yet
  | connecting => exact h.setCoord fun c hc => Or.inr (le_of_eq (Option.some.inj hc))
  | linkUp c => exact h.setCoord fun c hc => Or.inl hc
  | disconnect standby => exact h.setCoord fun c hc => by cases hc
  | poll drops =>
    intro c hc hlatched
    obtain ⟨hclient, htelemetry⟩ := poll_sameClient w drops
    refine h c (hclient ▸ hc) ?_
    have hstatus : ((w.poll drops).telemetry c).status.modeAckHex = some (modeSwitchHex mode) := hlatched
    rw [htelemetry] at hstatus
    exact hstatus
  | select name => exact h.setCoord fun c hc => Or.inl ((selectRecipe_client w.coord name) ▸ hc)
  | store op => exact h.setCoord fun c hc => Or.inl hc
  | prefer mode => exact h

/-- **While a call waits the mode is acknowledged, or stays unlatched.** -/
theorem acknowledged_or_unlatched (moves : List Move) : ∀ w : World, Unlatched mode w →
    moves.any (Move.acknowledges mode) = true ∨ Unlatched mode (run (World.move I yaml) w moves) := by
  induction moves with
  | nil => exact fun w h => Or.inr h
  | cons m rest ih =>
    intro w h
    cases hack : m.acknowledges mode with
    | true => exact Or.inl (by simp [hack])
    | false =>
      rcases ih (w.move I yaml m) (h.move hack) with hlater | hunlatched
      · exact Or.inl (by simp [hlater])
      · exact Or.inr hunlatched

/-! ## The switch -/

/-- Before a packet: the mode was acknowledged, or no client that would take the packet has latched it. -/
def Ready (mode : Mode) (σ : Tale) : Prop := acked mode σ = true ∨ Fresh mode σ.world

/-- After a packet: the mode was acknowledged, or it is not latched. -/
def Awaiting (mode : Mode) (σ : Tale) : Prop :=
  σ.beats.any (isSwitchSent mode) = true ∧ (acked mode σ = true ∨ Unlatched mode σ.world)

theorem Awaiting.ready {σ : Tale} (h : Awaiting mode σ) : Ready mode σ :=
  h.2.imp id Unlatched.fresh

/-- What is acknowledged stays so. -/
theorem acked_append {σ : Tale} (h : acked mode σ = true)
    (beats : List (Beat World Event Await Answer Move)) :
    anyFrom (isSwitchSent mode) (isModeAck mode) (σ.beats ++ beats) = true := by
  unfold acked at h
  rw [anyFrom_append, h]
  rfl

/-- **Waiting after a packet**, whatever comes in. -/
theorem Awaiting.answer {σ : Tale} (h : Awaiting mode σ) (l : Await) (reply : Reply Answer Move) :
    Awaiting mode (σ.answer (World.move I yaml) l reply) := by
  obtain ⟨hsent, hacked⟩ := h
  refine ⟨?_, ?_⟩
  · simp only [Story.answer, List.any_append, hsent, Bool.true_or]
  · rcases hacked with hacked | hunlatched
    · exact Or.inl (acked_append hacked _)
    · rcases @acknowledged_or_unlatched I yaml mode reply.moves σ.world hunlatched with
        hack | hunlatched
      · left
        have hmoved : (movedBeats reply.moves).any (isModeAck mode) = true := by
          obtain ⟨m, hm, hmack⟩ := List.any_eq_true.mp hack
          exact List.any_eq_true.mpr ⟨.moved m, List.mem_map_of_mem hm, hmack⟩
        show anyFrom (isSwitchSent mode) (isModeAck mode) (σ.beats ++ (movedBeats reply.moves ++ [_]))
          = true
        rw [anyFrom_append, if_pos hsent, List.any_append, hmoved, Bool.true_or, Bool.or_true]
      · exact Or.inr hunlatched

/-- A poll that sees the code has seen it acknowledged. -/
theorem pollModeAck_awaiting (n : ℕ) :
    Plays (World.move I yaml) (Awaiting mode) (pollModeAck mode n)
      (fun confirmed σ => Awaiting mode σ ∧ (confirmed = true → acked mode σ = true))
      (fun _ _ => True) := by
  induction n with
  | zero => exact .pure fun σ h => ⟨h, fun hfalse => by cases hfalse⟩
  | succ n ih =>
    refine .bind (.await (Q := fun _ => Awaiting mode) fun σ reply h => h.answer _ reply) fun _ =>
      .world fun w => ?_
    cases hclient : w.coord.client with
    | none => exact .throw fun _ _ => trivial
    | some c =>
      refine .world fun w' => ?_
      split
      · rename_i hlatched
        refine .pure fun σ h => ⟨h.1.1, fun _ => ?_⟩
        obtain ⟨⟨⟨_, hacked⟩, rfl⟩, rfl⟩ := h
        exact hacked.resolve_right fun hunlatched => hunlatched c hclient hlatched
      · exact ih.pre fun σ h => h.1.1

/-- The packet goes out on a connected link. -/
theorem sendSwitch_awaiting :
    Plays (World.move I yaml) (Ready mode) (withClient (sendCommandRaw (.easyMode mode)))
      (fun _ => Awaiting mode) (fun _ _ => True) := by
  refine .world fun w => ?_
  cases hclient : w.coord.client with
  | none => exact .throw fun _ _ => trivial
  | some c =>
    refine .world fun w' => ?_
    split
    · rename_i hconnected
      refine .bind (.emit (Q := fun _ => Awaiting mode) ?_) fun _ =>
        .bind (.await (Q := fun _ => Awaiting mode) fun σ reply h => h.answer _ reply) fun r => ?_
      · rintro σ ⟨⟨hready, rfl⟩, rfl⟩
        refine ⟨?_, ?_⟩
        · simp [Story.emit, isSwitchSent]
        · rcases hready with hacked | hfresh
          · exact Or.inl (acked_append hacked _)
          · right
            intro d hd
            have hdc : c = d := Option.some.inj (hclient.symm.trans hd)
            exact hfresh d hd (hdc ▸ hconnected)
      · split
        · exact .throw fun _ _ => trivial
        · exact .pure fun σ h => h
    · exact .throw fun _ _ => trivial

/-- **A switch that starts unlatched confirms what was acknowledged**, in any attempt. -/
theorem switchAttempts_confirms (n : ℕ) :
    Plays (World.move I yaml) (Ready mode) (switchAttempts mode n)
      (fun confirmed σ => confirmed = true → acked mode σ = true) (fun _ _ => True) := by
  induction n with
  | zero => exact .pure fun σ _ hfalse => by cases hfalse
  | succ n ih =>
    refine .bind (.emit (Q := fun _ => Ready mode) fun σ h => ?_) fun _ =>
      .bind sendSwitch_awaiting fun _ => .bind (pollModeAck_awaiting modeSwitchPolls)
        fun confirmed => ?_
    · exact h.imp (fun hacked => acked_append hacked _) id
    · split
      · rename_i hconfirmed
        exact .pure fun σ h _ => h.2 hconfirmed
      · refine .world fun w => ?_
        cases hclient : w.coord.client with
        | none => exact .throw fun _ _ => trivial
        | some c =>
          refine .world fun w' => ?_
          split
          · exact ih.pre fun σ h => h.1.1.1.ready
          · exact .pure fun σ _ hfalse => by cases hfalse

/-- A fresh client confirms truly. -/
theorem confirmsTruly_of_fresh {w : World} (h : Fresh mode w) (replies : Replies) :
    ConfirmsTruly I yaml w mode replies := by
  have hplays := (@switchAttempts_confirms I yaml mode 3).play (σ := .start w) (Or.inr h) replies
  intro hconfirmed
  have hresult : ((switchAttempts mode 3).run.play (World.move I yaml) (.start w) replies).1 =
      .ok true := hconfirmed
  rw [hresult] at hplays
  exact hplays rfl

/-- **A client that has latched the mode confirms it at the first poll**, with nothing coming in. -/
theorem latched_confirms {w : World} {c : ℕ} (hclient : w.coord.client = some c)
    (hconnected : w.coord.isConnected c = true)
    (hlatched : w.modeAckHex c = some (modeSwitchHex mode)) :
    w.switchMode I yaml mode allWell = (.ok true, ⟨w,
      [.emitted w (.switching mode), .emitted w (.sent c (.easyMode mode)),
        .answered (.written (.easyModeType mode)) w {}, .answered (.modePoll mode) w {}]⟩) := by
  unfold World.switchMode switchModeWithRetry switchAttempts modeSwitchPolls pollModeAck
  simp only [bind_bind, play_emit_bind, play_world_bind, play_await_bind, play_pure_bind, play_pure,
    Story.emit, Story.start, Story.answer, withClient, sendCommandRaw, allWell, run, List.foldl_nil,
    hclient, hconnected, hlatched, if_true, reduceCtorEq, if_false]
  rfl

/-- **A switch confirms truly, however it is replied to, exactly when it starts fresh.** -/
theorem confirmsTruly_iff (w : World) (mode : Mode) :
    (∀ replies, ConfirmsTruly I yaml w mode replies) ↔ Fresh mode w := by
  constructor
  · intro h c hclient hconnected hlatched
    have hquiet := @latched_confirms I yaml mode w c hclient hconnected hlatched
    have htrue := h allWell
    unfold ConfirmsTruly at htrue
    rw [hquiet] at htrue
    exact absurd (htrue rfl) (by simp [acked, anyFrom, isSwitchSent, isModeAck])
  · exact fun h replies => confirmsTruly_of_fresh h replies

/-! ## Runs -/

variable (I yaml)

/-- The mode switch of an act confirms truly. -/
def Act.ConfirmsTruly (w : World) : Act → Prop
  | .switchMode mode replies => Slots.ConfirmsTruly I yaml w mode replies
  | _ => True

/-- The mode switch of an act starts fresh. -/
def Act.StartsFresh (w : World) : Act → Prop
  | .switchMode mode _ => Fresh mode w
  | _ => True

/-- **A mode switch is really confirmed exactly when it starts with a client that has not latched the mode.**
From such a world, and from no other, it confirms truly whatever comes in, and in any run of slot
writes, mode switches and whatever else happens every switch does if each starts so. -/
theorem switch_confirmed_iff :
    (∀ w mode, (∀ replies, ConfirmsTruly I yaml w mode replies) ↔ Fresh mode w) ∧
    ∀ w acts, AllSteps (World.step I yaml) (fun w a => a.StartsFresh w) w acts →
      AllSteps (World.step I yaml) (fun w a => a.ConfirmsTruly I yaml w) w acts := by
  refine ⟨confirmsTruly_iff, fun w acts h => h.imp fun w a hfresh => ?_⟩
  cases a with
  | switchMode mode replies => exact confirmsTruly_of_fresh hfresh replies
  | move m => trivial
  | write slotLetter identifier replies => trivial

variable {I yaml}

/-- The acknowledgement of Easy Mode. -/
def easyAck : Bytes :=
  [0x58, 0x01, 0x02, 0xF7, 0x2C, 0x10, 0x00, 0x00, 0x00, 0xC2, 0x91, 0x32, 0x78, 0x56, 0x00, 0x00]

/-- The acknowledgement comes in before the first poll. -/
def acknowledgedOnce : Replies := fun n => ⟨if n = 1 then [.frame 0 easyAck] else [], {}⟩

/-- A switch of a client that has heard nothing. -/
theorem first_switch_confirmed :
    AllSteps (World.step plainIdentifiers noYaml) (fun w a => a.ConfirmsTruly plainIdentifiers noYaml w)
      twoRecipes [.switchMode .easy acknowledgedOnce] :=
  (switch_confirmed_iff plainIdentifiers noYaml).2 twoRecipes _
    ⟨fun _ _ _ hlatched => (by cases hlatched), trivial⟩

/-- The machine once it was switched to Easy. -/
def switchedToEasy : World :=
  (twoRecipes.switchMode plainIdentifiers noYaml .easy acknowledgedOnce).2.world

/-- Its client has latched that. -/
theorem switchedToEasy_latched : switchedToEasy.coord.client = some 0 ∧
    switchedToEasy.coord.isConnected 0 = true ∧
      switchedToEasy.modeAckHex 0 = some (modeSwitchHex .easy) := by
  decide +kernel

/-- **The second switch to Easy confirms by the acknowledgement of the first**, although nothing comes in. -/
theorem second_switch_unconfirmed :
    ¬ AllSteps (World.step plainIdentifiers noYaml) (fun w a => a.ConfirmsTruly plainIdentifiers noYaml w)
        twoRecipes [.switchMode .easy acknowledgedOnce, .switchMode .easy allWell] := by
  rintro ⟨_, hsecond, _⟩
  obtain ⟨hclient, hconnected, hlatched⟩ := switchedToEasy_latched
  have htrue : Slots.ConfirmsTruly plainIdentifiers noYaml switchedToEasy .easy allWell := hsecond
  unfold Slots.ConfirmsTruly at htrue
  rw [latched_confirms hclient hconnected hlatched] at htrue
  exact absurd (htrue rfl) (by simp [acked, anyFrom, isSwitchSent, isModeAck])

end XBloom.Slots
