/-
# XBloom.Llm.TwoPhase — nothing is started that was not confirmed

Every call of the home keeps to a protocol: a two-phase call to `homeTalk`, a call that is neither
two-phase nor a direct start to one in which no start command occurs.  So in every interleaving, what a
two-phase call did can be read off what it said (`two_phase_calls`): it starts its own operation only, only
when it was told so and after it found its arm standing, it never both arms and starts, and the grind and
pour tools report as started or armed only what they started or armed (the recipe tool's replies are not
modelled).
-/
import XBloom.Llm.Stages

namespace XBloom.Llm

open XBloom.Async XBloom.Py XBloom.Ble XBloom.Recipe XBloom.Brewing XBloom.Coordinator

/-! ## The tools keep to their stages -/

variable {op : Armed} {may : Bool}

theorem reachMachine_talks : Says (stageTalk op may) (among [.asked]) reachMachine
    (fun _ => among [.asked]) fun _ => among [.asked] := by
  refine .world fun w => .ite (fun _ => .pure fun _ _ h => h.1) fun _ =>
    .bind (Q := fun _ => among [.asked]) (.attempt ?_) fun connected => .pure fun _ _ h => h
  exact (link_talks (by decide) asyncConnect_within).pre fun _ _ h => h.1

/-- A reply that the stage allows. -/
def allows (may : Bool) : ToolReply → Stage → World → Prop :=
  fun reply s _ => s.mayReply may reply = true

theorem twoPhase_talks {confirm arm : Coordinator.Async Bool} {settings : Bool → World → Settings}
    (hconfirm : Says (stageTalk op may) (standing op may) confirm (fun b => among (confirmOutcome b))
      fun _ => among running)
    (harm : Says (stageTalk op may) (among [.asked]) arm (fun b => among (armOutcome b))
      fun _ => among before) :
    Says (stageTalk op may) (among [.asked]) (twoPhase op may confirm arm settings) (allows may)
      whenever := by
  have hallows : ∀ {reply : ToolReply} {stages : List Stage},
      (∀ s ∈ stages, s.mayReply may reply = true) → ∀ s w, among stages s w → allows may reply s w :=
    fun h s _ hs => h s hs
  refine .world fun w => ?_
  by_cases hstart : (may && decide (w.armedOperation = some op)) = true
  · -- what is armed is started
    simp only [hstart, if_true]
    obtain ⟨hmay, harmed⟩ := Bool.and_eq_true_iff.mp hstart
    refine .bind (Q := spoken (fun b => among (confirmOutcome b)) fun _ => among running)
      (.attempt (hconfirm.pre fun s w' h => ⟨List.mem_singleton.mp h.1, hmay, ?_⟩)) fun ran => ?_
    · rw [h.2]
      exact of_decide_eq_true harmed
    · cases ran with
      | error e => exact .pure (hallows (by simp [running, Stage.mayReply]))
      | ok started =>
        cases started with
        | false => exact .pure (hallows (by simp [confirmOutcome, running, Stage.mayReply]))
        | true =>
          refine .world fun w => .pure fun s w h => ?_
          exact hallows (by simp [confirmOutcome, Stage.mayReply]) s w h.1
  · simp only [hstart]
    refine .bind (Q := spoken (fun b => among (armOutcome b)) fun _ => among before)
      (.attempt (harm.pre fun _ _ h => h.1)) fun ran => ?_
    cases ran with
    | error e => exact .pure (hallows (by simp [before, Stage.mayReply]))
    | ok armed =>
      cases armed with
      | false => exact .pure (hallows (by simp [armOutcome, before, Stage.mayReply]))
      | true =>
        refine .world fun w => .pure fun s w h => ?_
        exact hallows (by simp [armOutcome, Stage.mayReply]) s w h.1

theorem refused_talks {reply : ToolReply} (h : Stage.asked.mayReply may reply = true) :
    Says (stageTalk op may) (among [.asked]) (pure reply : Coordinator.Async ToolReply) (allows may)
      whenever := by
  refine .pure fun s w hs => ?_
  rw [allows, List.mem_singleton.mp hs]
  exact h

theorem grindTool_talks (args : GrindArgs) : Says (stageTalk .grind args.confirmed) (among [.asked])
    (grindTool args) (allows args.confirmed) whenever := by
  refine .bind (reachMachine_talks.weaken (fun _ _ h => h) (fun _ _ _ h => h) fun _ _ _ _ => trivial)
    fun reached => .ite (fun _ => ?_) fun _ => refused_talks rfl
  exact .bind (Q := fun _ => among [.asked]) (.assign fun _ _ h => h) fun _ =>
    twoPhase_talks asyncConfirmGrind_talks asyncArmGrind_talks

theorem pourTool_talks (args : PourArgs) : Says (stageTalk .pour args.confirmed) (among [.asked])
    (pourTool args) (allows args.confirmed) whenever := by
  unfold pourTool
  split
  · exact refused_talks rfl
  · refine .bind (reachMachine_talks.weaken (fun _ _ h => h) (fun _ _ _ h => h)
      fun _ _ _ _ => trivial) fun reached => .ite (fun _ => ?_) fun _ => refused_talks rfl
    exact .bind (Q := fun _ => among [.asked]) (.lift (fun _ _ _ _ h => h)
      fun _ _ _ _ _ => trivial) fun _ => .bind (Q := fun _ => among [.asked])
        (.assign fun _ _ h => h) fun _ => twoPhase_talks asyncConfirmPour_talks asyncArmPour_talks

/-- At home, what the coordinator's coroutines say is heard as it is. -/
theorem atHome_talks {β : Type} {x : Coordinator.Async β} {A : Stage → World → Prop}
    {Q : β → Stage → World → Prop} {X : PyErr → Stage → World → Prop}
    (h : Says (stageTalk op may) A x Q X) : Says (homeTalk op may) A (atHome x) Q X :=
  Says.zoom hearing (homeTalk op may) (fun _ _ => rfl) h

/-- A tool ends with its reply. -/
theorem replying_talks {x : Coordinator.Async ToolReply}
    (h : Says (stageTalk op may) (among [.asked]) x (allows may) whenever) :
    Says (homeTalk op may) (among [.asked]) (replying x) whenever whenever := by
  refine .bind (atHome_talks h) fun reply => .emit fun s w hreply => ⟨.replied, ?_, trivial⟩
  exact if_pos hreply

/-! ## Calls that start nothing -/

/-- A start command is sent. -/
def HomeEvent.starts : HomeEvent → Bool
  | .coordinator e => e.starts
  | .replied _ => false

/-- Everything but start commands. -/
def quietTalk : Protocol Stage HomeEvent := fun s e => if e.starts = true then none else some s

/-- Waiting and writing anywhere, and starting nothing. -/
def startless : CoordinatorFootprint where
  awaits _ := True
  emits e := e.starts = false
  writes _ _ := True

theorem sends_startless {awaits : List Await} {commands : List Command} {connects : Bool}
    (h : ∀ k ∈ commands, startCommand k = false) : sends awaits commands connects ≤ startless :=
  sends_le (fun _ _ => trivial) (fun _ packet hk => h packet.command hk) (fun _ _ => rfl)
    fun _ _ _ => trivial

theorem link_startless : linkFootprint ≤ startless := sends_startless (by decide)

section
variable {β : Type} {x : Coordinator.Async β}

theorem startless_send {c : ℕ} {packet : Packet} (h : startCommand packet.command = false) :
    Within startless (sendCommand c packet) := sendCommand_within trivial h

theorem startless_retry {action : Coordinator.Async β} (h : Within startless action) :
    Within startless (retryWhileSleeping action) :=
  retryWhileSleeping_within h trivial link_startless

theorem startless_connected (h : Within startless x) {a : β} : Within startless
    (do let connected ← ensureConnected
        if connected then x else pure a : Coordinator.Async β) := by
  refine .bind (ensureConnected_within.mono link_startless) fun connected => ?_
  split
  · exact h
  · exact .pure _

theorem setArmed_startless (op : Armed) : Within startless (setArmed op) :=
  .bind (.emit rfl) fun _ => .assign fun _ => trivial

theorem asyncArmGrind_startless : Within startless asyncArmGrind :=
  startless_connected (.bind (.attempt (.bind (startless_retry (.world fun _ =>
    withClient_within fun _ => startless_send rfl)) fun _ => setArmed_startless _)) fun _ => .pure _)

theorem asyncArmPour_startless : Within startless asyncArmPour := by
  refine startless_connected (.bind (.attempt (.bind (startless_retry (withClient_within fun _ =>
    startless_send rfl)) fun _ => setArmed_startless _)) fun armed => ?_)
  split
  · exact .pure _
  · refine .bind (.await trivial) fun _ => .bind (.attempt (.world fun _ => .bind
      (withClient_within fun _ => .bind (.lift _) fun _ => startless_send rfl) fun _ =>
        .bind (.await trivial) fun _ => .world fun _ => withClient_within fun _ =>
          startless_send rfl)) fun _ => .pure _

theorem armPrepared_startless {prepared : Prepared} : Within startless (armPrepared prepared) := by
  refine .bind (.world fun _ => .emit rfl) fun _ => .bind (.attempt (.bind (startless_retry
    (withClient_within fun _ => armRecipe_within.mono (sends_startless (by decide)))) fun _ =>
      .bind (setArmed_startless _) fun _ => .assign fun _ => trivial)) fun armed => ?_
  split
  · exact .pure _
  · exact .assign fun _ => trivial

theorem asyncArmRecipe_startless {I : Identifiers} {yaml : YamlLayer} {args : BrewArgs} :
    Within startless (asyncArmRecipe I yaml args) := by
  refine startless_connected (.world fun w => .bind (.lift _) fun prepared => ?_)
  split
  · exact armPrepared_startless
  · exact .pure _

theorem asyncCancel_startless : Within startless asyncCancel :=
  .world fun _ => .bind (.assign fun _ => trivial) fun _ => startless_connected
    (.bind (.attempt (sendStops_within.mono (sends_startless (by decide)))) fun _ => .pure _)

theorem pauseManual_startless {shown : ShownState} {pause restart : Command}
    (hpause : startCommand pause = false) (hrestart : startCommand restart = false) :
    Within startless (pauseResumeManual shown pause restart) := by
  unfold pauseResumeManual
  split
  · exact .bind (sendBare_within trivial fun _ => hrestart) fun _ => .assign fun _ => trivial
  · exact .bind (sendBare_within trivial fun _ => hpause) fun _ => .assign fun _ => trivial

theorem asyncPauseResume_startless (shown : ShownState) :
    Within startless (asyncPauseResume shown) := by
  refine startless_connected (.world fun w => ?_)
  split
  · exact .pure _
  · refine .bind (.attempt ?_) fun _ => .pure _
    split
    · exact pauseManual_startless rfl rfl
    · exact pauseManual_startless rfl rfl
    · cases shown with
      | paused => exact sendBare_within trivial fun _ => rfl
      | running => exact sendBare_within trivial fun _ => rfl
      | unread => exact .pure _

theorem retried_startless {command : Command} (h : startCommand command = false) :
    Within startless (retried (sendChecked command)) :=
  startless_connected (.bind (.attempt (startless_retry (withClient_within fun _ =>
    .bind requireConnected_within fun _ => startless_send h))) fun _ => .pure _)

theorem slide_startless (slider : Slider) : Within startless slider.set := by
  refine slider.set_within.mono ⟨fun _ _ => trivial, fun e he => ?_, fun _ _ _ => trivial⟩
  rcases he with he | ⟨c, packet, rfl, hk⟩
  · exact link_startless.2.1 e he
  · cases slider <;> simp only [Slider.command, Option.some.injEq, reduceCtorEq] at hk
    all_goals
      show startCommand packet.command = false
      rw [← hk]
      rfl

theorem reachMachine_startless : Within startless reachMachine := by
  refine .world fun w => ?_
  split
  · exact .pure _
  · exact .bind (.attempt (asyncConnect_within.mono link_startless)) fun _ => .pure _

theorem plainTool_startless {call : Coordinator.Async Unit} (h : Within startless call) :
    Within startless (plainTool call) := by
  refine .bind reachMachine_startless fun reached => ?_
  split
  · refine .bind (.attempt h) fun ran => ?_
    split <;> exact .pure _
  · exact .pure _

theorem cancelTool_startless : Within startless cancelTool := by
  refine .bind (.attempt asyncCancel_startless) fun ran => ?_
  split <;> exact .pure _

end

/-! ## Every call's protocol -/

namespace HomeCall

/-- The operation of a two-phase call, and whether it may start it. -/
def stages : HomeCall → Option (Armed × Bool)
  | .grindTool args => some (.grind, args.confirmed)
  | .pourTool args => some (.pour, args.confirmed)
  | .call (.executeRecipeTool args) => some (.recipe, args.confirmed)
  | .call .pressGrind => some (.grind, true)
  | .call .pressPour => some (.pour, true)
  | .call .pressRecipe => some (.recipe, true)
  | _ => none

/-- A call that starts something on its own: a service, or the second half of a press. -/
def direct : HomeCall → Bool
  | .call .pour => true
  | .call .grind => true
  | .call (.executeRecipe _) => true
  | .call .confirmPour => true
  | .call .confirmGrind => true
  | .call .confirmRecipe => true
  | _ => false

/-- What a call may say. -/
def talk (c : HomeCall) : Protocol Stage HomeEvent :=
  match c.stages with
  | some (op, may) => homeTalk op may
  | none => if c.direct = true then fun s _ => some s else quietTalk

end HomeCall

/-- A two-phase call at home. -/
theorem staged_speaks {x : Home Unit} (h : Says (homeTalk op may) (among [.asked]) x whenever whenever)
    (w : World) : x.run.Speaks (homeTalk op may) (fun _ _ _ => True) .asked w :=
  (h .asked w List.mem_cons_self).mono fun _ _ _ _ => trivial

/-- A call that starts nothing, at home. -/
theorem quiet_talks {β : Type} {x : Coordinator.Async β} (h : Within startless x) :
    Says quietTalk (fun _ _ => True) (atHome x) whenever whenever := by
  refine Says.zoom hearing quietTalk (A := fun _ _ => True) (fun _ _ => rfl) ?_
  refine (h.talks (A := fun _ => True) fun s e _ he => ⟨s, ?_, trivial⟩)
  have hquiet : (HomeEvent.coordinator e).starts = false := he
  show (if (HomeEvent.coordinator e).starts = true then none else some s) = some s
  rw [if_neg (by rw [hquiet]; decide)]

theorem quietTool_talks {x : Coordinator.Async ToolReply} (h : Within startless x) :
    Says quietTalk (fun _ _ => True) (replying x) whenever whenever :=
  .bind (quiet_talks h) fun _ => .emit fun s _ _ => ⟨s, rfl, trivial⟩

section
variable (I : Identifiers) (yaml : YamlLayer)

theorem call_talks {c : Call} (h : (HomeCall.call c).stages = none)
    (hdirect : (HomeCall.call c).direct = false) : Within startless (c.routine I yaml) := by
  cases c with
  | armPour => exact .bind asyncArmPour_startless fun _ => .pure _
  | armGrind => exact .bind asyncArmGrind_startless fun _ => .pure _
  | armRecipe args => exact asyncArmRecipe_startless
  | cancel => exact asyncCancel_startless
  | connect => exact .bind (asyncConnect_within.mono link_startless) fun _ => .pure _
  | disconnect => exact (asyncDisconnect_within.mono quiet_le_link).mono link_startless
  | dropStaleLink => exact (asyncDropStaleLink_within.mono quiet_le_link).mono link_startless
  | enterIdleStandby => exact (asyncEnterIdleStandby_within.mono quiet_le_link).mono link_startless
  | pour => cases hdirect
  | grind => cases hdirect
  | executeRecipe args => cases hdirect
  | confirmPour => cases hdirect
  | confirmGrind => cases hdirect
  | confirmRecipe => cases hdirect
  | pressGrind => cases h
  | pressPour => cases h
  | pressRecipe => cases h
  | executeRecipeTool args => cases h

/-- **Every call keeps to its protocol.** -/
theorem routine_speaks (c : HomeCall) (w : World) :
    (c.routine I yaml).run.Speaks c.talk (fun _ _ _ => True) .asked w := by
  have hquiet : ∀ {x : Home Unit}, Says quietTalk (fun _ _ => True) x whenever whenever →
      x.run.Speaks quietTalk (fun _ _ _ => True) .asked w :=
    fun h => (h .asked w trivial).mono fun _ _ _ _ => trivial
  cases c with
  | pauseResume shown => exact hquiet (quiet_talks (asyncPauseResume_startless shown))
  | tareScale => exact hquiet (quiet_talks (retried_startless rfl))
  | enterScaleMode => exact hquiet (quiet_talks (retried_startless rfl))
  | exitScaleMode => exact hquiet (quiet_talks (retried_startless rfl))
  | slide slider => exact hquiet (quiet_talks (slide_startless slider))
  | grindTool args => exact staged_speaks (replying_talks (grindTool_talks args)) w
  | pourTool args => exact staged_speaks (replying_talks (pourTool_talks args)) w
  | tareTool => exact hquiet (quietTool_talks (plainTool_startless (retried_startless rfl)))
  | statusTool => exact hquiet (quietTool_talks (plainTool_startless (.pure _)))
  | cancelTool => exact hquiet (quietTool_talks cancelTool_startless)
  | call c =>
    have hstaged : ∀ {op may} {x : Coordinator.Async Unit},
        Says (stageTalk op may) (among [.asked]) x whenever whenever →
        (atHome x).run.Speaks (homeTalk op may) (fun _ _ _ => True) .asked w :=
      fun h => staged_speaks (atHome_talks h) w
    cases c with
    | executeRecipeTool args => exact hstaged executeRecipeTool_talks
    | pressGrind =>
      exact hstaged (press_talks (drop_talks asyncConfirmGrind_talks) (drop_talks asyncArmGrind_talks))
    | pressPour =>
      exact hstaged (press_talks (drop_talks asyncConfirmPour_talks) (drop_talks asyncArmPour_talks))
    | pressRecipe => exact hstaged (press_talks (drop_talks asyncConfirmRecipe_talks) asyncArmRecipe_talks)
    | pour => exact Co.speaks_free _
    | grind => exact Co.speaks_free _
    | executeRecipe args => exact Co.speaks_free _
    | confirmPour => exact Co.speaks_free _
    | confirmGrind => exact Co.speaks_free _
    | confirmRecipe => exact Co.speaks_free _
    | armPour => exact hquiet (quiet_talks (call_talks I yaml rfl rfl))
    | armGrind => exact hquiet (quiet_talks (call_talks I yaml rfl rfl))
    | armRecipe args => exact hquiet (quiet_talks (call_talks I yaml (c := .armRecipe args) rfl rfl))
    | cancel => exact hquiet (quiet_talks (call_talks I yaml rfl rfl))
    | connect => exact hquiet (quiet_talks (call_talks I yaml rfl rfl))
    | disconnect => exact hquiet (quiet_talks (call_talks I yaml rfl rfl))
    | dropStaleLink => exact hquiet (quiet_talks (call_talks I yaml rfl rfl))
    | enterIdleStandby => exact hquiet (quiet_talks (call_talks I yaml rfl rfl))

/-- What every call has said in a run is what its protocol allows. -/
theorem home_protocol (w : World) (as : List HomeAction) : ∀ e ∈ (homeRun I yaml w as).trace,
    ∃ s, e.call.talk.after .asked (saidBy e.task (homeRun I yaml w as).trace) = some s := by
  refine protocol_kept (fun _ => Stage.asked) (fun c w => ?_) w as
  show ((c.routine I yaml).run.bind fun _ => .ret ()).Speaks _ _ _ _
  rw [Co.speaks_bind]
  exact (routine_speaks I yaml c w).mono fun _ _ _ _ => trivial

end

/-! ## What a two-phase call has done -/

/-- No start command among some events. -/
def NoStarts (es : List HomeEvent) : Prop := ∀ e ∈ es, e.starts = false

/-- No flag set among some events. -/
def NoArms (es : List HomeEvent) : Prop := ∀ op, .coordinator (.armed op) ∉ es

/-- **What a stage tells of the past.** -/
def Stage.tells (op : Armed) (may : Bool) (es : List HomeEvent) : Stage → Prop
  | .asked => NoStarts es ∧ NoArms es
  | .opening => NoStarts es ∧ NoArms es
  | .armed => NoStarts es ∧ .coordinator (.armed op) ∈ es
  | .confirmed => NoStarts es ∧ NoArms es ∧ may = true ∧ .coordinator (.confirming (some op)) ∈ es
  | .started => NoArms es ∧ may = true ∧ .coordinator (.confirming (some op)) ∈ es ∧
      ∃ c packet, .coordinator (.sent c packet) ∈ es ∧ goes op packet.command = true
  | .replied => NoStarts es ∨ NoArms es

section
variable {es : List HomeEvent} {e : HomeEvent} {s s' : Stage}

theorem NoStarts.snoc (h : NoStarts es) (he : e.starts = false) : NoStarts (es ++ [e]) := by
  intro e' he'
  rcases List.mem_append.mp he' with he' | he'
  · exact h e' he'
  · rw [List.mem_singleton.mp he']
    exact he

theorem NoArms.snoc (h : NoArms es) (he : ∀ op, e ≠ .coordinator (.armed op)) : NoArms (es ++ [e]) := by
  intro op hop
  rcases List.mem_append.mp hop with hop | hop
  · exact h op hop
  · exact he op (List.mem_singleton.mp hop).symm

/-- A send that leads on from a stage before any start. -/
theorem sendAsked_eq_some {k : Command} (h : Stage.sendAsked k = some s') :
    startCommand k = false ∧ (s' = .asked ∨ s' = .opening) := by
  unfold Stage.sendAsked at h
  cases hstart : startCommand k with
  | true => simp [hstart] at h
  | false =>
    simp only [hstart, Bool.false_eq_true, if_false] at h
    split at h
    · exact ⟨rfl, Or.inl (Option.some.inj h).symm⟩
    · exact ⟨rfl, Or.inr (Option.some.inj h).symm⟩

theorem sendArming_eq_some {k : Command} (h : Stage.sendArming s k = some s') :
    startCommand k = false ∧ s' = s := by
  unfold Stage.sendArming at h
  cases hstart : startCommand k with
  | true => simp [hstart] at h
  | false => exact ⟨rfl, by simpa [hstart] using h.symm⟩

theorem sendStarting_eq_some {k : Command} (h : Stage.sendStarting op s k = some s') :
    goes op k = true ∧ s' = .started ∨ startCommand k = false ∧ s' = s := by
  unfold Stage.sendStarting at h
  by_cases hgoes : goes op k = true
  · rw [if_pos hgoes] at h
    exact Or.inl ⟨hgoes, (Option.some.inj h).symm⟩
  · rw [if_neg hgoes] at h
    split at h
    · rename_i hlink
      have hstart : ∀ k ∈ linkCommands, startCommand k = false := by decide
      exact Or.inr ⟨hstart k (List.contains_iff_mem.mp hlink), (Option.some.inj h).symm⟩
    · cases h

/-- **Each stage tells of the past what the one before it told, and its event.** -/
theorem Stage.tells_step (h : s.tells op may es) (hnext : homeTalk op may s e = some s') :
    s'.tells op may (es ++ [e]) := by
  have hkept : ∀ {x : HomeEvent}, x ∈ es → x ∈ es ++ [e] := fun hx => List.mem_append_left _ hx
  have hlast : e ∈ es ++ [e] := List.mem_append_right _ List.mem_cons_self
  cases e with
  | replied reply =>
    obtain ⟨hreply, rfl⟩ : s.mayReply may reply = true ∧ Stage.replied = s' := by
      simpa [homeTalk] using hnext
    have hquiet : NoStarts es ∨ NoArms es := by
      cases s with
      | asked => exact Or.inl h.1
      | opening => exact Or.inl h.1
      | armed => exact Or.inl h.1
      | confirmed => exact Or.inl h.1
      | started => exact Or.inr h.1
      | replied => exact h
    rcases hquiet with hquiet | hquiet
    · exact Or.inl (hquiet.snoc rfl)
    · exact Or.inr (hquiet.snoc fun op => by simp)
  | coordinator e =>
    have hstage : stageTalk op may s e = some s' := hnext
    cases e with
    | sent c packet =>
      have hstarts : ∀ {b}, startCommand packet.command = b →
          (HomeEvent.coordinator (.sent c packet)).starts = b := fun h => h
      have hnot : ∀ op', HomeEvent.coordinator (.sent c packet) ≠ .coordinator (.armed op') :=
        fun op' => by simp
      cases s with
      | asked =>
        obtain ⟨hstart, rfl | rfl⟩ := sendAsked_eq_some hstage
        · exact ⟨h.1.snoc (hstarts hstart), h.2.snoc hnot⟩
        · exact ⟨h.1.snoc (hstarts hstart), h.2.snoc hnot⟩
      | opening =>
        obtain ⟨hstart, rfl⟩ := sendArming_eq_some hstage
        exact ⟨h.1.snoc (hstarts hstart), h.2.snoc hnot⟩
      | armed =>
        obtain ⟨hstart, rfl⟩ := sendArming_eq_some hstage
        exact ⟨h.1.snoc (hstarts hstart), hkept h.2⟩
      | confirmed =>
        obtain ⟨hstarts', harms, hmay, hconfirming⟩ := h
        rcases sendStarting_eq_some hstage with ⟨hgoes, rfl⟩ | ⟨hstart, rfl⟩
        · exact ⟨harms.snoc hnot, hmay, hkept hconfirming, c, packet, hlast, hgoes⟩
        · exact ⟨hstarts'.snoc (hstarts hstart), harms.snoc hnot, hmay, hkept hconfirming⟩
      | started =>
        obtain ⟨harms, hmay, hconfirming, c', packet', hsent, hgone⟩ := h
        have hstarted : s' = .started := by
          rcases sendStarting_eq_some hstage with ⟨_, rfl⟩ | ⟨_, rfl⟩
          · rfl
          · rfl
        rw [hstarted]
        exact ⟨harms.snoc hnot, hmay, hkept hconfirming, c', packet', hkept hsent, hgone⟩
      | replied => cases hstage
    | connecting armed =>
      have hnot : ∀ op', HomeEvent.coordinator (.connecting armed) ≠ .coordinator (.armed op') :=
        fun op' => by simp
      cases s with
      | asked =>
        cases hstage
        exact ⟨h.1.snoc rfl, h.2.snoc hnot⟩
      | opening =>
        cases hstage
        exact ⟨h.1.snoc rfl, h.2.snoc hnot⟩
      | armed =>
        cases hstage
        exact ⟨h.1.snoc rfl, hkept h.2⟩
      | confirmed =>
        cases hstage
        exact ⟨h.1.snoc rfl, h.2.1.snoc hnot, h.2.2.1, hkept h.2.2.2⟩
      | started =>
        cases hstage
        obtain ⟨harms, hmay, hconfirming, c', packet', hsent, hgone⟩ := h
        exact ⟨harms.snoc hnot, hmay, hkept hconfirming, c', packet', hkept hsent, hgone⟩
      | replied => cases hstage
    | armed op' =>
      cases s with
      | opening =>
        obtain ⟨rfl, rfl⟩ : op' = op ∧ Stage.armed = s' := by simpa [stageTalk] using hstage
        exact ⟨h.1.snoc rfl, hlast⟩
      | _ => cases hstage
    | confirming armed =>
      cases s with
      | asked =>
        obtain ⟨⟨hmay, rfl⟩, rfl⟩ : (may = true ∧ armed = some op) ∧ Stage.confirmed = s' := by
          simpa [stageTalk] using hstage
        exact ⟨h.1.snoc rfl, h.2.snoc fun op' => by simp, hmay, hlast⟩
      | _ => cases hstage
    | chain armed uid =>
      cases s <;> cases hstage
      exact ⟨h.1.snoc rfl, h.2.snoc fun op' => by simp⟩
    | naming uid =>
      cases s <;> cases hstage
      exact ⟨h.1.snoc rfl, h.2.snoc fun op' => by simp⟩

end

/-- **A call that worked in two phases**: it started only its own operation, told so and after it found
its arm standing; it did not both start and arm; and what it replied at its end, if it is the grind or the
pour tool, is so. -/
structure TwoPhased (op : Armed) (may : Bool) (said : List HomeEvent) : Prop where
  starts : ∀ past c packet later, said = past ++ .coordinator (.sent c packet) :: later →
    startCommand packet.command = true →
      goes op packet.command = true ∧ may = true ∧ .coordinator (.confirming (some op)) ∈ past
  apart : NoStarts said ∨ NoArms said
  armed : ∀ past again settings later, said = past ++ .replied (.armed again settings) :: later →
    later = [] ∧ again = may ∧ NoStarts past ∧ .coordinator (.armed op) ∈ past
  started : ∀ past settings later, said = past ++ .replied (.started settings) :: later →
    later = [] ∧ may = true ∧ NoArms past ∧
      ∃ c packet, .coordinator (.sent c packet) ∈ past ∧ goes op packet.command = true

section
variable {es : List HomeEvent} {s : Stage}

theorem tells_after (h : (homeTalk op may).after .asked es = some s) : s.tells op may es :=
  Protocol.after_tells (I := fun es s => s.tells op may es)
    ⟨fun _ he => absurd he List.not_mem_nil, fun _ he => absurd he List.not_mem_nil⟩
    (fun _ _ _ _ h hnext => Stage.tells_step h hnext) es h

/-- Nothing is said after a reply. -/
theorem nothing_after_reply (h : (homeTalk op may).after .replied es = some s) : es = [] := by
  cases es with
  | nil => rfl
  | cons e rest =>
    have hnone : homeTalk op may .replied e = none := by
      cases e with
      | coordinator e => rfl
      | replied reply => rfl
    rw [Protocol.after, hnone] at h
    cases h

/-- A start that a stage allows was confirmed. -/
theorem start_allowed {c : ℕ} {packet : Packet} {now next : Stage} (h : now.tells op may es)
    (hnext : homeTalk op may now (.coordinator (.sent c packet)) = some next)
    (hstart : startCommand packet.command = true) :
    goes op packet.command = true ∧ may = true ∧ .coordinator (.confirming (some op)) ∈ es := by
  have hstage : stageTalk op may now (.sent c packet) = some next := hnext
  have hno : startCommand packet.command ≠ false := by
    rw [hstart]
    decide
  cases now with
  | asked => exact absurd (sendAsked_eq_some hstage).1 hno
  | opening => exact absurd (sendArming_eq_some hstage).1 hno
  | armed => exact absurd (sendArming_eq_some hstage).1 hno
  | confirmed =>
    rcases sendStarting_eq_some hstage with ⟨hgoes, _⟩ | ⟨hnot, _⟩
    · exact ⟨hgoes, h.2.2⟩
    · exact absurd hnot hno
  | started =>
    rcases sendStarting_eq_some hstage with ⟨hgoes, _⟩ | ⟨hnot, _⟩
    · exact ⟨hgoes, h.2.1, h.2.2.1⟩
    · exact absurd hnot hno
  | replied => cases hstage

/-- **What keeps to the protocol works in two phases.** -/
theorem twoPhased_of_talk (h : (homeTalk op may).after .asked es = some s) : TwoPhased op may es := by
  have hreplied : ∀ {now next reply}, homeTalk op may now (.replied reply) = some next →
      now.mayReply may reply = true ∧ Stage.replied = next := fun h => by simpa [homeTalk] using h
  constructor
  · intro past c packet later hsplit hstart
    rw [hsplit] at h
    obtain ⟨now, next, hpast, hnext, -⟩ := Protocol.after_split _ h
    exact start_allowed (tells_after hpast) hnext hstart
  · have htells := tells_after h
    cases s with
    | asked => exact Or.inl htells.1
    | opening => exact Or.inl htells.1
    | armed => exact Or.inl htells.1
    | confirmed => exact Or.inl htells.1
    | started => exact Or.inr htells.1
    | replied => exact htells
  · intro past again settings later hsplit
    rw [hsplit] at h
    obtain ⟨now, next, hpast, hnext, hlater⟩ := Protocol.after_split _ h
    obtain ⟨hmay, rfl⟩ := hreplied hnext
    have htells := tells_after hpast
    cases now with
    | armed => exact ⟨nothing_after_reply hlater, by simpa [Stage.mayReply] using hmay, htells⟩
    | _ => cases hmay
  · intro past settings later hsplit
    rw [hsplit] at h
    obtain ⟨now, next, hpast, hnext, hlater⟩ := Protocol.after_split _ h
    obtain ⟨hmay, rfl⟩ := hreplied hnext
    have htells := tells_after hpast
    cases now with
    | started => exact ⟨nothing_after_reply hlater, htells.2.1, htells.1, htells.2.2.2⟩
    | _ => cases hmay

end

/-- **Two-phase calls work in two phases, in any company.**  In every run from any world, whatever the
other calls do, a tool or button of two phases has started only its own operation, only when it was told
to and after it found its arm standing; it has not both armed and started; and a grind or pour tool has
reported as armed or started what it has armed or started. -/
theorem two_phase_calls (I : Identifiers) (yaml : YamlLayer) (w : World) (as : List HomeAction) :
    ∀ e ∈ (homeRun I yaml w as).trace, ∀ op may, e.call.stages = some (op, may) →
      TwoPhased op may (saidBy e.task (homeRun I yaml w as).trace) := by
  intro e he op may hstages
  obtain ⟨s, hs⟩ := home_protocol I yaml w as e he
  have htalk : e.call.talk = homeTalk op may := by simp only [HomeCall.talk, hstages]
  rw [htalk] at hs
  exact twoPhased_of_talk hs

/-- The agent arms a grind of size 40, and then confirms it. -/
def askedTwice : List HomeAction :=
  [.spawn (.grindTool { grindSize := some 40 }), .resume 0 .done,
    .spawn (.grindTool { confirmed := true }), .resume 1 .done]

/-- The second call found the first one's arm and started it. -/
theorem confirmed_grind_phased : TwoPhased .grind true
    (saidBy 1 (homeRun plainIdentifiers morningYaml connectedWorld askedTwice).trace) :=
  two_phase_calls plainIdentifiers morningYaml connectedWorld askedTwice
    ⟨1, .grindTool { confirmed := true }, .coordinator (.confirming (some .grind))⟩
    (List.mem_of_getElem? (i := 3) (by rfl)) .grind true rfl

end XBloom.Llm
