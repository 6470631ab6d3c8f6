/-
# XBloom.Slots.Restore — whether a slot write gives Easy Mode back

A machine in Easy Mode is switched to Pro for the batch and back in the `finally`, if `switched_to_pro`
is set.  The flag is set when the switch returns, and a switch can raise after its packet went out: at
a poll that finds no client, or at a second attempt.  Nothing else takes Easy Mode away
(`gives_easy_back_iff`): once the switch has returned, every failure of the batch comes to the restore.
-/
import XBloom.Slots.Tea

namespace XBloom.Slots

open XBloom.Async XBloom.Logic XBloom.Py XBloom.Ble XBloom.Recipe XBloom.Cloud

/-! ## The property -/

/-- A packet of the switch to Pro has gone out. -/
def isProSent : Beat World Event Await Answer Move → Bool
  | .answered (.written (.easyModeType .pro)) _ r => r.outcome != .failed
  | _ => false

/-- A switch to Easy comes to its send. -/
def isEasyTried : Beat World Event Await Answer Move → Bool
  | .emitted _ (.switching .easy) => true
  | _ => false

/-- A packet of the switch to Pro went out. -/
def proSent (σ : Tale) : Bool := σ.beats.any isProSent

/-- A switch to Easy came to its send. -/
def easyTried (σ : Tale) : Bool := σ.beats.any isEasyTried

/-- **Easy Mode is given back**: if a packet of the switch to Pro went out, a switch to Easy was tried. -/
def GivesEasyBack (σ : Tale) : Prop := proSent σ = true → easyTried σ = true

instance (σ : Tale) : Decidable (GivesEasyBack σ) := inferInstanceAs (Decidable (_ → _))

/-! ## Its condition -/

/-- What the switch to Pro does not survive: no client at a poll, no link at an attempt, a write that
fails. -/
def breaksSwitch : Beat World Event Await Answer Move → Bool
  | .answered (.modePoll .pro) w _ => w.coord.client.isNone
  | .emitted w (.switching .pro) => !w.coord.linkUp
  | .answered (.written (.easyModeType .pro)) _ r => r.outcome == .failed
  | _ => false

/-- The switch to Pro broke off after a packet of it had gone out. -/
def brokenOff (σ : Tale) : Bool := anyFrom isProSent breaksSwitch σ.beats

section Tale

variable (I : Identifiers) (yaml : YamlLayer) (σ : Tale) (l : Await) (reply : Reply Answer Move)

/-- What is sent does not break the switch. -/
theorem breaksSwitch_of_sent {b : Beat World Event Await Answer Move} (h : isProSent b = true) :
    breaksSwitch b = false := by
  unfold isProSent at h
  split at h
  · simpa [breaksSwitch] using h
  · cases h

@[simp] theorem proSent_emit (e : Event) : proSent (σ.emit e) = proSent σ := by
  simp [proSent, Story.emit, isProSent]

@[simp] theorem easyTried_emit (e : Event) :
    easyTried (σ.emit e) = (easyTried σ || isEasyTried (.emitted σ.world e)) := by
  simp [easyTried, Story.emit]

@[simp] theorem brokenOff_emit (e : Event) :
    brokenOff (σ.emit e) = (brokenOff σ || (proSent σ && breaksSwitch (.emitted σ.world e))) :=
  anyFrom_snoc _ _ σ.beats breaksSwitch_of_sent

/-- The beat of a reply. -/
def answered : Beat World Event Await Answer Move :=
  .answered l (σ.answer (World.move I yaml) l reply).world reply.response

/-- The beats of the surroundings' moves. -/
def movedBeats (moves : List Move) : List (Beat World Event Await Answer Move) := moves.map .moved

theorem answer_beats : (σ.answer (World.move I yaml) l reply).beats =
    (σ.beats ++ movedBeats reply.moves) ++ [answered I yaml σ l reply] :=
  (List.append_assoc _ _ _).symm

/-- The moves of the surroundings neither send nor break. -/
theorem moved_quiet (moves : List Move) :
    ∀ b ∈ movedBeats moves, isProSent b = false ∧ breaksSwitch b = false := by
  intro b hb
  obtain ⟨m, _, rfl⟩ := List.mem_map.mp hb
  exact ⟨rfl, rfl⟩

theorem any_moved (moves : List Move) :
    (σ.beats ++ movedBeats moves).any isProSent = proSent σ := by
  have hnone : (movedBeats moves).any isProSent = false :=
    List.any_eq_false.mpr fun b hb => by simp [(moved_quiet moves b hb).1]
  rw [List.any_append, hnone, Bool.or_false, proSent]

@[simp] theorem proSent_answer : proSent (σ.answer (World.move I yaml) l reply) =
    (proSent σ || isProSent (answered I yaml σ l reply)) := by
  rw [proSent, answer_beats, List.any_append, any_moved, List.any_cons, List.any_nil, Bool.or_false]

@[simp] theorem easyTried_answer :
    easyTried (σ.answer (World.move I yaml) l reply) = easyTried σ := by
  simp [easyTried, Story.answer, isEasyTried, Function.comp_def]

@[simp] theorem brokenOff_answer : brokenOff (σ.answer (World.move I yaml) l reply) =
    (brokenOff σ || (proSent σ && breaksSwitch (answered I yaml σ l reply))) := by
  rw [brokenOff, answer_beats, anyFrom_snoc _ _ _ breaksSwitch_of_sent, any_moved,
    anyFrom_append_quiet _ _ (fun b hb => (moved_quiet _ b hb).1) fun b hb => (moved_quiet _ b hb).2]
  rfl

@[simp] theorem proSent_write (f : World → World) : proSent (σ.write f) = proSent σ := rfl

@[simp] theorem easyTried_write (f : World → World) : easyTried (σ.write f) = easyTried σ := rfl

@[simp] theorem brokenOff_write (f : World → World) : brokenOff (σ.write f) = brokenOff σ := rfl

end Tale

/-! ## The rest of a write -/

attribute [local irreducible] Within

variable {I : Identifiers} {yaml : YamlLayer}

/-- What a mode switch to Pro says nothing of it says of no beat of the rest. -/
theorem quiet_emit {commands : Command → Prop} (hpro : ¬ commands (.easyModeType .pro)) {w : World}
    {e : Event} (he : (touches commands).emits e) : breaksSwitch (.emitted w e) = false := by
  cases e with
  | coord e => rfl
  | sent c packet => rfl
  | filling letter target => rfl
  | switching mode =>
    cases mode with
    | pro => exact absurd he hpro
    | easy => rfl

theorem quiet_answered {commands : Command → Prop} (hpro : ¬ commands (.easyModeType .pro)) {l : Await}
    (hl : (touches commands).awaits l) (w : World) (r : Answer) :
    isProSent (.answered l w r) = false ∧ breaksSwitch (.answered l w r) = false := by
  cases l with
  | coord l => exact ⟨rfl, rfl⟩
  | fetched => exact ⟨rfl, rfl⟩
  | slotGap => exact ⟨rfl, rfl⟩
  | modePoll mode =>
    cases mode with
    | pro => exact absurd hl hpro
    | easy => exact ⟨rfl, rfl⟩
  | written command =>
    cases command with
    | easyRecipeSend letter => exact ⟨rfl, rfl⟩
    | easyRecipeOrder => exact ⟨rfl, rfl⟩
    | easyModeType mode =>
      cases mode with
      | pro => exact absurd hl hpro
      | easy => exact ⟨rfl, rfl⟩

/-- **All but the switch to Pro** keeps whether it went out and whether it broke off, and a switch to Easy
that was tried stays tried. -/
theorem keeps_switch {commands : Command → Prop} (hpro : ¬ commands (.easyModeType .pro))
    {P : Bool → Bool → Bool → Prop}
    (hP : commands (.easyModeType .easy) → ∀ sent tried broken, P sent tried broken → P sent true broken) :
    Keeps (World.move I yaml) (touches commands) fun σ => P (proSent σ) (easyTried σ) (brokenOff σ) where
  write := fun f σ _ h => h
  emit := by
    intro e he σ h
    rw [proSent_emit, easyTried_emit, brokenOff_emit, quiet_emit hpro he, Bool.and_false,
      Bool.or_false]
    cases htried : isEasyTried (.emitted σ.world e) with
    | false =>
      rw [Bool.or_false]
      exact h
    | true =>
      rw [Bool.or_true]
      refine hP ?_ _ _ _ h
      unfold isEasyTried at htried
      split at htried
      · rename_i hbeat
        cases hbeat
        exact he
      · cases htried
  answer := by
    intro l hl σ reply h
    obtain ⟨hsent, hbreaks⟩ := quiet_answered hpro hl
      (σ.answer (World.move I yaml) l reply).world reply.response
    rw [proSent_answer, easyTried_answer, brokenOff_answer, answered, hsent, hbreaks, Bool.or_false,
      Bool.and_false, Bool.or_false]
    exact h

/-! ## The switch to Pro -/

/-- No switch to Easy so far, and nothing broke off. -/
def Unbroken (σ : Tale) : Prop := easyTried σ = false ∧ brokenOff σ = false

/-- No switch to Easy so far, and a switch that went out broke off. -/
def Off (σ : Tale) : Prop := easyTried σ = false ∧ (proSent σ = true → brokenOff σ = true)

/-- A poll that finds no client breaks the switch off, and no other does. -/
theorem pollModeAck_pro (n : ℕ) :
    Plays (World.move I yaml)
      (fun σ => (proSent σ = true ∧ Unbroken σ) ∧ (n = 0 → σ.world.coord.client ≠ none))
      (pollModeAck .pro n)
      (fun _ σ => Unbroken σ ∧ proSent σ = true ∧ σ.world.coord.client ≠ none) (fun _ => Off) := by
  induction n with
  | zero => exact .pure fun σ h => ⟨h.1.2, h.1.1, h.2 rfl⟩
  | succ n ih =>
    refine .bind (.await (Q := fun _ σ => proSent σ = true ∧ easyTried σ = false ∧
      brokenOff σ = σ.world.coord.client.isNone) ?_) fun _ => .world fun w => ?_
    · rintro σ reply ⟨⟨hsent, htried, hbroken⟩, _⟩
      refine ⟨?_, ?_, ?_⟩
      · rw [proSent_answer, hsent, Bool.true_or]
      · rw [easyTried_answer, htried]
      · rw [brokenOff_answer, hbroken, hsent, Bool.true_and, Bool.false_or]
        rfl
    · cases hclient : w.coord.client with
      -- `self.client` is gone: the poll raises with the switch sent
      | none =>
        refine .throw fun σ h => ?_
        obtain ⟨⟨_, htried, hbroken⟩, rfl⟩ := h
        exact ⟨htried, fun _ => by rw [hbroken, hclient]; rfl⟩
      | some c =>
        have hpre : ∀ σ : Tale, (proSent σ = true ∧ easyTried σ = false ∧
            brokenOff σ = σ.world.coord.client.isNone) ∧ σ.world = w →
            Unbroken σ ∧ proSent σ = true ∧ σ.world.coord.client ≠ none := by
          rintro σ ⟨⟨hsent, htried, hbroken⟩, rfl⟩
          rw [hclient] at hbroken
          exact ⟨⟨htried, hbroken⟩, hsent, by rw [hclient]; exact Option.some_ne_none c⟩
        refine .world fun w' => ?_
        split
        · exact .pure fun σ h => hpre σ h.1
        · refine ih.pre fun σ h => ?_
          obtain ⟨hunbroken, hsent, hne⟩ := hpre σ h.1
          exact ⟨⟨hsent, hunbroken⟩, fun _ => hne⟩

/-- The send of an attempt: it goes out, or it breaks off a switch that has. -/
theorem sendPro_unbroken :
    Plays (World.move I yaml)
      (fun σ => easyTried σ = false ∧ brokenOff σ = (proSent σ && !σ.world.coord.linkUp))
      (withClient (sendCommandRaw (.easyMode .pro)))
      (fun _ σ => proSent σ = true ∧ Unbroken σ) (fun _ => Off) := by
  refine .world fun w => ?_
  -- without a link the switch that has gone out is broken off
  have hdown : w.coord.linkUp = false → ∀ σ : Tale, (easyTried σ = false ∧
      brokenOff σ = (proSent σ && !σ.world.coord.linkUp)) ∧ σ.world = w → Off σ := by
    rintro hlink σ ⟨⟨htried, hbroken⟩, rfl⟩
    rw [hlink, Bool.not_false, Bool.and_true] at hbroken
    exact ⟨htried, fun hsent => hbroken.trans hsent⟩
  cases hclient : w.coord.client with
  | none =>
    refine .throw (hdown ?_)
    rw [Coordinator.World.linkUp, hclient]
    rfl
  | some c =>
    have hlink : w.coord.linkUp = w.coord.isConnected c := by
      rw [Coordinator.World.linkUp, hclient]
      rfl
    refine .world fun w' => ?_
    split
    · rename_i hconnected
      refine .bind (.emit (Q := fun _ => Unbroken) ?_) fun _ =>
        .bind (.await (Q := fun r σ => easyTried σ = false ∧
          (r.outcome = .failed → proSent σ = true → brokenOff σ = true) ∧
          (r.outcome ≠ .failed → proSent σ = true ∧ brokenOff σ = false)) ?_) fun r => ?_
      · rintro σ ⟨⟨⟨htried, hbroken⟩, rfl⟩, rfl⟩
        rw [hlink, hconnected, Bool.not_true, Bool.and_false] at hbroken
        refine ⟨?_, ?_⟩
        · rw [easyTried_emit, htried]
          rfl
        · rw [brokenOff_emit, hbroken]
          exact Bool.and_false _
      · rintro σ reply ⟨htried, hbroken⟩
        have hsent : isProSent (answered I yaml σ (.written (.easyModeType .pro)) reply) =
            (reply.response.outcome != .failed) := rfl
        have hbreaks : breaksSwitch (answered I yaml σ (.written (.easyModeType .pro)) reply) =
            (reply.response.outcome == .failed) := rfl
        refine ⟨?_, ?_, ?_⟩
        · rw [easyTried_answer, htried]
        · intro hfailed
          rw [proSent_answer, brokenOff_answer, Packet.command, hsent, hbreaks, hfailed, hbroken]
          simp
        · intro hdone
          rw [proSent_answer, brokenOff_answer, Packet.command, hsent, hbreaks, hbroken]
          simp [hdone]
      · split
        · rename_i hfailed
          exact .throw fun σ h => ⟨h.1, h.2.1 hfailed⟩
        · rename_i hdone
          exact .pure fun σ h => ⟨(h.2.2 hdone).1, h.1, (h.2.2 hdone).2⟩
    · rename_i hdisconnected
      refine .throw fun σ h => hdown ?_ σ h.1
      have hsame : w = w' := h.1.2.symm.trans h.2
      rw [hlink, hsame]
      exact Bool.eq_false_of_not_eq_true hdisconnected

/-- **A switch to Pro that raises has not gone out, or broke off after it had.** -/
theorem switchAttempts_pro (n : ℕ) :
    Plays (World.move I yaml) Unbroken (switchAttempts .pro n) (fun _ => Unbroken) fun _ => Off := by
  induction n with
  | zero => exact .pure fun σ h => h
  | succ n ih =>
    refine .bind (.emit (Q := fun _ σ => easyTried σ = false ∧
      brokenOff σ = (proSent σ && !σ.world.coord.linkUp)) ?_) fun _ => .bind sendPro_unbroken fun _ =>
        .bind ((pollModeAck_pro modeSwitchPolls).pre ?_) fun confirmed => ?_
    · rintro σ ⟨htried, hbroken⟩
      refine ⟨?_, ?_⟩
      · rw [easyTried_emit, htried]
        rfl
      · rw [brokenOff_emit, hbroken, proSent_emit, Bool.false_or]
        rfl
    · exact fun σ h => ⟨h, fun hzero => absurd hzero (by decide)⟩
    · split
      · exact .pure fun σ h => h.1
      · -- the last poll has found a client, and nothing has happened since
        refine .world fun w => ?_
        cases hclient : w.coord.client with
        | none => exact .throw fun σ h => absurd (h.2 ▸ hclient) h.1.2.2
        | some c =>
          refine .world fun w' => ?_
          split
          · exact ih.pre fun σ h => h.1.1.1
          · exact .pure fun σ h => h.1.1.1

/-! ## The restore -/

/-- After the event of an attempt. -/
theorem attempt_within {commands : Command → Prop} {mode : Mode}
    (h : commands (.easyModeType mode)) (n : ℕ) :
    Within (touches commands) (do
      withClient (sendCommandRaw (.easyMode mode))
      let confirmed ← pollModeAck mode modeSwitchPolls
      if confirmed then pure true
      else withClient fun c => do
        let w ← Routine.world
        if w.isSleeping c then switchAttempts mode n else pure false : Async Bool) := by
  refine .bind (withClient_within (sendCommandRaw_within h)) fun _ =>
    .bind (pollModeAck_within h _) fun confirmed => ?_
  split
  · exact .pure _
  · refine withClient_within fun c => .world fun w => ?_
    split
    · exact switchAttempts_within h n
    · exact .pure _

/-- **The restore tries a switch to Easy**, whatever comes of it. -/
theorem restoreEasy_tries :
    Plays (World.move I yaml) (fun σ => brokenOff σ = false) restoreEasy
      (fun _ σ => easyTried σ = true ∧ brokenOff σ = false) fun _ _ => False := by
  have hkeeps : Keeps (World.move I yaml) (touches fun k => k = .easyModeType .easy)
      fun σ => easyTried σ = true ∧ brokenOff σ = false :=
    keeps_switch (P := fun _ tried broken => tried = true ∧ broken = false) (fun h => by cases h)
      fun _ _ _ _ h => ⟨rfl, h.2⟩
  refine .bind (Q := fun _ σ => easyTried σ = true ∧ brokenOff σ = false) (.attempt ?_)
    fun _ => .pure fun _ h => h
  refine .bind (Q := fun _ σ => easyTried σ = true ∧ brokenOff σ = false) ?_ fun _ =>
    .bind ((Within.await trivial).plays hkeeps) fun r => ?_
  · refine .bind (.emit (Q := fun _ σ => easyTried σ = true ∧ brokenOff σ = false) ?_) fun _ =>
      (attempt_within (by rfl) 2).plays hkeeps
    intro σ hbroken
    refine ⟨?_, ?_⟩
    · rw [easyTried_emit]
      exact Bool.or_true _
    · rw [brokenOff_emit, hbroken]
      exact Bool.and_false _
  · split
    · exact .throw fun _ h => h
    · exact .pure fun _ h => h

/-! ## The write -/

/-- Easy Mode is given back exactly when the switch to Pro did not break off. -/
def Restored (σ : Tale) : Prop := GivesEasyBack σ ↔ brokenOff σ = false

/-- Nothing of a mode switch so far. -/
def Unswitched (σ : Tale) : Prop := proSent σ = false ∧ Unbroken σ

theorem Unswitched.restored {σ : Tale} (h : Unswitched σ) : Restored σ := by
  obtain ⟨hsent, _, hbroken⟩ := h
  refine ⟨fun _ => hbroken, fun _ hsent' => ?_⟩
  rw [hsent] at hsent'
  cases hsent'

theorem Off.restored {σ : Tale} (h : Off σ) : Restored σ := by
  obtain ⟨htried, hoff⟩ := h
  constructor
  · intro hback
    rw [← Bool.not_eq_true]
    intro hbroken
    have htried' := hback (any_of_anyFrom _ _ hbroken)
    rw [htried] at htried'
    cases htried'
  · intro hbroken hsent
    rw [hoff hsent] at hbroken
    cases hbroken

theorem keeps_unswitched {commands : Command → Prop} (hpro : ¬ commands (.easyModeType .pro))
    (heasy : ¬ commands (.easyModeType .easy)) :
    Keeps (World.move I yaml) (touches commands) Unswitched :=
  keeps_switch (P := fun sent tried broken => sent = false ∧ tried = false ∧ broken = false) hpro
    fun h => absurd h heasy

/-- The switch to Pro and the batch. -/
theorem switchAndWrite_switches (slotRecipes : Letter → SlotSource) :
    Plays (World.move I yaml) Unswitched (switchAndWrite slotRecipes)
      (fun outcome σ => (outcome.1 = true → brokenOff σ = false) ∧ (outcome.1 = false → Off σ))
      (fun _ _ => False) := by
  refine .world fun w => ?_
  generalize decide (w.dataMode = "easy") = easy
  -- a switch that is not made sends nothing
  refine .bind (Q := fun switched σ => (∀ e, switched = .error e → Off σ) ∧
    (switched = .ok () → Unbroken σ ∧ (easy = false → proSent σ = false))) (.attempt ?_)
      fun switched => ?_
  · refine .when (fun heasy => ?_) fun heasy σ h => ?_
    · refine .bind (Q := fun _ => Unbroken) (((switchAttempts_pro 3).pre fun σ h => h.1.2).weaken
        (fun _ h => h) (fun _ _ h => h) fun e σ h => ⟨fun _ _ => h, fun hok => by cases hok⟩)
          fun _ => .pure fun σ h => ⟨fun e herror => (by cases herror), fun _ => ⟨h, fun hnot => ?_⟩⟩
      rw [heasy] at hnot
      cases hnot
    · exact ⟨fun e herror => (by cases herror), fun _ => ⟨h.1.2, fun _ => h.1.1⟩⟩
  · cases switched with
    | error e => exact .pure fun σ h => ⟨fun htrue => (by cases htrue), fun _ => h.1 e rfl⟩
    | ok _ =>
      have hkeeps : Keeps (World.move I yaml)
          (touches fun k => k = .easyRecipeOrder ∨ ∃ letter, k = .easyRecipeSend letter)
          fun σ => Unbroken σ ∧ (easy = false → proSent σ = false) :=
        keeps_switch (P := fun sent tried broken => (tried = false ∧ broken = false) ∧
          (easy = false → sent = false)) (by simp) fun h => by simp at h
      have hbatch : Within (touches fun k => k = .easyRecipeOrder ∨ ∃ letter, k = .easyRecipeSend letter)
          (retryWhileSleeping (withClient (writeEasySlots slotRecipes))) :=
        retryWhileSleeping_within (withClient_within fun c =>
          writeEasySlots_within (fun letter => Or.inr ⟨letter, rfl⟩) (Or.inl rfl) slotRecipes c)
      refine .bind (Q := fun _ σ => Unbroken σ ∧ (easy = false → proSent σ = false))
        (.attempt ((hbatch.plays hkeeps).pre fun σ h => h.2 rfl)) fun written => .pure fun σ h => ?_
      refine ⟨fun _ => h.1.2, fun hnot => ⟨h.1.1, fun hsent => ?_⟩⟩
      rw [h.2 hnot] at hsent
      cases hsent

/-- The batch with the restore, and the record. -/
theorem writeAndRecord_restores (letter : Letter) (target : String × RecipeDict)
    (slotRecipes : Letter → SlotSource) :
    Plays (World.move I yaml) Unswitched (writeAndRecord letter target slotRecipes)
      (fun _ => Restored) fun _ _ => False := by
  refine .bind (switchAndWrite_switches slotRecipes) fun outcome =>
    .bind (Q := fun _ => Restored) (.when (fun heasy => ?_) fun heasy σ h => (h.2 heasy).restored)
      fun _ => ?_
  · refine (restoreEasy_tries.pre fun σ h => h.1 heasy).weaken (fun _ h => h) (fun _ σ h => ?_)
      fun _ _ h => h
    exact ⟨fun _ => h.2, fun _ _ => h.1⟩
  · split
    · exact .pure fun σ h => h
    · exact .bind (Q := fun _ => Restored) (.assign fun σ h => h) fun _ => .pure fun σ h => h

theorem fillAndWrite_restores (letter : Letter) (target : String × RecipeDict) :
    Plays (World.move I yaml) Unswitched (fillAndWrite I yaml letter target)
      (fun _ => Restored) fun _ _ => False := by
  refine .bind (Q := fun _ => Unswitched) (.emit fun σ h => ?_) fun _ => .world fun w => ?_
  · unfold Unswitched Unbroken at h ⊢
    simpa [isEasyTried, breaksSwitch] using h
  · split
    · exact .pure fun σ h => h.1.restored
    · exact (writeAndRecord_restores letter target _).pre fun σ h => h.1

theorem writeTarget_restores (slotLetter : String) (target : String × RecipeDict) :
    Plays (World.move I yaml) Unswitched (writeTarget I yaml slotLetter target)
      (fun _ => Restored) fun _ => Restored := by
  unfold writeTarget
  split
  · exact .pure fun σ h => h.restored
  · have hconnect : Plays (World.move I yaml) Unswitched (connection Coordinator.ensureConnected)
        (fun _ => Unswitched) fun _ => Unswitched :=
      (connection_within Coordinator.ensureConnected_within).plays
        (@keeps_unswitched I yaml (fun _ => False) (fun h => h) fun h => h)
    refine .bind (hconnect.weaken (fun _ h => h) (fun _ _ h => h) fun _ σ h => h.restored)
      fun connected => ?_
    split
    · exact .pure fun σ h => h.restored
    · refine .world fun w => ?_
      split
      · exact .pure fun σ h => h.1.restored
      · split
        · exact .pure fun σ h => h.1.restored
        · exact (fillAndWrite_restores _ target).weaken (fun σ h => h.1) (fun _ _ h => h)
            fun _ _ h => h.elim

/-- **A slot write gives Easy Mode back exactly when its switch to Pro does not break off.**  Whatever the
world it starts in and however it is replied to: if a packet of the switch went out, Easy Mode is tried
before the write returns, unless the switch finds no client at a poll after that packet, or no link at
another attempt, or fails in its write. -/
theorem gives_easy_back_iff (w : World) (slotLetter : String) (identifier : Option String)
    (replies : Replies) :
    GivesEasyBack (w.write I yaml slotLetter identifier replies).2 ↔
      brokenOff (w.write I yaml slotLetter identifier replies).2 = false := by
  have hresolve : Plays (World.move I yaml) Unswitched (resolveTarget I yaml identifier)
      (fun _ => Unswitched) fun _ => Unswitched :=
    (resolveTarget_within identifier).plays
      (@keeps_unswitched I yaml (fun _ => False) (fun h => h) fun h => h)
  have hplays : Plays (World.move I yaml) Unswitched
      (asyncWriteEasySlot I yaml slotLetter identifier) (fun _ => Restored) fun _ => Restored := by
    refine .bind (hresolve.weaken (fun _ h => h) (fun _ _ h => h) fun _ σ h => h.restored)
      fun resolved => ?_
    split
    · exact .pure fun σ h => h.restored
    · exact writeTarget_restores slotLetter _
  exact hplays.play_story (σ := .start w) ⟨rfl, rfl, rfl⟩ replies

/-! ## A link that breaks -/

/-- A machine in Easy Mode. -/
def easyMachine : World := { twoRecipes with dataMode := "easy" }

/-- The link breaks before the first poll. -/
def breaksAtPoll : Replies :=
  fun n => ⟨if n = 1 then [.linkLost 0, .unexpectedDisconnect] else [], {}⟩

/-- **Easy Mode is not given back** if the link breaks while the switch to Pro waits: the packet went out, the
poll raises, and the flag is not set. -/
theorem easy_not_given_back :
    ¬ GivesEasyBack (easyMachine.write plainIdentifiers noYaml "A" (some "V60") breaksAtPoll).2 := by
  decide +kernel

end XBloom.Slots
