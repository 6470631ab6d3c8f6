/-
# XBloom.Coordinator.Standing — when the armed flag tells the truth

The machine leaves an armed page, and forgets an armed recipe, on the cleanup of a connect and on the
commands of another chain.  `Standing op tr` says that none of those came after the arm of `op` that
set the flag.  The flag keeps saying so, and a second press finds it so, in every run in which arms and
confirms run alone, connects and chains begin only while nothing is armed, and no confirm reconnects
(`armed_flag_stands`); a reconnect after a dropped link breaks it (`reconnect_outlived`).
-/
import XBloom.Coordinator.Cancel

namespace XBloom.Coordinator

open XBloom.Async XBloom.Logic XBloom.Py XBloom.Ble XBloom.Recipe XBloom.Brewing

/-! ## What an arm stands on -/

/-- The command that opens the page of an arm, or queues its recipe. -/
def opens : Armed → Command → Bool
  | .grind, .grinderIn => true
  | .pour, .brewerIn => true
  | .recipe, .recipeSendAuto => true
  | .recipe, .recipeSendManual => true
  | .recipe, .teaRecipeCode => true
  | _, _ => false

/-- The go command of an arm. -/
def goes : Armed → Command → Bool
  | .grind, .grinderStart => true
  | .pour, .brewerStart => true
  | .recipe, .recipeExecute => true
  | .recipe, .teaRecipeMake => true
  | _, _ => false

/-- The cleanup of a connect and the commands of a chain. -/
def clearingCommands : List Command := [.recipeStop, .brewerQuit, .grinderQuit] ++ chainCommands

/-- A cleanup or chain command is sent. -/
def Event.clears : Event → Bool
  | .sent _ packet => clearingCommands.contains packet.command
  | _ => false

/-- The armed flag is set. -/
def Event.arms : Event → Bool
  | .armed _ => true
  | _ => false

/-- A confirm begins. -/
def Event.confirms : Event → Bool
  | .confirming _ => true
  | _ => false

/-- An event that leaves every arm as it stands. -/
def Quiet (e : Entry Call Event) : Prop := e.event.clears = false ∧ e.event.arms = false

/-- A task has opened the page of `op`, and nothing has cleared it since. -/
def Opened (t : ℕ) (op : Armed) (tr : Trace Call Event) : Prop :=
  ∃ past opened between, tr = past ++ opened :: between ∧ opened.task = t ∧
    opened.event.command.any (opens op) = true ∧ ∀ e ∈ between, e.event.clears = false

/-- **An arm stands**: the last call that set the flag set it for `op`, after opening its page, and
since it opened it no cleanup and no chain command has been sent. -/
def Standing (op : Armed) (tr : Trace Call Event) : Prop :=
  ∃ past opened between set later, tr = past ++ opened :: (between ++ set :: later) ∧
    opened.event.command.any (opens op) = true ∧ set.task = opened.task ∧
    set.event = .armed op ∧ (∀ e ∈ between, e.event.clears = false) ∧ ∀ e ∈ later, Quiet e

variable {op : Armed} {t : ℕ} {tr tr' : Trace Call Event}

theorem Opened.adds (h : Opened t op tr) (hadds : Adds Quiet tr tr') : Opened t op tr' := by
  obtain ⟨past, opened, between, rfl, ht, hopens, hbetween⟩ := h
  obtain ⟨es, rfl, hes⟩ := hadds
  refine ⟨past, opened, between ++ es, by simp, ht, hopens, fun e he => ?_⟩
  rcases List.mem_append.mp he with he | he
  · exact hbetween e he
  · exact (hes e he).1

theorem Standing.adds (h : Standing op tr) (hadds : Adds Quiet tr tr') : Standing op tr' := by
  obtain ⟨past, opened, between, set, later, rfl, hopens, htask, hset, hbetween, hlater⟩ := h
  obtain ⟨es, rfl, hes⟩ := hadds
  refine ⟨past, opened, between, set, later ++ es, by simp, hopens, htask, hset, hbetween, ?_⟩
  intro e he
  rcases List.mem_append.mp he with he | he
  · exact hlater e he
  · exact hes e he

theorem opened_sent (tr : Trace Call Event) {c : Call} {client : ℕ} {packet : Packet}
    (h : opens op packet.command = true) : Opened t op (tr ++ [⟨t, c, .sent client packet⟩]) :=
  ⟨tr, ⟨t, c, .sent client packet⟩, [], rfl, rfl, h, fun _ he => absurd he List.not_mem_nil⟩

/-- The flag is set after the page was opened. -/
theorem Opened.set (h : Opened t op tr) (c : Call) : Standing op (tr ++ [⟨t, c, .armed op⟩]) := by
  obtain ⟨past, opened, between, rfl, ht, hopens, hbetween⟩ := h
  exact ⟨past, opened, between, ⟨t, c, .armed op⟩, [], by simp, hopens, ht.symm, rfl, hbetween,
    fun _ he => absurd he List.not_mem_nil⟩

/-- An arm that stands was not cleared by the last event. -/
theorem Standing.last_kept (h : Standing op tr) {e : Entry Call Event}
    (he : tr.getLast? = some e) : e.event.clears = false := by
  obtain ⟨past, opened, between, set, later, rfl, _, _, hset, _, hlater⟩ := h
  rw [show past ++ opened :: (between ++ set :: later) =
    (past ++ opened :: between) ++ set :: later by simp, List.getLast?_append_cons] at he
  rcases List.eq_nil_or_concat later with rfl | ⟨rest, last, rfl⟩
  · obtain rfl : set = e := Option.some.inj he
    rw [hset]
    rfl
  · rw [List.concat_eq_append, ← List.cons_append, List.getLast?_concat] at he
    obtain rfl : last = e := Option.some.inj he
    exact (hlater last (by simp)).1

/-! ## The contract -/

/-- The calls that arm or confirm: they run alone. -/
def Call.solo : Call → Bool
  | .armPour => true
  | .confirmPour => true
  | .armGrind => true
  | .confirmGrind => true
  | .armRecipe _ => true
  | .confirmRecipe => true
  | .pressGrind => true
  | .pressPour => true
  | .pressRecipe => true
  | .executeRecipeTool _ => true
  | _ => false

/-- The operation a call may confirm. -/
def Call.confirms : Call → Option Armed
  | .confirmPour => some .pour
  | .confirmGrind => some .grind
  | .confirmRecipe => some .recipe
  | .pressGrind => some .grind
  | .pressPour => some .pour
  | .pressRecipe => some .recipe
  | .executeRecipeTool _ => some .recipe
  | _ => none

/-- The points of an armed pour that pushes its setpoints; the arm itself is over. -/
def pushing : Await → Bool
  | .pageSettle => true
  | .pageGap => true
  | .written .brewerSetTemperature => true
  | .written .brewerSetPattern => true
  | _ => false

/-- A segment of such a push. -/
def Pushes (o : CoordinatorOrigin) : Prop :=
  ∃ l r, o.resumed = some (l, r) ∧ pushing l = true

/-- What is assumed of an event: a connect begins only while nothing is armed and never inside a
confirm, a chain begins only while nothing is armed, and a confirm is called on its own arm. -/
def MayHappen (tr : Trace Call Event) (e : Entry Call Event) : Prop :=
  match e.event with
  | .connecting armed =>
    armed = none ∧ ∀ e' ∈ tr, e'.task = e.task → e'.event.confirms = false
  | .chain armed _ => armed = none
  | .confirming armed => ∀ op, e.call.confirms = some op → armed = some op
  | _ => True

/-- A go command of a call that confirms finds its arm standing. -/
def FindsArm (tr : Trace Call Event) (e : Entry Call Event) : Prop :=
  ∀ op, e.call.confirms = some op → e.event.command.any (goes op) = true → Standing op tr

/-- The flag tells the truth. -/
def FlagStands (s : CoordinatorState) : Prop :=
  ∀ op, s.1.armedOperation = some op → Standing op s.2

/-- **The contract of arms**: an arm or a confirm may rely on the others to leave every arm as it
stands while it runs, and every other call never sets the flag. -/
def arming : CoordinatorContract where
  inv := FlagStands
  rely c l s s' := pushing l = true ∨
    (s.1.ClearsArmed s'.1 ∧ (c.solo = true → Adds Quiet s.2 s'.2))
  guarantee c o s s' := (c.solo = false ∨ Pushes o → s.1.ClearsArmed s'.1) ∧
    (Pushes o → Adds Quiet s.2 s'.2)
  stop _ _ _ := True
  assume := MayHappen
  ensure := FindsArm
  rely_refl _ _ s := Or.inr ⟨.refl s.1, fun _ => .refl s.2⟩
  rely_trans _ _ _ _ _ h h' := by
    rcases h with h | h
    · exact Or.inl h
    · rcases h' with h' | h'
      · exact Or.inl h'
      · exact Or.inr ⟨h.1.trans h'.1, fun hsolo => (h.2 hsolo).trans (h'.2 hsolo)⟩
  guarantee_refl _ _ s := ⟨fun _ => .refl s.1, fun _ => .refl s.2⟩
  guarantee_trans _ _ _ _ _ h h' :=
    ⟨fun hc => (h.1 hc).trans (h'.1 hc), fun hpush => (h.2 hpush).trans (h'.2 hpush)⟩

/-- The flag stays true while arms stay as they stand and the flag is cleared at most. -/
theorem FlagStands.later {s s' : CoordinatorState} (h : FlagStands s)
    (hclears : s.1.ClearsArmed s'.1) (hadds : Adds Quiet s.2 s'.2) : FlagStands s' := by
  intro op hop
  rcases hclears with hsame | hnone
  · exact (h op (hsame.symm.trans hop)).adds hadds
  · rw [hnone] at hop
    cases hop

/-! ## Assertions -/

/-- The flag tells the truth; in a confirm of `b`, its arm stands too. -/
structure Held (t : ℕ) (b : Option Armed) (o : CoordinatorOrigin) (s : CoordinatorState) : Prop where
  active : ¬ Pushes o
  flag : FlagStands s
  stands : ∀ op, b = some op → Standing op s.2
  confirms : b ≠ none → ∃ e ∈ s.2, e.task = t ∧ e.event.confirms = true

/-- Nothing is armed. -/
structure Unarmed (o : CoordinatorOrigin) (s : CoordinatorState) : Prop where
  active : ¬ Pushes o
  armed : s.1.armedOperation = none

theorem Unarmed.flag {o : CoordinatorOrigin} {s : CoordinatorState} (h : Unarmed o s) :
    FlagStands s := fun op hop => by simp [h.armed] at hop

theorem Unarmed.held {o : CoordinatorOrigin} {s : CoordinatorState} (h : Unarmed o s) :
    Held t none o s :=
  ⟨h.active, h.flag, fun _ hb => by simp at hb, fun hb => by simp at hb⟩

theorem not_pushes {l : Await} {r : Response} {s : CoordinatorState} (h : pushing l = false) :
    ¬ Pushes ⟨some (l, r), s⟩ := by
  rintro ⟨l', r', hresumed, hpushing⟩
  cases hresumed
  rw [h] at hpushing
  cases hpushing

theorem Held.adds {o o' : CoordinatorOrigin} {s s' : CoordinatorState} {b : Option Armed}
    (h : Held t b o s) (hactive : ¬ Pushes o') (hclears : s.1.ClearsArmed s'.1)
    (hadds : Adds Quiet s.2 s'.2) : Held t b o' s' := by
  refine ⟨hactive, h.flag.later hclears hadds, fun op hb => (h.stands op hb).adds hadds, fun hb => ?_⟩
  obtain ⟨e, he, hconfirms⟩ := h.confirms hb
  obtain ⟨es, htrace, _⟩ := hadds
  exact ⟨e, by rw [htrace]; exact List.mem_append_left _ he, hconfirms⟩

/-- What keeps arms as they stand: no clearing command, no arm, no go of the call's own arm. -/
def heldFootprint (c : Call) : CoordinatorFootprint where
  awaits l := pushing l = false
  emits e := e.clears = false ∧ e.arms = false ∧
    ∀ op, c.confirms = some op → e.command.any (goes op) = false
  writes := World.ClearsArmed

/-- What may happen while nothing is armed. -/
def unarmedFootprint (c : Call) : CoordinatorFootprint where
  awaits l := pushing l = false
  emits e := e.arms = false ∧ ∀ op, c.confirms = some op → e.command.any (goes op) = false
  writes := World.ClearsArmed

variable {c : Call} {b : Option Armed} {α : Type}

theorem Held.waits (hsolo : c.solo = true ∨ b = none) {l : Await} (hl : pushing l = false) :
    Waits arming c (Held t b) l := by
  intro o s h
  refine ⟨⟨h.flag, trivial⟩, fun r s' hrely hinv => ?_⟩
  rcases hrely with hrely | ⟨hclears, hadds⟩
  · rw [hl] at hrely
    cases hrely
  · rcases hsolo with hsolo | rfl
    · exact h.adds (not_pushes hl) hclears (hadds hsolo)
    · exact ⟨not_pushes hl, hinv, fun _ hb => by simp at hb, fun hb => by simp at hb⟩

theorem held_stable (hsolo : c.solo = true ∨ b = none) :
    Stable arming c t (heldFootprint c) (Held t b) where
  write o s w' h hclears :=
    ⟨⟨fun _ => hclears, fun _ => .refl s.2⟩, h.adds h.active hclears (.refl s.2)⟩
  emit o s e h he _ := by
    obtain ⟨hclears, harms, hgo⟩ := he
    have hquiet : Adds Quiet s.2 (s.2 ++ [⟨t, c, e⟩]) := .one ⟨hclears, harms⟩ s.2
    refine ⟨fun op hop hgoes => ?_, ⟨fun _ => .refl s.1, fun _ => hquiet⟩, ?_⟩
    · rw [hgo op hop] at hgoes
      cases hgoes
    · exact h.adds h.active (.refl s.1) hquiet
  await o s l h hl := Held.waits hsolo hl o s h

theorem unarmed_waits {l : Await} (hl : pushing l = false) : Waits arming c Unarmed l := by
  intro o s h
  refine ⟨⟨h.flag, trivial⟩, fun r s' hrely _ => ⟨not_pushes hl, ?_⟩⟩
  rcases hrely with hrely | ⟨hclears, _⟩
  · rw [hl] at hrely
    cases hrely
  · rcases hclears with hsame | hnone
    · exact hsame.trans h.armed
    · exact hnone

theorem unarmed_stable : Stable arming c t (unarmedFootprint c) Unarmed where
  write o s w' h hclears := by
    refine ⟨⟨fun _ => hclears, fun _ => .refl s.2⟩, h.active, ?_⟩
    rcases hclears with hsame | hnone
    · exact hsame.trans h.armed
    · exact hnone
  emit o s e h he _ := by
    refine ⟨fun op hop hgoes => ?_, ⟨fun _ => .refl s.1, fun hpush => absurd hpush h.active⟩,
      h.active, h.armed⟩
    rw [he.2 op hop] at hgoes
    cases hgoes
  await o s l h hl := unarmed_waits hl o s h

theorem goes_start {k : Command} (h : startCommand k = false) (op : Armed) : goes op k = false := by
  cases op <;> cases k <;> first | rfl | cases h

theorem sends_held {awaits : List Await} {commands : List Command}
    (hawaits : ∀ l ∈ awaits, pushing l = false)
    (hcommands : ∀ k ∈ commands, clearingCommands.contains k = false ∧
      ∀ op, c.confirms = some op → goes op k = false) :
    sends awaits commands false ≤ heldFootprint c :=
  sends_le hawaits
    (fun _ packet hk => ⟨(hcommands packet.command hk).1, rfl, (hcommands packet.command hk).2⟩)
    (fun h => by cases h) fun _ _ h => Or.inl h.armed

theorem sends_unarmed {awaits : List Await} {commands : List Command} {connects : Bool}
    (hawaits : ∀ l ∈ awaits, pushing l = false)
    (hcommands : ∀ k ∈ commands, ∀ op, c.confirms = some op → goes op k = false) :
    sends awaits commands connects ≤ unarmedFootprint c :=
  sends_le hawaits (fun _ packet hk => ⟨rfl, hcommands packet.command hk⟩)
    (fun _ _ => ⟨rfl, fun _ _ => rfl⟩) fun _ _ h => Or.inl h.armed

theorem quiet_held : quietFootprint ≤ heldFootprint c := by
  refine sends_held (by decide) fun k hk => ?_
  rw [List.mem_singleton.mp hk]
  exact ⟨rfl, fun op _ => goes_start rfl op⟩

theorem link_unarmed : linkFootprint ≤ unarmedFootprint c := by
  have hstart : ∀ k ∈ [Command.handshake, .recipeStop, .brewerQuit, .grinderQuit] ++ pushCommands,
      startCommand k = false := by decide
  exact sends_unarmed (by decide) fun k hk op _ => goes_start (hstart k hk) op

theorem chain_unarmed : chainFootprint ≤ unarmedFootprint c := by
  have hstart : ∀ k ∈ chainCommands, startCommand k = false := by decide
  exact sends_unarmed (by decide) fun k hk op _ => goes_start (hstart k hk) op

theorem stop_unarmed : stopFootprint ≤ unarmedFootprint c := by
  have hstart : ∀ k ∈ [Command.recipeStop, .grinderStop, .brewerStop, .grinderQuit, .brewerQuit,
      .recipeStartQuit], startCommand k = false := by decide
  exact sends_unarmed (by decide) fun k hk op _ => goes_start (hstart k hk) op

/-! ## Connecting -/

/-- A connect begins only while nothing is armed, and never inside a confirm. -/
theorem connectLocked_held (hsolo : c.solo = true ∨ b = none) :
    Meets arming c t (Held t b) connectLocked (fun _ => Held t b) fun _ => Held t b := by
  refine .world fun w => ?_
  split
  · exact .pure fun _ _ h => h.1
  · refine .bind (Q := fun _ o s => Unarmed o s ∧ b = none) ?_ fun _ => ?_
    · refine .emit fun o s h hassume => ?_
      obtain ⟨h, rfl⟩ := h
      refine ⟨fun op _ hgo => absurd hgo (by simp [Event.command]),
        ⟨fun _ => .refl s.1, fun hpush => absurd hpush h.active⟩, ⟨h.active, hassume.1⟩, ?_⟩
      by_contra hb
      obtain ⟨e, he, ht, hconfirms⟩ := h.confirms hb
      rw [hassume.2 e he ht] at hconfirms
      cases hconfirms
    · refine .of_fact (fun _ _ h => h.2) fun hb => ?_
      subst hb
      exact ((connectNew_within.mono link_unarmed).meets unarmed_stable).weaken (fun _ _ h => h.1)
        (fun _ _ _ h => h.held) fun _ _ _ h => h.held

theorem asyncConnect_held (hsolo : c.solo = true ∨ b = none) :
    Meets arming c t (Held t b) asyncConnect (fun _ => Held t b) fun _ => Held t b := by
  have hwithin : ∀ {β : Type} {x : Async β}, Within (heldFootprint c) x →
      Meets arming c t (Held t b) x (fun _ => Held t b) fun _ => Held t b :=
    fun h => h.meets (held_stable hsolo)
  have hlock : ∀ locked, Within (heldFootprint c)
      (Routine.assign fun w => { w with connectLocked := locked } : Async Unit) :=
    fun locked => .assign fun _ => Or.inl rfl
  refine .world fun w => .bind (Q := fun _ => Held t b) ?_ fun _ => ?_
  · refine Meets.pre (hwithin ?_) fun _ _ h => h.1
    exact .when (.bind (.await rfl) fun _ => .pure _)
  · refine .bind (hwithin (hlock true)) fun _ => .bind (Q := fun _ => Held t b)
      (.attempt (connectLocked_held hsolo)) fun _ => .bind (hwithin (hlock false)) fun _ =>
        hwithin (.lift _)

theorem ensureConnected_held (hsolo : c.solo = true ∨ b = none) :
    Meets arming c t (Held t b) ensureConnected (fun _ => Held t b) fun _ => Held t b := by
  refine .world fun w => ?_
  split
  · exact .pure fun _ _ h => h.1
  · split
    · exact (asyncConnect_held hsolo).pre fun _ _ h => h.1
    · exact .pure fun _ _ h => h.1

theorem wakeMachine_held (hsolo : c.solo = true ∨ b = none) :
    Meets arming c t (Held t b) wakeMachine (fun _ => Held t b) fun _ => Held t b := by
  have hwithin : ∀ {β : Type} {x : Async β}, Within quietFootprint x →
      Meets arming c t (Held t b) x (fun _ => Held t b) fun _ => Held t b :=
    fun h => (h.mono quiet_held).meets (held_stable hsolo)
  refine .bind (hwithin wakeByHandshake_within) fun woke => ?_
  split
  · exact .pure fun _ _ h => h
  · refine .world fun w => ?_
    split
    · exact .pure fun _ _ h => h.1
    · refine .bind ((hwithin asyncDisconnect_within).pre fun _ _ h => h.1) fun _ =>
        .bind (hwithin (.assign fun _ => World.same_link)) fun _ =>
          .bind (asyncConnect_held hsolo) fun _ => .pure fun _ _ h => h

theorem retry_held (hsolo : c.solo = true ∨ b = none) {action : Async α}
    {Q : α → CoordinatorAssertion}
    (h : Meets arming c t (Held t b) action Q fun _ => Held t b)
    (hQ : ∀ a o s, Q a o s → Held t b o s) :
    Meets arming c t (Held t b) (retryWhileSleeping action) Q fun _ => Held t b :=
  retryWhileSleeping_meets (wakeMachine_held hsolo) (Held.waits hsolo rfl) h hQ

theorem retry_unarmed {action : Async α} {Q : α → CoordinatorAssertion}
    (h : Meets arming c t Unarmed action Q fun _ => Unarmed) (hQ : ∀ a o s, Q a o s → Unarmed o s) :
    Meets arming c t Unarmed (retryWhileSleeping action) Q fun _ => Unarmed :=
  retryWhileSleeping_meets ((wakeMachine_within.mono link_unarmed).meets unarmed_stable)
    (unarmed_waits rfl) h hQ

/-! ## Arms -/

/-- The flag tells the truth, wherever the segment began. -/
def truthful : CoordinatorAssertion := fun _ s => FlagStands s

theorem Held.truthful (o : CoordinatorOrigin) (s : CoordinatorState) (h : Held t b o s) : truthful o s :=
  h.flag

/-- Behind the connection check of every operation. -/
theorem connected_truthful (hsolo : c.solo = true ∨ b = none) {x : Async α} {a : α}
    (h : Meets arming c t (Held t b) x (fun _ => truthful) fun _ => truthful) :
    Meets arming c t (Held t b)
      (ensureConnected >>= fun connected => if connected then x else pure a) (fun _ => truthful)
      fun _ => truthful := by
  refine .bind ((ensureConnected_held hsolo).weaken (fun _ _ h => h) (fun _ _ _ h => h)
    fun _ => Held.truthful) fun connected => ?_
  cases connected with
  | true => exact h
  | false => exact .pure Held.truthful

theorem Waits.opened {J : CoordinatorAssertion} {l : Await} (h : Waits arming c J l)
    (hsolo : c.solo = true) (hl : pushing l = false) :
    Waits arming c (fun o s => J o s ∧ Opened t op s.2) l := by
  intro o s hJ
  obtain ⟨hrests, hnext⟩ := h o s hJ.1
  refine ⟨hrests, fun r s' hrely hinv => ⟨hnext r s' hrely hinv, ?_⟩⟩
  rcases hrely with hpush | ⟨_, hadds⟩
  · rw [hl] at hpush
    cases hpush
  · exact hJ.2.adds (hadds hsolo)

/-- The command that opens a page. -/
theorem sendOpen_held (hsolo : c.solo = true) {client : ℕ} {packet : Packet}
    (hopens : opens op packet.command = true)
    (hclears : clearingCommands.contains packet.command = false)
    (hstart : startCommand packet.command = false)
    (hwritten : pushing (.written packet.command) = false) :
    Meets arming c t (Held t none) (sendCommand client packet)
      (fun _ o s => Held t none o s ∧ Opened t op s.2) fun _ => Held t none := by
  refine (sendCommand_meets (fun o s h _ => ?_)
    ((Held.waits (Or.inl hsolo) hwritten).opened hsolo hwritten)).weaken (fun _ _ h => h)
      (fun _ _ _ h => h) fun _ _ _ h => h.elim id And.left
  have hquiet : Adds Quiet s.2 (s.2 ++ [⟨t, c, .sent client packet⟩]) := .one ⟨hclears, rfl⟩ s.2
  refine ⟨fun op' _ hgoes => ?_, ⟨fun _ => .refl s.1, fun _ => hquiet⟩,
    h.adds h.active (.refl s.1) hquiet, opened_sent s.2 hopens⟩
  rw [show (Event.sent client packet).command.any (goes op') = goes op' packet.command from rfl,
    goes_start hstart op'] at hgoes
  cases hgoes

/-- **An arm sets the flag for what it opened.** -/
theorem setArmed_held (hsolo : c.solo = true) {X : PyErr → CoordinatorAssertion} :
    Meets arming c t (fun o s => ¬ Pushes o ∧ Opened t op s.2) (setArmed op)
      (fun _ => Held t none) X := by
  have hguarantee : ∀ {o : CoordinatorOrigin} {s s' : CoordinatorState}, ¬ Pushes o →
      arming.guarantee c o s s' := by
    intro o s s' hpush
    refine ⟨fun hc => ?_, fun h => absurd h hpush⟩
    rcases hc with hc | hc
    · rw [hsolo] at hc
      cases hc
    · exact absurd hc hpush
  refine .bind (Q := fun _ o s => ¬ Pushes o ∧ Standing op s.2) ?_ fun _ => ?_
  · exact .emit fun o s h _ => ⟨fun _ _ hgo => absurd hgo (by simp [Event.command]),
      hguarantee h.1, h.1, h.2.set c⟩
  · refine .assign fun o s h => ⟨hguarantee h.1, h.1, fun op' hop => ?_, fun _ hb => by simp at hb,
      fun hb => by simp at hb⟩
    rw [← Option.some.inj hop]
    exact h.2

/-- A page is opened, with retries, and the flag set. -/
theorem armPage_held (hsolo : c.solo = true) {action : Async Unit}
    (h : Meets arming c t (Held t none) action (fun _ o s => Held t none o s ∧ Opened t op s.2)
      fun _ => Held t none) :
    Meets arming c t (Held t none) (retryWhileSleeping action >>= fun _ => setArmed op)
      (fun _ => Held t none) fun _ => Held t none :=
  .bind (retry_held (Or.inl hsolo) h fun _ _ _ h => h.1) fun _ =>
    (setArmed_held hsolo).pre fun _ _ h => ⟨h.1.active, h.2⟩

theorem asyncArmGrind_truthful (hsolo : c.solo = true) :
    Meets arming c t (Held t none) asyncArmGrind (fun _ => truthful) fun _ => truthful := by
  refine connected_truthful (Or.inl hsolo) (.bind (Q := fun _ => Held t none) (.attempt ?_) fun _ =>
    .pure Held.truthful)
  refine armPage_held hsolo (.world fun w => ?_)
  exact (withClient_meets (fun client => sendOpen_held hsolo rfl rfl rfl rfl) fun _ _ _ h => h).pre
    fun _ _ h => h.1

/-- What an armed pour does once it is armed. -/
def pushFootprint (c : Call) : CoordinatorFootprint where
  awaits l := pushing l = true
  emits e := e.clears = false ∧ e.arms = false ∧
    ∀ op, c.confirms = some op → e.command.any (goes op) = false
  writes := World.ClearsArmed

theorem push_stable : Stable arming c t (pushFootprint c) truthful where
  write _ s _ h hclears :=
    ⟨⟨fun _ => hclears, fun _ => .refl s.2⟩, FlagStands.later h hclears (.refl s.2)⟩
  emit _ s e h he _ := by
    obtain ⟨hclears, harms, hgo⟩ := he
    have hquiet : Adds Quiet s.2 (s.2 ++ [⟨t, c, e⟩]) := .one ⟨hclears, harms⟩ s.2
    refine ⟨fun op hop hgoes => ?_, ⟨fun _ => .refl s.1, fun _ => hquiet⟩,
      FlagStands.later h (.refl s.1) hquiet⟩
    rw [hgo op hop] at hgoes
    cases hgoes
  await _ _ _ h _ := ⟨⟨h, trivial⟩, fun _ _ _ hinv => hinv⟩

theorem pushPourPage_push : Within (pushFootprint c) pushPourPage := by
  have hsent : ∀ {client : ℕ} {packet : Packet}, setpointCommand packet.command = true →
      (pushFootprint c).emits (.sent client packet) := by
    intro client packet h
    have hpacket : clearingCommands.contains packet.command = false ∧
        startCommand packet.command = false := by
      cases hk : packet.command <;> rw [hk] at h <;> first | exact ⟨rfl, rfl⟩ | cases h
    exact ⟨hpacket.1, rfl, fun op _ => goes_start hpacket.2 op⟩
  exact .world fun _ => .bind (withClient_within fun _ => .bind (.lift _) fun _ =>
    sendCommand_within rfl (hsent rfl)) fun _ => .bind (.await rfl) fun _ => .world fun _ =>
      withClient_within fun _ => sendCommand_within rfl (hsent rfl)

theorem asyncArmPour_truthful (hsolo : c.solo = true) :
    Meets arming c t (Held t none) asyncArmPour (fun _ => truthful) fun _ => truthful := by
  refine connected_truthful (Or.inl hsolo) (.bind (Q := fun _ => Held t none) (.attempt ?_)
    fun armed => ?_)
  · exact armPage_held hsolo
      (withClient_meets (fun client => sendOpen_held hsolo rfl rfl rfl rfl) fun _ _ _ h => h)
  · cases armed with
    | error e => exact .pure Held.truthful
    | ok a =>
      have htail : Within (pushFootprint c) (do
          let _ ← Routine.await .pageSettle
          let _ ← Routine.attempt pushPourPage
          pure true : Async Bool) :=
        .bind (.await rfl) fun _ => .bind (.attempt pushPourPage_push) fun _ => .pure _
      exact (htail.meets push_stable).pre Held.truthful

/-! ## Recipe arms -/

/-- The payload queues the recipe. -/
theorem sendPayload_unarmed (hsolo : c.solo = true) {client : ℕ} {packet : Packet}
    (hopens : opens .recipe packet.command = true) :
    Meets arming c t Unarmed (ackStep client packet)
      (fun _ o s => Unarmed o s ∧ Opened t .recipe s.2) fun _ => Unarmed := by
  have hcommand : pushing (.written packet.command) = false ∧
      pushing (.acked packet.command) = false ∧ startCommand packet.command = false := by
    cases hk : packet.command <;> rw [hk] at hopens <;>
      first | exact ⟨rfl, rfl, rfl⟩ | cases hopens
  obtain ⟨hwritten, hacked, hstart⟩ := hcommand
  refine (ackStep_meets (fun o s h _ => ?_) ((unarmed_waits hwritten).opened hsolo hwritten)
    ((unarmed_waits hacked).opened hsolo hacked)
    ((unarmed_waits rfl).opened hsolo rfl)).weaken (fun _ _ h => h) (fun _ _ _ h => h)
      fun _ _ _ h => h.elim id And.left
  refine ⟨fun op' _ hgoes => ?_, ⟨fun _ => .refl s.1, fun hpush => absurd hpush h.active⟩,
    ⟨h.active, h.armed⟩, opened_sent s.2 hopens⟩
  rw [show (Event.sent client packet).command.any (goes op') = goes op' packet.command from rfl,
    goes_start hstart op'] at hgoes
  cases hgoes

theorem chain_meets {x : Async α} (h : Within chainFootprint x) :
    Meets arming c t Unarmed x (fun _ => Unarmed) fun _ => Unarmed :=
  (h.mono chain_unarmed).meets unarmed_stable

theorem recipeCommand_opens (recipe : XBloomRecipe) :
    opens .recipe (recipeCommand recipe) = true := by
  unfold recipeCommand
  split <;> rfl

theorem armRecipe_unarmed (hsolo : c.solo = true) (client : ℕ) (prepared : Prepared) :
    Meets arming c t Unarmed (armRecipe client prepared)
      (fun _ o s => Unarmed o s ∧ Opened t .recipe s.2) fun _ => Unarmed := by
  have hlift : ∀ {β : Type} (x : Except PyErr β),
      Meets arming c t Unarmed (Routine.lift x) (fun _ => Unarmed) fun _ => Unarmed :=
    fun x => chain_meets (.lift x)
  have hstep : ∀ {packet : Packet}, chainCommands.contains packet.command = true →
      Meets arming c t Unarmed (ackStep client packet) (fun _ => Unarmed) fun _ => Unarmed :=
    fun h => chain_meets (ackStep_within h)
  unfold armRecipe
  split
  · refine .bind ?_ fun _ => .pure fun _ _ h => h
    exact .bind (chain_meets requireConnected_within) fun _ => .bind (hstep rfl) fun _ =>
      .bind (hlift _) fun _ => .bind (hstep rfl) fun _ => .bind (hlift _) fun _ =>
        .bind (hstep rfl) fun _ => .bind (hlift _) fun _ =>
          .bind (sendPayload_unarmed hsolo rfl) fun _ => .pure fun _ _ h => h
  · refine .bind ?_ fun _ => .pure fun _ _ h => h
    exact .bind (chain_meets requireConnected_within) fun _ => .bind (hlift _) fun _ =>
      .bind (hstep rfl) fun _ => .bind (hlift _) fun _ => .bind (hstep rfl) fun _ =>
        .bind (hlift _) fun _ => .bind (hstep rfl) fun _ => .bind (hlift _) fun _ =>
          sendPayload_unarmed hsolo (recipeCommand_opens prepared.recipe)

/-- A chain begins only while nothing is armed. -/
theorem beginChain_unarmed {prepared : Prepared} {X : PyErr → CoordinatorAssertion} :
    Meets arming c t (Held t none) (beginChain prepared) (fun _ => Unarmed) X := by
  refine .world fun w => .emit fun o s h hassume => ?_
  obtain ⟨h, rfl⟩ := h
  exact ⟨fun _ _ hgo => absurd hgo (by simp [Event.command]),
    ⟨fun _ => .refl s.1, fun hpush => absurd hpush h.active⟩, h.active, hassume⟩

theorem armPrepared_truthful (hsolo : c.solo = true) (prepared : Prepared) :
    Meets arming c t (Held t none) (armPrepared prepared) (fun _ => truthful)
      fun _ => truthful := by
  refine .bind beginChain_unarmed fun _ => .bind (Q := fun _ => Held t none) (.attempt ?_)
    fun armed => ?_
  · have hretry : Meets arming c t Unarmed
        (retryWhileSleeping (withClient fun client => armRecipe client prepared))
        (fun _ o s => Unarmed o s ∧ Opened t .recipe s.2) fun _ => Unarmed :=
      retry_unarmed (withClient_meets (fun client => armRecipe_unarmed hsolo client prepared)
        fun _ _ _ h => h) fun _ _ _ h => h.1
    refine .bind (hretry.weaken (fun _ _ h => h) (fun _ _ _ h => h) fun _ _ _ h => h.held)
      fun payload => .bind ((setArmed_held hsolo).pre fun _ _ h => ⟨h.1.active, h.2⟩) fun _ => ?_
    exact .assign fun o s h => (held_stable (Or.inl hsolo)).write o s _ h (Or.inl rfl)
  · cases armed with
    | ok a => exact .pure Held.truthful
    | error e =>
      refine .assign fun o s h => ?_
      obtain ⟨hguarantee, hheld⟩ := (held_stable (Or.inl hsolo)).write o s
        { s.1 with activeRecipePours := none } h (Or.inl rfl)
      exact ⟨hguarantee, hheld.flag⟩

section
variable {I : Identifiers} {yaml : YamlLayer}

theorem withPrepared_truthful {args : BrewArgs} {f : Prepared → Async Unit}
    (h : ∀ prepared, Meets arming c t (Held t none) (f prepared) (fun _ => truthful)
      fun _ => truthful) :
    Meets arming c t (Held t none) (withPrepared I yaml args f) (fun _ => truthful)
      fun _ => truthful := by
  refine connected_truthful (Or.inr rfl) (.world fun w => .bind (Q := fun _ => Held t none) ?_
    fun prepared => ?_)
  · exact .lift (fun _ _ _ _ h => h.1) fun _ _ _ _ h => h.1.flag
  · cases prepared with
    | some prepared => exact h prepared
    | none => exact .pure Held.truthful

end

/-! ## Confirms -/

/-- **A confirm begins on an arm that stands.** -/
theorem beginConfirm_held (hop : c.confirms = some op) {X : PyErr → CoordinatorAssertion} :
    Meets arming c t (Held t none) beginConfirm (fun _ => Held t (some op)) X := by
  refine .world fun w => .emit fun o s h hassume => ?_
  obtain ⟨h, rfl⟩ := h
  have harmed : s.1.armedOperation = some op := hassume op hop
  have hquiet : Adds Quiet s.2 (s.2 ++ [⟨t, c, .confirming s.1.armedOperation⟩]) :=
    .one ⟨rfl, rfl⟩ s.2
  refine ⟨fun _ _ hgo => absurd hgo (by simp [Event.command]), ⟨fun _ => .refl s.1, fun _ => hquiet⟩,
    h.active, h.flag.later (.refl s.1) hquiet, fun op' hop' => ?_, fun _ => ?_⟩
  · rw [← Option.some.inj hop']
    exact (h.flag op harmed).adds hquiet
  · exact ⟨_, List.mem_append_right _ List.mem_cons_self, rfl, rfl⟩

/-- **A go command of a confirm finds its arm standing**, and leaves it. -/
theorem sendGo_held (hsolo : c.solo = true) (hop : c.confirms = some op) {client : ℕ}
    {packet : Packet} (hgo : goes op packet.command = true) :
    Meets arming c t (Held t (some op)) (sendCommand client packet) (fun _ => Held t (some op))
      fun _ => Held t (some op) := by
  have hcommand : pushing (.written packet.command) = false ∧
      clearingCommands.contains packet.command = false := by
    cases hk : packet.command <;> rw [hk] at hgo <;>
      first | exact ⟨rfl, rfl⟩ | (cases op <;> cases hgo)
  refine (sendCommand_meets (fun o s h _ => ?_) (Held.waits (Or.inl hsolo) hcommand.1)).weaken
    (fun _ _ h => h) (fun _ _ _ h => h) fun _ _ _ h => h.elim id id
  have hquiet : Adds Quiet s.2 (s.2 ++ [⟨t, c, .sent client packet⟩]) :=
    .one ⟨hcommand.2, rfl⟩ s.2
  refine ⟨fun op' hop' _ => ?_, ⟨fun _ => .refl s.1, fun _ => hquiet⟩,
    h.adds h.active (.refl s.1) hquiet⟩
  obtain rfl : op = op' := Option.some.inj (hop.symm.trans hop')
  exact h.stands op rfl

theorem held_lift {x : Except PyErr α} :
    Meets arming c t (Held t b) (Routine.lift x) (fun _ => Held t b) fun _ => Held t b :=
  .lift (fun _ _ _ _ h => h) fun _ _ _ _ h => h

theorem brewerStart_held (hsolo : c.solo = true) (hop : c.confirms = some .pour) :
    Meets arming c t (Held t (some .pour)) brewerStart (fun _ => Held t (some .pour))
      fun _ => Held t (some .pour) :=
  .world fun _ => (withClient_meets (fun _ => .bind held_lift fun _ => sendGo_held hsolo hop rfl)
    fun _ _ _ h => h).pre fun _ _ h => h.1

theorem grinderConfirmStart_held (hsolo : c.solo = true) (hop : c.confirms = some .grind) :
    Meets arming c t (Held t (some .grind)) (withGrinder grinderConfirmStart)
      (fun _ => Held t (some .grind)) fun _ => Held t (some .grind) :=
  .world fun _ => (withClient_meets (fun _ => sendGo_held hsolo hop rfl) fun _ _ _ h => h).pre
    fun _ _ h => h.1

theorem sendConfirm_held (hsolo : c.solo = true) (hop : c.confirms = some .recipe) :
    Meets arming c t (Held t (some .recipe)) sendConfirm (fun _ => Held t (some .recipe))
      fun _ => Held t (some .recipe) := by
  refine .world fun w => (withClient_meets (fun client => ?_) fun _ _ _ h => h).pre fun _ _ h => h.1
  unfold confirmRecipe
  split
  · split
    · refine .bind ?_ fun _ => .pure fun _ _ h => h
      refine .bind (sendGo_held hsolo hop rfl) fun _ =>
        .bind (Waits.meets (Held.waits (Or.inl hsolo) rfl)) fun r => ?_
      split
      · exact .throw fun _ _ h => h
      · exact .pure fun _ _ h => h
    · exact .throw fun _ _ h => h
  · have hpoll : pollFootprint ≤ heldFootprint c :=
      sends_held (by decide) fun k hk => absurd hk List.not_mem_nil
    exact .bind (sendGo_held hsolo hop rfl) fun _ =>
      ((verifyBrewStarted_within 80).mono hpoll).meets (held_stable (Or.inl hsolo))

/-- The guarded part of a confirm. -/
theorem confirmed_held (hsolo : c.solo = true) {f : World → World} {action : Async Unit}
    (hf : ∀ w : World, w.ClearsArmed (f w))
    (h : Meets arming c t (Held t b) action (fun _ => Held t b) fun _ => Held t b)
    {X : PyErr → CoordinatorAssertion} :
    Meets arming c t (Held t b)
      (Routine.attempt (Routine.assign f >>= fun _ => retryWhileSleeping action))
      (fun _ => Held t b) X :=
  .attempt (.bind (.assign fun o s hheld => (held_stable (Or.inl hsolo)).write o s _ hheld (hf s.1))
    fun _ => retry_held (Or.inl hsolo) h fun _ _ _ h => h)

/-- The end of a confirm: the flag is cleared. -/
theorem clear_truthful (hsolo : c.solo = true) {f : World → World} {a : α}
    (hf : ∀ w, (f w).armedOperation = none) :
    Meets arming c t (Held t b) (Routine.assign f >>= fun _ => pure a : Async α)
      (fun _ => truthful) fun _ => truthful := by
  refine .bind (Q := fun _ => Held t b) (.assign fun o s h => ?_) fun _ => .pure Held.truthful
  exact (held_stable (Or.inl hsolo)).write o s _ h (Or.inr (hf s.1))

theorem asyncConfirmPour_truthful (hsolo : c.solo = true) (hop : c.confirms = some .pour) :
    Meets arming c t (Held t none) asyncConfirmPour (fun _ => truthful) fun _ => truthful := by
  refine .bind (beginConfirm_held hop) fun _ => connected_truthful (Or.inl hsolo)
    (.bind (confirmed_held hsolo ?_ (brewerStart_held hsolo hop)) fun _ => clear_truthful hsolo ?_)
  · exact fun _ => Or.inl rfl
  · exact fun _ => rfl

theorem asyncConfirmGrind_truthful (hsolo : c.solo = true) (hop : c.confirms = some .grind) :
    Meets arming c t (Held t none) asyncConfirmGrind (fun _ => truthful) fun _ => truthful := by
  refine .bind (beginConfirm_held hop) fun _ => connected_truthful (Or.inl hsolo)
    (.bind (confirmed_held hsolo ?_ (grinderConfirmStart_held hsolo hop))
      fun _ => clear_truthful hsolo ?_)
  · exact fun _ => Or.inl rfl
  · exact fun _ => rfl

theorem asyncConfirmRecipe_truthful (hsolo : c.solo = true) (hop : c.confirms = some .recipe) :
    Meets arming c t (Held t none) asyncConfirmRecipe (fun _ => truthful) fun _ => truthful := by
  refine .bind (beginConfirm_held hop) fun _ => connected_truthful (Or.inl hsolo)
    (.bind (confirmed_held hsolo ?_ (sendConfirm_held hsolo hop)) fun started => ?_)
  · exact fun _ => Or.inl rfl
  · cases started with
    | ok a => exact clear_truthful hsolo fun _ => rfl
    | error e => exact clear_truthful hsolo fun _ => rfl

/-! ## The other calls -/

theorem go_held (hnone : c.confirms = none) (client : ℕ) (packet : Packet)
    (h : startCommand packet.command = true) : (heldFootprint c).emits (.sent client packet) := by
  have hclears : clearingCommands.contains packet.command = false := by
    cases hk : packet.command <;> rw [hk] at h <;> first | rfl | cases h
  refine ⟨hclears, rfl, fun op hop => ?_⟩
  rw [hnone] at hop
  cases hop

theorem asyncPour_truthful (hnone : c.confirms = none) :
    Meets arming c t (Held t none) asyncPour (fun _ => truthful) fun _ => truthful := by
  have hwithin : Within (heldFootprint c) brewerStart :=
    .world fun _ => withClient_within fun client => .bind (.lift _) fun _ =>
      sendCommand_within rfl (go_held hnone client _ rfl)
  refine connected_truthful (Or.inr rfl) (.bind (Q := fun _ => Held t none) (.attempt ?_) fun _ =>
    .pure Held.truthful)
  refine .bind (Q := fun _ => Held t none) ?_ fun _ =>
    retry_held (Or.inr rfl) (hwithin.meets (held_stable (Or.inr rfl))) fun _ _ _ h => h
  exact .assign fun o s h => (held_stable (Or.inr rfl)).write o s _ h (Or.inl rfl)

theorem asyncGrind_truthful (hnone : c.confirms = none) :
    Meets arming c t (Held t none) asyncGrind (fun _ => truthful) fun _ => truthful := by
  have henters : ∀ {client : ℕ} {packet : Packet}, packet.command = .grinderIn →
      (heldFootprint c).emits (.sent client packet) := by
    intro client packet h
    refine ⟨?_, rfl, fun op _ => ?_⟩
    · show clearingCommands.contains packet.command = false
      rw [h]
      rfl
    · show goes op packet.command = false
      rw [h]
      exact goes_start rfl op
  have hwithin : Within (heldFootprint c) (withGrinder grinderStart) :=
    .world fun _ => withClient_within fun client =>
      .bind (sendCommand_within rfl (henters rfl)) fun _ => .bind (.await rfl) fun _ =>
        sendCommand_within rfl (go_held hnone client _ rfl)
  refine connected_truthful (Or.inr rfl) (.bind (Q := fun _ => Held t none) (.attempt ?_) fun _ =>
    .pure Held.truthful)
  refine .bind (Q := fun _ => Held t none) ?_ fun _ =>
    retry_held (Or.inr rfl) (hwithin.meets (held_stable (Or.inr rfl))) fun _ _ _ h => h
  exact .assign fun o s h => (held_stable (Or.inr rfl)).write o s _ h (Or.inl rfl)

/-- From the start of its chain on, an execution runs with nothing armed. -/
theorem executePrepared_truthful (hnone : c.confirms = none) (prepared : Prepared) :
    Meets arming c t (Held t none) (executePrepared prepared) (fun _ => truthful)
      fun _ => truthful := by
  have hgo : goFootprint ≤ unarmedFootprint c := sends_unarmed (by decide) fun k _ op hop => by
    rw [hnone] at hop
    cases hop
  have hretry : Within (unarmedFootprint c)
      (retryWhileSleeping (withClient fun client => brewRecipe client prepared)) :=
    retryWhileSleeping_within (withClient_within fun _ => brewRecipe_within chain_unarmed hgo rfl)
      rfl link_unarmed
  have hkeeps : ∀ {f : World → World}, (∀ w : World, w.ClearsArmed (f w)) →
      Meets arming c t Unarmed (Routine.assign f : Async Unit) (fun _ => Unarmed) fun _ => Unarmed :=
    fun h => (Within.assign h).meets unarmed_stable
  refine .bind beginChain_unarmed fun _ => ?_
  refine .bind (Q := fun _ => Unarmed)
    (.attempt (.bind (Q := fun _ => Unarmed) ?_ fun _ => hretry.meets unarmed_stable)) fun brewed => ?_
  · refine hkeeps ?_
    exact fun _ => Or.inl rfl
  · cases brewed with
    | ok a => exact .pure fun _ _ h => h.flag
    | error e =>
      refine (hkeeps ?_).weaken (fun _ _ h => h) (fun _ _ _ h => h.flag) fun _ _ _ h => h.flag
      exact fun _ => Or.inl rfl

/-- A cancel clears the flag before it does anything else. -/
theorem asyncCancel_unarmed :
    Meets arming c t (Held t none) asyncCancel (fun _ => Unarmed) fun _ => Unarmed := by
  refine .world fun w => .bind (Q := fun _ => Unarmed) (.assign fun o s h => ?_) fun _ => ?_
  · exact ⟨⟨fun _ => Or.inr rfl, fun hpush => absurd hpush h.1.active⟩, h.1.active, rfl⟩
  · have hstops : Within (unarmedFootprint c) (ensureConnected >>= fun connected =>
        if connected then
          (Routine.attempt (sendStops w.activeOperation w.armedOperation w.podPromptActive) >>=
            fun _ => pure ())
        else pure () : Async Unit) := by
      refine .bind (ensureConnected_within.mono link_unarmed) fun connected => ?_
      split
      · exact .bind (.attempt (sendStops_within.mono stop_unarmed)) fun _ => .pure _
      · exact .pure _
    exact hstops.meets unarmed_stable

theorem drop_truthful {x : Async Bool}
    (h : Meets arming c t (Held t none) x (fun _ => truthful) fun _ => truthful) :
    Meets arming c t (Held t none) (drop x) (fun _ => truthful) fun _ => truthful :=
  .bind h fun _ => .pure fun _ _ h => h

theorem press_truthful {confirm arm : Async Unit}
    (hconfirm : Meets arming c t (Held t none) confirm (fun _ => truthful) fun _ => truthful)
    (harm : Meets arming c t (Held t none) arm (fun _ => truthful) fun _ => truthful) :
    Meets arming c t (Held t none) (press op confirm arm) (fun _ => truthful)
      fun _ => truthful := by
  refine .world fun w => ?_
  split
  · exact hconfirm.pre fun _ _ h => h.1
  · exact harm.pre fun _ _ h => h.1

section
variable {I : Identifiers} {yaml : YamlLayer}

theorem asyncArmRecipe_truthful (hsolo : c.solo = true) (args : BrewArgs) :
    Meets arming c t (Held t none) (asyncArmRecipe I yaml args) (fun _ => truthful)
      fun _ => truthful :=
  withPrepared_truthful (armPrepared_truthful hsolo)

theorem selectForTool_armed (w : World) (args : ToolArgs) (name : String) (recipe : RecipeDict) :
    (w.selectForTool yaml args name recipe).armedOperation = w.armedOperation := by
  obtain ⟨_, _, hwrites⟩ := w.selectForTool_writes yaml args name recipe
  rw [hwrites]

theorem toolPhase_truthful (hsolo : c.solo = true) (hop : c.confirms = some .recipe)
    (args : ToolArgs) (name : String) (recipe : RecipeDict) :
    Meets arming c t (Held t none) (toolPhase I yaml args name recipe) (fun _ => truthful)
      fun _ => truthful := by
  have hstable := held_stable (c := c) (t := t) (b := none) (Or.inl hsolo)
  refine .world fun w => ?_
  split
  · exact .pure fun _ _ h => h.1.flag
  · split
    · refine .bind (Q := fun _ => Held t none) ?_ fun _ =>
        drop_truthful (asyncConfirmRecipe_truthful hsolo hop)
      exact .emit fun o s h hassume => hstable.emit o s _ h.1 ⟨rfl, rfl, fun _ _ => rfl⟩ hassume
    · refine .bind (Q := fun _ => Held t none) ?_ fun _ => .world fun w' =>
        .bind (Q := fun _ => Held t none) ?_ fun _ => asyncArmRecipe_truthful hsolo _
      · exact .assign fun o s h => hstable.write o s _ h.1
          (Or.inl (selectForTool_armed s.1 args name recipe))
      · exact .when (fun _ => asyncCancel_unarmed.weaken (fun _ _ h => h.1)
          (fun _ _ _ h => h.held) fun _ _ _ h => h.flag) fun _ _ _ h => h.1

theorem executeRecipeTool_truthful (hsolo : c.solo = true) (hop : c.confirms = some .recipe)
    (args : ToolArgs) :
    Meets arming c t (Held t none) (executeRecipeTool I yaml args) (fun _ => truthful)
      fun _ => truthful := by
  refine .world fun w => ?_
  split
  · exact .pure fun _ _ h => h.1.flag
  · split
    · exact (toolPhase_truthful hsolo hop _ _ _).pre fun _ _ h => h.1
    · refine .bind ((asyncConnect_held (Or.inl hsolo)).weaken (fun _ _ h => h.1)
        (fun _ _ _ h => h) fun _ => Held.truthful) fun connected => ?_
      split
      · exact toolPhase_truthful hsolo hop _ _ _
      · exact .pure Held.truthful

/-- **Every call keeps the contract of arms.** -/
theorem routine_truthful (call : Call) :
    Meets arming call t (Held t none) (call.routine I yaml) (fun _ => truthful)
      fun _ => truthful := by
  have hquiet : ∀ {x : Async Unit}, Within quietFootprint x →
      Meets arming call t (Held t none) x (fun _ => truthful) fun _ => truthful := by
    intro x h
    exact ((h.mono quiet_held).meets (held_stable (Or.inr rfl))).weaken (fun _ _ h => h)
      (fun _ => Held.truthful) fun _ => Held.truthful
  cases call with
  | pour => exact asyncPour_truthful rfl
  | armPour => exact drop_truthful (asyncArmPour_truthful rfl)
  | confirmPour => exact drop_truthful (asyncConfirmPour_truthful rfl rfl)
  | grind => exact asyncGrind_truthful rfl
  | armGrind => exact drop_truthful (asyncArmGrind_truthful rfl)
  | confirmGrind => exact drop_truthful (asyncConfirmGrind_truthful rfl rfl)
  | executeRecipe args => exact withPrepared_truthful (executePrepared_truthful rfl)
  | armRecipe args => exact asyncArmRecipe_truthful rfl args
  | confirmRecipe => exact drop_truthful (asyncConfirmRecipe_truthful rfl rfl)
  | cancel =>
    exact asyncCancel_unarmed.weaken (fun _ _ h => h) (fun _ _ _ h => h.flag) fun _ _ _ h => h.flag
  | connect =>
    exact drop_truthful ((asyncConnect_held (Or.inr rfl)).weaken (fun _ _ h => h)
      (fun _ => Held.truthful) fun _ => Held.truthful)
  | disconnect => exact hquiet asyncDisconnect_within
  | dropStaleLink => exact hquiet asyncDropStaleLink_within
  | enterIdleStandby => exact hquiet asyncEnterIdleStandby_within
  | pressGrind =>
    exact press_truthful (drop_truthful (asyncConfirmGrind_truthful rfl rfl))
      (drop_truthful (asyncArmGrind_truthful rfl))
  | pressPour =>
    exact press_truthful (drop_truthful (asyncConfirmPour_truthful rfl rfl))
      (drop_truthful (asyncArmPour_truthful rfl))
  | pressRecipe =>
    exact press_truthful (drop_truthful (asyncConfirmRecipe_truthful rfl rfl))
      (asyncArmRecipe_truthful rfl _)
  | executeRecipeTool args => exact executeRecipeTool_truthful rfl rfl args

/-! ## Runs -/

theorem arming_wp (call : Call) (s : CoordinatorState) (h : FlagStands s) :
    wp arming call t (fun _ => arming.rests call none) ((system I yaml).program call)
      ⟨none, s⟩ s := by
  show wp arming call t _ ((call.routine I yaml).run.bind fun _ => .ret ()) ⟨none, s⟩ s
  rw [wp_bind]
  have hheld : Held t none ⟨none, s⟩ s := by
    refine ⟨?_, h, fun _ hb => by simp at hb, fun hb => by simp at hb⟩
    rintro ⟨_, _, hresumed, _⟩
    cases hresumed
  refine wp_mono (routine_truthful call ⟨none, s⟩ s hheld) fun r o s hr => ?_
  cases r with
  | ok a => exact ⟨hr, trivial⟩
  | error e => exact ⟨hr, trivial⟩

end

section
variable (I : Identifiers) (yaml : YamlLayer)

/-- **A step that keeps arms apart**: a call that arms or confirms goes on only while no other call is
suspended (the setpoint pushes of an armed pour aside), and no other call goes on while one that arms
or confirms is suspended; a connect or a chain begins only while nothing is armed, no confirm
reconnects, and a confirm begins on its own arm. -/
structure ArmsApart (p : CoordinatorPool) (a : CoordinatorAction) : Prop where
  alone : ∀ turn, p.turn (system I yaml) a = some turn → ¬ Pushes ⟨turn.resumed, p.state⟩ →
    ∀ t τ, t ≠ turn.task → p.tasks t = some τ → pushing τ.label = false →
      turn.call.solo = false ∧ τ.call.solo = false
  allowed : ∀ turn, p.turn (system I yaml) a = some turn →
    Emits MayHappen turn.task turn.call p.trace (p.emitted (system I yaml) a)

variable {I} {yaml}

theorem arming_stepOk {p : CoordinatorPool} {a : CoordinatorAction} (hp : PoolOk arming p)
    (h : ArmsApart I yaml p a) : StepOk arming (system I yaml) p a where
  begins call _ := arming_wp call p.state hp.inv
  assumed := h.allowed
  heeded turn s' hturn hguarantee t τ hne hτ := by
    cases hl : pushing τ.label with
    | true => exact Or.inl hl
    | false =>
      by_cases hpush : Pushes ⟨turn.resumed, p.state⟩
      · exact Or.inr ⟨hguarantee.1 (Or.inr hpush), fun _ => hguarantee.2 hpush⟩
      · have hne' : t ≠ turn.task := fun heq => hne (congrArg some heq)
        obtain ⟨hturn', hτ'⟩ := h.alone turn hturn hpush t τ hne' hτ hl
        refine Or.inr ⟨hguarantee.1 (Or.inl hturn'), fun hsolo => ?_⟩
        rw [hτ'] at hsolo
        cases hsolo
  moved m _ := by
    have hclears : p.world.ClearsArmed (p.world.move I yaml m) := p.world.move_clears I yaml m
    exact ⟨hp.inv.later hclears (.refl p.trace), fun _ _ _ _ => Or.inr ⟨hclears, fun _ => .refl _⟩⟩

/-- **When the armed flag tells the truth.**  In every run that keeps arms apart, whatever the flag says
at its end stands, and every go command of a confirm was sent to a machine with that very arm
standing. -/
theorem armed_flag_stands (w : World) (hw : w.armedOperation = none) (as : List CoordinatorAction)
    (h : AllSteps (Pool.step (system I yaml)) (ArmsApart I yaml) (Pool.idle w) as) :
    (∀ op, (continueFrom I yaml (Pool.idle w) as).world.armedOperation = some op →
      Standing op (continueFrom I yaml (Pool.idle w) as).trace) ∧
    AllSteps (Pool.step (system I yaml)) (StepEnsured arming (system I yaml)) (Pool.idle w) as := by
  have hidle : PoolOk arming (Pool.idle w : CoordinatorPool) :=
    poolOk_idle fun op hop => absurd (hw.symm.trans hop) (by simp)
  obtain ⟨hpool, hensured⟩ := PoolOk.run (fun p a => arming_stepOk) hidle h
  exact ⟨hpool.inv, hensured⟩

end

/-! ## Two presses, and a link that drops between them -/

/-- A step that moves the only task there is keeps arms apart when its events are allowed. -/
theorem armsApart_of_alone {I : Identifiers} {yaml : YamlLayer} {p : CoordinatorPool}
    {a : CoordinatorAction} (t : ℕ) (call : Call) (hnumbered : Numbered p)
    (htasks : ∀ t' < p.spawned, t' ≠ t → (p.tasks t').isNone = true)
    (hturn : ∀ turn, p.turn (system I yaml) a = some turn → turn.task = t ∧ turn.call = call)
    (hallowed : Emits MayHappen t call p.trace (p.emitted (system I yaml) a)) :
    ArmsApart I yaml p a where
  alone turn h _ t' τ hne hτ _ := by
    rw [(hturn turn h).1] at hne
    have hnone := htasks t' (hnumbered.tasks t' τ hτ) hne
    rw [hτ] at hnone
    cases hnone
  allowed turn h := by
    rw [(hturn turn h).1, (hturn turn h).2]
    exact hallowed

/-- The grind button is pressed once, and its page opens. -/
def armGrindRun : List CoordinatorAction := [.spawn .pressGrind, .resume 0 .done]

/-- The link drops, a callback notes it, and the supervisor reconnects. -/
def reconnectRun : List CoordinatorAction :=
  [.move (.linkLost 0), .move .unexpectedDisconnect, .spawn .connect] ++
    List.replicate 13 (.resume 1 .done)

/-- **The flag outlives the arm.**  The reconnect has sent 40519, 8013 and 8012 and no call is in flight,
but the flag still says that a grind is armed, and the second press sends 3500. -/
theorem reconnect_outlived :
    let p := connectedRun (armGrindRun ++ reconnectRun)
    ¬ Standing .grind p.trace ∧ p.world.armedOperation = some .grind ∧
      ((List.range p.spawned).all fun t => (p.tasks t).isNone) = true ∧
      p.trace.filterMap (fun e => e.event.command) =
        [.grinderIn, .handshake, .recipeStop, .brewerQuit, .grinderQuit] ∧
      (p.emitted (system plainIdentifiers morningYaml) (.spawn .pressGrind)).filterMap Event.command =
        [.grinderStart] := by
  refine ⟨fun h => ?_, by decide +kernel⟩
  have hlast : (connectedRun (armGrindRun ++ reconnectRun)).trace.getLast?.map
      (fun e => e.event.clears) = some true := by decide +kernel
  obtain ⟨e, he, hclears⟩ := Option.map_eq_some_iff.mp hlast
  rw [h.last_kept he] at hclears
  cases hclears

/-- Pressed again with no reconnect between, the button starts the grind it armed. -/
theorem second_press_starts :
    AllSteps (Pool.step (system plainIdentifiers morningYaml))
      (StepEnsured arming (system plainIdentifiers morningYaml)) (Pool.idle connectedWorld)
      (armGrindRun ++ [.spawn .pressGrind]) := by
  have hnumbered := numbered_run (S := system plainIdentifiers morningYaml) (C := Call) connectedWorld
  have hresumed : ∀ {p : CoordinatorPool} {turn : Turn World Event Await Response Call},
      (p.tasks 0).map Suspended.call = some .pressGrind →
      p.turn (system plainIdentifiers morningYaml) (.resume 0 .done) = some turn →
      turn.task = 0 ∧ turn.call = .pressGrind := by
    intro p turn hcall hturn
    rcases Pool.turn_cases hturn with ⟨_, _, _, ha⟩ | ⟨τ, r, hτ, hsame, _, _, ha⟩
    · cases ha
    · have htask : 0 = turn.task := (Action.resume.inj ha).1
      rw [← htask] at hτ
      rw [hτ] at hcall
      exact ⟨htask.symm, hsame.trans (Option.some.inj hcall)⟩
  -- nobody else is under way at any of the three steps
  suffices hall : AllSteps (Pool.step (system plainIdentifiers morningYaml))
      (ArmsApart plainIdentifiers morningYaml) (Pool.idle connectedWorld)
      (armGrindRun ++ [.spawn .pressGrind]) from (armed_flag_stands connectedWorld rfl _ hall).2
  refine ⟨?_, ?_, ?_, trivial⟩
  · refine armsApart_of_alone 0 .pressGrind (hnumbered []) (fun t' h => absurd h (Nat.not_lt_zero t'))
      (fun turn h => ?_) ?_
    · cases h
      exact ⟨rfl, rfl⟩
    · rw [show Pool.emitted _ _ _ = [.sent 0 { command := .grinderIn, args := [.int 50, .int 80] }] by
        decide +kernel]
      exact ⟨trivial, trivial⟩
  · refine armsApart_of_alone 0 .pressGrind (hnumbered [.spawn .pressGrind]) (fun t' h hne => ?_)
      (fun turn h => hresumed (by decide +kernel) h) ?_
    · exact absurd (Nat.lt_one_iff.mp h) hne
    · rw [show Pool.emitted _ _ _ = [.armed .grind] by decide +kernel]
      exact ⟨trivial, trivial⟩
  · refine armsApart_of_alone 1 .pressGrind (hnumbered armGrindRun) (fun t' h _ => ?_) (fun turn h => ?_) ?_
    · obtain rfl : t' = 0 := Nat.lt_one_iff.mp h
      decide +kernel
    · cases h
      exact ⟨rfl, rfl⟩
    · rw [show Pool.emitted _ _ _ = [.confirming (some .grind),
        .sent 0 { command := .grinderStart, args := [.int 1000, .int 50, .int 80] }] by decide +kernel]
      exact ⟨fun op hop => hop, trivial, trivial⟩

end XBloom.Coordinator
