/-
# XBloom.Coordinator.Queued — what is queued on the machine when a recipe is started

Three commands queue a recipe on the machine, its dose (8102), its cup (8104) and its payload (8001, 8004
or 4513), and a fourth starts whatever they left there.  They span seconds, and no lock holds the calls
that send them apart.

`Queued uid tr` says that the three sent last came from one call, for one recipe, with nothing of another
such call between.  Every start finds it so in every run in which the calls that arm, execute or confirm
recipes do not overlap and no chain begins over a standing arm (`chains_atomic`).  If moreover the select
entity and the stored recipes leave the armed recipe alone, a confirmed tool call starts the recipe that
it names (`confirmed_starts_named`).  The two are proved at once: `φ` says whether the second is wanted.
-/
import XBloom.Coordinator.Standing

namespace XBloom.Coordinator

open XBloom.Async XBloom.Logic XBloom.Py XBloom.Ble XBloom.Recipe XBloom.Brewing

/-! ## What queues a recipe -/

/-- The commands that queue a recipe. -/
def queues : Command → Bool
  | .setBypass => true
  | .setCup => true
  | .recipeSendAuto => true
  | .recipeSendManual => true
  | .teaRecipeCode => true
  | _ => false

/-- A chain begins, or sends one of them. -/
def Event.queues : Event → Bool
  | .sent _ packet => Coordinator.queues packet.command
  | .chain _ _ => true
  | _ => false

/-- A chain begins. -/
def Event.beginsChain : Event → Bool
  | .chain _ _ => true
  | _ => false

/-- The calls that arm, execute or confirm a recipe. -/
def Call.brews : Call → Bool
  | .executeRecipe _ => true
  | .armRecipe _ => true
  | .confirmRecipe => true
  | .pressRecipe => true
  | .executeRecipeTool _ => true
  | _ => false

/-- The three commands of a recipe. -/
structure Setup where
  bypass : Packet
  cup : Packet
  payload : Packet
  deriving DecidableEq, Repr

/-- What its chain sends for a prepared recipe. -/
def Prepared.setup (prepared : Prepared) : Except PyErr Setup :=
  if isTeaRecipe prepared.recipe then do
    let bypass ← bypassArgs 0 0 0
    let cup ← cupArgs 200 0
    let payload ← buildTeaPayload prepared.recipe
    return {
      bypass := { command := .setBypass, args := bypass }
      cup := { command := .setCup, args := cup }
      payload := { command := .teaRecipeCode, raw := payload } }
  else do
    let bypass ←
      coffeeBypassArgs prepared.recipe prepared.bypassVolume prepared.bypassTemperature
    let cup ← cupArgs (coffeeCupBounds prepared.recipe).1 (coffeeCupBounds prepared.recipe).2
    let payload ← buildCoffeeRecipePayload prepared.recipe
    return {
      bypass := { command := .setBypass, args := bypass }
      cup := { command := .setCup, args := cup }
      payload := { command := recipeCommand prepared.recipe, raw := payload } }

/-! ## What is queued -/

/-- Nothing is queued, and no other recipe call does anything. -/
def Undisturbed (t : ℕ) (e : Entry Call Event) : Prop :=
  e.event.queues = false ∧ (e.call.brews = true → e.task = t)

/-- Packets, the latest first, were sent by task `t` one after the other, undisturbed. -/
def Chained (t : ℕ) : List Packet → Trace Call Event → Prop
  | [], _ => True
  | packet :: earlier, tr => ∃ past c client later,
      tr = past ++ ⟨t, c, .sent client packet⟩ :: later ∧ (∀ e ∈ later, Undisturbed t e) ∧
        Chained t earlier past

/-- The last chain that began is task `t`'s, for the recipe of this uid. -/
def Begun (t : ℕ) (uid : Option String) (tr : Trace Call Event) : Prop :=
  ∃ past c armed later, tr = past ++ ⟨t, c, .chain armed uid⟩ :: later ∧
    ∀ e ∈ later, e.event.beginsChain = false

/-- **A recipe is queued**: the last dose, cup and payload that were sent are those of one prepared
recipe, sent by one call with nothing of another recipe call between, and the last chain that began is
that call's for that recipe. -/
def Queued (uid : Option String) (tr : Trace Call Event) : Prop :=
  ∃ (t : ℕ) (prepared : Prepared) (setup : Setup), prepared.uid = uid ∧ prepared.setup = .ok setup ∧
    Begun t uid tr ∧ ∃ past c client later, tr = past ++ ⟨t, c, .sent client setup.payload⟩ :: later ∧
      (∀ e ∈ later, e.event.queues = false) ∧ Chained t [setup.cup, setup.bypass] past

variable {t : ℕ} {uid : Option String} {packets : List Packet} {tr tr' : Trace Call Event}

theorem not_beginsChain {e : Event} (h : e.queues = false) : e.beginsChain = false := by
  cases e <;> first | rfl | cases h

theorem Chained.adds (h : Chained t packets tr) (hadds : Adds (Undisturbed t) tr tr') :
    Chained t packets tr' := by
  cases packets with
  | nil => trivial
  | cons packet earlier =>
    obtain ⟨past, c, client, later, rfl, hlater, hearlier⟩ := h
    obtain ⟨es, rfl, hes⟩ := hadds
    refine ⟨past, c, client, later ++ es, by simp, fun e he => ?_, hearlier⟩
    rcases List.mem_append.mp he with he | he
    · exact hlater e he
    · exact hes e he

/-- The next packet. -/
theorem Chained.sent (h : Chained t packets tr) (c : Call) (client : ℕ) (packet : Packet) :
    Chained t (packet :: packets) (tr ++ [⟨t, c, .sent client packet⟩]) :=
  ⟨tr, c, client, [], rfl, fun _ he => absurd he List.not_mem_nil, h⟩

theorem Begun.adds (h : Begun t uid tr)
    (hadds : Adds (fun e => e.event.beginsChain = false) tr tr') : Begun t uid tr' := by
  obtain ⟨past, c, armed, later, rfl, hlater⟩ := h
  obtain ⟨es, rfl, hes⟩ := hadds
  refine ⟨past, c, armed, later ++ es, by simp, fun e he => ?_⟩
  rcases List.mem_append.mp he with he | he
  · exact hlater e he
  · exact hes e he

theorem Queued.adds (h : Queued uid tr) (hadds : Adds (fun e => e.event.queues = false) tr tr') :
    Queued uid tr' := by
  obtain ⟨t, prepared, setup, huid, hsetup, hbegun, past, c, client, later, rfl, hlater, hchained⟩ := h
  obtain ⟨es, rfl, hes⟩ := hadds
  refine ⟨t, prepared, setup, huid, hsetup,
    hbegun.adds ⟨es, rfl, fun e he => not_beginsChain (hes e he)⟩,
    past, c, client, later ++ es, by simp, fun e he => ?_, hchained⟩
  rcases List.mem_append.mp he with he | he
  · exact hlater e he
  · exact hes e he

/-- **A whole chain is queued.** -/
theorem Chained.queued {prepared : Prepared} {setup : Setup} (hsetup : prepared.setup = .ok setup)
    (hbegun : Begun t prepared.uid tr)
    (h : Chained t [setup.payload, setup.cup, setup.bypass] tr) : Queued prepared.uid tr := by
  obtain ⟨past, c, client, later, htrace, hlater, hearlier⟩ := h
  exact ⟨t, prepared, setup, rfl, hsetup, hbegun, past, c, client, later, htrace,
    fun e he => (hlater e he).1, hearlier⟩

/-! ## The contract -/

/-- An arm that succeeds, and a start, find a recipe queued. -/
def FindsQueued (tr : Trace Call Event) (e : Entry Call Event) : Prop :=
  e.event = .armed .recipe ∨ e.event.command.any (goes .recipe) = true → ∃ uid, Queued uid tr

/-- A start of the tool finds the recipe queued that the tool has named. -/
def StartsNamed (tr : Trace Call Event) (e : Entry Call Event) : Prop :=
  ∀ args, e.call = .executeRecipeTool args → e.event.command.any (goes .recipe) = true →
    ∃ uid, Queued uid tr ∧ ∃ e' ∈ tr, e'.task = e.task ∧ e'.event = .naming uid

/-- A chain begins only while no recipe is armed, and a confirm called by itself only while one is. -/
def Event.mayBrew (c : Call) : Event → Bool
  | .chain standing _ => decide (standing ≠ some .recipe)
  | .confirming standing => decide (c = .confirmRecipe → standing = some .recipe)
  | _ => true

section
variable (yaml : YamlLayer) (φ : Prop)

/-- A recipe is queued, the selected one if `φ`. -/
def HoldsQueued (s : CoordinatorState) : Prop :=
  ∃ uid, Queued uid s.2 ∧ (φ → s.1.selectedUid yaml = uid)

/-- The uids stay: that of the selected recipe, and that of each name. -/
structure SameUids (w w' : World) : Prop where
  selected : w'.selectedUid yaml = w.selectedUid yaml
  named : ∀ name, w'.uidOf yaml name = w.uidOf yaml name

/-- What the others leave a recipe call: its chain and its arm, and if `φ` the uids. -/
structure Leaves (s s' : CoordinatorState) : Prop where
  trace : Adds (fun e => e.call.brews = false ∧ e.event.queues = false) s.2 s'.2
  armed : s'.1.armedOperation = some .recipe → s.1.armedOperation = some .recipe
  uids : φ → SameUids yaml s.1 s'.1

variable {yaml} {φ}

theorem SameUids.refl (w : World) : SameUids yaml w w := ⟨rfl, fun _ => rfl⟩

theorem SameUids.trans {w w' w'' : World} (h : SameUids yaml w w') (h' : SameUids yaml w' w'') :
    SameUids yaml w w'' :=
  ⟨h'.selected.trans h.selected, fun name => (h'.named name).trans (h.named name)⟩

/-- Uids are read from the recipes and the selection. -/
theorem sameUids_of_store {w w' : World} (h : w'.store = w.store) : SameUids yaml w w' := by
  have hnamed : ∀ name, w'.uidOf yaml name = w.uidOf yaml name := by
    intro name
    unfold World.uidOf World.recipes
    rw [h]
  refine ⟨?_, hnamed⟩
  unfold World.selectedUid
  rw [h, funext hnamed]

theorem Leaves.refl (s : CoordinatorState) : Leaves yaml φ s s := ⟨.refl s.2, id, fun _ => .refl s.1⟩

theorem Leaves.trans {s s' s'' : CoordinatorState} (h : Leaves yaml φ s s')
    (h' : Leaves yaml φ s' s'') : Leaves yaml φ s s'' :=
  ⟨h.trace.trans h'.trace, fun harmed => h.armed (h'.armed harmed),
    fun hφ => (h.uids hφ).trans (h'.uids hφ)⟩

variable (yaml) (φ)

/-- **The contract of queues**: an armed recipe is queued; a recipe call may rely on the others to leave
its chain alone while it runs. -/
def queueing : CoordinatorContract where
  inv s := s.1.armedOperation = some .recipe → HoldsQueued yaml φ s
  rely c _ s s' := c.brews = true → Leaves yaml φ s s'
  guarantee c _ s s' := c.brews = false → Leaves yaml φ s s'
  stop _ _ _ := True
  assume _ e := e.event.mayBrew e.call = true
  ensure tr e := FindsQueued tr e ∧ (φ → StartsNamed tr e)
  rely_refl _ _ s _ := .refl s
  rely_trans _ _ _ _ _ h h' hc := (h hc).trans (h' hc)
  guarantee_refl _ _ s _ := .refl s
  guarantee_trans _ _ _ _ _ h h' hc := (h hc).trans (h' hc)

end

/-! ## Assertions -/

variable {yaml : YamlLayer} {φ : Prop} {c : Call} {α : Type}

/-- An event that neither arms a recipe nor starts one ensures nothing. -/
theorem ensured_of_plain {e : Entry Call Event} (harms : e.event ≠ .armed .recipe)
    (hgoes : e.event.command.any (goes .recipe) = false) :
    FindsQueued tr e ∧ (φ → StartsNamed tr e) := by
  refine ⟨fun h => ?_, fun _ _ _ hgo => ?_⟩
  · rcases h with h | hgo
    · exact absurd h harms
    · rw [hgoes] at hgo
      cases hgo
  · rw [hgoes] at hgo
    cases hgo

/-- An armed recipe is queued. -/
def ArmQueued (yaml : YamlLayer) (φ : Prop) : CoordinatorAssertion := fun _ s =>
  s.1.armedOperation = some .recipe → HoldsQueued yaml φ s

/-- Task `t` is in its chain for the recipe of this uid, with these packets sent. -/
structure InChain (yaml : YamlLayer) (φ : Prop) (t : ℕ) (uid : Option String) (packets : List Packet)
    (o : CoordinatorOrigin) (s : CoordinatorState) : Prop where
  unarmed : s.1.armedOperation ≠ some .recipe
  selected : φ → s.1.selectedUid yaml = uid
  begun : Begun t uid s.2
  chained : Chained t packets s.2

/-- Task `t` of the call `c` may start what is queued. -/
def Startable (yaml : YamlLayer) (φ : Prop) (c : Call) (t : ℕ) : CoordinatorAssertion := fun _ s =>
  ∃ uid, Queued uid s.2 ∧ (φ → s.1.selectedUid yaml = uid) ∧
    (φ → ∀ args, c = .executeRecipeTool args → ∃ e ∈ s.2, e.task = t ∧ e.event = .naming uid)

theorem InChain.armQueued {o : CoordinatorOrigin} {s : CoordinatorState}
    (h : InChain yaml φ t uid packets o s) : ArmQueued yaml φ o s :=
  fun harmed => absurd harmed h.unarmed

/-- What was sent of a chain that breaks off counts for nothing. -/
theorem InChain.restart {o : CoordinatorOrigin} {s : CoordinatorState}
    (h : InChain yaml φ t uid packets o s) : InChain yaml φ t uid [] o s :=
  ⟨h.unarmed, h.selected, h.begun, trivial⟩

theorem Startable.armQueued {o : CoordinatorOrigin} {s : CoordinatorState}
    (h : Startable yaml φ c t o s) : ArmQueued yaml φ o s := by
  obtain ⟨uid, hqueued, hselected, _⟩ := h
  exact fun _ => ⟨uid, hqueued, hselected⟩

/-- What neither queues, starts nor arms a recipe, and leaves the recipes. -/
def idleFootprint : CoordinatorFootprint where
  awaits _ := True
  emits e := e.queues = false ∧ e ≠ .armed .recipe ∧ e.command.any (goes .recipe) = false
  writes w w' := (w'.armedOperation = some .recipe → w.armedOperation = some .recipe) ∧
    w'.store = w.store

/-- The same, but for a start. -/
def startFootprint : CoordinatorFootprint where
  awaits _ := True
  emits e := e.queues = false ∧ e ≠ .armed .recipe
  writes := idleFootprint.writes

theorem InChain.later {o o' : CoordinatorOrigin} {s s' : CoordinatorState}
    (h : InChain yaml φ t uid packets o s) (hadds : Adds (Undisturbed t) s.2 s'.2)
    (harmed : s'.1.armedOperation = some .recipe → s.1.armedOperation = some .recipe)
    (huids : φ → SameUids yaml s.1 s'.1) : InChain yaml φ t uid packets o' s' := by
  refine ⟨fun h' => h.unarmed (harmed h'), fun hφ => ?_, h.begun.adds ?_, h.chained.adds hadds⟩
  · rw [(huids hφ).selected]
    exact h.selected hφ
  · obtain ⟨es, htrace, hes⟩ := hadds
    exact ⟨es, htrace, fun e he => not_beginsChain (hes e he).1⟩

theorem Startable.later {o o' : CoordinatorOrigin} {s s' : CoordinatorState}
    (h : Startable yaml φ c t o s) (hadds : Adds (fun e => e.event.queues = false) s.2 s'.2)
    (huids : φ → SameUids yaml s.1 s'.1) : Startable yaml φ c t o' s' := by
  obtain ⟨uid, hqueued, hselected, hnamed⟩ := h
  refine ⟨uid, hqueued.adds hadds, fun hφ => ?_, fun hφ args hc => ?_⟩
  · rw [(huids hφ).selected]
    exact hselected hφ
  · obtain ⟨e, he, hnames⟩ := hnamed hφ args hc
    obtain ⟨es, htrace, _⟩ := hadds
    exact ⟨e, by rw [htrace]; exact List.mem_append_left _ he, hnames⟩

/-- What others do leaves a chain undisturbed. -/
theorem Leaves.undisturbed {s s' : CoordinatorState} (h : Leaves yaml φ s s') :
    Adds (Undisturbed t) s.2 s'.2 := by
  obtain ⟨es, htrace, hes⟩ := h.trace
  refine ⟨es, htrace, fun e he => ⟨(hes e he).2, fun hbrews => ?_⟩⟩
  rw [(hes e he).1] at hbrews
  cases hbrews

theorem armQueued_stable : Stable (queueing yaml φ) c t idleFootprint (ArmQueued yaml φ) where
  write o s w' h hwrites := by
    obtain ⟨harmed, hstore⟩ := hwrites
    have huids : SameUids yaml s.1 w' := sameUids_of_store hstore
    refine ⟨fun _ => ⟨.refl s.2, harmed, fun _ => huids⟩, fun harmed' => ?_⟩
    obtain ⟨uid, hqueued, hselected⟩ := h (harmed harmed')
    exact ⟨uid, hqueued, fun hφ => huids.selected.trans (hselected hφ)⟩
  emit o s e h he _ := by
    obtain ⟨hqueues, harms, hgoes⟩ := he
    refine ⟨ensured_of_plain harms hgoes, fun hc => ⟨.one ⟨hc, hqueues⟩ s.2, id, fun _ => .refl s.1⟩,
      fun harmed => ?_⟩
    obtain ⟨uid, hqueued, hselected⟩ := h harmed
    exact ⟨uid, hqueued.adds (.one hqueues s.2), hselected⟩
  await o s l h _ := ⟨⟨h, trivial⟩, fun r s' _ hinv => hinv⟩

theorem inChain_waits (hc : c.brews = true) (l : Await) :
    Waits (queueing yaml φ) c (InChain yaml φ t uid packets) l := by
  intro o s h
  refine ⟨⟨h.armQueued, trivial⟩, fun r s' hrely _ => ?_⟩
  have hleaves := hrely hc
  exact h.later hleaves.undisturbed hleaves.armed hleaves.uids

theorem inChain_stable (hc : c.brews = true) :
    Stable (queueing yaml φ) c t idleFootprint (InChain yaml φ t uid packets) where
  write o s w' h hwrites :=
    ⟨fun hbrews => absurd (hc.symm.trans hbrews) (by decide),
      h.later (.refl s.2) hwrites.1 fun _ => sameUids_of_store hwrites.2⟩
  emit o s e h he _ :=
    ⟨ensured_of_plain he.2.1 he.2.2, fun hbrews => absurd (hc.symm.trans hbrews) (by decide),
      h.later (.one ⟨he.1, fun _ => rfl⟩ s.2) id fun _ => .refl s.1⟩
  await o s l h _ := inChain_waits hc l o s h

theorem startable_stable (hc : c.brews = true) :
    Stable (queueing yaml φ) c t startFootprint (Startable yaml φ c t) where
  write o s w' h hwrites :=
    ⟨fun hbrews => absurd (hc.symm.trans hbrews) (by decide),
      h.later (.refl s.2) fun _ => sameUids_of_store hwrites.2⟩
  emit o s e h he _ := by
    refine ⟨⟨fun _ => ?_, fun hφ args hcall _ => ?_⟩,
      fun hbrews => absurd (hc.symm.trans hbrews) (by decide),
      h.later (.one he.1 s.2) fun _ => .refl s.1⟩
    · obtain ⟨uid, hqueued, _⟩ := h
      exact ⟨uid, hqueued⟩
    · obtain ⟨uid, hqueued, _, hnamed⟩ := h
      exact ⟨uid, hqueued, hnamed hφ args hcall⟩
  await o s l h _ := by
    refine ⟨⟨h.armQueued, trivial⟩, fun r s' hrely _ => ?_⟩
    have hleaves := hrely hc
    obtain ⟨es, htrace, hes⟩ := hleaves.trace
    exact h.later ⟨es, htrace, fun e he => (hes e he).2⟩ hleaves.uids

/-! ## Footprints -/

theorem sends_idle {awaits : List Await} {commands : List Command} {connects : Bool}
    (h : ∀ k ∈ commands, queues k = false ∧ goes .recipe k = false) :
    sends awaits commands connects ≤ idleFootprint :=
  sends_le (fun _ _ => trivial) (fun _ packet hk => ⟨(h packet.command hk).1, Event.noConfusion,
      (h packet.command hk).2⟩)
    (fun _ _ => ⟨rfl, Event.noConfusion, rfl⟩) fun _ _ h => ⟨fun harmed => h.armed ▸ harmed, h.store⟩

theorem link_idle : linkFootprint ≤ idleFootprint := sends_idle (by decide)

theorem stop_idle : stopFootprint ≤ idleFootprint := sends_idle (by decide)

theorem poll_idle : pollFootprint ≤ idleFootprint := sends_idle (by decide)

theorem idle_le_start : idleFootprint ≤ startFootprint :=
  ⟨fun _ h => h, fun _ h => ⟨h.1, h.2.1⟩, fun _ _ h => h⟩

theorem link_start : linkFootprint ≤ startFootprint :=
  ⟨fun _ _ => trivial, fun e he => idle_le_start.2.1 e (link_idle.2.1 e he), link_idle.2.2⟩

theorem go_start : goFootprint ≤ startFootprint := by
  have hqueues : ∀ k ∈ [Command.recipeExecute, .teaRecipeMake], queues k = false := by decide
  exact sends_le (fun _ _ => trivial)
    (fun _ packet hk => ⟨hqueues packet.command hk, Event.noConfusion⟩)
    (fun h => by cases h) fun _ _ h => ⟨fun harmed => h.armed ▸ harmed, h.store⟩

theorem ensureConnected_idle : Within idleFootprint ensureConnected :=
  ensureConnected_within.mono link_idle

/-- A command that neither queues nor starts a recipe. -/
theorem send_idle {client : ℕ} {packet : Packet} (hqueues : queues packet.command = false)
    (hgoes : goes .recipe packet.command = false) :
    Within idleFootprint (sendCommand client packet) :=
  sendCommand_within trivial ⟨hqueues, Event.noConfusion, hgoes⟩

theorem retry_idle {action : Async α} (h : Within idleFootprint action) :
    Within idleFootprint (retryWhileSleeping action) :=
  retryWhileSleeping_within h trivial link_idle

/-! ## Chains -/

theorem inChain_meets (hc : c.brews = true) {x : Async α} (h : Within idleFootprint x) :
    Meets (queueing yaml φ) c t (InChain yaml φ t uid packets) x
      (fun _ => InChain yaml φ t uid packets) fun _ => InChain yaml φ t uid packets :=
  h.meets (inChain_stable hc)

theorem queues_not_goes {k : Command} (h : queues k = true) : goes .recipe k = false := by
  cases k <;> first | rfl | cases h

section
variable {client : ℕ} {packet : Packet} {prepared : Prepared}

/-- **A step of a chain**: its packet is the latest, or the chain has broken off. -/
theorem ackStep_queues (hc : c.brews = true) (hpacket : queues packet.command = true) :
    Meets (queueing yaml φ) c t (InChain yaml φ t uid packets) (ackStep client packet)
      (fun _ => InChain yaml φ t uid (packet :: packets)) fun _ => InChain yaml φ t uid [] := by
  have hwaits := fun l => @inChain_waits t uid (packet :: packets) yaml φ c hc l
  -- a step that raises ends its chain, whether its packet was written or not
  refine (ackStep_meets (fun o s h _ => ?_) (hwaits _) (hwaits _) (hwaits _)).weaken
    (fun _ _ h => h) (fun _ _ _ h => h) fun _ _ _ h => h.elim InChain.restart InChain.restart
  have hone : Adds (fun e => e.event.beginsChain = false) s.2
      (s.2 ++ [⟨t, c, .sent client packet⟩]) := .one (by rfl) s.2
  exact ⟨ensured_of_plain Event.noConfusion (queues_not_goes hpacket),
    fun hbrews => absurd (hc.symm.trans hbrews) (by decide), h.unarmed, h.selected,
    h.begun.adds hone, h.chained.sent c client packet⟩

/-- 8022, before them. -/
theorem ackStep_home (hc : c.brews = true) :
    Meets (queueing yaml φ) c t (InChain yaml φ t uid [])
      (ackStep client { command := .backToHome }) (fun _ => InChain yaml φ t uid [])
      fun _ => InChain yaml φ t uid [] :=
  inChain_meets hc (ackStep_waits trivial trivial trivial ⟨rfl, Event.noConfusion, rfl⟩)

/-- The chain is complete. -/
def Complete (yaml : YamlLayer) (φ : Prop) (t : ℕ) (prepared : Prepared) : CoordinatorAssertion :=
  fun o s => ∃ setup, prepared.setup = .ok setup ∧
    InChain yaml φ t prepared.uid [setup.payload, setup.cup, setup.bypass] o s

theorem Complete.queued {o : CoordinatorOrigin} {s : CoordinatorState}
    (h : Complete yaml φ t prepared o s) : Queued prepared.uid s.2 := by
  obtain ⟨setup, hsetup, hchain⟩ := h
  exact hchain.chained.queued hsetup hchain.begun

theorem Complete.restart {o : CoordinatorOrigin} {s : CoordinatorState}
    (h : Complete yaml φ t prepared o s) : InChain yaml φ t prepared.uid [] o s := by
  obtain ⟨setup, _, hchain⟩ := h
  exact hchain.restart

theorem asyncArmCoffee_meets (hc : c.brews = true) (htea : isTeaRecipe prepared.recipe = false) :
    Meets (queueing yaml φ) c t (InChain yaml φ t prepared.uid [])
      (asyncArmCoffee client prepared.recipe prepared.bypassVolume prepared.bypassTemperature)
      (fun _ => Complete yaml φ t prepared) fun _ => InChain yaml φ t prepared.uid [] := by
  refine .bind (inChain_meets hc requireConnected_within) fun _ => ?_
  refine .lift_bind (fun dose hdose => ?_) fun _ _ _ h => h
  refine .bind (ackStep_home hc) fun _ => .lift_bind (fun bypass hbypass => ?_) fun _ _ _ h => h
  refine .bind (ackStep_queues hc rfl) fun _ => .lift_bind (fun cup hcup => ?_) fun _ _ _ h => h.restart
  refine .bind (ackStep_queues hc rfl) fun _ =>
    .lift_bind (fun payload hpayload => ?_) fun _ _ _ h => h.restart
  have hcommand : queues (recipeCommand prepared.recipe) = true := by
    unfold recipeCommand
    split <;> rfl
  refine (ackStep_queues hc hcommand).weaken (fun _ _ h => h) (fun _ o s h => ?_) fun _ _ _ h => h
  refine ⟨⟨_, _, _⟩, ?_, h⟩
  unfold Prepared.setup coffeeBypassArgs
  rw [if_neg (by simp [htea]), hdose, hcup, hpayload]
  show (bypassArgs prepared.bypassVolume prepared.bypassTemperature dose >>= _) = _
  rw [hbypass]
  rfl

theorem asyncArmTea_meets (hc : c.brews = true) (htea : isTeaRecipe prepared.recipe = true) :
    Meets (queueing yaml φ) c t (InChain yaml φ t prepared.uid [])
      (asyncArmTea client prepared.recipe)
      (fun _ => Complete yaml φ t prepared) fun _ => InChain yaml φ t prepared.uid [] := by
  refine .bind (inChain_meets hc requireConnected_within) fun _ => ?_
  refine .bind (ackStep_home hc) fun _ => .lift_bind (fun bypass hbypass => ?_) fun _ _ _ h => h
  refine .bind (ackStep_queues hc rfl) fun _ => .lift_bind (fun cup hcup => ?_) fun _ _ _ h => h.restart
  refine .bind (ackStep_queues hc rfl) fun _ =>
    .lift_bind (fun payload hpayload => ?_) fun _ _ _ h => h.restart
  refine .bind (ackStep_queues hc rfl) fun _ => .pure fun o s h => ?_
  refine ⟨⟨_, _, _⟩, ?_, h⟩
  unfold Prepared.setup
  rw [if_pos htea, hbypass, hcup, hpayload]
  rfl

/-- **The start of a chain's own recipe**, that is queued. -/
theorem sendStart_meets (hc : c.brews = true) (hqueues : queues packet.command = false)
    (hcall : ∀ args, c ≠ .executeRecipeTool args) :
    Meets (queueing yaml φ) c t (Complete yaml φ t prepared) (sendCommand client packet)
      (fun _ => InChain yaml φ t prepared.uid []) fun _ => InChain yaml φ t prepared.uid [] := by
  refine (sendCommand_meets (fun o s h _ => ?_) (inChain_waits hc _)).weaken (fun _ _ h => h)
    (fun _ _ _ h => h) fun _ _ _ h => h.elim Complete.restart id
  have hrestart := h.restart
  refine ⟨⟨fun _ => ⟨_, h.queued⟩, fun _ args hc' => absurd hc' (hcall args)⟩,
    fun hbrews => absurd (hc.symm.trans hbrews) (by decide),
    hrestart.later (.one ⟨hqueues, fun _ => rfl⟩ s.2) id fun _ => .refl s.1⟩

theorem complete_waits (hc : c.brews = true) (l : Await) :
    Waits (queueing yaml φ) c (Complete yaml φ t prepared) l := by
  intro o s h
  obtain ⟨setup, hsetup, hchain⟩ := h
  obtain ⟨hrests, hnext⟩ := inChain_waits hc l o s hchain
  exact ⟨hrests, fun r s' hrely hinv => ⟨setup, hsetup, hnext r s' hrely hinv⟩⟩

/-- **A single-shot brew** starts what it has queued. -/
theorem brewRecipe_meets (hc : c.brews = true) (hcall : ∀ args, c ≠ .executeRecipeTool args) :
    Meets (queueing yaml φ) c t (InChain yaml φ t prepared.uid []) (brewRecipe client prepared)
      (fun _ => InChain yaml φ t prepared.uid []) fun _ => InChain yaml φ t prepared.uid [] := by
  have hgap : Meets (queueing yaml φ) c t (Complete yaml φ t prepared)
      (Routine.await .startGap : Async Response) (fun _ => Complete yaml φ t prepared)
      fun _ => InChain yaml φ t prepared.uid [] :=
    (complete_waits hc _).meets.weaken (fun _ _ h => h) (fun _ _ _ h => h) fun _ _ _ h => h.restart
  unfold brewRecipe
  split
  · rename_i htea
    refine .bind (asyncArmTea_meets hc htea) fun payload => .bind hgap fun _ => ?_
    refine .bind (.bind (sendStart_meets hc rfl hcall) fun _ =>
      inChain_meets hc (.bind (.await trivial) fun r => ?_)) fun _ => .pure fun _ _ h => h
    split
    · exact .throw _
    · exact .pure _
  · rename_i htea
    refine .bind (asyncArmCoffee_meets hc (by simpa using htea)) fun _ => .bind hgap fun _ => ?_
    exact .bind (sendStart_meets hc rfl hcall) fun _ =>
      inChain_meets hc ((verifyBrewStarted_within 80).mono poll_idle)

theorem armRecipe_meets (hc : c.brews = true) :
    Meets (queueing yaml φ) c t (InChain yaml φ t prepared.uid []) (armRecipe client prepared)
      (fun _ => Complete yaml φ t prepared) fun _ => InChain yaml φ t prepared.uid [] := by
  unfold armRecipe
  split
  · rename_i htea
    exact .bind (asyncArmTea_meets hc htea) fun _ => .pure fun _ _ h => h
  · rename_i htea
    exact .bind (asyncArmCoffee_meets hc (by simpa using htea)) fun _ => .pure fun _ _ h => h

end

/-! ## Arms, executions and confirms -/

theorem armQueued_meets {x : Async α} (h : Within idleFootprint x) :
    Meets (queueing yaml φ) c t (ArmQueued yaml φ) x (fun _ => ArmQueued yaml φ)
      fun _ => ArmQueued yaml φ := h.meets armQueued_stable

theorem retry_inChain (hc : c.brews = true) {action : Async α} {Q : α → CoordinatorAssertion}
    (h : Meets (queueing yaml φ) c t (InChain yaml φ t uid []) action Q
      fun _ => InChain yaml φ t uid []) (hQ : ∀ a o s, Q a o s → InChain yaml φ t uid [] o s) :
    Meets (queueing yaml φ) c t (InChain yaml φ t uid []) (retryWhileSleeping action) Q
      fun _ => InChain yaml φ t uid [] :=
  retryWhileSleeping_meets (inChain_meets hc (wakeMachine_within.mono link_idle))
    (inChain_waits hc _) h hQ

section
variable {prepared : Prepared}

/-- A prepared recipe is the selected one. -/
def Selected (yaml : YamlLayer) (φ : Prop) (prepared : Prepared) : CoordinatorAssertion :=
  fun o s => ArmQueued yaml φ o s ∧ s.1.selectedUid yaml = prepared.uid

/-- **A chain begins**, with no recipe armed. -/
theorem beginChain_meets (hc : c.brews = true) :
    Meets (queueing yaml φ) c t (Selected yaml φ prepared) (beginChain prepared)
      (fun _ => InChain yaml φ t prepared.uid []) fun _ => ArmQueued yaml φ := by
  refine .world fun w => .emit fun o s h hassume => ?_
  obtain ⟨⟨_, hselected⟩, rfl⟩ := h
  have hunarmed : s.1.armedOperation ≠ some .recipe := of_decide_eq_true hassume
  exact ⟨ensured_of_plain Event.noConfusion rfl,
    fun hbrews => absurd (hc.symm.trans hbrews) (by decide), hunarmed, fun _ => hselected,
    ⟨s.2, c, s.1.armedOperation, [], rfl, fun _ he => absurd he List.not_mem_nil⟩, trivial⟩

theorem executePrepared_meets (hc : c.brews = true) (hcall : ∀ args, c ≠ .executeRecipeTool args) :
    Meets (queueing yaml φ) c t (Selected yaml φ prepared) (executePrepared prepared)
      (fun _ => ArmQueued yaml φ) fun _ => ArmQueued yaml φ := by
  refine .bind (beginChain_meets hc) fun _ => ?_
  refine .bind (Q := fun _ => InChain yaml φ t prepared.uid []) (.attempt (.bind
    (inChain_meets hc (.assign fun _ => ⟨id, rfl⟩)) fun _ => retry_inChain hc
      (withClient_meets (fun _ => brewRecipe_meets hc hcall) fun _ _ _ h => h)
      fun _ _ _ h => h)) fun brewed => ?_
  split
  · exact .pure fun _ _ h => h.armQueued
  · have hdrop : Within idleFootprint (Routine.assign World.dropBrew : Async Unit) :=
      .assign fun _ => ⟨id, rfl⟩
    exact (inChain_meets hc hdrop).weaken (fun _ _ h => h) (fun _ _ _ h => h.armQueued)
      fun _ _ _ h => h.armQueued

/-- The flag of a recipe is set on what was queued. -/
theorem setArmed_queued (hc : c.brews = true) :
    Meets (queueing yaml φ) c t (Complete yaml φ t prepared) (setArmed .recipe)
      (fun _ => ArmQueued yaml φ) fun _ => ArmQueued yaml φ := by
  -- what the chain left is queued when the flag is set
  refine .bind (Q := fun _ _ s => HoldsQueued yaml φ s) (.emit fun o s h _ => ?_) fun _ => ?_
  · refine ⟨⟨fun _ => ⟨_, h.queued⟩, fun _ _ _ hgo => by cases hgo⟩,
      fun hbrews => absurd (hc.symm.trans hbrews) (by decide), prepared.uid,
      h.queued.adds (.one (by rfl) s.2), h.restart.selected⟩
  · exact .assign fun o s h => ⟨fun hbrews => absurd (hc.symm.trans hbrews) (by decide), fun _ => h⟩

theorem armPrepared_meets (hc : c.brews = true) :
    Meets (queueing yaml φ) c t (Selected yaml φ prepared) (armPrepared prepared)
      (fun _ => ArmQueued yaml φ) fun _ => ArmQueued yaml φ := by
  refine .bind (beginChain_meets hc) fun _ => ?_
  refine .bind (Q := fun _ => ArmQueued yaml φ) (.attempt (.bind ((retry_inChain hc
    (withClient_meets (fun _ => armRecipe_meets hc) fun _ _ _ h => h) fun _ _ _ h => h.restart).weaken
      (fun _ _ h => h) (fun _ _ _ h => h) fun _ _ _ h => h.armQueued) fun payload =>
    .bind (setArmed_queued hc) fun _ => armQueued_meets (.assign fun _ => ⟨id, rfl⟩))) fun armed => ?_
  split
  · exact .pure fun _ _ h => h
  · exact armQueued_meets (.assign fun _ => ⟨id, rfl⟩)

end

section
variable {I : Identifiers}

/-- **What is prepared is the selected recipe**, and handed on before anything else happens. -/
theorem withPrepared_meets {args : BrewArgs} {f : Prepared → Async Unit}
    (h : ∀ prepared, Meets (queueing yaml φ) c t (Selected yaml φ prepared) (f prepared)
      (fun _ => ArmQueued yaml φ) fun _ => ArmQueued yaml φ) :
    Meets (queueing yaml φ) c t (ArmQueued yaml φ) (withPrepared I yaml args f)
      (fun _ => ArmQueued yaml φ) fun _ => ArmQueued yaml φ := by
  refine .bind (armQueued_meets ensureConnected_idle) fun connected => ?_
  split
  · refine .world fun w => .lift_bind (fun prepared hprepared => ?_) fun _ _ _ h => h.1
    split
    · rename_i prepared
      refine (h prepared).pre fun o s hw => ?_
      obtain ⟨harmed, rfl⟩ := hw
      exact ⟨harmed, (prepared_uid hprepared).symm⟩
    · exact .pure fun _ _ h => h.1
  · exact .pure fun _ _ h => h

/-- A confirm sends its start, and no more than a connect besides. -/
theorem confirm_start : Within startFootprint asyncConfirmRecipe := by
  have hsend : Within startFootprint sendConfirm := by
    refine .world fun w => withClient_within fun client => ?_
    unfold confirmRecipe
    split
    · split
      · exact makeTea_within.mono go_start
      · exact .throw _
    · exact executeCoffeeRecipe_within.mono go_start
  refine .bind (.world fun _ => .emit ⟨rfl, Event.noConfusion⟩) fun _ =>
    .bind (ensureConnected_idle.mono idle_le_start) fun connected => ?_
  split
  · refine .bind (.attempt (.bind (.assign fun _ => ⟨id, rfl⟩) fun _ => retryWhileSleeping_within hsend
      trivial link_start)) fun started => ?_
    split
    · exact .bind (.assign fun _ => ⟨fun h => (by cases h), rfl⟩) fun _ => .pure _
    · exact .bind (.assign fun _ => ⟨fun h => (by cases h), rfl⟩) fun _ => .pure _
  · exact .pure _

/-- **A confirm** of what may be started. -/
theorem asyncConfirmRecipe_meets (hc : c.brews = true) :
    Meets (queueing yaml φ) c t (Startable yaml φ c t) asyncConfirmRecipe
      (fun _ => ArmQueued yaml φ) fun _ => ArmQueued yaml φ :=
  (confirm_start.meets (startable_stable hc)).weaken (fun _ _ h => h)
    (fun _ _ _ h => h.armQueued) fun _ _ _ h => h.armQueued

/-- A confirm of an armed recipe, by a call that names none. -/
theorem startable_of_armed {o : CoordinatorOrigin} {s : CoordinatorState}
    (hcall : ∀ args, c ≠ .executeRecipeTool args) (h : ArmQueued yaml φ o s)
    (harmed : s.1.armedOperation = some .recipe) : Startable yaml φ c t o s := by
  obtain ⟨uid, hqueued, hselected⟩ := h harmed
  exact ⟨uid, hqueued, hselected, fun _ args hc => absurd hc (hcall args)⟩

theorem asyncArmRecipe_meets (hc : c.brews = true) (args : BrewArgs) :
    Meets (queueing yaml φ) c t (ArmQueued yaml φ) (asyncArmRecipe I yaml args)
      (fun _ => ArmQueued yaml φ) fun _ => ArmQueued yaml φ :=
  withPrepared_meets fun _ => armPrepared_meets hc

theorem pressRecipe_meets :
    Meets (queueing yaml φ) .pressRecipe t (ArmQueued yaml φ) (pressRecipe I yaml)
      (fun _ => ArmQueued yaml φ) fun _ => ArmQueued yaml φ := by
  refine .world fun w => ?_
  split
  · rename_i harmed
    refine .bind ((asyncConfirmRecipe_meets rfl).pre fun o s h => ?_) fun _ => .pure fun _ _ h => h
    obtain ⟨h, rfl⟩ := h
    exact startable_of_armed (fun _ => Call.noConfusion) h harmed
  · exact (asyncArmRecipe_meets rfl {}).pre fun _ _ h => h.1

/-- A confirm called by itself, with its recipe armed. -/
theorem confirmRecipe_meets :
    Meets (queueing yaml φ) .confirmRecipe t (ArmQueued yaml φ) asyncConfirmRecipe
      (fun _ => ArmQueued yaml φ) fun _ => ArmQueued yaml φ := by
  -- the mark of the confirm says that its recipe is armed
  intro o s h
  by_cases harmed : s.1.armedOperation = some .recipe
  · exact asyncConfirmRecipe_meets rfl o s (startable_of_armed (fun _ => Call.noConfusion) h harmed)
  · intro hassume
    exact absurd (of_decide_eq_true hassume rfl) harmed

/-! ## The tool -/

/-- The tool has resolved its recipe to this name and uid. -/
def Resolved (yaml : YamlLayer) (φ : Prop) (name : String) (uid : Option String) :
    CoordinatorAssertion := fun o s => ArmQueued yaml φ o s ∧ (φ → s.1.uidOf yaml name = uid)

theorem resolved_stable (hc : c.brews = true) {name : String} :
    Stable (queueing yaml φ) c t idleFootprint (Resolved yaml φ name uid) where
  write o s w' h hwrites := by
    obtain ⟨hguarantee, harmed⟩ := @armQueued_stable t yaml φ c |>.write o s w' h.1 hwrites
    refine ⟨hguarantee, harmed, fun hφ => ?_⟩
    exact ((sameUids_of_store hwrites.2).named name).trans (h.2 hφ)
  emit o s e h he hassume := by
    obtain ⟨hensure, hguarantee, harmed⟩ := @armQueued_stable t yaml φ c |>.emit o s e h.1 he hassume
    exact ⟨hensure, hguarantee, harmed, h.2⟩
  await o s l h _ := by
    refine ⟨⟨h.1, trivial⟩, fun r s' hrely hinv => ⟨hinv, fun hφ => ?_⟩⟩
    exact (((hrely hc).uids hφ).named name).trans (h.2 hφ)

section
variable {args : ToolArgs} {name : String} {recipe : RecipeDict}

/-- **The second phase**: the armed recipe is the selected one, and it is the one that is named. -/
theorem toolConfirm_meets (hc : c.brews = true) :
    Meets (queueing yaml φ) c t
      (fun o s => Resolved yaml φ name recipe.uid o s ∧ s.1.armedOperation = some .recipe ∧
        s.1.store.selectedRecipe = some name) (toolConfirm recipe)
      (fun _ => ArmQueued yaml φ) fun _ => ArmQueued yaml φ := by
  refine .bind (Q := fun _ => Startable yaml φ c t) (.emit fun o s h _ => ?_) fun _ =>
    .bind (asyncConfirmRecipe_meets hc) fun _ => .pure fun _ _ h => h
  obtain ⟨⟨harm, hresolved⟩, harmed, hname⟩ := h
  obtain ⟨uid, hqueued, hselected⟩ := harm harmed
  -- the armed uid is the selected one's, and the selected name is the one that was resolved
  have huid : φ → uid = recipe.uid := by
    intro hφ
    rw [← hselected hφ, ← hresolved hφ]
    unfold World.selectedUid
    rw [hname, Option.bind_some]
  refine ⟨ensured_of_plain Event.noConfusion rfl,
    fun hbrews => absurd (hc.symm.trans hbrews) (by decide), uid,
    hqueued.adds (.one (by rfl) s.2), hselected, fun hφ _ _ => ⟨⟨t, c, .naming recipe.uid⟩, ?_, rfl, ?_⟩⟩
  · simp
  · rw [huid hφ]

/-- A standing arm is backed out of before anything else happens. -/
theorem backOut_meets (hc : c.brews = true) :
    Meets (queueing yaml φ) c t (fun _ _ => True) (do
      let w ← Routine.world
      Routine.when w.armedOperation.isSome asyncCancel) (fun _ => ArmQueued yaml φ)
      fun _ => ArmQueued yaml φ := by
  -- the cancel clears the flag first, and an armed recipe is no longer claimed to be queued
  have hcancel : Meets (queueing yaml φ) c t (fun _ _ => True) asyncCancel
      (fun _ => ArmQueued yaml φ) fun _ => ArmQueued yaml φ := by
    refine .world fun w => .bind (Q := fun _ => ArmQueued yaml φ) (.assign fun o s _ =>
      ⟨fun hbrews => absurd (hc.symm.trans hbrews) (by decide), fun harmed => by cases harmed⟩)
      fun _ => armQueued_meets (.bind ensureConnected_idle fun connected => ?_)
    split
    · exact .bind (.attempt (sendStops_within.mono stop_idle)) fun _ => .pure _
    · exact .pure _
  refine .world fun w => .when (fun _ => hcancel.pre fun _ _ _ => trivial) fun hnone o s h harmed => ?_
  rw [← h.2, harmed] at hnone
  cases hnone

theorem toolPhase_meets (hc : c.brews = true) :
    Meets (queueing yaml φ) c t (Resolved yaml φ name recipe.uid) (toolPhase I yaml args name recipe)
      (fun _ => ArmQueued yaml φ) fun _ => ArmQueued yaml φ := by
  refine .world fun w => ?_
  split
  · exact .pure fun _ _ h => h.1.1
  · split
    · rename_i hstands
      refine (@toolConfirm_meets t yaml φ c name recipe hc).pre fun o s h => ?_
      obtain ⟨h, rfl⟩ := h
      exact ⟨h, hstands.2.1, hstands.2.2⟩
    · -- the selection moves under a standing arm, which is gone before the next await
      refine .bind (Q := fun _ _ _ => True) (.assign fun o s _ =>
        ⟨fun hbrews => absurd (hc.symm.trans hbrews) (by decide), trivial⟩) fun _ => ?_
      have hback := @backOut_meets t yaml φ c hc
      refine .world fun w' => .bind (Q := fun _ => ArmQueued yaml φ) ?_ fun _ =>
        asyncArmRecipe_meets hc _
      intro o s h
      obtain ⟨-, rfl⟩ := h
      exact hback o s trivial

theorem executeRecipeTool_meets (hc : c.brews = true) :
    Meets (queueing yaml φ) c t (ArmQueued yaml φ) (executeRecipeTool I yaml args)
      (fun _ => ArmQueued yaml φ) fun _ => ArmQueued yaml φ := by
  refine .world fun w => ?_
  split
  · exact .pure fun _ _ h => h.1
  · rename_i name recipe hfind
    have hresolved : ∀ o s, ArmQueued yaml φ o s ∧ s.1 = w → Resolved yaml φ name recipe.uid o s := by
      rintro o s ⟨harmed, rfl⟩
      refine ⟨harmed, fun _ => ?_⟩
      unfold World.uidOf
      rw [findRecipe_get? I hfind, Option.bind_some]
    split
    · exact (toolPhase_meets hc).pre hresolved
    · refine .bind ((((asyncConnect_within.mono link_idle).meets (resolved_stable hc)).pre
        hresolved).weaken (fun _ _ h => h) (fun _ _ _ h => h) fun _ _ _ h => h.1) fun connected => ?_
      split
      · exact toolPhase_meets hc
      · exact .pure fun _ _ h => h.1

end

end

/-! ## The other calls -/

theorem connected_idle {x : Async α} {a : α} (h : Within idleFootprint x) :
    Within idleFootprint (ensureConnected >>= fun connected => if connected then x else pure a) := by
  refine .bind ensureConnected_idle fun connected => ?_
  split
  · exact h
  · exact .pure _

theorem setArmed_idle {op : Armed} (h : op ≠ .recipe) : Within idleFootprint (setArmed op) :=
  .bind (.emit ⟨rfl, by simpa using h, rfl⟩) fun _ =>
    .assign fun _ => ⟨fun harmed => absurd (Option.some.inj harmed) h, rfl⟩

theorem beginConfirm_idle : Within idleFootprint beginConfirm :=
  .world fun _ => .emit ⟨rfl, Event.noConfusion, rfl⟩

theorem brewerStart_idle : Within idleFootprint brewerStart :=
  .world fun _ => withClient_within fun _ => .bind (.lift _) fun _ => send_idle rfl rfl

theorem enterMode_idle {client : ℕ} {size speed : ℤ} :
    Within idleFootprint (grinderEnterMode client size speed) := send_idle rfl rfl

theorem withGrinder_idle {f : ℕ → ℤ → ℤ → Async Unit}
    (h : ∀ client size speed, Within idleFootprint (f client size speed)) :
    Within idleFootprint (withGrinder f) :=
  .world fun w => withClient_within fun client => h client w.grindSize w.rpm

/-- A start under its operation's flag. -/
theorem started_idle {op : Operation} {x : Async Unit} (h : Within idleFootprint x) :
    Within idleFootprint (Routine.assign (fun w : World => { w with activeOperation := some op }) >>=
      fun _ => retryWhileSleeping x) :=
  .bind (.assign fun _ => ⟨id, rfl⟩) fun _ => retry_idle h

/-- A confirm of a pour or a grind. -/
theorem confirm_idle {op : Operation} {x : Async Unit} (h : Within idleFootprint x) :
    Within idleFootprint (do
      let started ← Routine.attempt (Routine.assign (fun w : World =>
        { w with activeOperation := some op }) >>= fun _ => retryWhileSleeping x)
      Routine.assign fun w => { w with armedOperation := none }
      pure started.toBool : Async Bool) :=
  .bind (.attempt (started_idle h)) fun _ =>
    .bind (.assign fun _ => ⟨fun harmed => (by cases harmed), rfl⟩) fun _ => .pure _

theorem asyncPour_idle : Within idleFootprint asyncPour :=
  connected_idle (.bind (.attempt (started_idle brewerStart_idle)) fun _ => .pure _)

theorem asyncGrind_idle : Within idleFootprint asyncGrind :=
  connected_idle (.bind (.attempt (started_idle (withGrinder_idle fun _ _ _ =>
    .bind enterMode_idle fun _ => .bind (.await trivial) fun _ => send_idle rfl rfl))) fun _ => .pure _)

theorem asyncArmPour_idle : Within idleFootprint asyncArmPour := by
  refine connected_idle (.bind (.attempt (.bind (retry_idle (withClient_within fun _ =>
    send_idle rfl rfl)) fun _ => setArmed_idle (by simp))) fun armed => ?_)
  split
  · exact .pure _
  · exact .bind (.await trivial) fun _ => .bind (.attempt (.world fun _ =>
      .bind (withClient_within fun _ => .bind (.lift _) fun _ => send_idle rfl rfl) fun _ =>
        .bind (.await trivial) fun _ => .world fun _ => withClient_within fun _ => send_idle rfl rfl))
      fun _ => .pure _

theorem asyncArmGrind_idle : Within idleFootprint asyncArmGrind :=
  connected_idle (.bind (.attempt (.bind (retry_idle (withGrinder_idle fun _ _ _ => enterMode_idle))
    fun _ => setArmed_idle (by simp))) fun _ => .pure _)

theorem asyncConfirmPour_idle : Within idleFootprint asyncConfirmPour :=
  .bind beginConfirm_idle fun _ => connected_idle (confirm_idle brewerStart_idle)

theorem asyncConfirmGrind_idle : Within idleFootprint asyncConfirmGrind :=
  .bind beginConfirm_idle fun _ =>
    connected_idle (confirm_idle (withGrinder_idle fun _ _ _ => send_idle rfl rfl))

theorem asyncCancel_idle : Within idleFootprint asyncCancel :=
  .world fun _ => .bind (.assign fun _ => ⟨fun harmed => (by cases harmed), rfl⟩) fun _ =>
    connected_idle (.bind (.attempt (sendStops_within.mono stop_idle)) fun _ => .pure _)

theorem quiet_idle : quietFootprint ≤ idleFootprint := sends_idle (by decide)

theorem drop_idle {x : Async Bool} (h : Within idleFootprint x) : Within idleFootprint (drop x) :=
  .bind h fun _ => .pure _

theorem press_idle {op : Armed} {confirm arm : Async Unit} (hconfirm : Within idleFootprint confirm)
    (harm : Within idleFootprint arm) : Within idleFootprint (press op confirm arm) := by
  refine .world fun w => ?_
  split
  · exact hconfirm
  · exact harm

theorem drop_queued {x : Async Bool}
    (h : Meets (queueing yaml φ) c t (ArmQueued yaml φ) x (fun _ => ArmQueued yaml φ)
      fun _ => ArmQueued yaml φ) :
    Meets (queueing yaml φ) c t (ArmQueued yaml φ) (drop x) (fun _ => ArmQueued yaml φ)
      fun _ => ArmQueued yaml φ :=
  .bind h fun _ => .pure fun _ _ h => h

section
variable {I : Identifiers}

/-- **Every call keeps the contract of queues.** -/
theorem routine_queued (call : Call) :
    Meets (queueing yaml φ) call t (ArmQueued yaml φ) (call.routine I yaml)
      (fun _ => ArmQueued yaml φ) fun _ => ArmQueued yaml φ := by
  cases call with
  | pour => exact armQueued_meets asyncPour_idle
  | armPour => exact armQueued_meets (drop_idle asyncArmPour_idle)
  | confirmPour => exact armQueued_meets (drop_idle asyncConfirmPour_idle)
  | grind => exact armQueued_meets asyncGrind_idle
  | armGrind => exact armQueued_meets (drop_idle asyncArmGrind_idle)
  | confirmGrind => exact armQueued_meets (drop_idle asyncConfirmGrind_idle)
  | executeRecipe args =>
    exact withPrepared_meets fun _ => executePrepared_meets rfl fun _ => Call.noConfusion
  | armRecipe args => exact asyncArmRecipe_meets rfl args
  | confirmRecipe => exact drop_queued confirmRecipe_meets
  | cancel => exact armQueued_meets asyncCancel_idle
  | connect => exact armQueued_meets (drop_idle (asyncConnect_within.mono link_idle))
  | disconnect => exact armQueued_meets (asyncDisconnect_within.mono quiet_idle)
  | dropStaleLink => exact armQueued_meets (asyncDropStaleLink_within.mono quiet_idle)
  | enterIdleStandby => exact armQueued_meets (asyncEnterIdleStandby_within.mono quiet_idle)
  | pressGrind =>
    exact armQueued_meets (press_idle (drop_idle asyncConfirmGrind_idle) (drop_idle asyncArmGrind_idle))
  | pressPour =>
    exact armQueued_meets (press_idle (drop_idle asyncConfirmPour_idle) (drop_idle asyncArmPour_idle))
  | pressRecipe => exact pressRecipe_meets
  | executeRecipeTool args => exact executeRecipeTool_meets rfl

theorem queueing_wp (call : Call) (s : CoordinatorState)
    (h : s.1.armedOperation = some .recipe → HoldsQueued yaml φ s) :
    wp (queueing yaml φ) call t (fun _ => (queueing yaml φ).rests call none)
      ((system I yaml).program call) ⟨none, s⟩ s := by
  show wp (queueing yaml φ) call t _ ((call.routine I yaml).run.bind fun _ => .ret ()) ⟨none, s⟩ s
  rw [wp_bind]
  refine wp_mono (routine_queued call ⟨none, s⟩ s h) fun r o s hr => ?_
  cases r with
  | ok a => exact ⟨hr, trivial⟩
  | error e => exact ⟨hr, trivial⟩

end

end XBloom.Coordinator
