/-
# XBloom.Slots.Course — the course of a slot write

Of a write's story the results about slots read three things: the moment the other slots were filled in
(`fillings`), the slot packets (`slotWrites`), and the record.  Mode switches, the wake-up and the
connection touch none of them (`touches`), so the course of a write is that of its batch
(`asyncWriteEasySlot_course`): every slot packet carries the recipe that was filled in for its letter, a
write that succeeds has sent all three letters and enters its target's in the record, and every other
write leaves the record alone.
-/
import XBloom.Coordinator.Footprints
import XBloom.Slots.Write

namespace XBloom.Slots

open XBloom.Async XBloom.Logic XBloom.Py XBloom.Ble XBloom.Recipe XBloom.Brewing

/-! ## Stories of slot writes -/

/-- A slot packet on a client's link. -/
structure SlotWrite where
  client : ℕ
  letter : Letter
  source : SlotSource
  payload : List UInt8

/-- The target that other slots are filled in for, and the world at that moment. -/
structure Filling where
  world : World
  letter : Letter
  target : String × RecipeDict

/-- The filling-in of a beat. -/
def filledIn : Beat World Event Await Answer Move → Option Filling
  | .emitted w (.filling letter target) => some ⟨w, letter, target⟩
  | _ => none

/-- The slot packet of a beat. -/
def slotWritten : Beat World Event Await Answer Move → Option SlotWrite
  | .emitted _ (.sent c (.slot letter source payload)) => some ⟨c, letter, source, payload⟩
  | _ => none

/-- When the other slots were filled in. -/
def fillings (σ : Tale) : List Filling := σ.beats.filterMap filledIn

/-- The slot packets, in order. -/
def slotWrites (σ : Tale) : List SlotWrite := σ.beats.filterMap slotWritten

/-- The last slot packet for a letter. -/
def lastWrite (σ : Tale) (letter : Letter) : Option SlotWrite :=
  ((slotWrites σ).filter fun x => decide (x.letter = letter)).getLast?

section Tale

variable (I : Identifiers) (yaml : YamlLayer) (σ : Tale) (l : Await) (reply : Reply Answer Move)

@[simp] theorem fillings_write (f : World → World) : fillings (σ.write f) = fillings σ := rfl

@[simp] theorem slotWrites_write (f : World → World) : slotWrites (σ.write f) = slotWrites σ := rfl

theorem fillings_emit (e : Event) :
    fillings (σ.emit e) = fillings σ ++ (filledIn (.emitted σ.world e)).toList := by
  unfold fillings Story.emit
  rw [List.filterMap_append]
  cases h : filledIn (.emitted σ.world e) <;> simp [h]

theorem slotWrites_emit (e : Event) :
    slotWrites (σ.emit e) = slotWrites σ ++ (slotWritten (.emitted σ.world e)).toList := by
  unfold slotWrites Story.emit
  rw [List.filterMap_append]
  cases h : slotWritten (.emitted σ.world e) <;> simp [h]

@[simp] theorem fillings_answer : fillings (σ.answer (World.move I yaml) l reply) = fillings σ := by
  simp [fillings, Story.answer, List.filterMap_append, List.filterMap_map, filledIn,
    Function.comp_def]

@[simp] theorem slotWrites_answer :
    slotWrites (σ.answer (World.move I yaml) l reply) = slotWrites σ := by
  simp [slotWrites, Story.answer, List.filterMap_append, List.filterMap_map, slotWritten,
    Function.comp_def]

theorem setTelemetry_easySlots (w : World) (c : ℕ) (client : Telemetry.Client) :
    (w.setTelemetry c client).easySlots = w.easySlots := by
  unfold World.setTelemetry
  split <;> rfl

/-- Nothing around a slot write touches the record. -/
theorem move_easySlots (w : World) (m : Move) : (w.move I yaml m).easySlots = w.easySlots := by
  cases m with
  | scanned c raw => exact setTelemetry_easySlots w c _
  | frame c frame => exact setTelemetry_easySlots w c _
  | poll drops =>
    show (w.poll drops).easySlots = w.easySlots
    unfold World.poll
    split
    · dsimp only
      split <;> rfl
    · rfl
  | event e => rfl
  | linkLost c => rfl
  | unexpectedDisconnect => rfl
  | connecting => rfl
  | linkUp c => rfl
  | disconnect standby => rfl
  | select name => rfl
  | store op => rfl
  | prefer mode => rfl

@[simp] theorem answer_easySlots :
    (σ.answer (World.move I yaml) l reply).world.easySlots = σ.world.easySlots := by
  refine @run_preserves _ _ _ (fun w : World => w.easySlots = σ.world.easySlots) ?_ _ rfl reply.moves
  exact fun w m h => (move_easySlots I yaml w m).trans h

end Tale

/-! ## What the rest of a write touches -/

/-- Waiting anywhere, sending some commands and switching to the modes of these, and leaving the record
alone. -/
def touches (commands : Command → Prop) : Footprint World Event Await where
  awaits
    | .written command => commands command
    | .modePoll mode => commands (.easyModeType mode)
    | _ => True
  emits
    | .coord _ => True
    | .sent _ packet => commands packet.command
    | .switching mode => commands (.easyModeType mode)
    | .filling _ _ => False
  writes w w' := w'.easySlots = w.easySlots

-- a footprint is used through its rules: unfolding it would run the routine
attribute [local irreducible] Within

section Footprints

variable {commands : Command → Prop} {α : Type}

theorem connection_within {x : Coordinator.Async α}
    (h : Within Coordinator.linkFootprint x) : Within (touches commands) (connection x) :=
  Within.zoom ⟨fun _ _ _ => rfl, fun _ _ => trivial, fun _ _ => trivial⟩ h

theorem withClient_within {f : ℕ → Async α} (h : ∀ c, Within (touches commands) (f c)) :
    Within (touches commands) (withClient f) := by
  refine .world fun w => ?_
  split
  · exact h _
  · exact .throw _

theorem sendCommandRaw_within {packet : Packet} (h : commands packet.command) (c : ℕ) :
    Within (touches commands) (sendCommandRaw packet c) := by
  refine .world fun w => ?_
  split
  · refine .bind (.emit h) fun _ => .bind (.await h) fun r => ?_
    split
    · exact .throw _
    · exact .pure _
  · exact .throw _

theorem pollModeAck_within {mode : Mode} (h : commands (.easyModeType mode)) (n : ℕ) :
    Within (touches commands) (pollModeAck mode n) := by
  induction n with
  | zero => exact .pure _
  | succ n ih =>
    refine .bind (.await h) fun _ => withClient_within fun c => .world fun w => ?_
    split
    · exact .pure _
    · exact ih

theorem switchAttempts_within {mode : Mode} (h : commands (.easyModeType mode)) (n : ℕ) :
    Within (touches commands) (switchAttempts mode n) := by
  induction n with
  | zero => exact .pure _
  | succ n ih =>
    refine .bind (.emit h) fun _ => .bind (withClient_within (sendCommandRaw_within h)) fun _ =>
      .bind (pollModeAck_within h _) fun confirmed => ?_
    split
    · exact .pure _
    · refine withClient_within fun c => .world fun w => ?_
      split
      · exact ih
      · exact .pure _

/-- What the restore does, before what it raises is caught. -/
theorem restoreBody_within (h : commands (.easyModeType .easy)) : Within (touches commands) (do
    let _ ← switchModeWithRetry .easy
    let r ← Routine.await (.coord .refresh)
    if r.outcome = .failed then throw .homeAssistantError else pure () : Async Unit) := by
  refine .bind (switchAttempts_within h 3) fun _ => .bind (.await trivial) fun r => ?_
  split
  · exact .throw _
  · exact .pure _

theorem writeSlots_within (h : ∀ letter, commands (.easyRecipeSend letter)) (c : ℕ)
    (slotRecipes : Letter → SlotSource) (letters : List Letter) :
    Within (touches commands) (writeSlots c slotRecipes letters) := by
  induction letters with
  | nil => exact .pure _
  | cons letter rest ih =>
    exact .bind (.lift _) fun payload => .bind (sendCommandRaw_within (h letter) c) fun _ =>
      .bind (.await trivial) fun _ => ih

theorem writeEasySlots_within (h : ∀ letter, commands (.easyRecipeSend letter))
    (horder : commands .easyRecipeOrder) (slotRecipes : Letter → SlotSource) (c : ℕ) :
    Within (touches commands) (writeEasySlots slotRecipes c) := by
  refine .world fun w => ?_
  split
  · exact .bind (writeSlots_within h c slotRecipes _) fun _ =>
      .bind (sendCommandRaw_within horder c) fun _ => .bind (.await trivial) fun _ => .pure _
  · exact .throw _

theorem retryAttempts_within {action : Async Unit} (h : Within (touches commands) action)
    (asleep : Bool) (n : ℕ) : Within (touches commands) (retryAttempts asleep action n) := by
  induction n with
  | zero => exact h
  | succ n ih =>
    refine .bind (.attempt h) fun result => ?_
    cases result with
    | ok _ =>
      refine .world fun w => ?_
      split
      · exact .bind (.await trivial) fun _ => ih
      · exact .pure _
    | error e =>
      refine .world fun w => ?_
      split
      · exact .bind (.await trivial) fun _ => ih
      · exact .throw _

theorem wakeMachine_within : Within (touches commands) (connection Coordinator.wakeMachine) :=
  connection_within Coordinator.wakeMachine_within

theorem retryWhileSleeping_within {action : Async Unit} (h : Within (touches commands) action) :
    Within (touches commands) (retryWhileSleeping action) :=
  .world fun _ => .bind (.when wakeMachine_within) fun _ => retryAttempts_within h _ _

variable {I : Identifiers} {yaml : YamlLayer}

theorem importTarget_within (identifier : String) :
    Within (touches commands) (importTarget I yaml identifier) := by
  refine .bind (.await trivial) fun r => ?_
  split
  · exact .throw _
  · refine .world fun w => .bind (.assign fun _ => rfl) fun _ => ?_
    split
    · split <;> exact .pure _
    · exact .pure _

theorem orImport_within (identifier : String) (found : Option (String × RecipeDict)) :
    Within (touches commands) (orImport I yaml identifier found) := by
  unfold orImport
  split
  · exact .pure _
  · split
    · exact importTarget_within identifier
    · exact .pure _

theorem resolveTarget_within (identifier : Option String) :
    Within (touches commands) (resolveTarget I yaml identifier) := by
  refine .world fun w => ?_
  cases identifier with
  | none => exact .pure _
  | some identifier =>
    dsimp only
    split
    · exact .pure _
    · exact orImport_within identifier _

end Footprints

/-! ## The batch -/

section Batch

variable {I : Identifiers} {yaml : YamlLayer} {record : Dict String SlotEntry} {filled : List Filling}
  {slotRecipes : Letter → SlotSource}

/-- Neither a filling-in nor a slot packet, and the record as it was. -/
def Untold (record : Dict String SlotEntry) (σ : Tale) : Prop :=
  fillings σ = [] ∧ slotWrites σ = [] ∧ σ.world.easySlots = record

/-- What was filled in, and every slot packet so far carries what was built for its letter. -/
def Batched (record : Dict String SlotEntry) (filled : List Filling)
    (slotRecipes : Letter → SlotSource) (σ : Tale) : Prop :=
  fillings σ = filled ∧ σ.world.easySlots = record ∧
    ∀ x ∈ slotWrites σ, x.source = slotRecipes x.letter ∧
      slotPayload x.letter x.source.recipe = .ok x.payload

/-- A slot packet for this letter went out. -/
def Sent (σ : Tale) (letter : Letter) : Prop := ∃ x ∈ slotWrites σ, x.letter = letter

/-- Other commands than a slot packet tell nothing. -/
theorem filledIn_touches {commands : Command → Prop} {w : World} {e : Event}
    (he : (touches commands).emits e) : filledIn (.emitted w e) = none := by
  cases e with
  | filling letter target => exact he.elim
  | coord e => rfl
  | sent c packet => rfl
  | switching mode => rfl

theorem slotWritten_touches {commands : Command → Prop} {w : World} {e : Event}
    (he : (touches commands).emits e) (hslot : ∀ letter, ¬ commands (.easyRecipeSend letter)) :
    slotWritten (.emitted w e) = none := by
  cases e with
  | filling letter target => rfl
  | coord e => rfl
  | switching mode => rfl
  | sent c packet =>
    cases packet with
    | easyMode mode => rfl
    | order payload => rfl
    | slot letter source payload => exact absurd he (hslot letter)

/-- **What says nothing but fillings, slot packets and the record is kept** by the rest of a write. -/
theorem keeps_told {commands : Command → Prop} (hslot : ∀ letter, ¬ commands (.easyRecipeSend letter))
    (P : List Filling → List SlotWrite → Dict String SlotEntry → Prop) :
    Keeps (World.move I yaml) (touches commands)
      fun σ => P (fillings σ) (slotWrites σ) σ.world.easySlots where
  write := by
    intro f σ hf h
    have hrecord : (f σ.world).easySlots = σ.world.easySlots := hf
    show P (fillings σ) (slotWrites σ) (f σ.world).easySlots
    rw [hrecord]
    exact h
  emit := by
    intro e he σ h
    rw [fillings_emit, slotWrites_emit, filledIn_touches he, slotWritten_touches he hslot]
    simp only [Option.toList_none, List.append_nil]
    exact h
  answer := by
    intro l _ σ reply h
    rw [fillings_answer, slotWrites_answer, answer_easySlots]
    exact h

/-- The rest of a write leaves the batch as it is. -/
theorem keeps_batched {commands : Command → Prop}
    (hslot : ∀ letter, ¬ commands (.easyRecipeSend letter)) :
    Keeps (World.move I yaml) (touches commands) (Batched record filled slotRecipes) :=
  keeps_told hslot fun f s r => f = filled ∧ r = record ∧
    ∀ x ∈ s, x.source = slotRecipes x.letter ∧
      slotPayload x.letter x.source.recipe = .ok x.payload

/-- The rest of a write leaves the batch as it is, and what was sent of it. -/
theorem keeps_sent {commands : Command → Prop}
    (hslot : ∀ letter, ¬ commands (.easyRecipeSend letter)) (sent : Letter → Prop) :
    Keeps (World.move I yaml) (touches commands)
      fun σ => Batched record filled slotRecipes σ ∧ ∀ l, sent l → Sent σ l :=
  keeps_told hslot fun f s r => (f = filled ∧ r = record ∧
    ∀ x ∈ s, x.source = slotRecipes x.letter ∧
      slotPayload x.letter x.source.recipe = .ok x.payload) ∧
        ∀ l, sent l → ∃ x ∈ s, x.letter = l

/-- One slot packet. -/
theorem sendSlot_batched (c : ℕ) {letter : Letter} {payload : List UInt8}
    (hpayload : slotPayload letter (slotRecipes letter).recipe = .ok payload)
    (sent : Letter → Prop) :
    Plays (World.move I yaml)
      (fun σ => Batched record filled slotRecipes σ ∧ ∀ l, sent l → Sent σ l)
      (sendCommandRaw (.slot letter (slotRecipes letter) payload) c)
      (fun _ σ => Batched record filled slotRecipes σ ∧ ∀ l, l = letter ∨ sent l → Sent σ l)
      (fun _ => Batched record filled slotRecipes) := by
  refine .world fun w => ?_
  split
  · refine .bind (.emit (Q := fun _ σ => Batched record filled slotRecipes σ ∧
      ∀ l, l = letter ∨ sent l → Sent σ l) ?_) fun _ => ?_
    · rintro σ ⟨⟨⟨hfilled, hrecord, hsources⟩, hsent⟩, _⟩
      have hwrites : slotWrites (σ.emit (.sent c (.slot letter (slotRecipes letter) payload))) =
          slotWrites σ ++ [⟨c, letter, slotRecipes letter, payload⟩] := slotWrites_emit σ _
      refine ⟨⟨?_, hrecord, ?_⟩, ?_⟩
      · rw [fillings_emit]
        simpa [filledIn] using hfilled
      · rw [hwrites]
        intro x hx
        rcases List.mem_append.mp hx with hx | hx
        · exact hsources x hx
        · rw [List.mem_singleton.mp hx]
          exact ⟨rfl, hpayload⟩
      · -- the slot just sent, or one sent before
        intro l hl
        unfold Sent
        rw [hwrites]
        rcases hl with rfl | hl
        · exact ⟨_, List.mem_append_right _ (List.mem_singleton_self _), rfl⟩
        · obtain ⟨x, hx, hletter⟩ := hsent l hl
          exact ⟨x, List.mem_append_left _ hx, hletter⟩
    · refine .bind (.await (Q := fun _ σ => Batched record filled slotRecipes σ ∧
        ∀ l, l = letter ∨ sent l → Sent σ l) ?_) fun r => ?_
      · intro σ reply h
        unfold Batched Sent at h ⊢
        simp only [fillings_answer, slotWrites_answer, answer_easySlots]
        exact h
      · split
        · exact .throw fun σ h => h.1
        · exact .pure fun σ h => h
  · exact .throw fun σ h => h.1.1

/-- **The packets of some slots.** -/
theorem writeSlots_batched (c : ℕ) (letters : List Letter) :
    ∀ sent : Letter → Prop, Plays (World.move I yaml)
      (fun σ => Batched record filled slotRecipes σ ∧ ∀ l, sent l → Sent σ l)
      (writeSlots c slotRecipes letters)
      (fun _ σ => Batched record filled slotRecipes σ ∧ ∀ l, l ∈ letters ∨ sent l → Sent σ l)
      (fun _ => Batched record filled slotRecipes) := by
  induction letters with
  | nil =>
    intro sent
    refine .pure fun σ h => ⟨h.1, fun l hl => h.2 l ?_⟩
    exact hl.resolve_left List.not_mem_nil
  | cons letter rest ih =>
    intro sent
    have hkeeps := @keeps_sent I yaml record filled slotRecipes (fun _ => False) (fun _ h => h)
      fun l => l = letter ∨ sent l
    refine .bind (.lift (Q := fun payload σ =>
      slotPayload letter (slotRecipes letter).recipe = .ok payload ∧
        Batched record filled slotRecipes σ ∧ ∀ l, sent l → Sent σ l) ?_ ?_) fun payload => ?_
    · exact fun payload hpayload σ h => ⟨hpayload, h⟩
    · exact fun e _ σ h => h.1
    · -- the payload is what the slot's recipe gives
      intro σ h
      refine Plays.bind (sendSlot_batched c h.1 sent) (fun _ => ?_) σ h.2
      refine .bind (((Within.await trivial).plays hkeeps).weaken (fun _ h => h) (fun _ _ h => h)
        fun _ _ h => h.1) fun _ => ?_
      refine (ih fun l => l = letter ∨ sent l).weaken (fun _ h => h) (fun _ σ h => ⟨h.1, ?_⟩)
        fun _ _ h => h
      intro l hl
      refine h.2 l ?_
      rw [List.mem_cons, or_comm (a := l = letter), or_assoc] at hl
      exact hl

/-- **The batch**: however it is replied to, every packet carries its letter's recipe, and if nothing is
raised all three letters went out. -/
theorem writeEasySlots_batched (c : ℕ) :
    Plays (World.move I yaml) (Batched record filled slotRecipes) (writeEasySlots slotRecipes c)
      (fun _ σ => Batched record filled slotRecipes σ ∧ ∀ l, Sent σ l)
      (fun _ => Batched record filled slotRecipes) := by
  have hkeeps := @keeps_sent I yaml record filled slotRecipes (fun k => k = .easyRecipeOrder)
    (fun _ h => by cases h) fun _ => True
  refine .world fun w => ?_
  split
  · refine .bind (Q := fun _ σ => Batched record filled slotRecipes σ ∧ ∀ l, True → Sent σ l)
      ((writeSlots_batched c Letter.all fun _ => False).weaken ?_ ?_ fun _ _ h => h) fun _ => ?_
    · exact fun σ h => ⟨h.1, fun _ hnone => hnone.elim⟩
    · exact fun _ σ h => ⟨h.1, fun l _ => h.2 l (Or.inl (Letter.mem_all l))⟩
    · have hrest : Within (touches fun k => k = .easyRecipeOrder) (do
          sendCommandRaw (.order orderPayload) c
          let _ ← Routine.await .slotGap
          : Async Unit) :=
        .bind (sendCommandRaw_within (by rfl) c) fun _ => .bind (.await trivial) fun _ => .pure _
      exact (hrest.plays hkeeps).weaken (fun _ h => h) (fun _ _ h => ⟨h.1, fun l => h.2 l trivial⟩)
        fun _ _ h => h.1
  · exact .throw fun σ h => h.1

end Batch

/-! ## Retries -/

section Retries

variable {I : Identifiers} {yaml : YamlLayer} {A B : Tale → Prop} {action : Async Unit}

/-- **Retried, an action ends as it does once**, if what it starts from is kept meanwhile. -/
theorem retryAttempts_plays (hA : Keeps (World.move I yaml) (touches fun _ => False) A)
    (hB : ∀ σ, B σ → A σ) (haction : Plays (World.move I yaml) A action (fun _ => B) fun _ => A)
    (asleep : Bool) (n : ℕ) :
    Plays (World.move I yaml) A (retryAttempts asleep action n) (fun _ => B) fun _ => A := by
  have hdelay : Plays (World.move I yaml) A (Routine.await (.coord .retryDelay) : Async Answer)
      (fun _ => A) fun _ => A := (Within.await trivial).plays hA
  induction n with
  | zero => exact haction
  | succ n ih =>
    refine .bind (Q := fun result σ => A σ ∧ (result = .ok () → B σ)) (.attempt ?_) fun result => ?_
    · exact haction.weaken (fun _ h => h) (fun _ σ h => ⟨hB σ h, fun _ => h⟩)
        fun _ σ h => ⟨h, fun hok => by cases hok⟩
    · cases result with
      | ok _ =>
        refine .world fun w => ?_
        split
        · exact .bind (hdelay.pre fun _ h => h.1.1) fun _ => ih
        · exact .pure fun σ h => h.1.2 rfl
      | error e =>
        refine .world fun w => ?_
        split
        · exact .bind (hdelay.pre fun _ h => h.1.1) fun _ => ih
        · exact .throw fun σ h => h.1.1

theorem retryWhileSleeping_plays (hA : Keeps (World.move I yaml) (touches fun _ => False) A)
    (hB : ∀ σ, B σ → A σ) (haction : Plays (World.move I yaml) A action (fun _ => B) fun _ => A) :
    Plays (World.move I yaml) A (retryWhileSleeping action) (fun _ => B) fun _ => A := by
  refine .world fun w => .bind (Q := fun _ => A) ?_ fun _ =>
    retryAttempts_plays hA hB haction w.coord.asleep 2
  exact ((Within.when wakeMachine_within).plays hA).pre fun _ h => h.1

end Retries

/-! ## The course -/

/-- A write that says it succeeded. -/
def Succeeds (result : Except PyErr SlotResult) : Prop :=
  ∃ letter name uid, result = .ok (.success letter name uid)

section Course

variable (I : Identifiers) (yaml : YamlLayer)

/-- **How a write ends that filled the slots in**: each slot packet carries what was filled in for its
letter; all three went out and the target is in the record if the write succeeded, and the record is as
it was if not. -/
structure Filled (record : Dict String SlotEntry) (v : Filling) (result : Except PyErr SlotResult)
    (σ : Tale) : Prop where
  fillings : fillings σ = [v]
  before : v.world.easySlots = record
  coffee : lower (strip v.target.2.cupType) ≠ "tea"
  sources : ∀ x ∈ slotWrites σ,
    x.source.raw = (v.world.slotTargets I yaml v.letter v.target x.letter).2 ∧
      slotPayload x.letter x.source.recipe = .ok x.payload
  success : ∀ letter name uid, result = .ok (.success letter name uid) → (∀ l, Sent σ l) ∧
    σ.world.easySlots = record.insert v.letter.name ⟨v.target.2.uid, v.target.1⟩
  failed : ¬ Succeeds result → σ.world.easySlots = record

/-- **The course of a write**: it fails before it fills the slots in, or it fills them in. -/
def Course (slotLetter : String) (record : Dict String SlotEntry)
    (result : Except PyErr SlotResult) (σ : Tale) : Prop :=
  Untold record σ ∧ ¬ Succeeds result ∨
    ∃ v, Letter.parse slotLetter = some v.letter ∧ Filled I yaml record v result σ

variable {I yaml} {record : Dict String SlotEntry} {slotRecipes : Letter → SlotSource}

theorem buildSource_raw {raw : RecipeDict} {source : SlotSource} (h : buildSource raw = .ok source) :
    source.raw = raw := by
  unfold buildSource at h
  split at h
  · rw [← Except.ok.inj h]
  · cases h

/-- The recipes are built from what was filled in. -/
theorem buildSlots_raw {raws : Letter → RecipeDict} (h : buildSlots raws = .ok slotRecipes)
    (l : Letter) : (slotRecipes l).raw = raws l := by
  unfold buildSlots at h
  obtain ⟨a, ha, h⟩ := bind_eq_ok.mp h
  obtain ⟨b, hb, h⟩ := bind_eq_ok.mp h
  obtain ⟨c, hc, h⟩ := bind_eq_ok.mp h
  rw [← Except.ok.inj h]
  cases l with
  | a => exact buildSource_raw ha
  | b => exact buildSource_raw hb
  | c => exact buildSource_raw hc

/-- The switch to Pro and the batch: what is raised is caught, and if nothing is, all went out. -/
theorem switchAndWrite_plays (filled : List Filling) :
    Plays (World.move I yaml) (Batched record filled slotRecipes) (switchAndWrite slotRecipes)
      (fun outcome σ => Batched record filled slotRecipes σ ∧ ∀ l, outcome.2 = .ok () → Sent σ l)
      (fun _ _ => False) := by
  refine .world fun w => .bind (Q := fun _ => Batched record filled slotRecipes) (.attempt ?_)
    fun switched => ?_
  · have hswitch : Within (touches fun k => k = .easyModeType .pro) (switchModeWithRetry .pro) :=
      switchAttempts_within (by rfl) 3
    exact ((Within.when (.bind hswitch fun _ => .pure _)).plays
      (keeps_batched fun _ h => by cases h)).pre fun _ h => h.1
  · cases switched with
    | error e => exact .pure fun σ h => ⟨h, fun _ hok => by cases hok⟩
    | ok _ =>
      refine .bind (Q := fun written σ => Batched record filled slotRecipes σ ∧
        ∀ l, written = .ok () → Sent σ l) (.attempt ?_) fun written => .pure fun σ h => h
      refine (retryWhileSleeping_plays (keeps_batched fun _ h => h) (fun _ h => h.1)
        (B := fun σ => Batched record filled slotRecipes σ ∧ ∀ l, Sent σ l) ?_).weaken (fun _ h => h)
        (fun _ σ h => ⟨h.1, fun l _ => h.2 l⟩) fun _ σ h => ⟨h, fun _ hok => by cases hok⟩
      refine .world fun w => ?_
      split
      · exact (writeEasySlots_batched _).pre fun _ h => h.1
      · exact .throw fun σ h => h.1

/-- The restore of Easy Mode keeps what a switch keeps; its failure is logged. -/
theorem restoreEasy_plays {A : Tale → Prop}
    (hA : Keeps (World.move I yaml) (touches fun k => k = .easyModeType .easy) A) (easy : Bool) :
    Plays (World.move I yaml) A (Routine.when easy restoreEasy) (fun _ => A) fun _ _ => False := by
  refine .when (fun _ => ?_) fun _ _ h => h
  exact .bind (Q := fun _ => A) (.attempt ((restoreBody_within (by rfl)).plays hA)) fun _ =>
    .pure fun _ h => h

/-- The batch, with the record's entry. -/
theorem writeAndRecord_plays {v : Filling}
    (hraw : ∀ l, (slotRecipes l).raw = (v.world.slotTargets I yaml v.letter v.target l).2)
    (hbefore : v.world.easySlots = record) (hcoffee : lower (strip v.target.2.cupType) ≠ "tea") :
    Plays (World.move I yaml) (Batched record [v] slotRecipes)
      (writeAndRecord v.letter v.target slotRecipes)
      (fun result => Filled I yaml record v (.ok result)) (fun _ _ => False) := by
  have hsources : ∀ σ : Tale, Batched record [v] slotRecipes σ → ∀ x ∈ slotWrites σ,
      x.source.raw = (v.world.slotTargets I yaml v.letter v.target x.letter).2 ∧
        slotPayload x.letter x.source.recipe = .ok x.payload := by
    rintro σ ⟨_, _, hwrites⟩ x hx
    obtain ⟨hsource, hpayload⟩ := hwrites x hx
    exact ⟨by rw [hsource, hraw], hpayload⟩
  refine .bind (switchAndWrite_plays [v]) fun outcome => ?_
  obtain ⟨easy, written⟩ := outcome
  refine .bind (restoreEasy_plays (keeps_sent (fun _ h => by cases h) fun _ => written = .ok ()) easy)
    fun _ => ?_
  cases written with
  | error e =>
    refine .pure fun σ h => ⟨h.1.1, hbefore, hcoffee, hsources σ h.1, ?_, fun _ => h.1.2.1⟩
    intro letter name uid hsuccess
    cases hsuccess
  | ok _ =>
    refine .bind (Q := fun _ σ => Filled I yaml record v
      (.ok (.success v.letter v.target.1 v.target.2.uid)) σ) (.assign fun σ h => ?_) fun _ =>
        .pure fun σ h => h
    refine ⟨h.1.1, hbefore, hcoffee, hsources σ h.1, fun _ _ _ _ => ⟨fun l => h.2 l rfl, ?_⟩, ?_⟩
    · show σ.world.easySlots.insert _ _ = record.insert _ _
      rw [h.1.2.1]
    · exact fun hnot => absurd ⟨_, _, _, rfl⟩ hnot

/-- The other slots are filled in. -/
theorem fillAndWrite_plays {letter : Letter} {target : String × RecipeDict}
    (hcoffee : lower (strip target.2.cupType) ≠ "tea") :
    Plays (World.move I yaml) (Untold record) (fillAndWrite I yaml letter target)
      (fun result σ => ∃ v, v.letter = letter ∧ Filled I yaml record v (.ok result) σ)
      (fun _ _ => False) := by
  refine .bind (Q := fun _ σ => ∃ w : World, fillings σ = [⟨w, letter, target⟩] ∧ slotWrites σ = [] ∧
    σ.world = w ∧ w.easySlots = record) (.emit ?_) fun _ => .world fun w => ?_
  · rintro σ ⟨hfillings, hwrites, hrecord⟩
    refine ⟨σ.world, ?_, ?_, rfl, hrecord⟩
    · rw [fillings_emit, hfillings]
      rfl
    · rw [slotWrites_emit, hwrites]
      rfl
  · -- nothing has happened since: the recipes are those of the filling-in
    let v : Filling := ⟨w, letter, target⟩
    have hpre : ∀ σ : Tale, (∃ w' : World, fillings σ = [⟨w', letter, target⟩] ∧ slotWrites σ = [] ∧
        σ.world = w' ∧ w'.easySlots = record) ∧ σ.world = w →
        fillings σ = [v] ∧ slotWrites σ = [] ∧ σ.world.easySlots = record ∧
          v.world.easySlots = record := by
      rintro σ ⟨⟨w', hfillings, hwrites, rfl, hrecord⟩, rfl⟩
      exact ⟨hfillings, hwrites, hrecord, hrecord⟩
    cases hslots : buildSlots fun l => (w.slotTargets I yaml letter target l).2 with
    | error e =>
      refine .pure fun σ h => ?_
      obtain ⟨hfillings, hwrites, hrecord, hbefore⟩ := hpre σ h
      refine ⟨v, rfl, hfillings, hbefore, hcoffee, ?_, ?_, fun _ => hrecord⟩
      · intro x hx
        rw [hwrites] at hx
        exact absurd hx List.not_mem_nil
      · intro letter name uid hsuccess
        cases hsuccess
    | ok slotRecipes =>
      intro σ h
      obtain ⟨hfillings, hwrites, hrecord, hbefore⟩ := hpre σ h
      have hbatched : Batched record [v] slotRecipes σ := by
        refine ⟨hfillings, hrecord, fun x hx => ?_⟩
        rw [hwrites] at hx
        exact absurd hx List.not_mem_nil
      exact ((writeAndRecord_plays (v := v) (buildSlots_raw hslots) hbefore hcoffee).weaken
        (fun _ h => h) (fun _ _ h => ⟨v, rfl, h⟩) fun _ _ h => h) σ hbatched

/-- The rest of a write leaves a story without fillings and slot packets as it is. -/
theorem keeps_untold {commands : Command → Prop}
    (hslot : ∀ letter, ¬ commands (.easyRecipeSend letter)) :
    Keeps (World.move I yaml) (touches commands) (Untold record) :=
  keeps_told hslot fun f s r => f = [] ∧ s = [] ∧ r = record

/-- A failure before the slots are filled in. -/
theorem Untold.failure {slotLetter : String} {σ : Tale} (h : Untold record σ) (error : SlotError) :
    Course I yaml slotLetter record (.ok (.failure error)) σ :=
  Or.inl ⟨h, fun ⟨_, _, _, hsuccess⟩ => by cases hsuccess⟩

/-- What is raised before. -/
theorem Untold.raised {slotLetter : String} {σ : Tale} (h : Untold record σ) (e : PyErr) :
    Course I yaml slotLetter record (.error e) σ :=
  Or.inl ⟨h, fun ⟨_, _, _, hsuccess⟩ => by cases hsuccess⟩

/-- The checks once the recipe is found. -/
theorem writeTarget_plays (slotLetter : String) (target : String × RecipeDict) :
    Plays (World.move I yaml) (Untold record) (writeTarget I yaml slotLetter target)
      (fun result => Course I yaml slotLetter record (.ok result))
      (fun e => Course I yaml slotLetter record (.error e)) := by
  by_cases htea : lower (strip target.2.cupType) = "tea"
  · rw [writeTarget, if_pos htea]
    exact .pure fun σ h => h.failure _
  · rw [writeTarget, if_neg htea]
    have hquiet : Keeps (World.move I yaml) (touches fun _ => False) (Untold record) :=
      keeps_untold fun _ h => h
    have hconnect : Plays (World.move I yaml) (Untold record) (connection Coordinator.ensureConnected)
        (fun _ => Untold record) fun _ => Untold record :=
      (connection_within Coordinator.ensureConnected_within).plays hquiet
    refine .bind (hconnect.weaken (fun _ h => h) (fun _ _ h => h) ?_) fun connected => ?_
    · exact fun e σ h => h.raised e
    · split
      · exact .pure fun σ h => h.failure _
      · refine .world fun w => ?_
        split
        · exact .pure fun σ h => h.1.failure _
        · cases hparse : Letter.parse slotLetter with
          | none => exact .pure fun σ h => h.1.failure _
          | some letter =>
            refine (fillAndWrite_plays htea).weaken (fun _ h => h.1) ?_ fun _ _ h => h.elim
            rintro result σ ⟨v, hletter, hfilled⟩
            exact Or.inr ⟨v, by rw [hparse, hletter], hfilled⟩

/-- **The course of every slot write**, however it is replied to. -/
theorem asyncWriteEasySlot_course (w : World) (slotLetter : String) (identifier : Option String)
    (replies : Replies) :
    Course I yaml slotLetter w.easySlots (w.write I yaml slotLetter identifier replies).1
      (w.write I yaml slotLetter identifier replies).2 := by
  have hquiet : Keeps (World.move I yaml) (touches fun _ => False) (Untold w.easySlots) :=
    keeps_untold fun _ h => h
  have hresolve : Plays (World.move I yaml) (Untold w.easySlots) (resolveTarget I yaml identifier)
      (fun _ => Untold w.easySlots) fun _ => Untold w.easySlots :=
    (resolveTarget_within identifier).plays hquiet
  have hplays : Plays (World.move I yaml) (Untold w.easySlots)
      (asyncWriteEasySlot I yaml slotLetter identifier)
      (fun result => Course I yaml slotLetter w.easySlots (.ok result))
      (fun e => Course I yaml slotLetter w.easySlots (.error e)) := by
    refine .bind (hresolve.weaken (fun _ h => h) (fun _ _ h => h) ?_) fun resolved => ?_
    · exact fun e σ h => h.raised e
    · cases resolved with
      | error error =>
        exact .pure fun σ h => h.failure _
      | ok target => exact writeTarget_plays slotLetter target
  exact hplays.play_result (σ := .start w) ⟨rfl, rfl, rfl⟩ replies

end Course

end XBloom.Slots
