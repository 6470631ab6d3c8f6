/-
# XBloom.Coordinator.QueuedRuns — in which runs a start finds its recipe queued

Two chains that overlap leave one dose and the other's payload on the machine.  A standing arm whose
recipe is no longer the selected one is confirmed for another name.  Both are counterexamples here, next
to the conditions on the steps of a run that exclude them: with `RecipesApart` at every step each start
finds one recipe queued, with `RecipesLeft` too it is the one that a confirmed tool call names.
-/
import XBloom.Coordinator.Budget
import XBloom.Coordinator.Queued

namespace XBloom.Coordinator

open XBloom.Async XBloom.Logic XBloom.Py XBloom.Ble XBloom.Recipe XBloom.Brewing

/-! ## Steps that keep recipes apart -/

section
variable (I : Identifiers) (yaml : YamlLayer)

/-- **A step that keeps recipes apart**: a call that arms, executes or confirms a recipe goes on only
while no other such call is suspended, a chain begins only while no recipe is armed, and
`async_confirm_recipe` by itself only while one is. -/
structure RecipesApart (p : CoordinatorPool) (a : CoordinatorAction) : Prop where
  alone : ∀ turn, p.turn (system I yaml) a = some turn → turn.call.brews = true →
    ∀ t τ, t ≠ turn.task → p.tasks t = some τ → τ.call.brews = false
  allowed : ∀ turn, p.turn (system I yaml) a = some turn →
    ∀ e ∈ p.emitted (system I yaml) a, e.mayBrew turn.call = true

/-- **A step that leaves the recipes**: no move changes the uid of the selection while a recipe is armed,
and none changes the uid of the selection or of a name while a recipe call is suspended. -/
structure RecipesLeft (p : CoordinatorPool) (a : CoordinatorAction) : Prop where
  armed : ∀ m, a = .move m → p.world.armedOperation = some .recipe →
    (p.world.move I yaml m).selectedUid yaml = p.world.selectedUid yaml
  called : ∀ m, a = .move m → ∀ t τ, p.tasks t = some τ → τ.call.brews = true →
    SameUids yaml p.world (p.world.move I yaml m)

variable {I} {yaml} {φ : Prop} {p : CoordinatorPool} {a : CoordinatorAction}

theorem queueing_stepOk (hp : PoolOk (queueing yaml φ) p) (h : RecipesApart I yaml p a)
    (hleft : φ → RecipesLeft I yaml p a) : StepOk (queueing yaml φ) (system I yaml) p a where
  begins call _ := queueing_wp call p.state hp.inv
  assumed turn hturn := emits_of_mem (fun e he _ => h.allowed turn hturn e he) p.trace
  heeded turn s' hturn hguarantee t τ hne hτ hbrews := by
    -- two recipe calls are never under way at once, so the one whose turn it is has no chain
    have hcalm : turn.call.brews = false := by
      by_contra hturn'
      have hτ' := h.alone turn hturn (by simpa using hturn') t τ (fun heq => hne (congrArg some heq)) hτ
      rw [hτ'] at hbrews
      cases hbrews
    exact hguarantee hcalm
  moved m ha := by
    have hclears : p.world.ClearsArmed (p.world.move I yaml m) := p.world.move_clears I yaml m
    -- a move sends nothing and arms nothing; only the uids are left to the conditions
    refine ⟨fun harmed => ?_, fun t τ _ hτ hbrews => ⟨.refl p.trace, hclears.armed, fun hφ => ?_⟩⟩
    · obtain ⟨uid, hqueued, hselected⟩ := hp.inv (hclears.armed harmed)
      refine ⟨uid, hqueued, fun hφ => ?_⟩
      exact ((hleft hφ).armed m ha (hclears.armed harmed)).trans (hselected hφ)
    · exact (hleft hφ).called m ha t τ hτ hbrews

/-- **Every start of a run that keeps recipes apart** finds what the contract ensures. -/
theorem queueing_run {w : World} (hw : w.armedOperation ≠ some .recipe) {as : List CoordinatorAction}
    (h : AllSteps (Pool.step (system I yaml))
      (fun p a => RecipesApart I yaml p a ∧ (φ → RecipesLeft I yaml p a)) (Pool.idle w) as) :
    EachFinds (fun tr e => FindsQueued tr e ∧ (φ → StartsNamed tr e))
      (continueFrom I yaml (Pool.idle w) as).trace := by
  have hidle : PoolOk (queueing yaml φ) (Pool.idle w : CoordinatorPool) :=
    poolOk_idle fun harmed => absurd harmed hw
  have hstep : ∀ p a, PoolOk (queueing yaml φ) p →
      RecipesApart I yaml p a ∧ (φ → RecipesLeft I yaml p a) →
      StepOk (queueing yaml φ) (system I yaml) p a := fun p a hp h => queueing_stepOk hp h.1 h.2
  exact @eachFinds_run _ _ _ _ _ _ (queueing yaml φ) _ _ eachFinds_nil _ (PoolOk.run hstep hidle h).2

/-- **Chains are atomic** in every run that keeps recipes apart: each arm that succeeds and each start
finds the last dose, cup and payload sent by one call for one recipe, with nothing of another recipe call
between. -/
theorem chains_atomic (w : World) (hw : w.armedOperation ≠ some .recipe)
    (as : List CoordinatorAction)
    (h : AllSteps (Pool.step (system I yaml)) (RecipesApart I yaml) (Pool.idle w) as) :
    EachFinds FindsQueued (continueFrom I yaml (Pool.idle w) as).trace := by
  have hall := h.imp (Q := fun p a => RecipesApart I yaml p a ∧ (False → RecipesLeft I yaml p a))
    fun p a h => ⟨h, False.elim⟩
  exact (queueing_run hw hall).mono fun tr e h => h.1

/-- **A confirmed tool call starts the recipe it names**, in every run that keeps recipes apart and leaves
the armed recipe alone. -/
theorem confirmed_starts_named (w : World) (hw : w.armedOperation ≠ some .recipe)
    (as : List CoordinatorAction)
    (h : AllSteps (Pool.step (system I yaml))
      (fun p a => RecipesApart I yaml p a ∧ RecipesLeft I yaml p a) (Pool.idle w) as) :
    EachFinds StartsNamed (continueFrom I yaml (Pool.idle w) as).trace := by
  have hall := h.imp (Q := fun p a => RecipesApart I yaml p a ∧ (True → RecipesLeft I yaml p a))
    fun p a h => ⟨h.1, fun _ => h.2⟩
  exact (queueing_run hw hall).mono fun tr e h => h.2 trivial

/-! ## Evaluating the condition -/

variable (I) (yaml) in
/-- What `RecipesApart` says of a step, evaluated. -/
def apartNow (p : CoordinatorPool) (a : CoordinatorAction) : Bool :=
  (p.turn (system I yaml) a).all fun turn =>
    (p.emitted (system I yaml) a).all (Event.mayBrew turn.call) &&
      (!turn.call.brews || (List.range p.spawned).all fun t =>
        t == turn.task || (p.tasks t).all fun τ => !τ.call.brews)

theorem recipesApart_of_now (hnumbered : Numbered p) (h : apartNow I yaml p a = true) :
    RecipesApart I yaml p a where
  alone turn hturn hbrews t τ hne hτ := by
    unfold apartNow at h
    rw [hturn, Option.all_some, hbrews, Bool.not_true, Bool.false_or, Bool.and_eq_true] at h
    have ht := List.all_eq_true.mp h.2 t (List.mem_range.mpr (hnumbered.tasks t τ hτ))
    rw [hτ] at ht
    simpa [hne] using ht
  allowed turn hturn e he := by
    unfold apartNow at h
    rw [hturn, Option.all_some, Bool.and_eq_true] at h
    exact List.all_eq_true.mp h.1 e he

theorem recipesApart_run {w : World} {as : List CoordinatorAction}
    (h : AllSteps (Pool.step (system I yaml)) (fun p a => apartNow I yaml p a = true)
      (Pool.idle w) as) :
    AllSteps (Pool.step (system I yaml)) (RecipesApart I yaml) (Pool.idle w) as := by
  have hstep : ∀ (p : CoordinatorPool) a, Numbered p → apartNow I yaml p a = true →
      Numbered (p.step (system I yaml) a) ∧ RecipesApart I yaml p a :=
    fun p a hp h => ⟨hp.step a, recipesApart_of_now hp h⟩
  exact AllSteps.of_invariant hstep (numbered_idle w) h

/-- A run without moves leaves the recipes. -/
theorem recipesLeft_run {w : World} {as : List CoordinatorAction}
    (h : ∀ a ∈ as, ∀ m, a ≠ .move m) :
    AllSteps (Pool.step (system I yaml)) (RecipesLeft I yaml) (Pool.idle w) as := by
  have hmoves : AllSteps (Pool.step (system I yaml))
      (fun _ a => ∀ m : Coordinator.Move, a ≠ .move m) (Pool.idle w) as := AllSteps.of_forall h
  exact hmoves.imp fun p a h =>
    ⟨fun m ha => absurd ha (h m), fun m ha => absurd ha (h m)⟩

end

/-! ## What was queued last -/

section
variable {uid : Option String} {t : ℕ} {tr : Trace Call Event} {e : Entry Call Event}

/-- The uid of a chain that begins. -/
def Event.begins : Event → Option (Option String)
  | .chain _ uid => some uid
  | _ => none

theorem begins_none {e : Event} (h : e.beginsChain = false) : e.begins = none := by
  cases e <;> first | rfl | cases h

theorem Begun.last (h : Begun t uid tr) :
    (tr.filterMap fun e => e.event.begins).getLast? = some uid := by
  obtain ⟨past, c, armed, later, rfl, hlater⟩ := h
  have hrest : later.filterMap (fun e => e.event.begins) = [] :=
    List.filterMap_eq_nil_iff.mpr fun e he => begins_none (hlater e he)
  rw [List.filterMap_append, List.filterMap_cons, hrest]
  exact List.getLast?_concat

theorem setup_payload {prepared : Prepared} {setup : Setup} (h : prepared.setup = .ok setup) :
    queues setup.payload.command = true ∧ setup.payload.command ≠ .setBypass := by
  unfold Prepared.setup at h
  split at h
  · obtain ⟨bypass, _, h⟩ := bind_eq_ok.mp h
    obtain ⟨cup, _, h⟩ := bind_eq_ok.mp h
    obtain ⟨payload, _, h⟩ := bind_eq_ok.mp h
    cases h
    exact ⟨rfl, Command.noConfusion⟩
  · obtain ⟨bypass, _, h⟩ := bind_eq_ok.mp h
    obtain ⟨cup, _, h⟩ := bind_eq_ok.mp h
    obtain ⟨payload, _, h⟩ := bind_eq_ok.mp h
    cases h
    show queues (recipeCommand prepared.recipe) = true ∧ recipeCommand prepared.recipe ≠ .setBypass
    unfold recipeCommand
    split <;> exact ⟨rfl, Command.noConfusion⟩

/-- The dose is not the last thing that queues. -/
theorem Queued.last_not_bypass (h : Queued uid tr)
    (he : (tr.filter fun e => e.event.queues).getLast? = some e) :
    e.event.command ≠ some .setBypass := by
  obtain ⟨t, prepared, setup, _, hsetup, _, past, c, client, later, rfl, hlater, _⟩ := h
  have hrest : later.filter (fun e => e.event.queues) = [] :=
    List.filter_eq_nil_iff.mpr fun e he => by simp [hlater e he]
  obtain ⟨hqueues, hbypass⟩ := setup_payload hsetup
  have hpayload : (fun e : Entry Call Event => e.event.queues)
      ⟨t, c, .sent client setup.payload⟩ = true := hqueues
  rw [List.filter_append, List.filter_cons, if_pos hpayload, hrest, List.getLast?_concat] at he
  rw [← Option.some.inj he]
  exact fun h => hbypass (Option.some.inj h)

end

/-! ## Two recipes -/

/-- A machine that is connected, with the coffee selected and the YAML recipe beside it. -/
def coffeeSelected : World :=
  { selecting { bypassCoffee with uid := some "3b7e9c20" } with
    clients := [{ connected := true }], client := some 0 }

/-- A run of the coordinator from there. -/
def coffeeRun (as : List CoordinatorAction) : CoordinatorPool :=
  continueFrom plainIdentifiers morningYaml (Pool.idle coffeeSelected) as

/-- The coffee is armed by its button, up to the settle after its payload. -/
def armCoffee : List CoordinatorAction := .spawn .pressRecipe :: List.replicate 11 (.resume 0 .done)

/-- It is armed, and pressed again. -/
def pressTwice : List CoordinatorAction := armCoffee ++ [.resume 0 .done, .spawn .pressRecipe]

/-- Two presses with nothing between are atomic, and the second sends 8002. -/
theorem presses_atomic : EachFinds FindsQueued (coffeeRun pressTwice).trace ∧
    (coffeeRun pressTwice).trace.getLast?.map (fun e => e.event.command) =
      some (some .recipeExecute) := by
  refine ⟨chains_atomic coffeeSelected (by decide) pressTwice (recipesApart_run ?_), by decide +kernel⟩
  decide +kernel

/-- Before the arm goes on, the YAML recipe is selected and executed by a service call, up to its dose. -/
def executeBetween : List CoordinatorAction :=
  armCoffee ++ [.move (.select (some "Morning")), .spawn (.executeRecipe {}), .resume 1 .done,
    .resume 1 .done, .resume 1 .done, .resume 0 .done]

/-- **One recipe's dose under the other's payload.**  The arm of the coffee succeeds with the dose of the
YAML recipe sent last. -/
theorem overlapping_chains_mix :
    (coffeeRun executeBetween).trace.filterMap (fun e => e.event.command.map fun k => (e.task, k)) =
        [(0, .backToHome), (0, .setBypass), (0, .setCup), (0, .recipeSendAuto),
          (1, .backToHome), (1, .setBypass)] ∧
      (coffeeRun executeBetween).trace.getLast?.map (fun e => (e.task, e.event)) =
        some (0, .armed .recipe) ∧
      ¬ EachFinds FindsQueued (coffeeRun executeBetween).trace := by
  have hlast : (coffeeRun executeBetween).trace.getLast?.map (fun e => (e.task, e.event)) =
      some (0, .armed .recipe) := by decide +kernel
  refine ⟨by decide +kernel, hlast, fun h => ?_⟩
  obtain ⟨e, he, hevent⟩ := Option.map_eq_some_iff.mp hlast
  obtain ⟨uid, hqueued⟩ := h.last he (Or.inl (congrArg Prod.snd hevent))
  have hbypass : ((coffeeRun executeBetween).trace.dropLast.filter fun e =>
      e.event.queues).getLast?.map (fun e => e.event.command) = some (some .setBypass) := by
    decide +kernel
  obtain ⟨e', he', hcommand⟩ := Option.map_eq_some_iff.mp hbypass
  exact hqueued.last_not_bypass he' hcommand

/-- A tool call confirms the recipe of this name. -/
def confirmTool (name : String) : CoordinatorAction :=
  .spawn (.executeRecipeTool { recipe := name, confirmed := true })

/-- The coffee is armed, and a tool call confirms it. -/
def confirmCoffee : List CoordinatorAction := armCoffee ++ [.resume 0 .done, confirmTool "V60"]

/-- Between the two, the YAML recipe is selected, and the tool call confirms that. -/
def selectBetween : List CoordinatorAction :=
  armCoffee ++ [.resume 0 .done, .move (.select (some "Morning")), confirmTool "Morning"]

/-- Armed and confirmed with nothing between, the coffee starts. -/
theorem coffee_starts : EachFinds StartsNamed (coffeeRun confirmCoffee).trace ∧
    (coffeeRun confirmCoffee).trace.getLast?.map (fun e => e.event.command) =
      some (some .recipeExecute) := by
  refine ⟨confirmed_starts_named coffeeSelected (by decide) confirmCoffee ((recipesApart_run ?_).and
    (recipesLeft_run ?_)), by decide +kernel⟩
  · decide +kernel
  · rintro a ha m rfl
    simp [confirmCoffee, armCoffee, confirmTool] at ha

/-- **Another recipe starts.**  While the coffee stands armed, the YAML recipe is selected; the tool call
that names it finds a recipe armed and its own name selected, and starts the coffee. -/
theorem selected_not_armed :
    (coffeeRun selectBetween).trace.getLast?.map (fun e => (e.task, e.call, e.event.command)) =
        some (1, .executeRecipeTool { recipe := "Morning", confirmed := true }, some .recipeExecute) ∧
      ¬ EachFinds StartsNamed (coffeeRun selectBetween).trace := by
  have hlast : (coffeeRun selectBetween).trace.getLast?.map
      (fun e => (e.task, e.call, e.event.command)) =
        some (1, .executeRecipeTool { recipe := "Morning", confirmed := true },
          some .recipeExecute) := by decide +kernel
  refine ⟨hlast, fun h => ?_⟩
  obtain ⟨e, he, hentry⟩ := Option.map_eq_some_iff.mp hlast
  obtain ⟨htask, hentry⟩ := Prod.mk.inj hentry
  obtain ⟨hcall, hcommand⟩ := Prod.mk.inj hentry
  have hgoes : e.event.command.any (goes .recipe) = true := by
    rw [hcommand]
    rfl
  obtain ⟨uid, ⟨t, prepared, setup, _, _, hbegun, _⟩, e', he', htask', hnames⟩ :=
    h.last he _ hcall hgoes
  have hchain : ((coffeeRun selectBetween).trace.dropLast.filterMap fun e =>
      e.event.begins).getLast? = some (some "3b7e9c20") := by decide +kernel
  have hnamed : (coffeeRun selectBetween).trace.dropLast.all (fun e =>
      e.task != 1 || e.event != .naming (some "3b7e9c20")) = true := by decide +kernel
  have huid : uid = some "3b7e9c20" := Option.some.inj (hbegun.last.symm.trans hchain)
  have hother := List.all_eq_true.mp hnamed e' he'
  rw [htask', htask, hnames, huid] at hother
  simp at hother

end XBloom.Coordinator
