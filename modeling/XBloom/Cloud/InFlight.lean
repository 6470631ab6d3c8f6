/-
# XBloom.Cloud.InFlight — what an export does to the edits made while it is in flight

`async_export_recipe` captures a recipe by its name, awaits the cloud, and writes the cloud identity
back under that name: into what is stored there by then, or into what it captured.  Until then it
leaves the store to the others (`in_flight_store`); what the write does to their work is decided by
what they left under the name (`writes_identity_iff`).
-/
import XBloom.Cloud.ExportSpec
import XBloom.Recipe.Refine
import XBloom.Recipe.Tombstones

namespace XBloom.Cloud

open XBloom.Py XBloom.Recipe XBloom.Async XBloom.Logic

variable {I : Identifiers} {yaml : YamlLayer} {S : Server}

/-! ## The write -/

/-- **Two stores differ at most in the cloud identity** of the visible recipe with a uid. -/
structure DiffersInIdentity (yaml : YamlLayer) (uid : Option String) (s s' : Store) : Prop where
  recipes : ∀ n, view yaml s' n = view yaml s n ∨ ∃ r cloudTableId shareUrl,
    view yaml s n = some r ∧ r.uid = uid ∧
      view yaml s' n = some { r with cloudTableId := cloudTableId, shareUrl := shareUrl }
  selected : s'.selectedRecipe = s.selectedRecipe

/-- What was absent stays absent. -/
theorem DiffersInIdentity.absent {uid : Option String} {s s' : Store}
    (h : DiffersInIdentity yaml uid s s') {n : String} (hn : view yaml s n = none) :
    view yaml s' n = none := by
  rcases h.recipes n with hsame | ⟨r, _, _, hr, _⟩
  · rw [hsame, hn]
  · cases hn.symm.trans hr

/-- No second recipe gets a uid: who has it had it before. -/
theorem DiffersInIdentity.uid {uid : Option String} {s s' : Store}
    (h : DiffersInIdentity yaml uid s s') {n : String} {r' : RecipeDict}
    (hr' : view yaml s' n = some r') : ∃ r, view yaml s n = some r ∧ r.uid = r'.uid := by
  rcases h.recipes n with hsame | ⟨r, id, url, hr, _, hnew⟩
  · exact ⟨r', by rw [← hsame, hr'], rfl⟩
  · refine ⟨r, hr, ?_⟩
    rw [← Option.some.inj (hnew.symm.trans hr')]

/-- Two recipes that are the same but for their cloud identity. -/
def SameButIdentity (r r' : RecipeDict) : Prop :=
  { r with cloudTableId := r'.cloudTableId, shareUrl := r'.shareUrl } = r'

/-- **The recipe is in place**: under the name it was resolved with there is a visible recipe with its
uid, in the options layer, or else as it was captured but for its cloud identity. -/
def InPlace (yaml : YamlLayer) (resolved : String × RecipeDict) (s : Store) : Prop :=
  ∃ r, view yaml s resolved.1 = some r ∧ r.uid = resolved.2.uid ∧
    ((s.options.get? resolved.1).isSome = true ∨ SameButIdentity resolved.2 r)

variable {resolved : String × RecipeDict} {id : ℤ} {url : String} {s : Store}

theorem view_keepIdentity : view yaml (keepIdentity resolved id url s) =
    Function.update (view yaml s) resolved.1 (some (storedRecipe resolved id url s)) :=
  view_insert s _ _ _

/-- What is stored is what is visible, when the options layer has it. -/
theorem storedRecipe_of_options {r : RecipeDict} (hview : view yaml s resolved.1 = some r)
    (hoptions : (s.options.get? resolved.1).isSome = true) :
    storedRecipe resolved id url s = withIdentity id url r := by
  obtain ⟨v, hv⟩ := Option.isSome_iff_exists.mp hoptions
  rw [view_apply, hv, Option.getD_some] at hview
  unfold storedRecipe
  rw [hv, hview]
  rfl

/-- What is stored is what was captured, when the options layer has nothing. -/
theorem storedRecipe_of_no_options (hoptions : (s.options.get? resolved.1).isSome = false) :
    storedRecipe resolved id url s = withIdentity id url resolved.2 := by
  rw [Option.isSome_eq_false_iff, Option.isNone_iff_eq_none] at hoptions
  unfold storedRecipe
  rw [hoptions]
  rfl

theorem withIdentity_of_same {r r' : RecipeDict} (h : SameButIdentity r r') :
    withIdentity id url r =
      { r' with cloudTableId := some id, shareUrl := (withIdentity id url r).shareUrl } := by
  rw [← h]
  rfl

theorem same_of_withIdentity {r r' : RecipeDict} {cloudTableId : Option ℤ} {shareUrl : Option String}
    (h : withIdentity id url r = { r' with cloudTableId := cloudTableId, shareUrl := shareUrl }) :
    SameButIdentity r r' := by
  cases r
  cases r'
  simp only [withIdentity, RecipeDict.mk.injEq] at h
  obtain ⟨huid, _, _, hrest⟩ := h
  simp only [SameButIdentity, huid, hrest]

/-- **What the write does.**  It differs from the store before it at most in the cloud identity of the
recipe that was exported, if and only if that recipe is in place, or the very recipe it writes is
there already. -/
theorem writes_identity_iff (resolved : String × RecipeDict) (id : ℤ) (url : String) (s : Store) :
    DiffersInIdentity yaml resolved.2.uid s (keepIdentity resolved id url s) ↔
      InPlace yaml resolved s ∨
        view yaml s resolved.1 = some (storedRecipe resolved id url s) := by
  have hat : view yaml (keepIdentity resolved id url s) resolved.1 =
      some (storedRecipe resolved id url s) := by
    rw [view_keepIdentity, Function.update_self]
  constructor
  · intro h
    rcases h.recipes resolved.1 with hsame | ⟨r, id', url', hr, huid, hnew⟩
    · exact Or.inr (hsame.symm.trans hat)
    · -- with nothing in the options, it writes the recipe it resolved at the start
      refine Or.inl ⟨r, hr, huid, ?_⟩
      cases hoptions : (s.options.get? resolved.1).isSome with
      | true => exact Or.inl rfl
      | false =>
        have hstored := Option.some.inj (hat.symm.trans hnew)
        rw [storedRecipe_of_no_options hoptions] at hstored
        exact Or.inr (same_of_withIdentity hstored)
  · intro h
    refine ⟨fun n => ?_, rfl⟩
    by_cases hn : n = resolved.1
    · rw [hn]
      rcases h with ⟨r, hr, huid, hplace⟩ | hthere
      · right
        cases hoptions : (s.options.get? resolved.1).isSome with
        | true =>
          refine ⟨r, some id, (withIdentity id url r).shareUrl, hr, huid, ?_⟩
          rw [hat, storedRecipe_of_options hr hoptions]
          rfl
        | false =>
          rw [hoptions] at hplace
          have hsame := hplace.resolve_left Bool.false_ne_true
          refine ⟨r, some id, (withIdentity id url resolved.2).shareUrl, hr, huid, ?_⟩
          rw [hat, storedRecipe_of_no_options hoptions, ← withIdentity_of_same hsame]
      · left
        rw [hat, hthere]
    · left
      rw [view_keepIdentity, Function.update_of_ne hn]

/-! ## In flight -/

section
variable {p : ExportPool}

/-- A step of the export that is in flight, or of what happens beside it: no other export begins. -/
def Beside : ExportAction → Prop
  | .spawn _ => False
  | _ => True

/-- The store operations among some steps. -/
def operations : List ExportAction → List StoreOp
  | [] => []
  | .move (.operation op) :: rest => op :: operations rest
  | _ :: rest => operations rest

/-- The results among some events. -/
def results (events : List Event) : List (Option (String × RecipeDict) × ExportResult) :=
  events.filterMap fun
    | .returns resolved result => some (resolved, result)
    | .asks _ _ => none

theorem mem_results {events : List Event} {resolved : Option (String × RecipeDict)}
    {result : ExportResult} (h : (resolved, result) ∈ results events) :
    .returns resolved result ∈ events := by
  obtain ⟨e, he, heq⟩ := List.mem_filterMap.mp h
  cases e with
  | asks _ _ => cases heq
  | returns resolved' result' =>
    cases heq
    exact he

/-- Only the first task, if any, is in flight. -/
def Lone (p : ExportPool) : Prop := ∀ t, t ≠ 0 → p.tasks t = none

/-- A turn of a lone export is its own. -/
theorem Lone.turn_task (h : Lone p) {a : ExportAction} (ha : Beside a)
    {turn : Turn World Event Point Reply String} (hturn : p.turn (system I yaml S) a = some turn) :
    turn.task = 0 ∧ (p.tasks 0).isSome = true := by
  rcases Pool.turn_cases hturn with ⟨_, _, _, rfl⟩ | ⟨τ, r, hτ, _⟩
  · exact absurd ha id
  · by_cases ht : turn.task = 0
    · rw [ht] at hτ
      exact ⟨ht, by rw [hτ]; rfl⟩
    · cases (h _ ht).symm.trans hτ

theorem Lone.step (h : Lone p) {a : ExportAction} (ha : Beside a) :
    Lone (p.step (system I yaml S) a) := by
  intro t ht
  cases hturn : p.turn (system I yaml S) a with
  | some turn =>
    have hne : t ≠ turn.task := by
      rw [(h.turn_task ha hturn).1]
      exact ht
    rw [(Pool.step_of_turn hturn).2.2, Function.update_of_ne hne]
    exact h t ht
  | none =>
    rw [(Pool.step_of_no_turn hturn).2]
    exact h t ht

/-- An export that is over stays over. -/
theorem Lone.over (h : Lone p) (hover : p.tasks 0 = none) (as : List ExportAction)
    (has : ∀ a ∈ as, Beside a) : (run (Pool.step (system I yaml S)) p as).tasks 0 = none := by
  induction as generalizing p with
  | nil => exact hover
  | cons a rest ih =>
    have ha := has a List.mem_cons_self
    refine ih (h.step ha) ?_ fun a' ha' => has a' (List.mem_cons_of_mem a ha')
    cases hturn : p.turn (system I yaml S) a with
    | some turn =>
      have hsome := (h.turn_task ha hturn).2
      rw [hover] at hsome
      cases hsome
    | none => rw [(Pool.step_of_no_turn hturn).2, hover]

/-- An export in flight, with its recipe resolved. -/
structure InFlight (S : Server) (resolved : String × RecipeDict) (p : ExportPool) : Prop where
  lone : Lone p
  segments : TaskPasses (fun _ => Quiet S resolved) (Exports S resolved) 0 p

theorem InFlight.step (h : InFlight S resolved p) {a : ExportAction} (ha : Beside a) :
    InFlight S resolved (p.step (system I yaml S) a) := ⟨h.lone.step ha, h.segments.step a⟩

/-- **One step beside the export's end** does to the store what the operation it is, if any, does. -/
theorem InFlight.step_store (h : InFlight S resolved p) {a : ExportAction} (ha : Beside a)
    (hflies : (p.step (system I yaml S) a).tasks 0 ≠ none) (rest : List ExportAction) :
    run (Store.step I yaml) (p.step (system I yaml S) a).world.store (operations rest) =
      run (Store.step I yaml) p.world.store (operations (a :: rest)) := by
  cases a with
  | spawn c => exact absurd ha id
  | resume t r =>
    have hsame : (p.step (system I yaml S) (.resume t r)).world.store = p.world.store := by
      cases hturn : p.turn (system I yaml S) (.resume t r) with
      | some turn =>
        have ht := (h.lone.turn_task ha hturn).1
        obtain ⟨τ, hτ⟩ := Option.ne_none_iff_exists'.mp hflies
        rw [← ht] at hτ
        exact ((passage_of_turn hturn (h.segments.turn_body hturn ht)).1 τ hτ).1.store
      | none => simp only [Pool.step, hturn, Pool.count]
    rw [hsame]
    rfl
  | move m =>
    cases m with
    | operation op => rfl
    | account account => rfl

/-- **In flight, an export leaves the store to the others.** -/
theorem in_flight_store (as : List ExportAction) (has : ∀ a ∈ as, Beside a)
    (h : InFlight S resolved p) (hflies : (run (Pool.step (system I yaml S)) p as).tasks 0 ≠ none) :
    InFlight S resolved (run (Pool.step (system I yaml S)) p as) ∧
      (run (Pool.step (system I yaml S)) p as).world.store =
        run (Store.step I yaml) p.world.store (operations as) := by
  induction as generalizing p with
  | nil => exact ⟨h, rfl⟩
  | cons a rest ih =>
    have ha := has a List.mem_cons_self
    have hrest := fun a' ha' => has a' (List.mem_cons_of_mem a ha')
    have hnext : InFlight S resolved (p.step (system I yaml S) a) := h.step ha
    have hflying : (p.step (system I yaml S) a).tasks 0 ≠ none :=
      fun hover => hflies (hnext.lone.over hover rest hrest)
    obtain ⟨hlast, hstore⟩ := ih hrest hnext hflies
    exact ⟨hlast, hstore.trans (h.step_store ha hflying rest)⟩

/-- An export that begins. -/
theorem inFlight_spawn {w : World} {identifier : String}
    (hfind : ∀ resolved', findRecipe I (w.store.visible yaml) identifier = some resolved' →
      resolved' = resolved) :
    InFlight S resolved ((Pool.idle w : ExportPool).step (system I yaml S) (.spawn identifier)) := by
  refine ⟨fun t ht => ?_, TaskPasses.of_spawn (S := system I yaml S)
    (p := Pool.idle w) (c := identifier) (export_segments hfind)⟩
  have hturn : (Pool.idle w : ExportPool).turn (system I yaml S) (.spawn identifier) =
      some ⟨0, identifier, none, (system I yaml S).program identifier⟩ := rfl
  rw [(Pool.step_of_turn hturn).2.2, Function.update_of_ne ht]
  rfl

/-- **The segment that returns** writes into what the operations alone left. -/
theorem return_writes {w : World} {identifier : String} {as : List ExportAction} {r : Reply}
    {captured : String × RecipeDict} {recipe : RecipeDict} {warning : Bool}
    (has : ∀ a ∈ as, Beside a)
    (hcaptured : ∀ resolved', findRecipe I (w.store.visible yaml) identifier = some resolved' →
      resolved' = captured)
    (hp : p = run (Pool.step (system I yaml S))
      ((Pool.idle w).step (system I yaml S) (.spawn identifier)) as)
    (hreturn : (some resolved, .success (some (id, url)) recipe warning) ∈
      results (p.emitted (system I yaml S) (.resume 0 r))) :
    resolved = captured ∧ (p.step (system I yaml S) (.resume 0 r)).world.store =
      keepIdentity captured id url (run (Store.step I yaml) w.store (operations as)) := by
  have hreturn' := mem_results hreturn
  obtain ⟨turn, hturn⟩ : ∃ turn, p.turn (system I yaml S) (.resume 0 r) = some turn := by
    cases hturn : p.turn (system I yaml S) (.resume 0 r) with
    | some turn => exact ⟨turn, rfl⟩
    | none =>
      simp only [Pool.emitted, hturn] at hreturn'
      cases hreturn'
  -- the export is in flight until then, from its first segment on
  obtain ⟨ht, hflies⟩ : turn.task = 0 ∧ p.tasks 0 ≠ none := by
    rcases Pool.turn_cases hturn with ⟨_, _, _, ha⟩ | ⟨τ, r', hτ, _, _, _, ha⟩
    · cases ha
    · obtain ⟨htask, _⟩ := Action.resume.inj ha
      rw [← htask] at hτ
      exact ⟨htask.symm, by rw [hτ]; exact Option.some_ne_none τ⟩
  have hspawn := inFlight_spawn (S := S) hcaptured
  rw [hp] at hflies
  obtain ⟨hlast, hstore⟩ := in_flight_store as has hspawn hflies
  have hbegan : ((Pool.idle w : ExportPool).step (system I yaml S) (.spawn identifier)).tasks
      (Pool.idle w : ExportPool).spawned ≠ none := fun hover => hflies (hspawn.lone.over hover as has)
  obtain ⟨_, hquiet⟩ := spawn_waits (S := system I yaml S) (p := Pool.idle w) (c := identifier)
    (export_segments (S := S) hcaptured) hbegan
  have hfirst := hquiet.store
  dsimp only [Pool.idle] at hfirst
  rw [← hp] at hlast hstore
  -- it returns in this segment, for a segment that waits has only asked
  obtain ⟨hwaits, hdone⟩ := passage_of_turn hturn (hlast.segments.turn_body hturn ht)
  cases hover : (p.step (system I yaml S) (.resume 0 r)).tasks turn.task with
  | some τ =>
    obtain ⟨request, heq, _⟩ := (hwaits τ hover).1.asks _ hreturn'
    cases heq
  | none =>
    obtain ⟨hresolved, hwrite, _⟩ := (hdone hover).succeeds resolved id url recipe warning hreturn'
    refine ⟨hresolved, hwrite.trans ?_⟩
    show keepIdentity captured id url p.world.store = _
    rw [hstore, Pool.idle, hfirst]

/-- **When an export respects the edits made meanwhile.**  For every export, every outcome of its
calls and every order of operations on the store between its awaits: when it returns with success and
a cloud identity, the store differs from what those operations alone would have left at most in the
cloud identity of the recipe it exported, if and only if they leave that recipe in place (or the very
recipe that is written there already). -/
theorem export_respects_edits_iff (w : World) (identifier : String) (as : List ExportAction)
    (r : Reply) (resolved : String × RecipeDict) (id : ℤ) (url : String) (recipe : RecipeDict)
    (warning : Bool) (has : ∀ a ∈ as, Beside a)
    (hreturn : (some resolved, .success (some (id, url)) recipe warning) ∈
      results ((run (Pool.step (system I yaml S))
        ((Pool.idle w).step (system I yaml S) (.spawn identifier)) as).emitted (system I yaml S)
          (.resume 0 r))) :
    let alone := run (Store.step I yaml) w.store (operations as)
    let returned := (run (Pool.step (system I yaml S))
      ((Pool.idle w).step (system I yaml S) (.spawn identifier)) as).step (system I yaml S)
        (.resume 0 r)
    findRecipe I (w.store.visible yaml) identifier = some resolved ∧
      (DiffersInIdentity yaml resolved.2.uid alone returned.world.store ↔
        InPlace yaml resolved alone ∨
          view yaml alone resolved.1 = some (storedRecipe resolved id url alone)) := by
  intro alone returned
  cases hfind : findRecipe I (w.store.visible yaml) identifier with
  | none =>
    -- then nothing was captured: any two recipes would have to be the one it returns
    have hnone : ∀ captured resolved', findRecipe I (w.store.visible yaml) identifier =
        some resolved' → resolved' = captured := by
      intro captured resolved' h
      rw [hfind] at h
      cases h
    have h := (return_writes has (hnone ("", resolved.2)) rfl hreturn).1
    have h' := (return_writes has (hnone ("-", resolved.2)) rfl hreturn).1
    have hname : "" = "-" := congrArg Prod.fst (h.symm.trans h')
    exact absurd hname (by decide)
  | some captured =>
    have hcaptured : ∀ resolved', findRecipe I (w.store.visible yaml) identifier = some resolved' →
        resolved' = captured := fun resolved' h => Option.some.inj (h.symm.trans hfind)
    obtain ⟨rfl, hstore⟩ := return_writes has hcaptured rfl hreturn
    refine ⟨rfl, ?_⟩
    show DiffersInIdentity yaml resolved.2.uid alone returned.world.store ↔ _
    rw [show returned.world.store = keepIdentity resolved id url alone from hstore]
    exact writes_identity_iff resolved id url alone

end

/-! ## Edits that are respected, and one that is not -/

/-- A server that lists the first 100 entries. -/
def firstHundred : Server where
  page account := account.take 100
  page_subset account := List.take_subset 100 account
  page_length account := List.length_take_le 100 account
  page_all account h := by
    rw [List.take_of_length_le h]
    exact List.Subset.refl account

/-- An exported recipe. -/
def exportedRecipe : RecipeDict :=
  { onePourDict 3 with uid := some "4f1c0a9b7d21", cloudTableId := some 7, shareUrl := some "link-7" }

/-- It is stored, and on the account. -/
def exportedWorld : World where
  store := { noRecipesSaved with options := Dict.empty.insert "V60" (some exportedRecipe) }
  account := [⟨7, localRecipeToCloud exportedRecipe, "link-7", by decide⟩]
  cloudLoginConfigured := true
  loggedIn := true

/-- The call goes through. -/
def goesThrough : Reply := { success := true, carriedOut := true, tableId := 8, shareLink := "link-8" }

/-- No answer comes. -/
def timesOut : Reply := { success := false, carriedOut := false, tableId := 0, shareLink := "" }

/-- While another recipe is deleted, the export of this one succeeds: both are respected. -/
theorem other_deleted_respected :
    DiffersInIdentity morningYaml exportedRecipe.uid
      (run (Store.step plainIdentifiers morningYaml) exportedWorld.store [.delete "Morning"])
      ((run (Pool.step (system plainIdentifiers morningYaml firstHundred))
        ((Pool.idle exportedWorld).step (system plainIdentifiers morningYaml firstHundred)
          (.spawn "V60")) [.move (.operation (.delete "Morning")), .resume 0 goesThrough]).step
        (system plainIdentifiers morningYaml firstHundred) (.resume 0 goesThrough)).world.store := by
  refine (export_respects_edits_iff (I := plainIdentifiers) (S := firstHundred)
    exportedWorld "V60" [.move (.operation (.delete "Morning")), .resume 0 goesThrough] goesThrough
    ("V60", exportedRecipe) 7 "link-7" exportedRecipe false ?_ ?_).2.mpr
    (Or.inl ⟨exportedRecipe, ?_, rfl, Or.inl ?_⟩)
  · intro a ha
    simp only [List.mem_cons, List.not_mem_nil, or_false] at ha
    rcases ha with rfl | rfl <;> trivial
  · decide +kernel
  · decide +kernel
  · decide +kernel

/-- **A recipe deleted while its export is in flight comes back.**  The deletion alone leaves nothing
under the name; the export that returns after it has written the recipe there again. -/
theorem deleted_recipe_returns :
    let alone := run (Store.step plainIdentifiers morningYaml) exportedWorld.store [.delete "V60"]
    let returned := run (Pool.step (system plainIdentifiers morningYaml firstHundred))
      (Pool.idle exportedWorld) [.spawn "V60", .move (.operation (.delete "V60")),
        .resume 0 goesThrough, .resume 0 goesThrough]
    view morningYaml alone "V60" = none ∧
      view morningYaml returned.world.store "V60" = some exportedRecipe ∧
      ¬ DiffersInIdentity morningYaml exportedRecipe.uid alone returned.world.store := by
  intro alone returned
  have halone : view morningYaml alone "V60" = none := by decide +kernel
  have hreturned : view morningYaml returned.world.store "V60" = some exportedRecipe := by
    decide +kernel
  refine ⟨halone, hreturned, fun h => ?_⟩
  cases (h.absent halone).symm.trans hreturned

end XBloom.Cloud
