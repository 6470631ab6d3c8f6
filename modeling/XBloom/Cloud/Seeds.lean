/-
# XBloom.Cloud.Seeds — the two seeds of the recipe store, and what the user deleted

A start of Home Assistant fills the store twice: `seed_bundled_recipes` writes the recipes that come with
the integration into an empty store, and `async_seed_recipes` fetches recipes once per flag, the account's
own or the official ones, and adds those whose names are free.  Neither should touch what is there, or
bring back what the user deleted (`SeedsRespect`).

The flags and the tombstones are the evidence the seeds look at.  A delete leaves a tombstone for a YAML
name only, and the flags are set by a fetch that succeeds, so what a seed may bring back
(`SparesDeleted`) depends on the whole history.  The task reads its flag before it waits for the cloud and
not again when the answer is there, and a reload starts another task without ending the first, so two of
them can be let through by one flag (`ComesAlone`).

`deleted` remembers what the user deleted, `imports` counts what each flag has let through, and a task
under way is marked when another of its flag comes through before it.  None of these is kept by the source.
-/
import XBloom.Cloud.Reimport
import XBloom.Recipe.Tombstones

namespace XBloom.Cloud

open XBloom.Py XBloom.Logic XBloom.Recipe

/-! ## State -/

/-- `CONF_RECIPES_SEEDED`, `CONF_ACCOUNT_RECIPES_SEEDED`. -/
inductive SeedFlag where
  | recipesSeeded
  | accountRecipesSeeded
  deriving DecidableEq, Repr

/-- An `async_seed_recipes` that waits for the cloud: whether its coordinator has an account, and
whether another seed of the same flag has come through since it read that. -/
structure SeedTask where
  account : Bool
  overtaken : Bool := false
  deriving DecidableEq, Repr

/-- The config entry (store, flags, whether it holds a cloud account), what the running coordinator was
set up with, the YAML layer of this start, the seeds that wait for the cloud, and the two memories. -/
structure Install where
  store : Store
  seeded : SeedFlag → Bool
  account : Bool
  cloudLogin : Bool
  yaml : YamlLayer
  inFlight : List SeedTask
  deleted : List String
  imports : SeedFlag → ℕ

/-- What the cloud answers to a seed: the account's recipes as the server lists them, if login and list
succeed, and the official ones, translated. -/
structure SeedAnswer where
  accountList : Option (List Entries)
  official : Option (List PyVal)

/-- What happens to an installation. -/
inductive SeedAct where
  /-- Home Assistant starts: `async_setup` reads `configuration.yaml`. -/
  | loadYaml (yaml : YamlLayer)
  /-- `async_setup_entry`, at a start or a reload, up to the background task. -/
  | setupEntry (uid : ℕ → String)
  /-- The background task starts. -/
  | seed
  /-- The cloud answers one of the tasks that wait for it. -/
  | answer (i : ℕ) (answer : SeedAnswer) (uid : ℕ → String)
  /-- The account form: an account is stored or removed. -/
  | account (configured : Bool)
  /-- The user creates, edits or deletes. -/
  | user (op : StoreOp)

variable (T : Texts) (I : Identifiers) (defaults : Dict String RecipeDict)

/-! ## `seed_bundled_recipes` -/

/-- A default as a local recipe. -/
def bundledRecipe (uid : String) (recipe : RecipeDict) : RecipeDict :=
  { recipe with uid := some uid, source := some "seed_bundled" }

/-- `seeded`: the defaults, each under its name. -/
def bundledStore (uid : ℕ → String) : Dict String (Option RecipeDict) :=
  defaults.entries.zipIdx.foldl
    (fun seeded e => seeded.insert e.1.1 (some (bundledRecipe (uid e.2) e.1.2))) Dict.empty

/-- `seed_bundled_recipes`. -/
def seedBundledRecipes (s : Install) (uid : ℕ → String) : Install :=
  if ¬ s.store.options.entries.isEmpty ∨ s.seeded .recipesSeeded then s
  else if defaults.entries.isEmpty then s
  else { s with store := { s.store with options := bundledStore defaults uid } }

/-! ## `async_seed_recipes` -/

/-- A recipe of the account, with its cloud identity. -/
def accountRecipe (raw : Entries) : Except PyErr PyVal := do
  let m ← cloudRecipeToLocal T raw
  let tableId :=
    match get raw "tableId" with
    | .none => []
    | v => [("cloud_table_id", v)]
  let shareLink := get raw "shareRecipeLink"
  pure (.dict (m ++ tableId ++ if shareLink.truthy then [("share_url", shareLink)] else []))

/-- `fetched`. -/
def fetchSeed (account : Bool) (answer : SeedAnswer) : Except PyErr (Option (List PyVal)) :=
  if account then
    match answer.accountList with
    | none => .ok none
    | some raws => (raws.mapM (accountRecipe T)).map some
  else .ok answer.official

/-- The loop over the fetched recipes; `k` counts those added. -/
def addFetched (yaml : YamlLayer) (source : String) (uid : ℕ → String) :
    Dict String (Option RecipeDict) → ℕ → List PyVal → Dict String (Option RecipeDict)
  | options, _, [] => options
  | options, k, raw :: rest =>
    match recipeSchema T.toTextNumbers raw with
    | .error _ => addFetched yaml source uid options k rest
    | .ok validated =>
      if options.contains validated.name ∨ yaml.recipes.contains validated.name then
        addFetched yaml source uid options k rest
      else
        let stored := validated.saveAs validated.name (uid k) source
        addFetched yaml source uid (options.insert validated.name (some stored)) (k + 1) rest

/-- The flag a seed reads and sets. -/
def seedFlag (account : Bool) : SeedFlag :=
  if account then .accountRecipesSeeded else .recipesSeeded

/-- The `source` of what it adds. -/
def seedSource (account : Bool) : String := if account then "seed_cloud" else "seed_official"

/-- A task of a flag that another one comes through first. -/
def SeedTask.overtake (account : Bool) (t : SeedTask) : SeedTask :=
  if t.account = account then { t with overtaken := true } else t

/-- What is saved when the fetch succeeds; an account seed satisfies the initial seed too. -/
def saveFetched (s : Install) (account : Bool) (uid : ℕ → String) (fetched : List PyVal) : Install :=
  let flag := seedFlag account
  { s with
    store := { s.store with
      options := addFetched T s.yaml (seedSource account) uid s.store.options 0 fetched }
    seeded := fun f => s.seeded f || f == flag || (account && f == .recipesSeeded)
    inFlight := s.inFlight.map (SeedTask.overtake account)
    imports := Function.update s.imports flag (s.imports flag + 1) }

/-- `async_seed_recipes` up to its first await: the flag is read here, and only here. -/
def asyncSeedRecipes (s : Install) : Install :=
  if s.seeded (seedFlag s.cloudLogin) then s
  else { s with inFlight := s.inFlight ++ [{ account := s.cloudLogin }] }

/-- `async_seed_recipes` from the cloud's answer on: what raises on the way, as a failed fetch, leaves
everything as it is. -/
def asyncSeedRecipesFetched (s : Install) (i : ℕ) (answer : SeedAnswer) (uid : ℕ → String) : Install :=
  match s.inFlight[i]? with
  | none => s
  | some t =>
    let left := { s with inFlight := s.inFlight.eraseIdx i }
    match fetchSeed T t.account answer with
    | .ok (some fetched) => saveFetched T left t.account uid fetched
    | _ => left

/-! ## Steps -/

/-- The name an operation deletes, if it is shown. -/
def deletedBy (yaml : YamlLayer) (s : Store) : StoreOp → List String
  | .delete identifier => ((findRecipe I (s.visible yaml) identifier).map Prod.fst).toList
  | .flowDelete name => if (s.visible yaml).contains name then [name] else []
  | _ => []

/-- The user's operation; a name is no longer deleted once the user puts a recipe under it. -/
def Install.userStep (s : Install) (op : StoreOp) : Install :=
  { s with
    store := s.store.step I s.yaml op
    deleted := (s.deleted.filter fun n => decide (n ∉ introduces I s.yaml s.store op)) ++
      deletedBy I s.yaml s.store op }

/-- What each act does. -/
def Install.step (s : Install) : SeedAct → Install
  -- a new process: the tasks of the last one are gone
  | .loadYaml yaml => { s with yaml := yaml, inFlight := [] }
  | .setupEntry uid => seedBundledRecipes defaults { s with cloudLogin := s.account } uid
  | .seed => asyncSeedRecipes s
  | .answer i answer uid => asyncSeedRecipesFetched T s i answer uid
  | .account configured => { s with account := configured }
  | .user op => s.userStep I op

/-! ## What the user may expect, and when -/

/-- An act that seeds. -/
def SeedAct.Seeds : SeedAct → Prop
  | .setupEntry _ => True
  | .seed => True
  | .answer _ _ _ => True
  | _ => False

/-- **Seeding never undoes the user**: a seed leaves every entry of the store, no flag lets more than
one import through, and what the user deleted stays hidden. -/
structure SeedsRespect (s : Install) (a : SeedAct) : Prop where
  kept : a.Seeds → ∀ n v, s.store.options.get? n = some v →
    (s.step T I defaults a).store.options.get? n = some v
  once : ∀ flag, (s.step T I defaults a).imports flag ≤ 1
  gone : a.Seeds → ∀ n ∈ s.deleted, view s.yaml s.store n = none →
    view s.yaml (s.step T I defaults a).store n = none

/-- A fetched recipe of this name is valid. -/
def Fetches (fetched : List PyVal) (n : String) : Prop :=
  ∃ raw ∈ fetched, ∃ r, recipeSchema T.toTextNumbers raw = .ok r ∧ r.name = n

/-- **A seed comes through alone**: what is fetched successfully is fetched for a task that no other of
its flag has overtaken. -/
def ComesAlone (s : Install) : SeedAct → Prop
  | .answer i answer _ => ∀ t fetched, s.inFlight[i]? = some t →
    fetchSeed T t.account answer = .ok (some fetched) → t.overtaken = false
  | _ => True

/-- **A seed spares what the user deleted**: the bundled one, if it finds an empty store and no flag, has
no deleted name among the defaults; the fetched one fetches no deleted name that left no entry in the
store.  Names of YAML recipes are no matter. -/
def SparesDeleted (s : Install) : SeedAct → Prop
  | .setupEntry _ => s.store.options.entries = [] → s.seeded .recipesSeeded = false →
    ∀ n ∈ s.deleted, s.yaml.recipes.get? n = none → n ∉ defaults.keys
  | .answer i answer _ => ∀ t fetched, s.inFlight[i]? = some t →
    fetchSeed T t.account answer = .ok (some fetched) →
    ∀ n ∈ s.deleted, s.store.options.get? n = none → s.yaml.recipes.get? n = none →
      ¬ Fetches T fetched n
  | _ => True

variable {T I defaults}

/-! ## What the bundled seed writes -/

/-- A name the loop does not come to is as it was. -/
theorem get?_foldl_of_notMem {uid : ℕ → String} {n : String}
    {l : List ((String × RecipeDict) × ℕ)} (h : n ∉ l.map fun e => e.1.1)
    (seeded : Dict String (Option RecipeDict)) :
    (l.foldl (fun seeded e => seeded.insert e.1.1 (some (bundledRecipe (uid e.2) e.1.2)))
      seeded).get? n = seeded.get? n := by
  induction l generalizing seeded with
  | nil => rfl
  | cons e rest ih =>
    rw [List.map_cons, List.mem_cons, not_or] at h
    rw [List.foldl_cons, ih h.2, Dict.get?_insert, if_neg h.1]

/-- A name it comes to shows a recipe. -/
theorem get?_foldl_of_mem {uid : ℕ → String} {n : String}
    {l : List ((String × RecipeDict) × ℕ)} (h : n ∈ l.map fun e => e.1.1)
    (seeded : Dict String (Option RecipeDict)) :
    ∃ r, (l.foldl (fun seeded e => seeded.insert e.1.1 (some (bundledRecipe (uid e.2) e.1.2)))
      seeded).get? n = some (some r) := by
  induction l generalizing seeded with
  | nil => exact absurd h List.not_mem_nil
  | cons e rest ih =>
    rw [List.foldl_cons]
    by_cases hrest : n ∈ rest.map fun e => e.1.1
    · exact ih hrest _
    · -- the last entry of its name is this one
      have hn : n = e.1.1 := by
        simpa [hrest] using h
      refine ⟨bundledRecipe (uid e.2) e.1.2, ?_⟩
      rw [get?_foldl_of_notMem hrest, Dict.get?_insert, if_pos hn]

theorem map_zipIdx_fst (l : List (String × RecipeDict)) :
    (l.zipIdx.map fun e => e.1.1) = l.map Prod.fst := by
  show l.zipIdx.map (Prod.fst ∘ Prod.fst) = _
  rw [← List.map_map, List.zipIdx_map_fst]

/-- The bundled store shows the names of the defaults, and nothing else. -/
theorem bundledStore_get?_of_mem (uid : ℕ → String) {n : String} (h : n ∈ defaults.keys) :
    ∃ r, (bundledStore defaults uid).get? n = some (some r) :=
  get?_foldl_of_mem ((map_zipIdx_fst defaults.entries).symm ▸ h) Dict.empty

theorem bundledStore_get?_of_notMem (uid : ℕ → String) {n : String} (h : n ∉ defaults.keys) :
    (bundledStore defaults uid).get? n = none :=
  get?_foldl_of_notMem ((map_zipIdx_fst defaults.entries).symm ▸ h) Dict.empty

/-! ## What the loop over the fetched recipes adds -/

/-- An entry of the store, recipe or tombstone, stays as it is. -/
theorem addFetched_kept {yaml : YamlLayer} {source : String} {uid : ℕ → String} {n : String}
    {v : Option RecipeDict} {fetched : List PyVal} :
    ∀ {options : Dict String (Option RecipeDict)} {k : ℕ}, options.get? n = some v →
      (addFetched T yaml source uid options k fetched).get? n = some v := by
  induction fetched with
  | nil => exact fun h => h
  | cons raw rest ih =>
    intro options k h
    rw [addFetched]
    split
    · exact ih h
    · next validated _ =>
      split
      · exact ih h
      · next hfree =>
        -- the inserted name is not in the store, so it is not this one
        refine ih ?_
        rw [Dict.get?_insert, if_neg, h]
        rintro rfl
        refine hfree (Or.inl ?_)
        show (options.get? validated.name).isSome = true
        rw [h]
        rfl

/-- **A name without an entry gets one exactly when a fetched recipe has it** and YAML has not, and the
entry is a recipe. -/
theorem addFetched_free {yaml : YamlLayer} {source : String} {uid : ℕ → String} {n : String}
    (hyaml : yaml.recipes.get? n = none) {fetched : List PyVal} :
    ∀ {options : Dict String (Option RecipeDict)} {k : ℕ}, options.get? n = none →
      ((∃ r, (addFetched T yaml source uid options k fetched).get? n = some (some r)) ∧
          Fetches T fetched n ∨
        (addFetched T yaml source uid options k fetched).get? n = none ∧ ¬ Fetches T fetched n) := by
  induction fetched with
  | nil =>
    intro options k h
    refine Or.inr ⟨h, ?_⟩
    rintro ⟨raw, hraw, _⟩
    exact absurd hraw List.not_mem_nil
  | cons raw rest ih =>
    intro options k h
    -- what is fetched later is fetched
    have hlater : Fetches T rest n → Fetches T (raw :: rest) n := by
      rintro ⟨raw', hraw', hvalid⟩
      exact ⟨raw', List.mem_cons_of_mem raw hraw', hvalid⟩
    -- and if this one is not of the name, nothing else is
    have hskip : (∀ r, recipeSchema T.toTextNumbers raw = .ok r → r.name ≠ n) →
        Fetches T (raw :: rest) n → Fetches T rest n := by
      rintro hother ⟨raw', hraw', r, hr, hname⟩
      rcases List.mem_cons.mp hraw' with rfl | hmem
      · exact absurd hname (hother r hr)
      · exact ⟨raw', hmem, r, hr, hname⟩
    rw [addFetched]
    split
    · next e herror =>
      have hother : ∀ r, recipeSchema T.toTextNumbers raw = .ok r → r.name ≠ n := by
        intro r hr
        rw [herror] at hr
        cases hr
      exact (ih h).imp (And.imp_right hlater) (And.imp_right (mt (hskip hother)))
    · next validated hvalid =>
      by_cases hname : validated.name = n
      · have hfetches : Fetches T (raw :: rest) n :=
          ⟨raw, List.mem_cons_self, validated, hvalid, hname⟩
        rw [if_neg]
        · refine Or.inl ⟨⟨validated.saveAs validated.name (uid k) source, ?_⟩, hfetches⟩
          exact addFetched_kept (by rw [Dict.get?_insert, if_pos hname.symm])
        · rw [hname]
          show ¬ ((options.get? n).isSome = true ∨ (yaml.recipes.get? n).isSome = true)
          rw [h, hyaml]
          simp
      · have hother : ∀ r, recipeSchema T.toTextNumbers raw = .ok r → r.name ≠ n := by
          intro r hr
          rw [hvalid] at hr
          exact Except.ok.inj hr ▸ hname
        split
        · exact (ih h).imp (And.imp_right hlater) (And.imp_right (mt (hskip hother)))
        · have h' : (options.insert validated.name (some (validated.saveAs validated.name (uid k)
              source))).get? n = none := by
            rw [Dict.get?_insert, if_neg (Ne.symm hname), h]
          exact (ih h').imp (And.imp_right hlater) (And.imp_right (mt (hskip hother)))

/-! ## One step -/

/-- **The flags hold**: each has let one import through at most, and none while it is unset; and a task
under way is overtaken exactly when its flag has let one through, as it found that unset. -/
structure Install.FlagsHold (s : Install) : Prop where
  once : ∀ flag, s.imports flag ≤ 1
  unset : ∀ flag, s.seeded flag = false → s.imports flag = 0
  tasks : ∀ t ∈ s.inFlight, t.overtaken = false ↔ s.imports (seedFlag t.account) = 0

/-- What the bundled seed can do. -/
theorem seedBundledRecipes_cases (s : Install) (uid : ℕ → String) :
    (seedBundledRecipes defaults s uid = s ∧
        ¬ (s.store.options.entries = [] ∧ s.seeded .recipesSeeded = false ∧ defaults.keys ≠ [])) ∨
      (s.store.options.entries = [] ∧ s.seeded .recipesSeeded = false ∧
        seedBundledRecipes defaults s uid =
          { s with store := { s.store with options := bundledStore defaults uid } }) := by
  unfold seedBundledRecipes
  by_cases hfresh : ¬ s.store.options.entries.isEmpty ∨ s.seeded .recipesSeeded
  · rw [if_pos hfresh]
    refine Or.inl ⟨rfl, ?_⟩
    rintro ⟨hempty, hflag, _⟩
    simp [hempty, hflag] at hfresh
  · rw [if_neg hfresh]
    rw [not_or, not_not, List.isEmpty_iff, Bool.not_eq_true] at hfresh
    by_cases hnone : defaults.entries.isEmpty
    · rw [if_pos hnone]
      refine Or.inl ⟨rfl, fun h => h.2.2 ?_⟩
      rw [Dict.keys, List.isEmpty_iff.mp hnone]
      rfl
    · rw [if_neg hnone]
      exact Or.inr ⟨hfresh.1, hfresh.2, rfl⟩

/-- What an answer can do. -/
theorem asyncSeedRecipesFetched_cases (s : Install) (i : ℕ) (answer : SeedAnswer) (uid : ℕ → String) :
    (asyncSeedRecipesFetched T s i answer uid = s ∨
        asyncSeedRecipesFetched T s i answer uid = { s with inFlight := s.inFlight.eraseIdx i }) ∧
          (¬ ∃ t fetched, s.inFlight[i]? = some t ∧
            fetchSeed T t.account answer = .ok (some fetched)) ∨
      ∃ t fetched, s.inFlight[i]? = some t ∧ fetchSeed T t.account answer = .ok (some fetched) ∧
        asyncSeedRecipesFetched T s i answer uid =
          saveFetched T { s with inFlight := s.inFlight.eraseIdx i } t.account uid fetched := by
  unfold asyncSeedRecipesFetched
  cases htask : s.inFlight[i]? with
  | none => exact Or.inl ⟨Or.inl rfl, fun ⟨_, _, h, _⟩ => by cases h⟩
  | some t =>
    dsimp only
    cases hfetch : fetchSeed T t.account answer with
    | error e =>
      refine Or.inl ⟨Or.inr rfl, ?_⟩
      rintro ⟨_, _, ht, h⟩
      rw [← Option.some.inj ht, hfetch] at h
      cases h
    | ok fetched =>
      cases fetched with
      | none =>
        refine Or.inl ⟨Or.inr rfl, ?_⟩
        rintro ⟨_, _, ht, h⟩
        rw [← Option.some.inj ht, hfetch] at h
        cases h
      | some fetched => exact Or.inr ⟨t, fetched, rfl, hfetch, rfl⟩

theorem seedFlag_inj {account account' : Bool} (h : seedFlag account = seedFlag account') :
    account = account' := by
  cases account <;> cases account' <;> first | rfl | cases h

/-- **A saved import is the first of its flag**, and overtakes the other tasks of that. -/
theorem flagsHold_saveFetched {s : Install} (h : s.FlagsHold) {account : Bool}
    (hfirst : s.imports (seedFlag account) = 0) (uid : ℕ → String) (fetched : List PyVal) :
    (saveFetched T s account uid fetched).FlagsHold := by
  have himports : ∀ flag, (saveFetched T s account uid fetched).imports flag =
      if flag = seedFlag account then 1 else s.imports flag := by
    intro flag
    show Function.update s.imports (seedFlag account) (s.imports (seedFlag account) + 1) flag = _
    rw [Function.update_apply, hfirst]
  refine ⟨fun flag => ?_, fun flag hunset => ?_, fun t ht => ?_⟩
  · rw [himports]
    split
    · exact le_rfl
    · exact h.once flag
  · have hunset' : (s.seeded flag || flag == seedFlag account ||
        (account && flag == .recipesSeeded)) = false := hunset
    simp only [Bool.or_eq_false_iff, beq_eq_false_iff_ne] at hunset'
    obtain ⟨⟨hold, hother⟩, _⟩ := hunset'
    rw [himports, if_neg hother]
    exact h.unset flag hold
  · obtain ⟨t', ht', rfl⟩ := List.mem_map.mp ht
    unfold SeedTask.overtake
    by_cases hsame : t'.account = account
    · -- its flag is the one that has just let an import through
      rw [if_pos hsame, himports, hsame, if_pos rfl]
      simp
    · rw [if_neg hsame, himports, if_neg fun heq => hsame (seedFlag_inj heq)]
      exact h.tasks t' ht'

/-- Tasks that are gone are no matter. -/
theorem Install.FlagsHold.left {s : Install} (h : s.FlagsHold) {tasks : List SeedTask}
    (hleft : ∀ t ∈ tasks, t ∈ s.inFlight) : ({ s with inFlight := tasks } : Install).FlagsHold :=
  ⟨h.once, h.unset, fun t ht => h.tasks t (hleft t ht)⟩

/-- A task starts: it has found its flag unset, so no import has come through that. -/
theorem flagsHold_asyncSeedRecipes {s : Install} (h : s.FlagsHold) :
    (asyncSeedRecipes s).FlagsHold := by
  unfold asyncSeedRecipes
  split
  · exact h
  · next hunset =>
    refine ⟨h.once, h.unset, fun t ht => ?_⟩
    rcases List.mem_append.mp ht with ht | ht
    · exact h.tasks t ht
    · rw [List.mem_singleton.mp ht]
      exact ⟨fun _ => h.unset _ (Bool.not_eq_true _ ▸ hunset), fun _ => rfl⟩

/-- **The flags hold after every act** that brings no overtaken seed through. -/
theorem flagsHold_step {s : Install} (h : s.FlagsHold) (a : SeedAct) (halone : ComesAlone T s a) :
    (s.step T I defaults a).FlagsHold := by
  cases a with
  | loadYaml yaml => exact ⟨h.once, h.unset, fun t ht => absurd ht List.not_mem_nil⟩
  | account configured => exact ⟨h.once, h.unset, h.tasks⟩
  | user op => exact ⟨h.once, h.unset, h.tasks⟩
  | setupEntry uid =>
    have h' : ({ s with cloudLogin := s.account } : Install).FlagsHold := ⟨h.once, h.unset, h.tasks⟩
    show (seedBundledRecipes defaults { s with cloudLogin := s.account } uid).FlagsHold
    rcases @seedBundledRecipes_cases defaults { s with cloudLogin := s.account } uid with
      ⟨hsame, _⟩ | ⟨_, _, hseeded⟩
    · rw [hsame]
      exact h'
    · rw [hseeded]
      exact ⟨h'.once, h'.unset, h'.tasks⟩
  | seed => exact flagsHold_asyncSeedRecipes h
  | answer i answer uid =>
    have hleft : ({ s with inFlight := s.inFlight.eraseIdx i } : Install).FlagsHold :=
      h.left fun t ht => List.mem_of_mem_eraseIdx ht
    show (asyncSeedRecipesFetched T s i answer uid).FlagsHold
    rcases @asyncSeedRecipesFetched_cases T s i answer uid with
      ⟨hsame | hsame, _⟩ | ⟨t, fetched, htask, hfetch, hsaved⟩
    · rw [hsame]
      exact h
    · rw [hsame]
      exact hleft
    · rw [hsaved]
      refine flagsHold_saveFetched hleft ?_ uid fetched
      exact (h.tasks t (List.mem_of_getElem? htask)).mp (halone t fetched htask hfetch)

/-- A name that shows nothing has a tombstone, or no entry and no YAML recipe. -/
theorem view_eq_none_iff {yaml : YamlLayer} {s : Store} {n : String} :
    view yaml s n = none ↔
      s.options.get? n = some none ∨ s.options.get? n = none ∧ yaml.recipes.get? n = none := by
  rw [view_apply]
  cases s.options.get? n with
  | none => simp
  | some v => simp

/-- An act that leaves the store respects everything. -/
theorem seedsRespect_of_same {s : Install} {a : SeedAct}
    (hstore : (s.step T I defaults a).store = s.store)
    (hflags : (s.step T I defaults a).FlagsHold) : SeedsRespect T I defaults s a where
  kept := fun _ _ _ h => hstore ▸ h
  once := hflags.once
  gone := fun _ _ _ h => hstore ▸ h

/-- The bundled seed. -/
theorem setupEntry_respects_iff {s : Install} (h : s.FlagsHold) (uid : ℕ → String) :
    SeedsRespect T I defaults s (.setupEntry uid) ↔
      SparesDeleted T defaults s (.setupEntry uid) := by
  have hflags := @flagsHold_step T I defaults s h (.setupEntry uid) trivial
  rcases @seedBundledRecipes_cases defaults { s with cloudLogin := s.account } uid with
    ⟨hsame, hnot⟩ | ⟨hempty, hflag, hseeded⟩
  · refine ⟨fun _ hempty hflag n _ _ hn => hnot ⟨hempty, hflag, List.ne_nil_of_mem hn⟩,
      fun _ => seedsRespect_of_same ?_ hflags⟩
    show (seedBundledRecipes defaults { s with cloudLogin := s.account } uid).store = s.store
    rw [hsame]
  · -- an empty store has no entry to keep, and hides what YAML does not show
    have hstep : (s.step T I defaults (.setupEntry uid)).store.options =
        bundledStore defaults uid := congrArg (fun s => s.store.options) hseeded
    have hnone : ∀ n, s.store.options.get? n = none := by
      intro n
      rw [Dict.get?, hempty]
      rfl
    constructor
    · intro hrespect _ _ n hdeleted hyaml hn
      have hgone := hrespect.gone trivial n hdeleted (view_eq_none_iff.mpr (Or.inr ⟨hnone n, hyaml⟩))
      obtain ⟨r, hr⟩ := bundledStore_get?_of_mem uid hn
      rw [view_apply, hstep, hr] at hgone
      cases hgone
    · intro hspares
      refine ⟨fun _ n v hv => ?_, fun flag => hflags.once flag, fun _ n hdeleted hhidden => ?_⟩
      · rw [hnone n] at hv
        cases hv
      · rcases view_eq_none_iff.mp hhidden with htomb | ⟨_, hyaml⟩
        · rw [hnone n] at htomb
          cases htomb
        · have hn := hspares hempty hflag n hdeleted hyaml
          rw [view_apply, hstep, bundledStore_get?_of_notMem uid hn]
          exact hyaml

/-- An answer lets an import through a flag that has let none through exactly when its task comes
alone. -/
theorem answer_once_iff {s : Install} (h : s.FlagsHold) (i : ℕ) (answer : SeedAnswer)
    (uid : ℕ → String) :
    (∀ flag, (s.step T I defaults (.answer i answer uid)).imports flag ≤ 1) ↔
      ComesAlone T s (.answer i answer uid) := by
  refine ⟨fun honce t fetched htask hfetch => ?_, fun halone flag => ?_⟩
  · rcases @asyncSeedRecipesFetched_cases T s i answer uid with
      ⟨_, hnot⟩ | ⟨t', fetched', htask', _, hsaved⟩
    · exact absurd ⟨t, fetched, htask, hfetch⟩ hnot
    · obtain rfl : t = t' := Option.some.inj (htask.symm.trans htask')
      have hle := honce (seedFlag t.account)
      have hnext : (s.step T I defaults (.answer i answer uid)).imports (seedFlag t.account) =
          s.imports (seedFlag t.account) + 1 := by
        refine (congrFun (congrArg Install.imports hsaved) _).trans ?_
        exact Function.update_self _ _ _
      refine (h.tasks t (List.mem_of_getElem? htask)).mpr ?_
      omega
  · exact (@flagsHold_step T I defaults s h (.answer i answer uid) halone).once flag

/-- The fetched seed. -/
theorem answer_respects_iff {s : Install} (h : s.FlagsHold) (i : ℕ) (answer : SeedAnswer)
    (uid : ℕ → String) :
    SeedsRespect T I defaults s (.answer i answer uid) ↔
      ComesAlone T s (.answer i answer uid) ∧ SparesDeleted T defaults s (.answer i answer uid) := by
  have honce := @answer_once_iff T I defaults s h i answer uid
  rcases @asyncSeedRecipesFetched_cases T s i answer uid with
    ⟨hsame, hnot⟩ | ⟨t, fetched, htask, hfetch, hsaved⟩
  · refine ⟨fun _ => ⟨fun t fetched htask hfetch => absurd ⟨t, fetched, htask, hfetch⟩ hnot,
      fun t fetched htask hfetch => absurd ⟨t, fetched, htask, hfetch⟩ hnot⟩, fun ⟨halone, _⟩ => ?_⟩
    refine seedsRespect_of_same ?_ (flagsHold_step h _ halone)
    show (asyncSeedRecipesFetched T s i answer uid).store = s.store
    rcases hsame with hsame | hsame
    · rw [hsame]
    · rw [hsame]
  · have hstep : (s.step T I defaults (.answer i answer uid)).store.options =
        addFetched T s.yaml (seedSource t.account) uid s.store.options 0 fetched :=
      congrArg (fun s => s.store.options) hsaved
    constructor
    · intro hrespect
      refine ⟨honce.mp hrespect.once, fun t' fetched' htask' hfetch' n hdeleted hnone hyaml hfetches => ?_⟩
      obtain rfl : t = t' := Option.some.inj (htask.symm.trans htask')
      rw [hfetch] at hfetch'
      cases hfetch'
      -- deleted without a trace: no tombstone, and no YAML recipe under it
      have hgone := hrespect.gone trivial n hdeleted (view_eq_none_iff.mpr (Or.inr ⟨hnone, hyaml⟩))
      rw [view_apply, hstep] at hgone
      rcases @addFetched_free T s.yaml (seedSource t.account) uid n hyaml fetched _ 0 hnone with
        ⟨⟨r, hr⟩, _⟩ | ⟨_, hnot⟩
      · rw [hr] at hgone
        cases hgone
      · exact hnot hfetches
    · rintro ⟨halone, hspares⟩
      refine ⟨fun _ n v hv => ?_, honce.mpr halone, fun _ n hdeleted hhidden => ?_⟩
      · rw [hstep]
        exact addFetched_kept hv
      · rw [view_apply, hstep]
        -- a tombstone is kept; a name without one is free to the fetch
        rcases view_eq_none_iff.mp hhidden with htomb | ⟨hnone, hyaml⟩
        · rw [addFetched_kept htomb]
          rfl
        · have hn := hspares t fetched htask hfetch n hdeleted hnone hyaml
          rcases @addFetched_free T s.yaml (seedSource t.account) uid n hyaml fetched _ 0 hnone with
            ⟨_, hfetches⟩ | ⟨hstill, _⟩
          · exact absurd hfetches hn
          · rw [hstill]
            exact hyaml

/-- **One act respects the user exactly when its seed comes alone and spares what was deleted.** -/
theorem step_respects_iff {s : Install} (h : s.FlagsHold) (a : SeedAct) :
    SeedsRespect T I defaults s a ↔ ComesAlone T s a ∧ SparesDeleted T defaults s a := by
  have hsame : ComesAlone T s a → SparesDeleted T defaults s a →
      (s.step T I defaults a).store = s.store →
      (SeedsRespect T I defaults s a ↔ ComesAlone T s a ∧ SparesDeleted T defaults s a) :=
    fun halone hspares hstore =>
      ⟨fun _ => ⟨halone, hspares⟩, fun _ => seedsRespect_of_same hstore (flagsHold_step h a halone)⟩
  cases a with
  | setupEntry uid => exact (setupEntry_respects_iff h uid).trans (Iff.of_eq (true_and _).symm)
  | answer i answer uid => exact answer_respects_iff h i answer uid
  | loadYaml yaml => exact hsame trivial trivial rfl
  | account configured => exact hsame trivial trivial rfl
  | seed =>
    refine hsame trivial trivial ?_
    show (asyncSeedRecipes s).store = s.store
    unfold asyncSeedRecipes
    split
    · rfl
    · rfl
  | user op =>
    refine ⟨fun _ => ⟨trivial, trivial⟩, fun _ => ⟨?_, h.once, ?_⟩⟩
    · exact fun hseeds => hseeds.elim
    · exact fun hseeds => hseeds.elim

/-! ## Runs -/

/-- **Seeding never undoes the user exactly when every seed comes alone and meets no deleted name it can
add.**  From any installation with no seed under way that has not yet counted an import, over any run of
starts, reloads, answers of the cloud, account changes and user operations: every seed leaves the entries
of the store, lets one import through a flag at most, and leaves hidden what was deleted, exactly when
every answer of the run meets `ComesAlone` and every seed `SparesDeleted`. -/
theorem seeds_respect_iff (s : Install) (acts : List SeedAct) :
    AllSteps (Install.step T I defaults) (SeedsRespect T I defaults)
        { s with imports := fun _ => 0, inFlight := [] } acts ↔
      AllSteps (Install.step T I defaults)
        (fun s a => ComesAlone T s a ∧ SparesDeleted T defaults s a)
        { s with imports := fun _ => 0, inFlight := [] } acts := by
  refine @AllSteps.iff_while _ _ _ _ _ Install.FlagsHold (fun _ _ => True) ?_ acts _ ?_
    (.of_forall (R := fun _ => True) fun _ _ => trivial)
  · intro s a h _
    have hiff := @step_respects_iff T I defaults s h a
    exact ⟨hiff, fun hrespect => flagsHold_step h a (hiff.mp hrespect).1⟩
  · exact ⟨fun _ => Nat.zero_le 1, fun _ _ => rfl, fun t ht => absurd ht List.not_mem_nil⟩

/-! ## The bundled teas come back -/

/-- A tea of `DEFAULT_RECIPES`. -/
def defaultTea (name : String) (pours : List (ℤ × ℤ × ℤ)) : PyVal :=
  .dict [("name", .str name), ("cup_type", .str "tea"), ("grind_size", .int 0), ("rpm", .int 0),
    ("dose_g", .float 0),
    ("pours", .list (pours.map fun p => .dict [("volume_ml", .int p.1), ("temperature_c", .int p.2.1),
      ("pause_seconds", .int p.2.2)]))]

/-- `DEFAULT_RECIPES`. -/
def defaultRecipes : List PyVal :=
  [defaultTea "히비스커스 베리" [(120, 100, 300), (120, 100, 120)],
    defaultTea "홍차" [(120, 95, 180), (120, 95, 120)],
    defaultTea "녹차" [(120, 80, 120), (120, 80, 60)],
    defaultTea "히비스커스 아이스티" [(120, 100, 300), (120, 100, 120)]]

/-- `validated_defaults`. -/
def validatedDefaults (N : TextNumbers) (raws : List PyVal) : Dict String RecipeDict :=
  raws.foldl
    (fun validated raw =>
      match recipeSchema N raw with
      | .ok r => validated.insert r.name r
      | .error _ => validated) Dict.empty

/-- The uids of the examples. -/
def exampleUid (k : ℕ) : String := s!"4f1c0a9b7d{k}"

/-- An installation before its first start. -/
def freshInstall : Install :=
  ⟨noRecipesSaved, fun _ => false, false, false, noYaml, [], [], fun _ => 0⟩

/-- A start whose fetch fails. -/
def startOffline : List SeedAct :=
  [.setupEntry exampleUid, .seed, .answer 0 ⟨none, none⟩ exampleUid]

/-- The user deletes the four bundled teas. -/
def deleteTeas : List SeedAct :=
  ["히비스커스 베리", "홍차", "녹차", "히비스커스 아이스티"].map fun n => .user (.delete n)

/-- The first start is offline, and what it bundled is deleted. -/
def teasDeleted : Install :=
  run (Install.step plainTexts plainIdentifiers (validatedDefaults decimalTexts defaultRecipes))
    freshInstall (startOffline ++ deleteTeas)

/-- The next start brings a deleted tea back. -/
theorem tea_comes_back :
    "홍차" ∈ teasDeleted.deleted ∧ view teasDeleted.yaml teasDeleted.store "홍차" = none ∧
      (view teasDeleted.yaml (teasDeleted.step plainTexts plainIdentifiers
        (validatedDefaults decimalTexts defaultRecipes) (.setupEntry exampleUid)).store
          "홍차").isSome = true := by
  decide +kernel

/-- **Deleting everything before the first fetch has come through is not respected**: no tombstone
is left and no flag is set, so the next start finds an empty store and bundles the teas again. -/
theorem deleted_teas_come_back :
    ¬ AllSteps
      (Install.step plainTexts plainIdentifiers (validatedDefaults decimalTexts defaultRecipes))
      (SeedsRespect plainTexts plainIdentifiers (validatedDefaults decimalTexts defaultRecipes))
      { freshInstall with imports := fun _ => 0, inFlight := [] }
      (startOffline ++ deleteTeas ++ [.setupEntry exampleUid]) := by
  intro hall
  obtain ⟨hdeleted, hhidden, hback⟩ := tea_comes_back
  obtain ⟨_, hlast, _⟩ := AllSteps.append_iff.mp hall
  have hgone := hlast.gone trivial "홍차" hdeleted hhidden
  have hnone : view teasDeleted.yaml (teasDeleted.step plainTexts plainIdentifiers
      (validatedDefaults decimalTexts defaultRecipes) (.setupEntry exampleUid)).store
        "홍차" = none := hgone
  rw [hnone] at hback
  cases hback

/-- The cloud lists one official recipe. -/
def oneOfficial : SeedAnswer := ⟨none, some [defaultTea "홍차" [(120, 95, 180), (120, 95, 120)]]⟩

-- a reload while the first task waits: both come through one flag, and what was deleted in between
-- is back
example :
    let s := run (Install.step plainTexts plainIdentifiers Dict.empty) freshInstall
      [.setupEntry exampleUid, .seed, .setupEntry exampleUid, .seed, .answer 0 oneOfficial exampleUid,
        .user (.delete "홍차"), .answer 0 oneOfficial exampleUid]
    s.imports .recipesSeeded = 2 ∧ "홍차" ∈ s.deleted ∧ (view s.yaml s.store "홍차").isSome = true := by
  decide +kernel

end XBloom.Cloud
