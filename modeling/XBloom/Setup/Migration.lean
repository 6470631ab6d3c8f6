/-
# XBloom.Setup.Migration — entries an earlier version has written

An entry is brought up to date in three stages, each persisted before the next: the recipes get their new
field names (version 2), then a uid and a source (version 3), and the machine's entities move over to
unique ids of their own (minor version 2).

Whatever version wrote the entry, no recipe is lost, all get uids of their own, and an update that is
interrupted goes on where it stopped (`migration_keeps_recipes`).  Whichever machines are updated, in
whatever order and however often, each finds its own entities again (`entities_found_again`).
-/
import XBloom.Setup.UniqueIds
import XBloom.Setup.OldRecipes

namespace XBloom.Setup

open XBloom.Py XBloom.Cloud XBloom.Recipe

/-! ## Recipes of an entry -/

/-- `migrate(recipe) if recipe is not None else None`. -/
def migrateUnlessNone (migrate : PyVal → Except PyErr PyVal) : PyVal → Except PyErr PyVal
  | .none => .ok .none
  | recipe => migrate recipe

/-- `{name: ... for name, recipe in options_recipes.items()}`; the `n`th recipe is migrated by
`migrate n`. -/
def migrateEach (migrate : ℕ → PyVal → Except PyErr PyVal) : ℕ → Entries → Except PyErr Entries
  | _, [] => .ok []
  | n, (name, recipe) :: rest => do
    let newRecipe ← migrateUnlessNone (migrate n) recipe
    let migrated ← migrateEach migrate (n + 1) rest
    return (name, newRecipe) :: migrated

/-- The recipes in an entry's options, if there are any. -/
def recipesOf (options : Entries) : Entries :=
  match pyOr (get options "recipes") (.dict []) with
  | .dict recipes => recipes
  | _ => []

/-- The options with their recipes migrated. -/
def migrateRecipes (migrate : ℕ → PyVal → Except PyErr PyVal) (options : Entries) :
    Except PyErr Entries :=
  if (recipesOf options).isEmpty then .ok options
  else do
    let migrated ← migrateEach migrate 0 (recipesOf options)
    return setKey "recipes" (.dict migrated) options

/-! ## Entries -/

/-- A config entry. -/
structure ConfigEntry where
  entryId : String
  version : ℕ
  minorVersion : ℕ
  options : Entries

section
variable (T : Texts) (uids : ℕ → String)

/-- v1 → v2. -/
def migrateV1 (entry : ConfigEntry) : Except PyErr ConfigEntry :=
  if entry.version = 1 then do
    let newOptions ← migrateRecipes (fun _ => migrateRecipeV1ToV2 T) entry.options
    return { entry with options := newOptions, version := 2 }
  else .ok entry

/-- v2 → v3; the `n`th recipe's new uid would be `uids n`. -/
def migrateV2 (entry : ConfigEntry) : Except PyErr ConfigEntry :=
  if entry.version = 2 then do
    let newOptions ← migrateRecipes (fun n => migrateRecipeV2ToV3 (uids n)) entry.options
    return { entry with options := newOptions, version := 3 }
  else .ok entry

/-- v3.1 → v3.2. -/
def migrateMinor (entry : ConfigEntry) (registry : List RegistryEntry) :
    Except PyErr (ConfigEntry × List RegistryEntry) :=
  if entry.version = 3 ∧ entry.minorVersion < 2 then do
    let migrated ← asyncMigrateEntries entry.entryId (scopeUniqueIdMigration entry.entryId) registry
    return ({ entry with minorVersion := 2 }, migrated)
  else .ok (entry, registry)

/-- `async_migrate_entry`. -/
def asyncMigrateEntry (entry : ConfigEntry) (registry : List RegistryEntry) :
    Except PyErr (ConfigEntry × List RegistryEntry) := do
  let entry ← migrateV1 T entry
  let entry ← migrateV2 uids entry
  migrateMinor entry registry

end

/-! ## Recipes, one by one -/

/-- A recipe under its name, or a tombstone there. -/
structure Moved (R : Entries → Entries → Prop) (old new : String × PyVal) : Prop where
  name : new.1 = old.1
  value : (old.2 = .none ∧ new.2 = .none) ∨ ∃ m m', old.2 = .dict m ∧ new.2 = .dict m' ∧ R m m'

/-- Every value is a tombstone or a recipe of this kind. -/
def RecipesAre (P : Entries → Prop) (recipes : Entries) : Prop :=
  ∀ e ∈ recipes, e.2 = .none ∨ ∃ m, e.2 = .dict m ∧ P m

/-- Where each recipe of a kind is migrated, all are. -/
theorem migrateEach_moves {migrate : ℕ → PyVal → Except PyErr PyVal} {P : Entries → Prop}
    {R : Entries → Entries → Prop}
    (hmigrate : ∀ n m, P m → ∃ m', migrate n (.dict m) = .ok (.dict m') ∧ R m m') {recipes : Entries}
    (hrecipes : RecipesAre P recipes) (n : ℕ) :
    ∃ migrated, migrateEach migrate n recipes = .ok migrated ∧
      List.Forall₂ (Moved R) recipes migrated := by
  induction recipes generalizing n with
  | nil => exact ⟨[], rfl, .nil⟩
  | cons e rest ih =>
    obtain ⟨name, recipe⟩ := e
    obtain ⟨rest', hrest, hmoved⟩ := ih (fun e he => hrecipes e (List.mem_cons_of_mem _ he)) (n + 1)
    rcases hrecipes _ List.mem_cons_self with hnone | ⟨m, hm, hP⟩
    · cases hnone
      refine ⟨(name, .none) :: rest', ?_, .cons ⟨rfl, Or.inl ⟨rfl, rfl⟩⟩ hmoved⟩
      rw [migrateEach, hrest]
      rfl
    · cases hm
      obtain ⟨m', hm', hR⟩ := hmigrate n m hP
      refine ⟨(name, .dict m') :: rest', ?_, .cons ⟨rfl, Or.inr ⟨m, m', rfl, rfl, hR⟩⟩ hmoved⟩
      rw [migrateEach, hrest]
      show (migrate n (.dict m) >>= _) = _
      rw [hm']
      rfl

theorem recipesOf_setKey (recipes options : Entries) :
    recipesOf (setKey "recipes" (.dict recipes) options) = recipes := by
  unfold recipesOf Cloud.get getOr
  rw [lookup_setKey, if_pos rfl, Option.getD_some]
  cases recipes with
  | nil => rfl
  | cons _ _ => rfl

/-- The options, with their recipes migrated. -/
theorem migrateRecipes_moves {migrate : ℕ → PyVal → Except PyErr PyVal} {P : Entries → Prop}
    {R : Entries → Entries → Prop}
    (hmigrate : ∀ n m, P m → ∃ m', migrate n (.dict m) = .ok (.dict m') ∧ R m m') {options : Entries}
    (hrecipes : RecipesAre P (recipesOf options)) :
    ∃ options', migrateRecipes migrate options = .ok options' ∧
      migrateEach migrate 0 (recipesOf options) = .ok (recipesOf options') ∧
      List.Forall₂ (Moved R) (recipesOf options) (recipesOf options') ∧
      ∀ key ≠ "recipes", options'.lookup key = options.lookup key := by
  obtain ⟨migrated, hmigrated, hmoved⟩ := migrateEach_moves hmigrate hrecipes 0
  unfold migrateRecipes
  cases hempty : (recipesOf options).isEmpty with
  | true =>
    refine ⟨options, if_pos rfl, ?_, ?_, fun key _ => rfl⟩
    · rw [List.isEmpty_iff.mp hempty]
      rfl
    · rw [List.isEmpty_iff.mp hempty]
      exact .nil
  | false =>
    refine ⟨setKey "recipes" (.dict migrated) options, ?_, ?_, ?_, ?_⟩
    · rw [if_neg Bool.false_ne_true, hmigrated]
      rfl
    · rw [recipesOf_setKey]
      exact hmigrated
    · rw [recipesOf_setKey]
      exact hmoved
    · intro key hkey
      rw [lookup_setKey, if_neg hkey]

/-- Two stages, one after the other. -/
theorem Moved.trans {R R' : Entries → Entries → Prop} : ∀ {l l' l'' : Entries},
    List.Forall₂ (Moved R) l l' → List.Forall₂ (Moved R') l' l'' →
    List.Forall₂ (Moved fun m m'' => ∃ m', R m m' ∧ R' m' m'') l l'' := by
  intro l l' l'' h h'
  induction h generalizing l'' with
  | nil =>
    cases h'
    exact .nil
  | cons hhead _ ih =>
    cases h' with
    | cons hhead' htail' =>
      refine .cons ⟨hhead'.name.trans hhead.name, ?_⟩ (ih htail')
      rcases hhead.value with ⟨hold, hnew⟩ | ⟨m, m', hold, hnew, hR⟩
      · rcases hhead'.value with ⟨-, hlast⟩ | ⟨m', _, hmid, -⟩
        · exact Or.inl ⟨hold, hlast⟩
        · exact absurd (hnew.symm.trans hmid) nofun
      · rcases hhead'.value with ⟨hmid, -⟩ | ⟨n, n', hmid, hlast, hR'⟩
        · exact absurd (hnew.symm.trans hmid) nofun
        · cases hnew.symm.trans hmid
          exact Or.inr ⟨m, n', hold, hlast, m', hR, hR'⟩

/-! ## Uids -/

/-- A recipe's uid. -/
def recipeUid (e : String × PyVal) : Option PyVal :=
  match e.2 with
  | .dict m => m.lookup "uid"
  | _ => none

/-- The uids there are. -/
def uidsOf (recipes : Entries) : List PyVal := recipes.filterMap recipeUid

/-- The new field names leave the uids alone. -/
theorem uidsOf_renamed {T : Texts} {recipes renamed : Entries}
    (h : List.Forall₂ (Moved (BrewingRenamed T)) recipes renamed) : uidsOf renamed = uidsOf recipes := by
  unfold uidsOf
  induction h with
  | nil => rfl
  | @cons e e' _ _ hhead _ ih =>
    have huid : recipeUid e' = recipeUid e := by
      unfold recipeUid
      rcases hhead.value with ⟨hold, hnew⟩ | ⟨m, m', hold, hnew, hR⟩
      · rw [hold, hnew]
      · rw [hold, hnew]
        exact hR.kept "uid" (by decide)
    rw [List.filterMap_cons, List.filterMap_cons, huid, ih]

/-- The uids after the second stage: those that there were, and minted ones. -/
theorem uidsOf_identified {uids : ℕ → String} (hinj : Function.Injective uids) {recipes migrated : Entries}
    {n : ℕ} (hrecipes : RecipesAre (fun _ => True) recipes)
    (hnodup : (uidsOf recipes).Nodup) (hfresh : ∀ k, .str (uids k) ∉ uidsOf recipes)
    (h : migrateEach (fun n => migrateRecipeV2ToV3 (uids n)) n recipes = .ok migrated) :
    (uidsOf migrated).Nodup ∧
      ∀ v ∈ uidsOf migrated, v ∈ uidsOf recipes ∨ ∃ k ≥ n, v = .str (uids k) := by
  induction recipes generalizing n migrated with
  | nil =>
    cases h
    exact ⟨List.nodup_nil, nofun⟩
  | cons e rest ih =>
    obtain ⟨name, recipe⟩ := e
    obtain ⟨newRecipe, hnew, h⟩ := bind_eq_ok.mp h
    obtain ⟨rest', hrest, h⟩ := bind_eq_ok.mp h
    cases h
    have hrest' : RecipesAre (fun _ => True) rest := fun e he => hrecipes e (List.mem_cons_of_mem _ he)
    rcases hrecipes _ List.mem_cons_self with hnone | ⟨m, hm, -⟩
    · cases hnone
      cases hnew
      obtain ⟨hnodup', hfrom⟩ := ih hrest' hnodup hfresh hrest
      exact ⟨hnodup', fun v hv => (hfrom v hv).imp id fun ⟨k, hk, hv⟩ => ⟨k, Nat.le_of_succ_le hk, hv⟩⟩
    · cases hm
      cases hnew
      have huid : recipeUid (name, PyVal.dict (setDefault "source" (.str "manual")
          (setDefault "uid" (.str (uids n)) m))) = some ((m.lookup "uid").getD (.str (uids n))) :=
        lookup_migrateRecipeV2ToV3 (uids n) m
      unfold uidsOf at hnodup hfresh ⊢
      rw [List.filterMap_cons_some huid]
      cases hm : m.lookup "uid" with
      | none =>
        have hold : recipeUid (name, PyVal.dict m) = none := hm
        rw [List.filterMap_cons_none hold] at hnodup hfresh ⊢
        obtain ⟨hnodup', hfrom⟩ := ih hrest' hnodup hfresh hrest
        refine ⟨List.nodup_cons.mpr ⟨fun hmem => ?_, hnodup'⟩, fun v hv => ?_⟩
        · rcases hfrom _ hmem with hmem | ⟨k, hk, heq⟩
          · exact hfresh n hmem
          · have hnk := hinj (PyVal.str.inj heq)
            omega
        · rcases List.mem_cons.mp hv with rfl | hv
          · exact Or.inr ⟨n, le_refl n, rfl⟩
          · exact (hfrom v hv).imp id fun ⟨k, hk, hv⟩ => ⟨k, Nat.le_of_succ_le hk, hv⟩
      | some uid =>
        have hold : recipeUid (name, PyVal.dict m) = some uid := hm
        rw [List.filterMap_cons_some hold] at hnodup hfresh ⊢
        obtain ⟨huniq, hnodup⟩ := List.nodup_cons.mp hnodup
        obtain ⟨hnodup', hfrom⟩ :=
          ih hrest' hnodup (fun k hk => hfresh k (List.mem_cons_of_mem _ hk)) hrest
        refine ⟨List.nodup_cons.mpr ⟨fun hmem => ?_, hnodup'⟩, fun v hv => ?_⟩
        · rcases hfrom _ hmem with hmem | ⟨k, _, heq⟩
          · exact huniq hmem
          · exact hfresh k (heq ▸ List.mem_cons_self)
        · rcases List.mem_cons.mp hv with rfl | hv
          · exact Or.inl List.mem_cons_self
          · exact (hfrom v hv).imp (List.mem_cons_of_mem _) fun ⟨k, hk, hv⟩ =>
              ⟨k, Nat.le_of_succ_le hk, hv⟩

/-! ## An entry, brought up to date -/

section
variable (T : Texts)

/-- An entry as one of the versions has written it. -/
structure Written (entry : ConfigEntry) : Prop where
  version : entry.version = 1 ∨ entry.version = 2 ∨ entry.version = 3
  first : entry.version = 1 → RecipesAre (FirstRecipe T) (recipesOf entry.options)
  second : entry.version = 2 → RecipesAre (fun _ => True) (recipesOf entry.options)

/-- What becomes of a recipe of that version: it has its new field names, and it has a uid and a
source. -/
def RecipeMoved (version : ℕ) (m m' : Entries) : Prop :=
  ∃ renamed, (if version = 1 then BrewingRenamed T m renamed else renamed = m) ∧ Identified renamed m'

/-- **An entry is up to date and has kept everything.** -/
structure Migrated (uids : ℕ → String) (entry migrated : ConfigEntry) : Prop where
  entryId : migrated.entryId = entry.entryId
  current : migrated.version = 3 ∧ 2 ≤ migrated.minorVersion
  options : ∀ key ≠ "recipes", migrated.options.lookup key = entry.options.lookup key
  settled : entry.version = 3 → migrated.options = entry.options
  recipes : entry.version ≠ 3 → List.Forall₂ (Moved (RecipeMoved T entry.version))
    (recipesOf entry.options) (recipesOf migrated.options)
  uids : Function.Injective uids → (∀ n, .str (uids n) ∉ uidsOf (recipesOf entry.options)) →
    (uidsOf (recipesOf entry.options)).Nodup → (uidsOf (recipesOf migrated.options)).Nodup

variable {T}

/-! ### Stage by stage -/

theorem Moved.mono {R R' : Entries → Entries → Prop} (h : ∀ m m', R m m' → R' m m')
    {l l' : Entries} (hl : List.Forall₂ (Moved R) l l') : List.Forall₂ (Moved R') l l' := by
  refine hl.imp fun e e' hmoved => ⟨hmoved.name, hmoved.value.imp id ?_⟩
  rintro ⟨m, m', hold, hnew, hR⟩
  exact ⟨m, m', hold, hnew, h m m' hR⟩

theorem RecipesAre.of_moved {R : Entries → Entries → Prop} {l l' : Entries}
    (h : List.Forall₂ (Moved R) l l') : RecipesAre (fun _ => True) l' := by
  induction h with
  | nil => exact nofun
  | cons hhead _ ih =>
    intro e he
    rcases List.mem_cons.mp he with rfl | he
    · exact hhead.value.imp And.right fun ⟨_, m', _, hnew, _⟩ => ⟨m', hnew, trivial⟩
    · exact ih e he

/-- The first stage. -/
structure Renamed (T : Texts) (entry e₁ : ConfigEntry) : Prop where
  same : e₁.entryId = entry.entryId ∧ e₁.minorVersion = entry.minorVersion
  version : e₁.version = 2 ∨ e₁.version = 3
  settled : entry.version = 3 → e₁ = entry
  untouched : entry.version = 2 → e₁ = entry
  options : ∀ key ≠ "recipes", e₁.options.lookup key = entry.options.lookup key
  recipes : entry.version = 1 → e₁.version = 2 ∧ List.Forall₂ (Moved (BrewingRenamed T))
    (recipesOf entry.options) (recipesOf e₁.options)

theorem migrateV1_renames {entry : ConfigEntry} (h : Written T entry) :
    ∃ e₁, migrateV1 T entry = .ok e₁ ∧ Renamed T entry e₁ := by
  by_cases hv : entry.version = 1
  · obtain ⟨options', hreturns, -, hmoved, hothers⟩ :=
      migrateRecipes_moves (R := BrewingRenamed T)
        (fun _ m hm => migrateRecipeV1ToV2_renames hm) (h.first hv)
    refine ⟨{ entry with options := options', version := 2 }, ?_, ⟨rfl, rfl⟩, Or.inl rfl, ?_, ?_,
      hothers, fun _ => ⟨rfl, hmoved⟩⟩
    · unfold migrateV1
      rw [if_pos hv, hreturns]
      rfl
    · intro hv'
      exact absurd (hv.symm.trans hv') (by decide)
    · intro hv'
      exact absurd (hv.symm.trans hv') (by decide)
  · exact ⟨entry, if_neg hv, ⟨rfl, rfl⟩, h.version.resolve_left hv, fun _ => rfl, fun _ => rfl,
      fun _ _ => rfl, fun hv' => absurd hv' hv⟩

/-- The second stage. -/
structure Minted (uids : ℕ → String) (e₁ e₂ : ConfigEntry) : Prop where
  same : e₂.entryId = e₁.entryId ∧ e₂.minorVersion = e₁.minorVersion
  version : e₂.version = 3
  settled : e₁.version = 3 → e₂ = e₁
  options : ∀ key ≠ "recipes", e₂.options.lookup key = e₁.options.lookup key
  recipes : e₁.version = 2 → List.Forall₂ (Moved Identified)
    (recipesOf e₁.options) (recipesOf e₂.options)
  uids : Function.Injective uids → (∀ n, .str (uids n) ∉ uidsOf (recipesOf e₁.options)) →
    (uidsOf (recipesOf e₁.options)).Nodup → (uidsOf (recipesOf e₂.options)).Nodup

theorem migrateV2_mints (uids : ℕ → String) {e₁ : ConfigEntry} (hversion : e₁.version = 2 ∨ e₁.version = 3)
    (hrecipes : e₁.version = 2 → RecipesAre (fun _ => True) (recipesOf e₁.options)) :
    ∃ e₂, migrateV2 uids e₁ = .ok e₂ ∧ Minted uids e₁ e₂ := by
  by_cases hv : e₁.version = 2
  · have hidentifies : ∀ n m, True → ∃ m', migrateRecipeV2ToV3 (uids n) (.dict m) = .ok (.dict m') ∧
        Identified m m' := fun n m _ => ⟨_, rfl, migrateRecipeV2ToV3_identifies (uids n) m⟩
    obtain ⟨options', hreturns, heach, hmoved, hothers⟩ :=
      migrateRecipes_moves hidentifies (hrecipes hv)
    refine ⟨{ e₁ with options := options', version := 3 }, ?_, ⟨rfl, rfl⟩, rfl, ?_, hothers,
      fun _ => hmoved, fun hinj hfresh hnodup => ?_⟩
    · unfold migrateV2
      rw [if_pos hv, hreturns]
      rfl
    · intro hv'
      exact absurd (hv.symm.trans hv') (by decide)
    · exact (uidsOf_identified hinj (hrecipes hv) hnodup hfresh heach).1
  · exact ⟨e₁, if_neg hv, ⟨rfl, rfl⟩, hversion.resolve_left hv, fun _ => rfl, fun _ _ => rfl,
      fun hv' => absurd hv' hv, fun _ _ hnodup => hnodup⟩

/-- The machines whose entities move over with this entry. -/
def movedIds (entry : ConfigEntry) : List String :=
  if entry.minorVersion < 2 then [entry.entryId] else []

/-- The third stage. -/
theorem migrateMinor_scopes {e₂ : ConfigEntry} (hversion : e₂.version = 3) :
    ∃ migrated, (∀ registry, Tidy registry → migrateMinor e₂ registry = .ok (migrated,
        registry.map (scopedIn RegistryEntry.configEntryId (movedIds e₂)))) ∧
      migrated.entryId = e₂.entryId ∧ migrated.version = 3 ∧ 2 ≤ migrated.minorVersion ∧
      migrated.options = e₂.options := by
  unfold migrateMinor movedIds
  by_cases hminor : e₂.minorVersion < 2
  · refine ⟨{ e₂ with minorVersion := 2 }, fun registry h => ?_, rfl, hversion, le_refl 2, rfl⟩
    rw [if_pos ⟨hversion, hminor⟩, if_pos hminor, asyncMigrateEntries_scopes h]
    rfl
  · refine ⟨e₂, fun registry _ => ?_, rfl, hversion, not_lt.mp hminor, rfl⟩
    rw [if_neg fun hboth => hminor hboth.2, if_neg hminor]
    refine congrArg (fun registry => Except.ok (e₂, registry)) ?_
    exact ((List.map_congr_left fun e _ => scopedIn_nil _ e).trans (List.map_id' registry)).symm

/-- **The stages of an update** of an entry, and what comes of it. -/
theorem asyncMigrateEntry_stages (uids : ℕ → String) {entry : ConfigEntry} (hentry : Written T entry) :
    ∃ e₁ e₂ migrated, migrateV1 T entry = .ok e₁ ∧ migrateV2 uids e₁ = .ok e₂ ∧
      (∀ registry, Tidy registry → migrateMinor e₂ registry = .ok (migrated,
        registry.map (scopedIn RegistryEntry.configEntryId (movedIds entry)))) ∧
      e₁.version ≠ 1 ∧ e₂.version = 3 ∧ Migrated T uids entry migrated := by
  obtain ⟨e₁, hfirst, hrenamed⟩ := migrateV1_renames hentry
  have hrecipes : e₁.version = 2 → RecipesAre (fun _ => True) (recipesOf e₁.options) := by
    intro hv
    rcases hentry.version with h1 | h2 | h3
    · exact RecipesAre.of_moved (hrenamed.recipes h1).2
    · rw [hrenamed.untouched h2]
      exact hentry.second h2
    · rw [hrenamed.settled h3] at hv
      exact absurd (h3.symm.trans hv) (by decide)
  obtain ⟨e₂, hsecond, hminted⟩ := migrateV2_mints uids hrenamed.version hrecipes
  obtain ⟨migrated, hthird, hid, hversion, hminor, hoptions⟩ :=
    migrateMinor_scopes hminted.version
  have hmoved : movedIds e₂ = movedIds entry := by
    unfold movedIds
    rw [hminted.same.1, hminted.same.2, hrenamed.same.1, hrenamed.same.2]
  rw [hmoved] at hthird
  refine ⟨e₁, e₂, migrated, hfirst, hsecond, hthird, ?_, hminted.version, ?_⟩
  · rcases hrenamed.version with h2 | h3
    · rw [h2]
      decide
    · rw [h3]
      decide
  refine ⟨?_, ⟨hversion, hminor⟩, fun key hkey => ?_, fun hv => ?_, fun hv => ?_, ?_⟩
  · rw [hid, hminted.same.1, hrenamed.same.1]
  · rw [hoptions, hminted.options key hkey, hrenamed.options key hkey]
  · have hsame := hrenamed.settled hv
    rw [hoptions, hminted.settled (hsame ▸ hv), hsame]
  · rw [hoptions]
    rcases hentry.version with h1 | h2 | h3
    · obtain ⟨hv₁, hpours⟩ := hrenamed.recipes h1
      refine Moved.mono (fun m m' hboth => ?_) (Moved.trans hpours (hminted.recipes hv₁))
      obtain ⟨renamed, hbrewing, hidentified⟩ := hboth
      exact ⟨renamed, (if_pos h1).symm ▸ hbrewing, hidentified⟩
    · have hsame := hrenamed.untouched h2
      refine Moved.mono (fun m m' hidentified => ?_) (hsame ▸ hminted.recipes (hsame ▸ h2))
      refine ⟨m, ?_, hidentified⟩
      rw [if_neg (by rw [h2]; decide)]
    · exact absurd h3 hv
  · intro hinj hfresh hnodup
    have huids : uidsOf (recipesOf e₁.options) = uidsOf (recipesOf entry.options) := by
      rcases hentry.version with h1 | h2 | h3
      · exact uidsOf_renamed (hrenamed.recipes h1).2
      · rw [hrenamed.untouched h2]
      · rw [hrenamed.settled h3]
    rw [hoptions]
    exact hminted.uids hinj (huids ▸ hfresh) (huids ▸ hnodup)

/-! ### The whole update -/

/-- Whatever the stage it was interrupted after, an update goes on to the same end, and once more is
nothing more. -/
structure Resumes (T : Texts) (uids : ℕ → String) (entry : ConfigEntry) (registry : List RegistryEntry)
    (done : ConfigEntry × List RegistryEntry) : Prop where
  renamed : ∀ e₁, migrateV1 T entry = .ok e₁ → asyncMigrateEntry T uids e₁ registry = .ok done
  minted : ∀ uids' e₁ e₂, migrateV1 T entry = .ok e₁ → migrateV2 uids e₁ = .ok e₂ →
    asyncMigrateEntry T uids' e₂ registry = .ok done ∧ asyncMigrateEntry T uids' e₂ done.2 = .ok done
  again : ∀ uids', asyncMigrateEntry T uids' done.1 done.2 = .ok done

theorem asyncMigrateEntry_of_stages {uids : ℕ → String} {entry e₁ e₂ : ConfigEntry}
    {registry : List RegistryEntry} (hfirst : migrateV1 T entry = .ok e₁)
    (hsecond : migrateV2 uids e₁ = .ok e₂) :
    asyncMigrateEntry T uids entry registry = migrateMinor e₂ registry := by
  unfold asyncMigrateEntry
  rw [hfirst]
  show (migrateV2 uids e₁ >>= _) = _
  rw [hsecond]
  rfl

/-- **An update loses no recipe.**  An entry of any version comes out current: its other options are as
they were; its recipes are still there, in order, under their names, tombstones where they were, each
with its fields under their new names and all others as they were; and the uids it has kept and got are
all different.  An update that is interrupted goes on to the same end. -/
theorem migration_keeps_recipes (T : Texts) (uids : ℕ → String) (entry : ConfigEntry)
    (registry : List RegistryEntry) (hentry : Written T entry) (hregistry : Tidy registry) :
    ∃ done, asyncMigrateEntry T uids entry registry = .ok done ∧ Migrated T uids entry done.1 ∧
      Resumes T uids entry registry done := by
  obtain ⟨e₁, e₂, migrated, hfirst, hsecond, hthird, hv₁, hv₂, hmigrated⟩ :=
    asyncMigrateEntry_stages uids hentry
  have hdone := (asyncMigrateEntry_of_stages hfirst hsecond).trans (hthird registry hregistry)
  have hcurrent : ∀ entry : ConfigEntry, entry.version = 3 → ∀ uids' r,
      asyncMigrateEntry T uids' entry r = migrateMinor entry r := by
    intro entry hv uids' r
    refine asyncMigrateEntry_of_stages (if_neg ?_) (if_neg ?_)
    · rw [hv]
      decide
    · rw [hv]
      decide
  refine ⟨_, hdone, hmigrated, ?_, ?_, ?_⟩
  · intro e₁' hfirst'
    cases hfirst.symm.trans hfirst'
    exact (asyncMigrateEntry_of_stages (if_neg hv₁) hsecond).trans (hthird registry hregistry)
  · intro uids' e₁' e₂' hfirst' hsecond'
    cases hfirst.symm.trans hfirst'
    cases hsecond.symm.trans hsecond'
    refine ⟨(hcurrent e₂ hv₂ uids' _).trans (hthird registry hregistry),
      (hcurrent e₂ hv₂ uids' _).trans ((hthird _ (hregistry.scopedIn _ _)).trans ?_)⟩
    rw [List.map_map]
    refine congrArg (fun r => Except.ok (migrated, r)) (List.map_congr_left fun e _ => ?_)
    show scopedIn _ _ (scopedIn _ _ e) = _
    rw [scopedIn_scopedIn fun e => (scopeEntity_kept e).2.2]
    exact if_congr (List.mem_append.trans or_self_iff) rfl rfl
  · intro uids'
    rw [hcurrent migrated hmigrated.current.1]
    exact if_neg fun hboth => absurd hboth.2 (not_lt.mpr hmigrated.current.2)

/-- The first machine's entry: a recipe with its old field names and a tombstone. -/
def firstEntry : ConfigEntry where
  entryId := "entryA"
  version := 1
  minorVersion := 1
  options := [("mode", .str "pro"), ("recipes", .dict [("Morning", .dict [("name", .str "Morning"),
    ("bean_weight", .float 15), ("total_water", .float 240), ("grind_size", .int 60),
    ("pours", .list [.dict [("volume", .int 240), ("temperature", .int 93), ("pausing", .int 5)]])]),
    ("Evening", .none)])]

/-- The entities there are: two of the first machine under the old ids, one of another that has been
moved over. -/
def oldRegistry : List RegistryEntry :=
  [⟨"button.xbloom_grind", "button", "xbloom_grind", "entryA"⟩,
    ⟨"select.xbloom_recipe", "select", "xbloom_recipe", "entryA"⟩,
    ⟨"sensor.kitchen_state", "sensor", "entryB_xbloom_state", "entryB"⟩]

theorem firstEntry_written : Written plainTexts firstEntry := by
  refine ⟨Or.inl rfl, fun _ e he => ?_, nofun⟩
  have hcases : e = ("Morning", .dict [("name", .str "Morning"), ("bean_weight", .float 15),
      ("total_water", .float 240), ("grind_size", .int 60),
      ("pours", .list [.dict [("volume", .int 240), ("temperature", .int 93), ("pausing", .int 5)]])]) ∨
      e = ("Evening", .none) := by
    simpa [recipesOf, firstEntry, Cloud.get, getOr, pyOr, PyVal.truthy, List.lookup_cons] using he
  rcases hcases with rfl | rfl
  · exact Or.inr ⟨_, rfl, ⟨rfl, rfl, ⟨[_], rfl⟩⟩⟩
  · exact Or.inl rfl

theorem oldRegistry_tidy : Tidy oldRegistry := by
  have hA : EntryIdOk "entryA" := ⟨by decide, by decide⟩
  have hB : EntryIdOk "entryB" := ⟨by decide, by decide⟩
  refine ⟨by decide, ?_, ?_, ?_⟩
  · intro e he
    simp only [oldRegistry, List.mem_cons, List.not_mem_nil, or_false] at he
    rcases he with rfl | rfl | rfl
    · exact hA
    · exact hA
    · exact hB
  · intro e he
    simp only [oldRegistry, List.mem_cons, List.not_mem_nil, or_false] at he
    rcases he with rfl | rfl | rfl
    · exact ⟨"xbloom_grind", ⟨"grind", rfl⟩, Or.inl rfl⟩
    · exact ⟨"xbloom_recipe", ⟨"recipe", rfl⟩, Or.inl rfl⟩
    · exact ⟨"xbloom_state", ⟨"state", rfl⟩, Or.inr rfl⟩
  · -- No two are of one machine and one domain.
    intro a ha b hb _ hentry hdomain _ _
    simp only [oldRegistry, List.mem_cons, List.not_mem_nil, or_false] at ha hb
    rcases ha with rfl | rfl | rfl <;> rcases hb with rfl | rfl | rfl
    all_goals first | rfl | exact absurd hdomain (by decide)

theorem firstEntry_migrated :
    ∃ done, asyncMigrateEntry plainTexts (fun n => s!"uid{n}") firstEntry oldRegistry = .ok done ∧
      Migrated plainTexts (fun n => s!"uid{n}") firstEntry done.1 ∧
      Resumes plainTexts (fun n => s!"uid{n}") firstEntry oldRegistry done :=
  migration_keeps_recipes _ _ _ _ firstEntry_written oldRegistry_tidy

/-! ## Machine by machine -/

/-- The updates of several entries, or of one several times, one after the other; each with the uids it
would mint. -/
def migrateAll (T : Texts) : List (ConfigEntry × (ℕ → String)) → List RegistryEntry →
    Except PyErr (List ConfigEntry × List RegistryEntry)
  | [], registry => .ok ([], registry)
  | run :: rest, registry => do
    let done ← asyncMigrateEntry T run.2 run.1 registry
    let others ← migrateAll T rest done.2
    return (done.1 :: others.1, others.2)

/-- The induction is on the updates that are left, in whatever registry those before have made. -/
theorem migrateAll_scopes : ∀ (runs : List (ConfigEntry × (ℕ → String))) (registry : List RegistryEntry),
    (∀ run ∈ runs, Written T run.1) → Tidy registry →
    ∃ migrated, migrateAll T runs registry = .ok (migrated, registry.map
        (scopedIn RegistryEntry.configEntryId (runs.flatMap fun run => movedIds run.1))) ∧
      List.Forall₂ (fun run entry => Migrated T run.2 run.1 entry) runs migrated := by
  intro runs
  induction runs with
  | nil =>
    intro registry _ _
    refine ⟨[], congrArg (fun r => Except.ok ([], r)) ?_, .nil⟩
    exact ((List.map_congr_left fun e _ => scopedIn_nil _ e).trans (List.map_id' registry)).symm
  | cons run rest ih =>
    intro registry hruns hregistry
    obtain ⟨e₁, e₂, migrated, hfirst, hsecond, hthird, -, -, hmigrated⟩ :=
      asyncMigrateEntry_stages run.2 (hruns run List.mem_cons_self)
    have hdone := (asyncMigrateEntry_of_stages hfirst hsecond).trans (hthird registry hregistry)
    obtain ⟨others, hothers, hall⟩ := ih _ (fun r hr => hruns r (List.mem_cons_of_mem run hr))
      (hregistry.scopedIn RegistryEntry.configEntryId (movedIds run.1))
    refine ⟨migrated :: others, ?_, .cons hmigrated hall⟩
    unfold migrateAll
    rw [hdone]
    show (migrateAll T rest (registry.map _) >>= _) = _
    rw [hothers, List.map_map]
    refine congrArg (fun r => Except.ok (migrated :: others, r)) (List.map_congr_left fun e _ => ?_)
    exact scopedIn_scopedIn (fun e => (scopeEntity_kept e).2.2) _ _ e

/-- **A machine finds its entities again.**  Whichever machines' entries are updated, in whatever order
and however often, every update succeeds; and afterwards each of these machines' platforms, looking for
the entities of their classes under their new ids, find those the machine has had before: no entity is
lost, none is made twice, and none of another machine's is taken.  The registry's other entities, and
all but the unique ids of these, are as they were. -/
theorem entities_found_again (T : Texts) (runs : List (ConfigEntry × (ℕ → String)))
    (registry : List RegistryEntry) (hruns : ∀ run ∈ runs, Written T run.1 ∧ EntryIdOk run.1.entryId)
    (hregistry : Tidy registry) :
    ∃ migrated registry', migrateAll T runs registry = .ok (migrated, registry') ∧
      List.Forall₂ (fun run entry => Migrated T run.2 run.1 entry) runs migrated ∧
      (∀ run ∈ runs, run.1.minorVersion < 2 → ∀ domain hs, (∀ h ∈ hs, Historical h) →
        (scopeUniqueIds run.1.entryId hs).map (asyncGetEntityId registry' domain) =
          hs.map (classEntityId registry run.1.entryId domain)) ∧
      List.Forall₂ (fun e e' => e'.entityId = e.entityId ∧ e'.domain = e.domain ∧
        e'.configEntryId = e.configEntryId ∧ ((∀ run ∈ runs, run.1.entryId = e.configEntryId →
          2 ≤ run.1.minorVersion) → e' = e)) registry registry' ∧
      Tidy registry' := by
  obtain ⟨migrated, hreturns, hall⟩ :=
    migrateAll_scopes runs registry (fun run hrun => (hruns run hrun).1) hregistry
  have hmem : ∀ run ∈ runs, run.1.minorVersion < 2 →
      run.1.entryId ∈ runs.flatMap fun run => movedIds run.1 := by
    intro run hrun hminor
    refine List.mem_flatMap.mpr ⟨run, hrun, ?_⟩
    unfold movedIds
    rw [if_pos hminor]
    exact List.mem_singleton_self _
  refine ⟨migrated, _, hreturns, hall, ?_, ?_, hregistry.scopedIn _ _⟩
  · intro run hrun hminor domain hs hhs
    unfold scopeUniqueIds
    rw [List.map_map]
    refine List.map_congr_left fun h hh => ?_
    exact asyncGetEntityId_scoped hregistry (hmem run hrun hminor) (hruns run hrun).2 domain (hhs h hh)
  · refine List.forall₂_map_right_iff.mpr (List.forall₂_same.mpr fun e _ => ?_)
    obtain ⟨hid, hdomain, hentry⟩ :=
      scopedIn_kept RegistryEntry.configEntryId (runs.flatMap fun run => movedIds run.1) e
    refine ⟨hid, hdomain, hentry, fun hcurrent => if_neg fun hin => ?_⟩
    obtain ⟨run, hrun, hin⟩ := List.mem_flatMap.mp hin
    unfold movedIds at hin
    split at hin
    · rename_i hminor
      exact absurd (hcurrent run hrun (List.mem_singleton.mp hin).symm) (not_le.mpr hminor)
    · exact absurd hin List.not_mem_nil

/-- The first machine's update is interrupted and made again: its platforms find both entities. -/
theorem first_found_again :
    ∃ migrated registry', migrateAll plainTexts
        [(firstEntry, fun n => s!"uid{n}"), (firstEntry, fun n => s!"again{n}")] oldRegistry =
          .ok (migrated, registry') ∧
      asyncGetEntityId registry' "button" "entryA_xbloom_grind" = some "button.xbloom_grind" ∧
      asyncGetEntityId registry' "select" "entryA_xbloom_pour_pattern" = none := by
  have hid : EntryIdOk "entryA" := ⟨by decide, by decide⟩
  obtain ⟨migrated, registry', hreturns, -, hfound, -⟩ := entities_found_again plainTexts
    [(firstEntry, fun n => s!"uid{n}"), (firstEntry, fun n => s!"again{n}")] oldRegistry
    (by simpa using ⟨firstEntry_written, hid⟩) oldRegistry_tidy
  have hgrind := hfound _ List.mem_cons_self (by decide) "button" ["xbloom_grind"]
    (by simpa using ⟨"grind", rfl⟩)
  have hpattern := hfound _ List.mem_cons_self (by decide) "select" ["xbloom_pour_pattern"]
    (by simpa using ⟨"pour_pattern", rfl⟩)
  refine ⟨migrated, registry', hreturns, ?_, ?_⟩
  · exact (List.cons.inj hgrind).1
  · exact (List.cons.inj hpattern).1

end

end XBloom.Setup
