/-
# XBloom.Setup.UniqueIds — one machine's entities and another's

An entity is known in the registry under its domain and its unique id.  The unique ids used to be the
same for all machines; now they begin with the config entry's id.  Moving an entry's entities over
happens one at a time in the registry, which refuses an id that is taken: in a registry that is `Tidy` it
never is, and exactly the entry's own entities are renamed (`asyncMigrateEntries_scopes`).
-/
import XBloom.Py.Url
import XBloom.Py.Number
import Mathlib.Data.List.Find

namespace XBloom.Setup

open XBloom.Py

/-! ## Unique ids -/

/-- `scoped_unique_id`. -/
def scopedUniqueId (entryId uniqueId : String) : String := entryId ++ "_" ++ uniqueId

/-- `scope_unique_ids`: the ids a platform adds its entities under, from those of their classes. -/
def scopeUniqueIds (entryId : String) (uniqueIds : List String) : List String :=
  uniqueIds.map (scopedUniqueId entryId)

/-- An entity in the registry: its entity id, the domain and the unique id it is known under, and the
config entry it belongs to. -/
structure RegistryEntry where
  entityId : String
  domain : String
  uniqueId : String
  configEntryId : String
  deriving DecidableEq

/-- `async_get_entity_id`. -/
def asyncGetEntityId (registry : List RegistryEntry) (domain uniqueId : String) : Option String :=
  (registry.find? fun e => decide (e.domain = domain ∧ e.uniqueId = uniqueId)).map
    RegistryEntry.entityId

/-- `async_update_entity(entity_id, new_unique_id=...)`. -/
def asyncUpdateEntity (registry : List RegistryEntry) (entity : RegistryEntry) (newUniqueId : String) :
    Except PyErr (List RegistryEntry) :=
  if (asyncGetEntityId registry entity.domain newUniqueId).isSome then
    .error (.valueError [.lit "Unique id is already in use"])
  else
    .ok (registry.map fun e =>
      if e.entityId = entity.entityId then { e with uniqueId := newUniqueId } else e)

/-- The callback of `_scope_unique_id_migration`. -/
def scopeUniqueIdMigration (entryId : String) (entity : RegistryEntry) : Option String :=
  if (scopedUniqueId entryId "").toList <+: entity.uniqueId.toList then none
  else some (scopedUniqueId entryId entity.uniqueId)

/-- One entity of `async_migrate_entries`. -/
def migrateEntity (callback : RegistryEntry → Option String) (registry : List RegistryEntry)
    (entity : RegistryEntry) : Except PyErr (List RegistryEntry) :=
  match callback entity with
  | some newUniqueId => asyncUpdateEntity registry entity newUniqueId
  | none => .ok registry

/-- `async_migrate_entries`: the entry's own entities, one after the other. -/
def asyncMigrateEntries (entryId : String) (callback : RegistryEntry → Option String)
    (registry : List RegistryEntry) : Except PyErr (List RegistryEntry) :=
  (registry.filter fun e => decide (e.configEntryId = entryId)).foldlM (migrateEntity callback) registry

/-! ## Names -/

/-- Home Assistant's entry ids have no underscore, and none is the integration's name. -/
structure EntryIdOk (entryId : String) : Prop where
  plain : '_' ∉ entryId.toList
  other : entryId ≠ "xbloom"

/-- The ids of the entity classes. -/
def Historical (h : String) : Prop := ∃ rest, h = scopedUniqueId "xbloom" rest

theorem toList_scopedUniqueId (entryId uniqueId : String) :
    (scopedUniqueId entryId uniqueId).toList = entryId.toList ++ '_' :: uniqueId.toList := by
  unfold scopedUniqueId
  rw [String.toList_append, String.toList_append, List.append_assoc]
  rfl

/-- The entry is what stands before the first underscore. -/
theorem scopedUniqueId_inj {a b x y : String} (ha : '_' ∉ a.toList) (hb : '_' ∉ b.toList)
    (h : scopedUniqueId a x = scopedUniqueId b y) : a = b ∧ x = y := by
  have hlists := congrArg String.toList h
  rw [toList_scopedUniqueId, toList_scopedUniqueId] at hlists
  have hcut := cut_append ha x.toList
  rw [hlists] at hcut
  have hcut' := cut_append hb y.toList
  exact ⟨String.toList_inj.mp (hcut.1.symm.trans hcut'.1),
    String.toList_inj.mp (hcut.2.symm.trans hcut'.2)⟩

theorem EntryIdOk.ne_historical {entryId h x : String} (hid : EntryIdOk entryId) (hh : Historical h) :
    h ≠ scopedUniqueId entryId x := by
  obtain ⟨rest, rfl⟩ := hh
  intro heq
  exact hid.other (scopedUniqueId_inj (by decide) hid.plain heq).1.symm

theorem startsWith_scoped (entryId uniqueId : String) :
    (scopedUniqueId entryId "").toList <+: (scopedUniqueId entryId uniqueId).toList := by
  rw [toList_scopedUniqueId, toList_scopedUniqueId]
  exact ⟨uniqueId.toList, by simp⟩

theorem eq_scoped_of_startsWith {entryId uniqueId : String}
    (h : (scopedUniqueId entryId "").toList <+: uniqueId.toList) :
    ∃ x, uniqueId = scopedUniqueId entryId x := by
  obtain ⟨rest, hrest⟩ := h
  refine ⟨String.ofList rest, String.toList_inj.mp ?_⟩
  rw [toList_scopedUniqueId] at hrest ⊢
  rw [← hrest, String.toList_ofList]
  simp

/-! ## Entities -/

/-- The entity is of the class with this id, whether it has been moved over or not. -/
structure Named (e : RegistryEntry) (h : String) : Prop where
  historical : Historical h
  known : e.uniqueId = h ∨ e.uniqueId = scopedUniqueId e.configEntryId h

/-- The entity, moved over. -/
def scopeEntity (e : RegistryEntry) : RegistryEntry :=
  match scopeUniqueIdMigration e.configEntryId e with
  | some newUniqueId => { e with uniqueId := newUniqueId }
  | none => e

/-- **What the integration puts into the registry**: entities of its classes, each class at most once in
a machine and a domain. -/
structure Tidy (registry : List RegistryEntry) : Prop where
  entityIds : (registry.map RegistryEntry.entityId).Nodup
  entries : ∀ e ∈ registry, EntryIdOk e.configEntryId
  named : ∀ e ∈ registry, ∃ h, Named e h
  apart : ∀ a ∈ registry, ∀ b ∈ registry, ∀ h, a.configEntryId = b.configEntryId →
    a.domain = b.domain → Named a h → Named b h → a = b

section
variable {e : RegistryEntry} {h : String}

theorem scopeUniqueIdMigration_scoped (hid : e.uniqueId = scopedUniqueId e.configEntryId h) :
    scopeUniqueIdMigration e.configEntryId e = none := by
  unfold scopeUniqueIdMigration
  rw [if_pos (hid ▸ startsWith_scoped _ _)]

theorem scopeUniqueIdMigration_plain (hok : EntryIdOk e.configEntryId) (hid : e.uniqueId = h)
    (hh : Historical h) :
    scopeUniqueIdMigration e.configEntryId e = some (scopedUniqueId e.configEntryId h) := by
  unfold scopeUniqueIdMigration
  rw [if_neg, hid]
  intro hprefix
  obtain ⟨x, hx⟩ := eq_scoped_of_startsWith hprefix
  exact hok.ne_historical hh (hid.symm.trans hx)

/-- What moving over leaves alone. -/
theorem scopeEntity_kept (e : RegistryEntry) :
    (scopeEntity e).entityId = e.entityId ∧ (scopeEntity e).domain = e.domain ∧
      (scopeEntity e).configEntryId = e.configEntryId := by
  unfold scopeEntity
  split
  · exact ⟨rfl, rfl, rfl⟩
  · exact ⟨rfl, rfl, rfl⟩

/-- Moved over, an entity has the id its platform adds it under. -/
theorem uniqueId_scopeEntity (hok : EntryIdOk e.configEntryId) (hnamed : Named e h) :
    (scopeEntity e).uniqueId = scopedUniqueId e.configEntryId h := by
  unfold scopeEntity
  rcases hnamed.known with hplain | hscoped
  · rw [scopeUniqueIdMigration_plain hok hplain hnamed.historical]
  · rw [scopeUniqueIdMigration_scoped hscoped]
    exact hscoped

theorem named_scopeEntity (hok : EntryIdOk e.configEntryId) (hnamed : Named e h) :
    Named (scopeEntity e) h := by
  refine ⟨hnamed.historical, Or.inr ?_⟩
  rw [(scopeEntity_kept e).2.2]
  exact uniqueId_scopeEntity hok hnamed

/-- Once is enough. -/
theorem scopeEntity_idem (e : RegistryEntry) : scopeEntity (scopeEntity e) = scopeEntity e := by
  cases hc : scopeUniqueIdMigration e.configEntryId e with
  | none =>
    have hsame : scopeEntity e = e := by
      unfold scopeEntity
      rw [hc]
    rw [hsame, hsame]
  | some new =>
    have hnew : new = scopedUniqueId e.configEntryId e.uniqueId := by
      unfold scopeUniqueIdMigration at hc
      split at hc
      · cases hc
      · exact (Option.some.inj hc).symm
    have hscoped : scopeEntity e = { e with uniqueId := scopedUniqueId e.configEntryId e.uniqueId } := by
      unfold scopeEntity
      rw [hc, hnew]
    rw [hscoped]
    conv_lhs => unfold scopeEntity
    rw [scopeUniqueIdMigration_scoped (h := e.uniqueId) rfl]

/-- An entity is of one class. -/
theorem Named.unique {h' : String} (hok : EntryIdOk e.configEntryId) (hnamed : Named e h)
    (hnamed' : Named e h') : h = h' := by
  rcases hnamed.known with hplain | hscoped
  · rcases hnamed'.known with hplain' | hscoped'
    · exact hplain.symm.trans hplain'
    · exact absurd (hplain.symm.trans hscoped') (hok.ne_historical hnamed.historical)
  · rcases hnamed'.known with hplain' | hscoped'
    · exact absurd (hplain'.symm.trans hscoped) (hok.ne_historical hnamed'.historical)
    · exact (scopedUniqueId_inj hok.plain hok.plain (hscoped.symm.trans hscoped')).2

end

/-! ## The registry -/

/-- The entity, moved over if its `key` is one of these. -/
def scopedIn (key : RegistryEntry → String) (keys : List String) (e : RegistryEntry) : RegistryEntry :=
  if key e ∈ keys then scopeEntity e else e

theorem scopedIn_kept (key : RegistryEntry → String) (keys : List String) (e : RegistryEntry) :
    (scopedIn key keys e).entityId = e.entityId ∧ (scopedIn key keys e).domain = e.domain ∧
      (scopedIn key keys e).configEntryId = e.configEntryId := by
  unfold scopedIn
  split
  · exact scopeEntity_kept e
  · exact ⟨rfl, rfl, rfl⟩

@[simp] theorem scopedIn_nil (key : RegistryEntry → String) (e : RegistryEntry) :
    scopedIn key [] e = e := if_neg List.not_mem_nil

theorem scopedIn_scopedIn {key : RegistryEntry → String} (hkey : ∀ e, key (scopeEntity e) = key e)
    (l l' : List String) (e : RegistryEntry) :
    scopedIn key l' (scopedIn key l e) = scopedIn key (l ++ l') e := by
  unfold scopedIn
  by_cases hl : key e ∈ l
  · rw [if_pos hl, if_pos (List.mem_append_left _ hl), hkey, scopeEntity_idem, ite_self]
  · rw [if_neg hl]
    have hiff : key e ∈ l ++ l' ↔ key e ∈ l' := by
      rw [List.mem_append]
      exact or_iff_right hl
    rw [if_congr hiff rfl rfl]

section
variable {registry : List RegistryEntry} (h : Tidy registry)
include h

theorem Tidy.eq_of_entityId {a b : RegistryEntry} (ha : a ∈ registry) (hb : b ∈ registry)
    (heq : a.entityId = b.entityId) : a = b :=
  List.inj_on_of_nodup_map h.entityIds ha hb heq

/-- Moving entities over keeps a registry tidy. -/
theorem Tidy.scopedIn (key : RegistryEntry → String) (keys : List String) :
    Tidy (registry.map (scopedIn key keys)) := by
  have hback : ∀ e ∈ registry, ∀ n, Named (Setup.scopedIn key keys e) n → Named e n := by
    intro e he n hn
    obtain ⟨m, hm⟩ := h.named e he
    have hok := h.entries e he
    unfold Setup.scopedIn at hn
    split at hn
    · have hm' := named_scopeEntity hok hm
      have hok' : EntryIdOk (scopeEntity e).configEntryId := by
        rw [(scopeEntity_kept e).2.2]
        exact hok
      exact hm'.unique hok' hn ▸ hm
    · exact hn
  refine ⟨?_, ?_, ?_, ?_⟩
  · rw [List.map_map]
    have hsame : RegistryEntry.entityId ∘ Setup.scopedIn key keys = RegistryEntry.entityId :=
      funext fun e => (scopedIn_kept key keys e).1
    rw [hsame]
    exact h.entityIds
  · intro moved hmoved
    obtain ⟨e, he, rfl⟩ := List.mem_map.mp hmoved
    rw [(scopedIn_kept key keys e).2.2]
    exact h.entries e he
  · intro moved hmoved
    obtain ⟨e, he, rfl⟩ := List.mem_map.mp hmoved
    obtain ⟨n, hn⟩ := h.named e he
    refine ⟨n, ?_⟩
    unfold Setup.scopedIn
    split
    · exact named_scopeEntity (h.entries e he) hn
    · exact hn
  · intro movedA hmovedA movedB hmovedB n hentry hdomain hna hnb
    obtain ⟨a, ha, rfl⟩ := List.mem_map.mp hmovedA
    obtain ⟨b, hb, rfl⟩ := List.mem_map.mp hmovedB
    obtain ⟨-, hda, hca⟩ := scopedIn_kept key keys a
    obtain ⟨-, hdb, hcb⟩ := scopedIn_kept key keys b
    rw [h.apart a ha b hb n (hca.symm.trans (hentry.trans hcb)) (hda.symm.trans (hdomain.trans hdb))
      (hback a ha n hna) (hback b hb n hnb)]

/-- The id an entity is to have is free. -/
theorem Tidy.free {t : RegistryEntry} (ht : t ∈ registry) {n : String} (hplain : t.uniqueId = n)
    (hn : Historical n) :
    asyncGetEntityId registry t.domain (scopedUniqueId t.configEntryId n) = none := by
  unfold asyncGetEntityId
  rw [Option.map_eq_none_iff, List.find?_eq_none]
  intro b hb htaken
  obtain ⟨hdomain, hid⟩ := of_decide_eq_true htaken
  obtain ⟨m, hm⟩ := h.named b hb
  have hok := h.entries t ht
  rcases hm.known with hplain' | hscoped
  · exact hok.ne_historical hm.historical (hplain'.symm.trans hid)
  · obtain ⟨hentry, rfl⟩ := scopedUniqueId_inj (h.entries b hb).plain hok.plain (hscoped.symm.trans hid)
    have hbt : b = t := h.apart b hb t ht m hentry hdomain hm ⟨hn, Or.inl hplain⟩
    exact hok.ne_historical hn (hplain.symm.trans (hbt ▸ hid))

/-- One entity. -/
theorem Tidy.step {t : RegistryEntry} (ht : t ∈ registry) :
    migrateEntity (scopeUniqueIdMigration t.configEntryId) registry t =
      .ok (registry.map (Setup.scopedIn RegistryEntry.entityId [t.entityId])) := by
  have hscoped : ∀ e ∈ registry, Setup.scopedIn RegistryEntry.entityId [t.entityId] e =
      if e.entityId = t.entityId then scopeEntity t else e := by
    intro e he
    unfold Setup.scopedIn
    rw [if_congr List.mem_singleton rfl rfl]
    by_cases heq : e.entityId = t.entityId
    · rw [if_pos heq, if_pos heq, h.eq_of_entityId he ht heq]
    · rw [if_neg heq, if_neg heq]
  obtain ⟨n, hn⟩ := h.named t ht
  have hok := h.entries t ht
  rcases hn.known with hplain | hmoved
  · have hnew := scopeUniqueIdMigration_plain hok hplain hn.historical
    have htarget : scopeEntity t = { t with uniqueId := scopedUniqueId t.configEntryId n } := by
      unfold scopeEntity
      rw [hnew]
    unfold migrateEntity asyncUpdateEntity
    rw [hnew]
    dsimp only
    rw [h.free ht hplain hn.historical]
    refine congrArg Except.ok (List.map_congr_left fun e he => ?_)
    rw [hscoped e he, htarget]
    by_cases heq : e.entityId = t.entityId
    · rw [if_pos heq, if_pos heq, h.eq_of_entityId he ht heq]
    · rw [if_neg heq, if_neg heq]
  · have hsame : scopeEntity t = t := by
      unfold scopeEntity
      rw [scopeUniqueIdMigration_scoped hmoved]
    unfold migrateEntity
    rw [scopeUniqueIdMigration_scoped hmoved]
    refine congrArg Except.ok ((List.map_id' registry).symm.trans (List.map_congr_left fun e he => ?_))
    rw [hscoped e he, hsame]
    split
    · rename_i heq
      exact h.eq_of_entityId he ht heq
    · rfl

end

/-- Entities one after the other.  The induction is on those that are left; what is done already has
left them, and the tidiness of the registry, alone. -/
theorem foldlM_scopes {entryId : String} : ∀ (todo registry : List RegistryEntry), Tidy registry →
    (∀ t ∈ todo, t ∈ registry ∧ t.configEntryId = entryId) →
    (todo.map RegistryEntry.entityId).Nodup →
    todo.foldlM (migrateEntity (scopeUniqueIdMigration entryId)) registry =
      .ok (registry.map (scopedIn RegistryEntry.entityId (todo.map RegistryEntry.entityId))) := by
  intro todo
  induction todo with
  | nil =>
    intro registry _ _ _
    refine congrArg Except.ok ((List.map_id' registry).symm.trans (List.map_congr_left fun e _ => ?_))
    exact (scopedIn_nil RegistryEntry.entityId e).symm
  | cons t rest ih =>
    intro registry h htodo hnodup
    obtain ⟨ht, rfl⟩ := htodo t List.mem_cons_self
    obtain ⟨hfresh, hrest⟩ := List.nodup_cons.mp hnodup
    rw [List.foldlM_cons, h.step ht]
    show rest.foldlM _ (registry.map (scopedIn RegistryEntry.entityId [t.entityId])) = _
    rw [ih _ (h.scopedIn RegistryEntry.entityId [t.entityId]) ?_ hrest, List.map_map]
    · refine congrArg Except.ok (List.map_congr_left fun e _ => ?_)
      exact scopedIn_scopedIn (fun e => (scopeEntity_kept e).1) [t.entityId] _ e
    · intro r hr
      obtain ⟨hmem, hentry⟩ := htodo r (List.mem_cons_of_mem t hr)
      refine ⟨List.mem_map.mpr ⟨r, hmem, if_neg fun heq => hfresh ?_⟩, hentry⟩
      exact List.mem_map.mpr ⟨r, hr, List.mem_singleton.mp heq⟩

/-- The entities of the entry are those whose entity ids the entry's entities have. -/
theorem scopedIn_entityIds {registry : List RegistryEntry} (h : Tidy registry) (entryId : String) :
    registry.map (scopedIn RegistryEntry.entityId
      ((registry.filter fun e => decide (e.configEntryId = entryId)).map RegistryEntry.entityId)) =
      registry.map (scopedIn RegistryEntry.configEntryId [entryId]) := by
  refine List.map_congr_left fun e he => ?_
  unfold scopedIn
  refine if_congr (Iff.trans ⟨fun hmem => ?_, fun hentry => ?_⟩ List.mem_singleton.symm) rfl rfl
  · obtain ⟨e', he', hid⟩ := List.mem_map.mp hmem
    obtain ⟨hmem', hentry⟩ := List.mem_filter.mp he'
    rw [h.eq_of_entityId he hmem' hid.symm]
    exact of_decide_eq_true hentry
  · exact List.mem_map.mpr ⟨e, List.mem_filter.mpr ⟨he, decide_eq_true hentry⟩, rfl⟩

/-- **A machine's entities are moved over**, all of them and no others, and the registry refuses
nothing. -/
theorem asyncMigrateEntries_scopes {registry : List RegistryEntry} (h : Tidy registry)
    (entryId : String) :
    asyncMigrateEntries entryId (scopeUniqueIdMigration entryId) registry =
      .ok (registry.map (scopedIn RegistryEntry.configEntryId [entryId])) := by
  unfold asyncMigrateEntries
  rw [foldlM_scopes _ registry h]
  · exact congrArg Except.ok (scopedIn_entityIds h entryId)
  · intro t ht
    obtain ⟨hmem, hentry⟩ := List.mem_filter.mp ht
    exact ⟨hmem, of_decide_eq_true hentry⟩
  · exact h.entityIds.sublist (List.filter_sublist.map _)

/-! ## Finding entities -/

/-- The entity of a machine and of a class, moved over or not. -/
def classEntityId (registry : List RegistryEntry) (entryId domain h : String) : Option String :=
  (registry.find? fun e => decide (e.configEntryId = entryId ∧ e.domain = domain ∧
    (e.uniqueId = h ∨ e.uniqueId = scopedUniqueId entryId h))).map RegistryEntry.entityId

/-- **Where a machine's entities have been moved over, its platforms find them**, each its own, and none
of another machine's. -/
theorem asyncGetEntityId_scoped {registry : List RegistryEntry} (h : Tidy registry)
    {entryIds : List String} {entryId : String} (hmem : entryId ∈ entryIds) (hid : EntryIdOk entryId)
    (domain : String) {n : String} (hn : Historical n) :
    asyncGetEntityId (registry.map (scopedIn RegistryEntry.configEntryId entryIds)) domain
      (scopedUniqueId entryId n) = classEntityId registry entryId domain n := by
  unfold asyncGetEntityId classEntityId
  rw [List.find?_map, Option.map_map]
  have hsame : RegistryEntry.entityId ∘ scopedIn RegistryEntry.configEntryId entryIds =
      RegistryEntry.entityId := funext fun e => (scopedIn_kept _ entryIds e).1
  rw [hsame]
  refine congrArg _ (List.find?_congr fun e he => ?_)
  have hok := h.entries e he
  obtain ⟨m, hm⟩ := h.named e he
  refine decide_eq_decide.mpr ?_
  rw [(scopedIn_kept _ entryIds e).2.1]
  by_cases hentry : e.configEntryId = entryId
  · have hscoped : scopedIn RegistryEntry.configEntryId entryIds e = scopeEntity e :=
      if_pos (hentry.symm ▸ hmem)
    rw [hscoped, uniqueId_scopeEntity hok hm, hentry]
    constructor
    · rintro ⟨hdomain, hunique⟩
      obtain ⟨-, rfl⟩ := scopedUniqueId_inj hid.plain hid.plain hunique
      exact ⟨rfl, hdomain, hentry ▸ hm.known⟩
    · rintro ⟨-, hdomain, hknown⟩
      exact ⟨hdomain, by rw [hm.unique hok ⟨hn, hentry.symm ▸ hknown⟩]⟩
  · refine iff_of_false ?_ fun hboth => hentry hboth.1
    rintro ⟨-, hunique⟩
    have hknown : (scopedIn RegistryEntry.configEntryId entryIds e).uniqueId = m ∨
        (scopedIn RegistryEntry.configEntryId entryIds e).uniqueId =
          scopedUniqueId e.configEntryId m := by
      unfold scopedIn
      split
      · exact Or.inr (uniqueId_scopeEntity hok hm)
      · exact hm.known
    rcases hknown with hplain | hother
    · exact hid.ne_historical hm.historical (hplain.symm.trans hunique)
    · exact hentry (scopedUniqueId_inj hok.plain hid.plain (hother.symm.trans hunique)).1

end XBloom.Setup
