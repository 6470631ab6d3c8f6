/-
# XBloom.Cloud.PodSave — saving a scanned pod's recipes, once each

`save_pod_recipes` passes over an entry that it takes for saved: by its share link, or by its name among
the pods when it has none.  The rest it saves under a name that is free.  A second call must find all that
the first one saved; it does where the first call left a mark that the second looks for.  It leaves none
for a link without a share id, and none for a name that it had to change.
-/
import XBloom.Cloud.Reimport
import XBloom.Recipe.Refine

namespace XBloom.Cloud

open XBloom.Py XBloom.Recipe

variable (T : CloudTexts) (yaml : YamlLayer)

/-! ## What a call saves -/

/-- What `RECIPE_SCHEMA` makes of an entry. -/
def podRecipe (raw : PyMap) : Except Invalid RecipeDict :=
  recipeSchema T.toTextNumbers
    (.dict (raw.filter fun e => decide (e.1 ≠ "share_url") || e.2.truthy))

/-- An entry's link finds a recipe. -/
def LinkFound (visible : Dict String RecipeDict) (raw : PyMap) : Prop :=
  podShareUrl T.identifiers raw ≠ "" ∧
    (findRecipe T.identifiers visible (podShareUrl T.identifiers raw)).isSome = true

/-- An entry has no link, and a pod has its name. -/
def NameFound (visible : Dict String RecipeDict) (raw : PyMap) : Prop :=
  podShareUrl T.identifiers raw = "" ∧
    visible.entries.any (fun e => decide (e.2.source = some "pod" ∧ some e.1 = podName raw)) = true

instance (visible : Dict String RecipeDict) (raw : PyMap) : Decidable (LinkFound T visible raw) :=
  instDecidableAnd

instance (visible : Dict String RecipeDict) (raw : PyMap) : Decidable (NameFound T visible raw) :=
  instDecidableAnd

/-- The entries a call saves, in order, and what it stores for each. -/
def podsSaved (visible : Dict String RecipeDict) : List (PyMap × String) → List (PyMap × RecipeDict)
  | [] => []
  | (raw, uid) :: rest =>
    if LinkFound T visible raw then podsSaved visible rest
    else if NameFound T visible raw then podsSaved visible rest
    else match podRecipe T raw with
      | .error _ => podsSaved visible rest
      | .ok validated =>
        let stored := validated.saveAs (dedupeName validated.name visible.keys) uid "pod"
        (raw, stored) :: podsSaved (visible.insert stored.name stored) rest

variable {T} {visible : Dict String RecipeDict} {raw : PyMap}

theorem podsSaved_found (h : LinkFound T visible raw ∨ NameFound T visible raw) (uid : String)
    (rest : List (PyMap × String)) :
    podsSaved T visible ((raw, uid) :: rest) = podsSaved T visible rest := by
  rw [podsSaved]
  split_ifs with hlink hname
  · rfl
  · rfl
  · exact absurd h (not_or.mpr ⟨hlink, hname⟩)

theorem podsSaved_invalid {e : Invalid} (h : podRecipe T raw = .error e) (uid : String)
    (rest : List (PyMap × String)) :
    podsSaved T visible ((raw, uid) :: rest) = podsSaved T visible rest := by
  rw [podsSaved, h]
  split_ifs
  · rfl
  · rfl
  · rfl

theorem podsSaved_new {validated : RecipeDict} (hlink : ¬ LinkFound T visible raw)
    (hname : ¬ NameFound T visible raw) (h : podRecipe T raw = .ok validated) (uid : String)
    (rest : List (PyMap × String)) :
    podsSaved T visible ((raw, uid) :: rest) =
      (raw, validated.saveAs (dedupeName validated.name visible.keys) uid "pod") ::
        podsSaved T (visible.insert (dedupeName validated.name visible.keys)
          (validated.saveAs (dedupeName validated.name visible.keys) uid "pod")) rest := by
  rw [podsSaved, h, if_neg hlink, if_neg hname]
  rfl

/-- The recipes of a dictionary after more were stored. -/
def storeAll (options : Dict String (Option RecipeDict)) (saved : List (PyMap × RecipeDict)) :
    Dict String (Option RecipeDict) :=
  saved.foldl (fun options e => options.insert e.2.name (some e.2)) options

/-- **The loop of `save_pod_recipes` stores what it saves**, and nothing else. -/
theorem savePods_eq (l : List (PyMap × String)) (options : Dict String (Option RecipeDict))
    (visible : Dict String RecipeDict) (added : List String) :
    savePods T.identifiers options visible added l =
      (storeAll options (podsSaved T visible l),
        added ++ (podsSaved T visible l).map fun e => e.2.name) := by
  induction l generalizing options visible added with
  | nil => simp [savePods, podsSaved, storeAll]
  | cons entry rest ih =>
    obtain ⟨raw, uid⟩ := entry
    unfold savePods
    dsimp only
    by_cases hlink : LinkFound T visible raw
    · rw [if_pos (show _ ∧ _ from hlink), podsSaved_found (Or.inl hlink)]
      exact ih options visible added
    rw [if_neg (show ¬ (_ ∧ _) from hlink)]
    by_cases hname : NameFound T visible raw
    · rw [if_pos (show _ ∧ _ from hname), podsSaved_found (Or.inr hname)]
      exact ih options visible added
    rw [if_neg (show ¬ (_ ∧ _) from hname)]
    cases hrecipe : podRecipe T raw with
    | error e =>
      rw [podsSaved_invalid hrecipe, show recipeSchema T.identifiers.texts _ = _ from hrecipe]
      exact ih options visible added
    | ok validated =>
      rw [podsSaved_new hlink hname hrecipe, show recipeSchema T.identifiers.texts _ = _ from hrecipe]
      dsimp only
      rw [ih, List.map_cons, List.append_assoc]
      rfl

/-! ## What is visible afterwards -/

/-- What was visible still is. -/
def StillShows (visible visible' : Dict String RecipeDict) : Prop :=
  ∀ n r, visible.get? n = some r → visible'.get? n = some r

theorem LinkFound.still {visible' : Dict String RecipeDict} (hshows : StillShows visible visible')
    (h : LinkFound T visible raw) : LinkFound T visible' raw := by
  obtain ⟨hne, hfound⟩ := h
  obtain ⟨hstrip, n, r, hget, hanswers⟩ := (findRecipe_isSome_iff _).mp hfound
  exact ⟨hne, (findRecipe_isSome_iff _).mpr ⟨hstrip, n, r, hshows n r hget, hanswers⟩⟩

/-- A pod of the entry's name is visible. -/
theorem nameFound_iff : NameFound T visible raw ↔ podShareUrl T.identifiers raw = "" ∧
    ∃ name r, podName raw = some name ∧ visible.get? name = some r ∧ r.source = some "pod" := by
  refine and_congr_right fun _ => ?_
  rw [List.any_eq_true]
  constructor
  · rintro ⟨⟨n, r⟩, hmem, h⟩
    obtain ⟨hpod, hname⟩ := of_decide_eq_true h
    exact ⟨n, r, hname.symm, Dict.get?_eq_some_iff.mpr hmem, hpod⟩
  · rintro ⟨n, r, hname, hget, hpod⟩
    exact ⟨(n, r), Dict.get?_eq_some_iff.mp hget, decide_eq_true ⟨hpod, hname.symm⟩⟩

theorem NameFound.still {visible' : Dict String RecipeDict} (hshows : StillShows visible visible')
    (h : NameFound T visible raw) : NameFound T visible' raw := by
  obtain ⟨hlink, n, r, hname, hget, hpod⟩ := nameFound_iff.mp h
  exact nameFound_iff.mpr ⟨hlink, n, r, hname, hshows n r hget, hpod⟩

/-- The visible recipes after more were saved. -/
def showAll (visible : Dict String RecipeDict) (saved : List (PyMap × RecipeDict)) :
    Dict String RecipeDict :=
  saved.foldl (fun visible e => visible.insert e.2.name e.2) visible

variable {yaml} in
/-- What the store shows is what the loop goes by. -/
theorem view_storeAll (sel : Option String) (saved : List (PyMap × RecipeDict))
    {options : Dict String (Option RecipeDict)} {visible : Dict String RecipeDict}
    (h : ∀ n, view yaml ⟨options, sel⟩ n = visible.get? n) (n : String) :
    view yaml ⟨storeAll options saved, sel⟩ n = (showAll visible saved).get? n := by
  induction saved generalizing options visible with
  | nil => exact h n
  | cons e rest ih =>
    refine ih fun m => ?_
    rw [view_insert ⟨options, sel⟩, Dict.get?_insert, Function.update_apply, h]

/-- **How an entry goes**: it is passed over, or a recipe is stored for it under a free name. -/
theorem podsSaved_cases (visible : Dict String RecipeDict) (raw : PyMap) (uid : String)
    (rest : List (PyMap × String)) :
    ((LinkFound T visible raw ∨ NameFound T visible raw ∨ ∃ e, podRecipe T raw = .error e) ∧
      podsSaved T visible ((raw, uid) :: rest) = podsSaved T visible rest) ∨
    ∃ validated stored, podRecipe T raw = .ok validated ∧
      stored = validated.saveAs (dedupeName validated.name visible.keys) uid "pod" ∧
      ¬ LinkFound T visible raw ∧ ¬ NameFound T visible raw ∧
      visible.get? stored.name = none ∧ StillShows visible (visible.insert stored.name stored) ∧
      podsSaved T visible ((raw, uid) :: rest) =
        (raw, stored) :: podsSaved T (visible.insert stored.name stored) rest := by
  by_cases hlink : LinkFound T visible raw
  · exact Or.inl ⟨Or.inl hlink, podsSaved_found (Or.inl hlink) uid rest⟩
  by_cases hname : NameFound T visible raw
  · exact Or.inl ⟨Or.inr (Or.inl hname), podsSaved_found (Or.inr hname) uid rest⟩
  cases hrecipe : podRecipe T raw with
  | error e => exact Or.inl ⟨Or.inr (Or.inr ⟨e, rfl⟩), podsSaved_invalid hrecipe uid rest⟩
  | ok validated =>
    have hfree := get?_dedupeName visible validated.name
    refine Or.inr ⟨validated, _, rfl, rfl, hlink, hname, hfree, fun n r hget => ?_,
      podsSaved_new hlink hname hrecipe uid rest⟩
    rw [Dict.get?_insert, if_neg ?_, hget]
    rintro rfl
    exact Option.some_ne_none r (hget.symm.trans hfree)

/-- **A call hides nothing.** -/
theorem stillShows_showAll (visible : Dict String RecipeDict) (l : List (PyMap × String)) :
    StillShows visible (showAll visible (podsSaved T visible l)) := by
  induction l generalizing visible with
  | nil => exact fun n r h => h
  | cons entry rest ih =>
    obtain ⟨raw, uid⟩ := entry
    rcases podsSaved_cases visible raw uid rest with ⟨-, heq⟩ | ⟨_, stored, -, -, -, -, -, hshows, heq⟩
    · rw [heq]
      exact ih visible
    · rw [heq]
      exact fun n r h => ih _ n r (hshows n r h)

/-- What an entry is saved as. -/
structure SavedAs (visible : Dict String RecipeDict) (l : List (PyMap × String)) (raw : PyMap)
    (stored : RecipeDict) : Prop where
  valid : ∃ validated uid existing, podRecipe T raw = .ok validated ∧ (raw, uid) ∈ l ∧
    stored = validated.saveAs (dedupeName validated.name existing) uid "pod"
  notLinked : ¬ LinkFound T visible raw
  notNamed : ¬ NameFound T visible raw
  shown : (showAll visible (podsSaved T visible l)).get? stored.name = some stored

theorem savedAs {visible : Dict String RecipeDict} {l : List (PyMap × String)} {raw : PyMap}
    {stored : RecipeDict} (h : (raw, stored) ∈ podsSaved T visible l) :
    @SavedAs T visible l raw stored := by
  induction l generalizing visible with
  | nil => cases h
  | cons entry rest ih =>
    obtain ⟨raw', uid⟩ := entry
    rcases podsSaved_cases visible raw' uid rest with
      ⟨-, heq⟩ | ⟨validated, stored', hvalid, hstored, hlink, hname, -, hshows, heq⟩
    · rw [heq] at h
      obtain ⟨⟨validated, uid', existing, hvalid, hmem, hstored⟩, hlink, hname, hshown⟩ := ih h
      exact ⟨⟨validated, uid', existing, hvalid, List.mem_cons_of_mem _ hmem, hstored⟩, hlink, hname,
        heq ▸ hshown⟩
    · rw [heq] at h
      rcases List.mem_cons.mp h with hhead | hrest
      · cases hhead
        refine ⟨⟨validated, uid, _, hvalid, List.mem_cons_self, hstored⟩, hlink, hname, ?_⟩
        rw [heq]
        refine stillShows_showAll _ _ _ _ ?_
        rw [Dict.get?_insert, if_pos rfl]
      · obtain ⟨⟨validated, uid', existing, hvalid, hmem, hstored⟩, hlink', hname', hshown⟩ := ih hrest
        exact ⟨⟨validated, uid', existing, hvalid, List.mem_cons_of_mem _ hmem, hstored⟩,
          fun h => hlink' (h.still hshows), fun h => hname' (h.still hshows), heq ▸ hshown⟩

/-- What is visible afterwards was so before, or was saved. -/
theorem showAll_get? {visible : Dict String RecipeDict} {saved : List (PyMap × RecipeDict)} {n : String}
    {r : RecipeDict} (h : (showAll visible saved).get? n = some r) :
    visible.get? n = some r ∨ r.name = n ∧ ∃ raw, (raw, r) ∈ saved := by
  induction saved generalizing visible with
  | nil => exact Or.inl h
  | cons e rest ih =>
    rcases ih h with hbefore | ⟨hname, raw, hmem⟩
    · rw [Dict.get?_insert] at hbefore
      split_ifs at hbefore with hn
      · cases hbefore
        exact Or.inr ⟨hn.symm, e.1, List.mem_cons_self⟩
      · exact Or.inl hbefore
    · exact Or.inr ⟨hname, raw, List.mem_cons_of_mem _ hmem⟩

/-! ## What an entry is stored with -/

theorem podRecipe_eq_ok {validated : RecipeDict} (h : podRecipe T raw = .ok validated) :
    RecipeRead T.toTextNumbers (raw.filter fun e => decide (e.1 ≠ "share_url") || e.2.truthy)
      validated := by
  obtain ⟨m, hm, hread⟩ := recipeSchema_eq_ok h
  cases hm
  exact hread

/-- The first entry of a key stays where the entries of a predicate stay that it satisfies. -/
theorem lookup_filter {key : String} {v : PyVal} {m : PyMap} {p : String × PyVal → Bool}
    (h : m.lookup key = some v) (hp : p (key, v) = true) : (m.filter p).lookup key = some v := by
  induction m with
  | nil => cases h
  | cons e rest ih =>
    obtain ⟨key', x⟩ := e
    by_cases hkey : key = key'
    · subst hkey
      rw [List.lookup_cons_self] at h
      cases h
      rw [List.filter_cons_of_pos hp, List.lookup_cons_self]
    · have hskip : ∀ l : PyMap, ((key', x) :: l).lookup key = l.lookup key := fun l => by
        rw [List.lookup_cons, beq_false_of_ne hkey]
      rw [hskip] at h
      rw [List.filter_cons]
      split_ifs
      · rw [hskip]
        exact ih h
      · exact ih h

/-- **An entry with a link is stored with it.** -/
theorem podRecipe_shareUrl {validated : RecipeDict} (h : podRecipe T raw = .ok validated)
    (hlink : podShareUrl T.identifiers raw ≠ "") :
    validated.shareUrl = some (podShareUrl T.identifiers raw) := by
  have hread := (podRecipe_eq_ok h).shareUrl
  unfold podShareUrl at hlink ⊢
  cases hlookup : raw.lookup "share_url" with
  | none => simp [hlookup] at hlink
  | some v =>
    simp only [hlookup] at hlink
    dsimp only
    by_cases htruthy : v.truthy = true
    · unfold Py.optional at hread
      rw [lookup_filter hlookup (by simp [htruthy])] at hread
      dsimp only at hread
      rw [if_pos htruthy]
      -- the schema reads the text that `find_recipe` reads
      cases htext : cvString T.toTextNumbers v with
      | error e =>
        rw [htext] at hread
        cases hread
      | ok text =>
        rw [htext] at hread
        show validated.shareUrl = some (((cvString T.toTextNumbers v).toOption).getD "")
        rw [htext]
        exact (Except.ok.inj hread).symm
    · rw [if_neg htruthy] at hlink
      exact absurd rfl hlink

/-- **An entry with a text for a name is stored with it.** -/
theorem podRecipe_name {validated : RecipeDict} {name : String} (h : podRecipe T raw = .ok validated)
    (hname : podName raw = some name) : validated.name = name := by
  have hread := (podRecipe_eq_ok h).name
  have hlookup : raw.lookup "name" = some (.str name) := by
    unfold podName at hname
    split at hname
    · rename_i text htext
      cases hname
      exact htext
    · cases hname
  unfold required at hread
  rw [lookup_filter hlookup (by simp)] at hread
  exact (Except.ok.inj (atKey_eq_ok hread)).symm

/-! ## Entries that are known again -/

/-- The link of an entry has a share id. -/
def HasShareId (T : CloudTexts) (raw : PyMap) : Prop :=
  ∃ id, shareIdOf (podShareUrl T.identifiers raw) = some id ∧ id ≠ ""

/-- **An entry that a second call knows**: `RECIPE_SCHEMA` rejects it; or it has a link with a share id, or
one that finds a recipe already; or it has none, and a text for a name that no recipe has but a pod's. -/
def KnownAgain (T : CloudTexts) (visible : Dict String RecipeDict) (raw : PyMap) : Prop :=
  (∃ e, podRecipe T raw = .error e) ∨
  (podShareUrl T.identifiers raw ≠ "" ∧ (HasShareId T raw ∨ LinkFound T visible raw)) ∨
  (podShareUrl T.identifiers raw = "" ∧ ∃ name, podName raw = some name ∧
    ∀ r, visible.get? name = some r → r.source = some "pod")

theorem shareIdOf_empty : shareIdOf "" = none := by
  unfold shareIdOf
  decide +kernel

/-- An entry whose link has a share id has a link. -/
theorem podShareUrl_ne_empty {id : String} (h : shareIdOf (podShareUrl T.identifiers raw) = some id) :
    podShareUrl T.identifiers raw ≠ "" := by
  intro hempty
  rw [hempty, shareIdOf_empty] at h
  cases h

/-- A share id finds a recipe that has it. -/
theorem linkFound_of_shareId {link id : String} {n : String} {r : RecipeDict}
    (hlink : podShareUrl T.identifiers raw ≠ "")
    (hid : shareIdOf (podShareUrl T.identifiers raw) = some id) (hne : id ≠ "")
    (hget : visible.get? n = some r) (hshare : r.shareUrl = some link) (hstored : link ≠ "")
    (hsame : shareIdOf link = some id) : LinkFound T visible raw := by
  have hstrip : strip (podShareUrl T.identifiers raw) ≠ "" := by
    intro h
    rw [← shareIdOf_strip, h, shareIdOf_empty] at hid
    cases hid
  refine ⟨hlink, (findRecipe_isSome_iff _).mpr ⟨hstrip, n, r, hget, Or.inr (Or.inr (Or.inl ?_))⟩⟩
  refine ⟨id, (shareIdOf_strip _).trans hid, hne, ?_⟩
  unfold sharesId
  rw [hshare]
  show (decide (link ≠ "") && shareIdOf link == some id) = true
  rw [decide_eq_true hstored, hsame, Bool.true_and, beq_self_eq_true]

/-- What a saved entry is stored with: its link, and its name if it was free. -/
theorem SavedAs.shareUrl {l : List (PyMap × String)} {stored : RecipeDict}
    (h : @SavedAs T visible l raw stored) (hlink : podShareUrl T.identifiers raw ≠ "") :
    stored.shareUrl = some (podShareUrl T.identifiers raw) := by
  obtain ⟨validated, uid, existing, hvalid, -, rfl⟩ := h.valid
  show validated.shareUrl = _
  exact podRecipe_shareUrl hvalid hlink

theorem SavedAs.source {l : List (PyMap × String)} {stored : RecipeDict}
    (h : @SavedAs T visible l raw stored) : stored.source = some "pod" := by
  obtain ⟨validated, uid, existing, hvalid, -, rfl⟩ := h.valid
  rfl

/-- **A saved entry with a share id is found again.** -/
theorem SavedAs.linkFound {l : List (PyMap × String)} {stored : RecipeDict} {raw' : PyMap} {id : String}
    (h : @SavedAs T visible l raw stored) (hlink : podShareUrl T.identifiers raw ≠ "")
    (hid : shareIdOf (podShareUrl T.identifiers raw) = some id)
    (hlink' : podShareUrl T.identifiers raw' ≠ "")
    (hid' : shareIdOf (podShareUrl T.identifiers raw') = some id) (hne : id ≠ "") :
    LinkFound T (showAll visible (podsSaved T visible l)) raw' :=
  linkFound_of_shareId hlink' hid' hne h.shown (h.shareUrl hlink) hlink hid

/-- **What is known again stays so** while pods are saved under free names. -/
theorem KnownAgain.insert {stored : RecipeDict} (h : KnownAgain T visible raw)
    (hpod : stored.source = some "pod")
    (hshows : StillShows visible (visible.insert stored.name stored)) :
    KnownAgain T (visible.insert stored.name stored) raw := by
  rcases h with hinvalid | ⟨hlink, hid | hfound⟩ | ⟨hlink, name, hname, hpods⟩
  · exact Or.inl hinvalid
  · exact Or.inr (Or.inl ⟨hlink, Or.inl hid⟩)
  · exact Or.inr (Or.inl ⟨hlink, Or.inr (hfound.still hshows)⟩)
  · refine Or.inr (Or.inr ⟨hlink, name, hname, fun r hget => ?_⟩)
    rw [Dict.get?_insert] at hget
    split_ifs at hget with hn
    · cases hget
      exact hpod
    · exact hpods r hget

/-- **An entry is passed over**: it is found, or it is not valid. -/
def PassedOver (T : CloudTexts) (visible : Dict String RecipeDict) (raw : PyMap) : Prop :=
  LinkFound T visible raw ∨ NameFound T visible raw ∨ ∃ e, podRecipe T raw = .error e

theorem PassedOver.still {visible' : Dict String RecipeDict} (hshows : StillShows visible visible')
    (h : PassedOver T visible raw) : PassedOver T visible' raw := by
  rcases h with hlink | hname | hinvalid
  · exact Or.inl (hlink.still hshows)
  · exact Or.inr (Or.inl (hname.still hshows))
  · exact Or.inr (Or.inr hinvalid)

/-- **What is known again is passed over** after the call. -/
theorem KnownAgain.passedOver {l : List (PyMap × String)} (h : KnownAgain T visible raw)
    (hmem : raw ∈ l.map Prod.fst) : PassedOver T (showAll visible (podsSaved T visible l)) raw := by
  induction l generalizing visible with
  | nil => cases hmem
  | cons entry rest ih =>
    obtain ⟨raw', uid⟩ := entry
    rw [List.map_cons, List.mem_cons] at hmem
    rcases podsSaved_cases visible raw' uid rest with
      ⟨hpassed, heq⟩ | ⟨validated, stored, hvalid, hstored, hlink, hname, hfree, hshows, heq⟩
    · rw [heq]
      rcases hmem with rfl | hmem
      · exact PassedOver.still (stillShows_showAll visible rest) hpassed
      · exact ih h hmem
    · have hpod : stored.source = some "pod" := by
        rw [hstored]
        rfl
      rcases hmem with rfl | hmem
      · -- the entry was saved here; what it is known by was stored with it
        have hsaved := savedAs (heq ▸ List.mem_cons_self : (raw, stored) ∈ podsSaved T visible _)
        rcases h with ⟨e, hinvalid⟩ | ⟨hne, ⟨id, hid, hidne⟩ | hfound⟩ | ⟨hnone, name, hraw, hpods⟩
        · rw [hvalid] at hinvalid
          cases hinvalid
        · exact Or.inl (hsaved.linkFound hne hid hne hid hidne)
        · exact absurd hfound hlink
        · refine Or.inr (Or.inl (nameFound_iff.mpr ⟨hnone, name, stored, hraw, ?_, hpod⟩))
          have htaken : visible.get? name = none := by
            cases hget : visible.get? name with
            | none => rfl
            | some r =>
              exact absurd (nameFound_iff.mpr ⟨hnone, name, r, hraw, hget, hpods r hget⟩) hname
          have hstoredName : stored.name = name := by
            rw [hstored, podRecipe_name hvalid hraw]
            show dedupeName name visible.keys = name
            rw [dedupeName, if_pos (fun hmem => ?_)]
            have hcontains := Dict.contains_iff.mpr hmem
            rw [Dict.contains, htaken] at hcontains
            cases hcontains
          rw [← hstoredName]
          exact hsaved.shown
      · rw [heq]
        exact ih (h.insert hpod hshows) hmem

/-- A call saves nothing exactly when it passes over every entry. -/
theorem podsSaved_eq_nil_iff {l : List (PyMap × String)} :
    podsSaved T visible l = [] ↔ ∀ raw ∈ l.map Prod.fst, PassedOver T visible raw := by
  induction l with
  | nil => simp [podsSaved]
  | cons entry rest ih =>
    obtain ⟨raw, uid⟩ := entry
    rw [List.map_cons, List.forall_mem_cons]
    rcases podsSaved_cases visible raw uid rest with
      ⟨hpassed, heq⟩ | ⟨validated, stored, hvalid, -, hlink, hname, -, -, heq⟩
    · rw [heq, ih]
      exact (and_iff_right hpassed).symm
    · rw [heq]
      refine ⟨fun h => (List.cons_ne_nil _ _ h).elim, fun h => ?_⟩
      rcases h.1 with h | h | ⟨e, h⟩
      · exact absurd h hlink
      · exact absurd h hname
      · rw [hvalid] at h
        cases h

/-! ## Entries that are not -/

/-- Numbers and minted uids do not read as links, and no link of the list without a share id is spelled
like a name that one of its pods may be saved under, whatever names are taken. -/
structure Ordinary (T : CloudTexts) (l : List (PyMap × String)) : Prop where
  number : ∀ text, hasScheme text = true → T.parseInt text = none
  uid : ∀ e ∈ l, hasScheme e.2 = false
  name : ∀ raw ∈ l.map Prod.fst, ¬ HasShareId T raw → ∀ e ∈ l, ∀ validated,
    podRecipe T e.1 = .ok validated → ∀ existing,
      strip (podShareUrl T.identifiers raw) ≠ dedupeName validated.name existing

/-- A link without a share id has a scheme, unless it is blank. -/
theorem hasScheme_of_not_shareId (h : ¬ HasShareId T raw)
    (hne : strip (podShareUrl T.identifiers raw) ≠ "") :
    hasScheme (strip (podShareUrl T.identifiers raw)) = true := by
  by_contra hscheme
  refine h ⟨unquote (strip (podShareUrl T.identifiers raw)), ?_, unquote_ne_empty hne⟩
  unfold shareIdOf
  rw [if_neg hscheme, if_neg (unquote_ne_empty hne)]

/-- **What is passed over after the call was known again**, where no link reads as a number, a uid or
a name of the call's pods. -/
theorem PassedOver.knownAgain {l : List (PyMap × String)} (hl : Ordinary T l)
    (hraw : raw ∈ l.map Prod.fst)
    (h : PassedOver T (showAll visible (podsSaved T visible l)) raw) : KnownAgain T visible raw := by
  rcases h with ⟨hlink, hfound⟩ | hnamed | hinvalid
  · refine Or.inr (Or.inl ⟨hlink, ?_⟩)
    by_cases hid : HasShareId T raw
    · exact Or.inl hid
    obtain ⟨hstrip, n, r, hget, hanswers⟩ := (findRecipe_isSome_iff _).mp hfound
    have hscheme := hasScheme_of_not_shareId hid hstrip
    rcases showAll_get? hget with hbefore | ⟨hn, raw', hmem⟩
    · exact Or.inr ⟨hlink, (findRecipe_isSome_iff _).mpr ⟨hstrip, n, r, hbefore, hanswers⟩⟩
    · -- nothing that the call stored answers to a link without a share id
      exfalso
      obtain ⟨validated, uid, existing, hvalid, hentry, hstored⟩ := (savedAs hmem).valid
      rcases hanswers with huid | ⟨tableId, hparse, -⟩ | ⟨shareId, hshare, hne, -⟩ | hname
      · have huid' : r.uid = some uid := by
          rw [hstored]
          rfl
        rw [← Option.some.inj (huid'.symm.trans huid), hl.uid _ hentry] at hscheme
        cases hscheme
      · rw [show T.identifiers.texts.parseInt _ = none from hl.number _ hscheme] at hparse
        cases hparse
      · exact hid ⟨shareId, (shareIdOf_strip _).symm.trans hshare, hne⟩
      · have hrname : r.name = dedupeName validated.name existing := by
          rw [hstored]
          rfl
        refine hl.name raw hraw hid _ hentry _ hvalid existing ?_
        rw [← hname, ← hn, hrname]
  · obtain ⟨hlink, name, r, hnamed, hget, hpod⟩ := nameFound_iff.mp hnamed
    refine Or.inr (Or.inr ⟨hlink, name, hnamed, fun r' hbefore => ?_⟩)
    have hafter := @stillShows_showAll T visible l name r' hbefore
    rw [hget] at hafter
    exact Option.some.inj hafter ▸ hpod
  · exact Or.inl hinvalid

/-! ## Two calls -/

variable {yaml} {s : Store} {l : List (PyMap × String)}

/-- What a call leaves, and what it returns. -/
theorem savePodRecipes_eq : savePodRecipes T.identifiers yaml s l =
    ({ s with options := storeAll s.options (podsSaved T (s.visible yaml) l) },
      .saved ((podsSaved T (s.visible yaml) l).map fun e => e.2.name)) := by
  unfold savePodRecipes
  rw [savePods_eq, List.nil_append]
  cases podsSaved T (s.visible yaml) l with
  | nil => rfl
  | cons e rest => rfl

/-- **A second call adds nothing and writes nothing**, whatever uids it would mint. -/
def SavesOnce (T : CloudTexts) (yaml : YamlLayer) (s : Store) (l : List (PyMap × String)) : Prop :=
  ∀ l', l'.map Prod.fst = l.map Prod.fst →
    savePodRecipes T.identifiers yaml (savePodRecipes T.identifiers yaml s l).1 l' =
      ((savePodRecipes T.identifiers yaml s l).1, .saved [])

/-- It does so exactly when it passes over every entry. -/
theorem savesOnce_iff : SavesOnce T yaml s l ↔ ∀ raw ∈ l.map Prod.fst,
    PassedOver T (showAll (s.visible yaml) (podsSaved T (s.visible yaml) l)) raw := by
  have hview : ∀ n, ((savePodRecipes T.identifiers yaml s l).1.visible yaml).get? n =
      (showAll (s.visible yaml) (podsSaved T (s.visible yaml) l)).get? n := fun n => by
    rw [savePodRecipes_eq]
    exact view_storeAll s.selectedRecipe _ (fun _ => rfl) n
  have hpassed : ∀ raw, PassedOver T ((savePodRecipes T.identifiers yaml s l).1.visible yaml) raw ↔
      PassedOver T (showAll (s.visible yaml) (podsSaved T (s.visible yaml) l)) raw := fun raw =>
    ⟨PassedOver.still fun n r h => (hview n).symm.trans h, PassedOver.still fun n r h => (hview n).trans h⟩
  simp only [← hpassed]
  constructor
  · intro h
    have hcall := h l rfl
    rw [savePodRecipes_eq] at hcall
    have hnames := StoreResult.saved.inj (congrArg Prod.snd hcall)
    exact podsSaved_eq_nil_iff.mp (List.map_eq_nil_iff.mp hnames)
  · intro h l' hl'
    rw [← hl'] at h
    rw [savePodRecipes_eq, podsSaved_eq_nil_iff.mpr h]
    rfl

/-- Two entries with one share id. -/
def SameShareId (T : CloudTexts) (a b : PyMap) : Prop :=
  ∃ id, id ≠ "" ∧ shareIdOf (podShareUrl T.identifiers a) = some id ∧
    shareIdOf (podShareUrl T.identifiers b) = some id

theorem podsSaved_sublist (visible : Dict String RecipeDict) (l : List (PyMap × String)) :
    ((podsSaved T visible l).map Prod.fst).Sublist (l.map Prod.fst) := by
  induction l generalizing visible with
  | nil => exact List.Sublist.refl _
  | cons entry rest ih =>
    obtain ⟨raw, uid⟩ := entry
    rcases podsSaved_cases visible raw uid rest with ⟨-, heq⟩ | ⟨_, stored, -, -, -, -, -, -, heq⟩
    · rw [heq]
      exact (ih visible).cons raw
    · rw [heq]
      exact (ih _).cons_cons raw

theorem podsSaved_pairwise (visible : Dict String RecipeDict) (l : List (PyMap × String)) :
    (podsSaved T visible l).Pairwise fun a b => ¬ SameShareId T a.1 b.1 := by
  induction l generalizing visible with
  | nil => exact List.Pairwise.nil
  | cons entry rest ih =>
    obtain ⟨raw, uid⟩ := entry
    rcases podsSaved_cases visible raw uid rest with
      ⟨-, heq⟩ | ⟨validated, stored, hvalid, hstored, -, -, -, -, heq⟩
    · rw [heq]
      exact ih visible
    · rw [heq]
      refine List.pairwise_cons.mpr ⟨fun b hb => ?_, ih _⟩
      rintro ⟨id, hne, hid, hid'⟩
      -- what was just stored is found by the other's link
      have hlink := podShareUrl_ne_empty hid
      have hshare : stored.shareUrl = some (podShareUrl T.identifiers raw) := by
        rw [hstored]
        show validated.shareUrl = _
        exact podRecipe_shareUrl hvalid hlink
      have hget : (visible.insert stored.name stored).get? stored.name = some stored := by
        rw [Dict.get?_insert, if_pos rfl]
      exact (savedAs hb).notLinked
        (linkFound_of_shareId (podShareUrl_ne_empty hid') hid' hne hget hshare hlink hid)

/-- **A call saves no share id twice**: it stores some of its entries, of which no two have one. -/
def SharedOnce (T : CloudTexts) (yaml : YamlLayer) (s : Store) (l : List (PyMap × String)) : Prop :=
  ∃ saved : List (PyMap × RecipeDict), (saved.map Prod.fst).Sublist (l.map Prod.fst) ∧
    savePodRecipes T.identifiers yaml s l =
      ({ s with options := storeAll s.options saved }, .saved (saved.map fun e => e.2.name)) ∧
    saved.Pairwise fun a b => ¬ SameShareId T a.1 b.1

/-- **Saving pods twice.**  A second call adds nothing when every entry is known again, and only then,
unless a number or a minted uid reads as a link, or a link of the list as the name of one of its pods; and
no call saves a share id twice. -/
theorem savePodRecipes_once (T : CloudTexts) (yaml : YamlLayer) (s : Store) (l : List (PyMap × String)) :
    ((∀ raw ∈ l.map Prod.fst, KnownAgain T (s.visible yaml) raw) → SavesOnce T yaml s l) ∧
    (Ordinary T l → SavesOnce T yaml s l →
      ∀ raw ∈ l.map Prod.fst, KnownAgain T (s.visible yaml) raw) ∧
    SharedOnce T yaml s l := by
  refine ⟨fun h => ?_, fun hl h raw hraw => ?_, ?_⟩
  · exact savesOnce_iff.mpr fun raw hraw => (h raw hraw).passedOver hraw
  · exact (savesOnce_iff.mp h raw hraw).knownAgain hl hraw
  · exact ⟨_, podsSaved_sublist _ l, savePodRecipes_eq, podsSaved_pairwise _ l⟩

/-- A pod's recipe. -/
def podEntry (shareUrl : String) : PyMap :=
  [("name", .str "Legacy"), ("share_url", .str shareUrl),
    ("pours", .list [.dict [("volume_ml", .int 240), ("temperature_c", .int 93)]])]

/-- A link with a share id is known again. -/
theorem shared_pod_once : SavesOnce asciiTexts noYaml ⟨Dict.empty, none⟩
    [(podEntry "https://share-h5.xbloom.com/?id=abc", "4f1c0a9b7d21")] := by
  refine (savePodRecipes_once _ _ _ _).1 fun raw hraw => ?_
  rw [List.mem_singleton.mp hraw]
  refine Or.inr (Or.inl ⟨by decide +kernel, Or.inl ⟨"abc", ?_, by decide⟩⟩)
  unfold shareIdOf
  decide +kernel

/-- A store that has a recipe of that name, typed in by the user. -/
def legacyStore : Store where
  options := Dict.empty.insert "Legacy" (some { name := "Legacy", source := some "manual", pours := [] })
  selectedRecipe := none

/-- **A pod with no link and a taken name is saved with every call.** -/
theorem taken_name_saved_again : ¬ SavesOnce asciiTexts noYaml legacyStore
    [(podEntry "", "4f1c0a9b7d21")] := by
  intro h
  have hcall := congrArg Prod.snd (h [(podEntry "", "8ce2d50f6a13")] rfl)
  have hagain : (savePodRecipes asciiTexts.identifiers noYaml
      (savePodRecipes asciiTexts.identifiers noYaml legacyStore [(podEntry "", "4f1c0a9b7d21")]).1
      [(podEntry "", "8ce2d50f6a13")]).2 = .saved ["Legacy (3)"] := by decide +kernel
  rw [hagain] at hcall
  cases hcall

end XBloom.Cloud
