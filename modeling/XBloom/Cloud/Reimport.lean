/-
# XBloom.Cloud.Reimport — an imported recipe answers to the reference it was imported with

After an import of a share reference the same reference should name the same recipe: the id that is
posted is the id `share_id_of` compares, and `find_recipe` comes to what was imported, or to a recipe
that was there with the same share id (`AddressedAgain`).  It does exactly when (`AnswersAgain`)

* the reference is a link with its scheme, or a bare id without an escape: `_parse_share_id` posts a bare
  id as it stands, and takes a link for one without its scheme, where `share_id_of` wants the scheme and
  unquotes;
* what `find_recipe` finds by uid or table id, before it looks at share ids, has the same share id; and
* a bare id without `+`, which the stored link reads as a space, unless something else answers to it.
-/
import XBloom.Cloud.ShareId
import XBloom.Recipe.Refine

namespace XBloom.Cloud

open XBloom.Py XBloom.Recipe

variable (T : CloudTexts) (yaml : YamlLayer) (server : CloudServer)

/-! ## The property and its condition -/

/-- A recipe whose stored link has the share id of a reference. -/
def SharesReference (reference : String) (recipe : RecipeDict) : Prop :=
  ∃ id, shareIdOf reference = some id ∧ sharesId T.identifiers id recipe = true

/-- **What you import you can address again.** -/
def AddressedAgain (s : Store) (reference uid : String) : Prop :=
  ∃ s' name, importReference T yaml server s reference uid = .ok (s', .success (some uid) name) ∧
    postedShareId T server reference = shareIdOf reference ∧
    ∃ e, findRecipe T.identifiers (s'.visible yaml) reference = some e ∧
      (e.1 = name ∨ (s.visible yaml).get? e.1 = some e.2 ∧ SharesReference T reference e.2)

/-- What `find_recipe` finds before it looks at share ids. -/
def foundFirst (recipes : Dict String RecipeDict) (identifier : String) :
    Option (String × RecipeDict) :=
  (recipes.entries.find? fun e => decide (e.2.uid = some identifier)).or
    ((T.parseInt identifier).bind fun tableId =>
      recipes.entries.find? fun e => decide (e.2.cloudTableId = some tableId))

/-- When an import answers to its reference, given the name of the fetched recipe. -/
structure AnswersAgain (s : Store) (reference fetchedName : String) : Prop where
  posted : hasScheme reference = true ∨
    isShareLink (strip reference) = false ∧ '%' ∉ (strip reference).toList
  others : ∀ e, foundFirst T (s.visible yaml) (strip reference) = some e →
    SharesReference T reference e.2
  found : foundFirst T (s.visible yaml) (strip reference) = none →
    hasScheme reference = true ∨ '+' ∉ (strip reference).toList ∨
      (∃ e ∈ (s.visible yaml).entries, SharesReference T reference e.2) ∨
      dedupeName fetchedName (s.visible yaml).keys = strip reference

variable {T yaml server} {s : Store} {reference uid : String}

theorem mem_of_foundFirst {recipes : Dict String RecipeDict} {identifier : String}
    {e : String × RecipeDict} (h : foundFirst T recipes identifier = some e) :
    recipes.get? e.1 = some e.2 := by
  rcases Option.or_eq_some_iff.mp h with h | ⟨_, h⟩
  · exact Dict.get?_eq_some_iff.mpr (List.mem_of_find?_eq_some h)
  · obtain ⟨_, _, h⟩ := Option.bind_eq_some_iff.mp h
    exact Dict.get?_eq_some_iff.mpr (List.mem_of_find?_eq_some h)

/-! ## What is posted -/

theorem postedShareId_eq {id : String} (href : ShareReference T reference)
    (hposted : postedShareId T server reference = some id) :
    parseShareId (strip reference) = id ∧ id ≠ "" := by
  obtain ⟨hmap, hne⟩ := Option.filter_eq_some_iff.mp hposted
  rw [sharedLink, href.notCommunity] at hmap
  exact ⟨Option.some.inj hmap, of_decide_eq_true hne⟩

theorem shareIdOf_strip (reference : String) : shareIdOf (strip reference) = shareIdOf reference := by
  unfold shareIdOf
  rw [strip_strip]

/-- **The posted id is the one that is compared** for links with a scheme and bare ids without escapes. -/
theorem posted_iff {id : String} (href : ShareReference T reference)
    (hposted : postedShareId T server reference = some id) :
    postedShareId T server reference = shareIdOf reference ↔ hasScheme reference = true ∨
      isShareLink (strip reference) = false ∧ '%' ∉ (strip reference).toList := by
  obtain ⟨hid, hne⟩ := postedShareId_eq href hposted
  unfold parseShareId at hid
  dsimp only at hid
  rw [strip_strip] at hid
  rw [hposted, shareIdOf, hasScheme_strip]
  rcases href.form with ⟨hlink, hchars⟩ | hbare
  · rw [if_pos hlink] at hid
    obtain ⟨value, hvalue⟩ : ∃ value, idParameter (strip reference) = some value := by
      cases hparam : idParameter (strip reference) with
      | none =>
        rw [hparam] at hid
        exact absurd hid.symm hne
      | some value => exact ⟨value, rfl⟩
    rw [hvalue, Option.getD_some] at hid
    cases hscheme : hasScheme reference with
    | true =>
      rw [if_pos rfl, hvalue, hid]
      exact ⟨fun _ => Or.inl rfl, fun _ => rfl⟩
    | false =>
      -- the id is part of the link, and so shorter than all of it
      have hlt := length_parseQs_lt hchars hvalue
      rw [if_neg Bool.false_ne_true, hlink]
      constructor
      · intro heq
        split at heq
        · cases heq
        · have hlength := congrArg (fun s : String => s.toList.length) (Option.some.inj heq)
          simp only [← hid, unquote, String.toList_ofList] at hlength
          omega
      · rintro (h | ⟨h, _⟩) <;> cases h
  · obtain ⟨hscheme, hlink⟩ := hbare.not_link
    rw [hasScheme_strip] at hscheme
    rw [hlink, if_neg Bool.false_ne_true] at hid
    obtain ⟨hnonempty, chars, hspells⟩ := hbare
    have hunquote : unquote (strip reference) = String.ofList chars := by
      rw [unquote, hspells.unquote]
    rw [hscheme, if_neg Bool.false_ne_true, hlink, hunquote]
    constructor
    · intro heq
      right
      split at heq
      · cases heq
      · refine ⟨rfl, hspells.eq_iff.1.mp ?_⟩
        rw [hid, Option.some.inj heq, String.toList_ofList]
    · rintro (h | ⟨_, hplain⟩)
      · cases h
      · have heq : String.ofList chars = strip reference := by
          rw [← hspells.eq_iff.1.mpr hplain, String.ofList_toList]
        rw [heq, if_neg hnonempty, hid]

/-! ## What is stored -/

/-- A fetched recipe carries no identity of its own. -/
theorem cloudRecipeToLocal_keys {cloud m : Entries} (h : cloudRecipeToLocal T.toTexts cloud = .ok m) :
    m.lookup "cloud_table_id" = none ∧ m.lookup "share_url" = none := by
  unfold cloudRecipeToLocal at h
  obtain ⟨_, _, h⟩ := bind_eq_ok.mp h
  obtain ⟨_, _, h⟩ := bind_eq_ok.mp h
  obtain ⟨_, _, h⟩ := bind_eq_ok.mp h
  obtain ⟨_, _, h⟩ := bind_eq_ok.mp h
  obtain ⟨_, _, h⟩ := bind_eq_ok.mp h
  obtain ⟨_, _, h⟩ := bind_eq_ok.mp h
  obtain ⟨_, _, h⟩ := bind_eq_ok.mp h
  obtain ⟨_, _, h⟩ := bind_eq_ok.mp h
  cases h
  exact ⟨rfl, rfl⟩

/-- The identity of an accepted mapping is its own. -/
theorem recipeSchema_identity {N : TextNumbers} {m : PyMap} {r : RecipeDict}
    (h : recipeSchema N (.dict m) = .ok r) :
    Py.optional m "cloud_table_id" (coerceInt N) = .ok r.cloudTableId ∧
      Py.optional m "share_url" (cvString N) = .ok r.shareUrl := by
  obtain ⟨m', heq, hread⟩ := recipeSchema_eq_ok h
  obtain rfl := PyVal.dict.inj heq
  exact ⟨hread.cloudTableId, hread.shareUrl⟩

/-- The recipe an import stores. -/
def imported (validated : RecipeDict) (reference name uid : String) : RecipeDict :=
  { validated with shareUrl := some (importShareUrl reference) }.saveAs name uid "import"

theorem imported_shareUrl (validated : RecipeDict) (reference name uid : String) :
    (imported validated reference name uid).shareUrl = some (importShareUrl reference) := rfl

/-- The store after it. -/
def Store.imports (yaml : YamlLayer) (s : Store) (validated : RecipeDict) (reference uid : String) :
    Store :=
  let name := dedupeName validated.name (s.visible yaml).keys
  { s with options := s.options.insert name (some (imported validated reference name uid)) }

/-- **An import that goes through**: the fetched recipe under a free name, with its reference. -/
theorem importReference_eq {id : String} {cloud m : Entries} {validated : RecipeDict}
    (hposted : postedShareId T server reference = some id)
    (hdetail : server.recipeDetail id = some cloud)
    (hlocal : cloudRecipeToLocal T.toTexts cloud = .ok m)
    (hvalid : recipeSchema T.toTextNumbers (.dict m) = .ok validated) :
    validated.cloudTableId = none ∧
      importReference T yaml server s reference uid =
        .ok (Store.imports yaml s validated reference uid,
          .success (some uid) (dedupeName validated.name (s.visible yaml).keys)) := by
  obtain ⟨htable, hshare⟩ := cloudRecipeToLocal_keys hlocal
  obtain ⟨htable', hshare'⟩ := recipeSchema_identity hvalid
  rw [optional_of_absent htable] at htable'
  rw [optional_of_absent hshare] at hshare'
  refine ⟨(Except.ok.inj htable').symm, ?_⟩
  have hfetched : fetchSharedRecipe T server reference = .ok (some (.dict m)) := by
    rw [fetchSharedRecipe, hposted, Option.bind_some, hdetail]
    exact bind_eq_ok.mpr ⟨m, hlocal, rfl⟩
  refine bind_eq_ok.mpr ⟨_, hfetched, ?_⟩
  have hschema : recipeSchema T.identifiers.texts (.dict m) = .ok validated := hvalid
  simp only [importCloudRecipe, hschema, ← Except.ok.inj hshare', Option.getD_none]
  rfl

theorem importShareUrl_eq (reference : String) : importShareUrl reference =
    if hasScheme reference then strip reference else shareLink (strip reference) := rfl

theorem sharesId_iff {I : Identifiers} {id url : String} {recipe : RecipeDict}
    (h : recipe.shareUrl = some url) :
    sharesId I id recipe = true ↔ url ≠ "" ∧ I.shareIdOf url = some id := by
  unfold sharesId
  rw [h]
  simp

/-- **Whether the stored link has the share id of its reference.** -/
theorem imported_shares_iff {validated : RecipeDict} {name : String}
    (href : ShareReference T reference) {id : String} (hid : shareIdOf reference = some id)
    (hposted : hasScheme reference = true ∨
      isShareLink (strip reference) = false ∧ '%' ∉ (strip reference).toList) :
    sharesId T.identifiers id (imported validated reference name uid) = true ↔
      hasScheme reference = true ∨ '+' ∉ (strip reference).toList := by
  have hshares : sharesId T.identifiers id (imported validated reference name uid) = true ↔ _ :=
    sharesId_iff (imported_shareUrl validated reference name uid)
  have hscheme_ne : ∀ url : String, hasScheme url = true → url ≠ "" := by
    rintro url hurl rfl
    exact absurd hurl (by decide)
  rw [hshares, CloudTexts.identifiers_shareIdOf, importShareUrl_eq]
  cases hscheme : hasScheme reference with
  | true =>
    rw [if_pos rfl, shareIdOf_strip, hid]
    exact ⟨fun _ => Or.inl rfl, fun _ => ⟨hscheme_ne _ (by rw [hasScheme_strip, hscheme]), rfl⟩⟩
  | false =>
    -- a bare id without escapes, stored in a link
    obtain ⟨hlink, hplain⟩ := hposted.resolve_left (by rw [hscheme]; decide)
    have hbare : IsBareId (strip reference) := by
      rcases href.form with hurl | hbare
      · rw [hurl.1] at hlink
        cases hlink
      · exact hbare
    have hlinked := hbare.shareIdOf_link
    obtain ⟨hnonempty, chars, hspells⟩ := hbare
    have hself : shareIdOf reference = some (strip reference) := by
      rw [shareIdOf, hasScheme_strip, hscheme, if_neg Bool.false_ne_true, unquote, hspells.unquote,
        ← hspells.eq_iff.1.mpr hplain, String.ofList_toList, if_neg hnonempty]
    have hread : unquoteChars (plusToSpace (strip reference).toList) =
        plusToSpace (strip reference).toList := by
      refine unquoteChars_of_no_escape fun hmem => hplain ?_
      exact ((mem_plusToSpace (by decide)).mp hmem).1
    rw [if_neg Bool.false_ne_true, hlinked, hread, ← hid, hself]
    constructor
    · rintro ⟨_, heq⟩
      right
      intro hplus
      rw [← Option.some.inj heq, String.toList_ofList] at hplus
      exact ((mem_plusToSpace (by decide)).mp hplus).2 rfl
    · rintro (h | hplus)
      · cases h
      · rw [plusToSpace_of_not_mem hplus, String.ofList_toList]
        exact ⟨hscheme_ne _ (hasScheme_shareLink _), rfl⟩

/-! ## What is found afterwards -/

section Found

variable {validated : RecipeDict}

/-- The imported recipe is shown under a name that was free, and the others as before. -/
theorem get?_imports (n : String) :
    ((Store.imports yaml s validated reference uid).visible yaml).get? n =
      if n = dedupeName validated.name (s.visible yaml).keys then
        some (imported validated reference (dedupeName validated.name (s.visible yaml).keys) uid)
      else (s.visible yaml).get? n := by
  unfold Store.imports Store.visible
  rw [Dict.get?_overlay, Dict.get?_insert, Dict.get?_overlay]
  split <;> rfl

/-- Every recipe there afterwards is the imported one, or was there before under its name. -/
theorem of_mem_imports {e : String × RecipeDict}
    (he : e ∈ ((Store.imports yaml s validated reference uid).visible yaml).entries) :
    e = (dedupeName validated.name (s.visible yaml).keys,
        imported validated reference (dedupeName validated.name (s.visible yaml).keys) uid) ∨
      e ∈ (s.visible yaml).entries ∧ (s.visible yaml).get? e.1 = some e.2 := by
  have hget : ((Store.imports yaml s validated reference uid).visible yaml).get? e.1 = some e.2 :=
    Dict.get?_eq_some_iff.mpr he
  rw [get?_imports] at hget
  split at hget
  · rename_i hname
    exact Or.inl (Prod.ext hname (Option.some.inj hget).symm)
  · exact Or.inr ⟨Dict.get?_eq_some_iff.mp hget, hget⟩

/-- What `find_recipe` compares share ids for, and after that takes for a name. -/
def foundByShareId (recipes : Dict String RecipeDict) (id : String) : Option (String × RecipeDict) :=
  recipes.entries.find? fun e => sharesId T.identifiers id e.2

/-- **`find_recipe` after an import**: by uid and table id it finds what it found before. -/
theorem findRecipe_imports {id : String} (hid : shareIdOf reference = some id) (hne : id ≠ "")
    (hv : strip reference ≠ "") (huid : uid ≠ strip reference)
    (htable : validated.cloudTableId = none) :
    findRecipe T.identifiers ((Store.imports yaml s validated reference uid).visible yaml) reference =
      (foundFirst T (s.visible yaml) (strip reference)).or
        ((foundByShareId (T := T)
            ((Store.imports yaml s validated reference uid).visible yaml) id).or
          ((((Store.imports yaml s validated reference uid).visible yaml).get?
            (strip reference)).map fun recipe => (strip reference, recipe))) := by
  let name := dedupeName validated.name (s.visible yaml).keys
  let r := imported validated reference name uid
  have hfree : (Dict.overlay yaml.recipes s.options).get? name = none :=
    get?_dedupeName (s.visible yaml) _
  have hsome : ((Store.imports yaml s validated reference uid).visible yaml).get? name = some r := by
    rw [get?_imports, if_pos rfl]
  have hentries : ((Store.imports yaml s validated reference uid).visible yaml).entries.isEmpty =
      false := by
    rw [← Bool.not_eq_true, List.isEmpty_iff]
    exact List.ne_nil_of_mem (Dict.get?_eq_some_iff.mp hsome)
  -- the new recipe has another uid and no table id
  have hother : ∀ p : String × RecipeDict → Bool, p (name, r) = false →
      ((Store.imports yaml s validated reference uid).visible yaml).entries.find? p =
        (s.visible yaml).entries.find? p := fun p hp => Dict.find?_overlay_insert hfree hp
  have huid' : ((Store.imports yaml s validated reference uid).visible yaml).entries.find?
      (fun e => decide (e.2.uid = some (strip reference))) =
      (s.visible yaml).entries.find? fun e => decide (e.2.uid = some (strip reference)) :=
    hother _ (decide_eq_false fun h => huid (Option.some.inj h))
  have htable' : ∀ tableId, ((Store.imports yaml s validated reference uid).visible yaml).entries.find?
      (fun e => decide (e.2.cloudTableId = some tableId)) =
      (s.visible yaml).entries.find? fun e => decide (e.2.cloudTableId = some tableId) := by
    intro tableId
    refine hother _ (decide_eq_false fun h => ?_)
    have hnone : r.cloudTableId = none := htable
    rw [hnone] at h
    cases h
  have hcond : ¬ (strip reference = "" ∨
      ((Store.imports yaml s validated reference uid).visible yaml).entries.isEmpty = true) := by
    rw [hentries]
    simp [hv]
  rw [findRecipe, if_neg hcond, huid', CloudTexts.identifiers_shareIdOf, shareIdOf_strip, hid, Option.bind_some,
    if_neg hne, foundFirst, Option.or_assoc]
  simp only [htable']
  rfl

/-- When no recipe found first answers for it, the import is found by its share id or by its name. -/
theorem found_iff {id : String} (href : ShareReference T reference)
    (hid : shareIdOf reference = some id) (hne : id ≠ "") (hv : strip reference ≠ "")
    (huid : uid ≠ strip reference) (htable : validated.cloudTableId = none)
    (hposted : hasScheme reference = true ∨
      isShareLink (strip reference) = false ∧ '%' ∉ (strip reference).toList)
    (hfirst : foundFirst T (s.visible yaml) (strip reference) = none) :
    (∃ e, findRecipe T.identifiers ((Store.imports yaml s validated reference uid).visible yaml)
        reference = some e ∧ (e.1 = dedupeName validated.name (s.visible yaml).keys ∨
          (s.visible yaml).get? e.1 = some e.2 ∧ SharesReference T reference e.2)) ↔
      hasScheme reference = true ∨ '+' ∉ (strip reference).toList ∨
        (∃ e ∈ (s.visible yaml).entries, SharesReference T reference e.2) ∨
        dedupeName validated.name (s.visible yaml).keys = strip reference := by
  have himport : sharesId T.identifiers id (imported validated reference
      (dedupeName validated.name (s.visible yaml).keys) uid) = true ↔ _ :=
    imported_shares_iff href hid hposted
  rw [findRecipe_imports hid hne hv huid htable, hfirst, Option.none_or, ← or_assoc, ← himport]
  have hshares : ∀ r, SharesReference T reference r ↔ sharesId T.identifiers id r = true := by
    intro r
    constructor
    · rintro ⟨id', hid', hr⟩
      rwa [Option.some.inj (hid.symm.trans hid')]
    · exact fun hr => ⟨id, hid, hr⟩
  cases hfound : foundByShareId (T := T)
      ((Store.imports yaml s validated reference uid).visible yaml) id with
  | some e =>
    -- by its share id: the import itself, or a recipe that was there
    have hshare : sharesId T.identifiers id e.2 = true := by
      have hpred := List.find?_some hfound
      exact hpred
    rcases of_mem_imports (List.mem_of_find?_eq_some hfound) with rfl | ⟨hmem, hget⟩
    · exact ⟨fun _ => Or.inl hshare, fun _ => ⟨_, rfl, Or.inl rfl⟩⟩
    · exact ⟨fun _ => Or.inr (Or.inl ⟨e, hmem, (hshares _).mpr hshare⟩),
        fun _ => ⟨e, rfl, Or.inr ⟨hget, (hshares _).mpr hshare⟩⟩⟩
  | none =>
    have hnone := List.find?_eq_none.mp hfound
    have hself : ((Store.imports yaml s validated reference uid).visible yaml).get?
        (dedupeName validated.name (s.visible yaml).keys) = some
          (imported validated reference (dedupeName validated.name (s.visible yaml).keys) uid) := by
      rw [get?_imports, if_pos rfl]
    have hnot : ∀ e ∈ (s.visible yaml).entries, sharesId T.identifiers id e.2 ≠ true := by
      intro e he
      have hget : (s.visible yaml).get? e.1 = some e.2 := Dict.get?_eq_some_iff.mpr he
      refine hnone e (Dict.get?_eq_some_iff.mp ?_)
      rw [get?_imports, if_neg, hget]
      intro hname
      rw [hname, get?_dedupeName] at hget
      cases hget
    rw [Option.none_or]
    constructor
    · rintro ⟨e, hmap, hname | ⟨hget, hshare⟩⟩
      · obtain ⟨r, _, rfl⟩ := Option.map_eq_some_iff.mp hmap
        exact Or.inr (Or.inr hname.symm)
      · exact absurd ((hshares _).mp hshare) (hnot e (Dict.get?_eq_some_iff.mp hget))
    · rintro (hshare | ⟨e, he, hshare⟩ | hname)
      · exact absurd hshare (hnone _ (Dict.get?_eq_some_iff.mp hself))
      · exact absurd ((hshares _).mp hshare) (hnot e he)
      · rw [hname] at hself
        exact ⟨_, by rw [hself]; rfl, Or.inl hname.symm⟩

end Found

/-! ## The reference again -/

theorem strip_ne_empty (href : ShareReference T reference) : strip reference ≠ "" := by
  rcases href.form with ⟨hlink, _⟩ | hbare
  · intro hempty
    rw [hempty] at hlink
    exact absurd hlink (by decide +kernel)
  · exact hbare.1

/-- An import that answers to its reference meets the condition. -/
theorem AddressedAgain.answers {id : String} {cloud m : Entries} {validated : RecipeDict}
    (h : AddressedAgain T yaml server s reference uid) (href : ShareReference T reference)
    (hposted : postedShareId T server reference = some id)
    (hdetail : server.recipeDetail id = some cloud)
    (hlocal : cloudRecipeToLocal T.toTexts cloud = .ok m)
    (hvalid : recipeSchema T.toTextNumbers (.dict m) = .ok validated)
    (huid : uid ≠ strip reference) : AnswersAgain T yaml s reference validated.name := by
  obtain ⟨htable, himport⟩ := @importReference_eq T yaml server s reference uid _ _ _ _ hposted hdetail
    hlocal hvalid
  have hne := (postedShareId_eq href hposted).2
  have hv := strip_ne_empty href
  obtain ⟨s', name, hok, hsame, hfind⟩ := h
  rw [himport] at hok
  obtain ⟨rfl, hname⟩ := Prod.mk.inj (Except.ok.inj hok)
  obtain ⟨_, rfl⟩ := StoreResult.success.inj hname
  have hid : shareIdOf reference = some id := hsame.symm.trans hposted
  have hcond := (posted_iff href hposted).mp hsame
  refine ⟨hcond, fun e he => ?_, fun hnone =>
    (found_iff href hid hne hv huid htable hcond hnone).mp hfind⟩
  obtain ⟨e', hfind, he'⟩ := hfind
  rw [findRecipe_imports hid hne hv huid htable, he, Option.some_or] at hfind
  obtain rfl := Option.some.inj hfind
  -- it was there before, and so is not the import
  refine he'.elim (fun hname => ?_) fun h => h.2
  have hget := mem_of_foundFirst he
  rw [hname, get?_dedupeName] at hget
  cases hget

/-- An import that meets the condition answers to its reference. -/
theorem AnswersAgain.addressed {id : String} {cloud m : Entries} {validated : RecipeDict}
    (h : AnswersAgain T yaml s reference validated.name) (href : ShareReference T reference)
    (hposted : postedShareId T server reference = some id)
    (hdetail : server.recipeDetail id = some cloud)
    (hlocal : cloudRecipeToLocal T.toTexts cloud = .ok m)
    (hvalid : recipeSchema T.toTextNumbers (.dict m) = .ok validated)
    (huid : uid ≠ strip reference) : AddressedAgain T yaml server s reference uid := by
  obtain ⟨htable, himport⟩ := @importReference_eq T yaml server s reference uid _ _ _ _ hposted hdetail
    hlocal hvalid
  have hne := (postedShareId_eq href hposted).2
  have hv := strip_ne_empty href
  have hsame := (posted_iff href hposted).mpr h.posted
  have hid : shareIdOf reference = some id := hsame.symm.trans hposted
  refine ⟨_, _, himport, hsame, ?_⟩
  cases hfirst : foundFirst T (s.visible yaml) (strip reference) with
  | some e =>
    refine ⟨e, ?_, Or.inr ⟨mem_of_foundFirst hfirst, h.others e hfirst⟩⟩
    rw [findRecipe_imports hid hne hv huid htable, hfirst, Option.some_or]
  | none => exact (found_iff href hid hne hv huid htable h.posted hfirst).mpr (h.found hfirst)

/-- **An import answers to its reference exactly when** the id it posts is the one that is compared, no
other recipe is found first, and its stored link keeps the id. -/
theorem import_answers_iff {id : String} {cloud m : Entries} {validated : RecipeDict}
    (href : ShareReference T reference)
    (hposted : postedShareId T server reference = some id)
    (hdetail : server.recipeDetail id = some cloud)
    (hlocal : cloudRecipeToLocal T.toTexts cloud = .ok m)
    (hvalid : recipeSchema T.toTextNumbers (.dict m) = .ok validated)
    (huid : uid ≠ strip reference) :
    AddressedAgain T yaml server s reference uid ↔ AnswersAgain T yaml s reference validated.name :=
  ⟨fun h => h.answers href hposted hdetail hlocal hvalid huid,
    fun h => h.addressed href hposted hdetail hlocal hvalid huid⟩

-- the id a link carries, out of its encoding
example : shareIdOf "https://share-h5.xbloom.com/?id=Km%2FJcq" = some "Km/Jcq" := by decide +kernel

/-! ## References that are lost -/

/-- Plain texts, and ASCII digits. -/
def asciiTexts : CloudTexts :=
  { plainTexts with
    isDecimal := Char.isDigit
    isDigitText := fun text => decide (text ≠ "") && text.toList.all Char.isDigit }

/-- No recipe in `configuration.yaml`. -/
def noYaml : YamlLayer where
  recipes := Dict.empty
  yamlRecipeUid := id
  named := fun h => by cases h
  identified := fun h => by cases h

/-- A server that has one recipe for every share id. -/
def oneRecipeServer : CloudServer where
  resolveCollectiveLink _ := none
  recipeDetail _ := some (serverReturns (localRecipeToCloud (onePourDict 3)))

/-- What it sends is a valid recipe. -/
theorem one_recipe_valid : ∃ m validated,
    cloudRecipeToLocal asciiTexts.toTexts (serverReturns (localRecipeToCloud (onePourDict 3))) = .ok m ∧
      recipeSchema asciiTexts.toTextNumbers (.dict m) = .ok validated ∧
      validated.name = (onePourDict 3).name := by
  have hschema : recipeSchema decimalTexts (onePourMapping 3) = .ok (onePourDict 3) := by
    decide +kernel
  obtain ⟨m, hm, hback⟩ := recipeSchema_viaCloud (T := plainTexts) (r := onePourDict 3) (by decide)
    (recipeSchema_sendable hschema)
  exact ⟨m, viaCloud (onePourDict 3), hm, hback, rfl⟩

/-- A link answers to itself. -/
theorem link_answers :
    AddressedAgain asciiTexts noYaml oneRecipeServer ⟨Dict.empty, none⟩
        "https://share-h5.xbloom.com/?id=Km%2FJcq" "4f1c0a9b7d21" ↔
      AnswersAgain asciiTexts noYaml ⟨Dict.empty, none⟩ "https://share-h5.xbloom.com/?id=Km%2FJcq"
        (onePourDict 3).name := by
  obtain ⟨m, validated, hlocal, hvalid, hname⟩ := one_recipe_valid
  rw [← hname]
  have hposted : postedShareId asciiTexts oneRecipeServer
      "https://share-h5.xbloom.com/?id=Km%2FJcq" = some "Km/Jcq" := by decide +kernel
  have hurl : IsShareUrl (strip "https://share-h5.xbloom.com/?id=Km%2FJcq") := by
    have hall : (strip "https://share-h5.xbloom.com/?id=Km%2FJcq").toList.all
        (fun c => decide (c ∉ ['\t', '\r', '\n'])) = true := by decide +kernel
    exact ⟨by decide +kernel, fun c hc => of_decide_eq_true (List.all_eq_true.mp hall c hc)⟩
  exact import_answers_iff ⟨by decide +kernel, Or.inl hurl⟩ hposted rfl hlocal hvalid
    (by decide +kernel)

/-- Two bare ids, one with an escape and one with a `+`. -/
theorem bare_ids_are_references :
    ShareReference asciiTexts "Km%2FJcq" ∧ ShareReference asciiTexts "Km+Jcq" := by
  have hescaped : Spells "Km%2FJcq".toList "Km/Jcq".toList :=
    .plain (by decide) (.plain (by decide) (.escape (n := 47) (by decide) (by decide) (by decide)
      (.plain (by decide) (.plain (by decide) (.plain (by decide) .nil)))))
  have hplus : Spells "Km+Jcq".toList "Km+Jcq".toList :=
    .plain (by decide) (.plain (by decide) (.plain (by decide) (.plain (by decide)
      (.plain (by decide) (.plain (by decide) .nil)))))
  have hstrip : strip "Km%2FJcq" = "Km%2FJcq" ∧ strip "Km+Jcq" = "Km+Jcq" := by decide +kernel
  refine ⟨⟨by decide +kernel, Or.inr ?_⟩, by decide +kernel, Or.inr ?_⟩
  · rw [hstrip.1]
    exact ⟨by decide, _, hescaped⟩
  · rw [hstrip.2]
    exact ⟨by decide, _, hplus⟩

/-- **Two bare ids that are lost.**  One with an escape is posted as it stands; one with a `+` is stored
in a link that reads it as a space. -/
theorem bare_ids_lost :
    (ShareReference asciiTexts "Km%2FJcq" ∧
      ¬ AddressedAgain asciiTexts noYaml oneRecipeServer ⟨Dict.empty, none⟩ "Km%2FJcq"
        "4f1c0a9b7d21") ∧
    ShareReference asciiTexts "Km+Jcq" ∧
      ¬ AddressedAgain asciiTexts noYaml oneRecipeServer ⟨Dict.empty, none⟩ "Km+Jcq"
        "4f1c0a9b7d21" := by
  obtain ⟨hescaped, hplus⟩ := bare_ids_are_references
  obtain ⟨m, validated, hlocal, hvalid, hname⟩ := one_recipe_valid
  refine ⟨⟨hescaped, ?_⟩, hplus, fun h => ?_⟩
  · rintro ⟨_, _, _, hsame, _⟩
    exact absurd hsame (by decide +kernel)
  · have hposted : postedShareId asciiTexts oneRecipeServer "Km+Jcq" = some "Km+Jcq" := by
      decide +kernel
    have hanswers := h.answers hplus hposted rfl hlocal hvalid (by decide +kernel)
    rw [hname] at hanswers
    have hfound := hanswers.found (by decide +kernel)
    have hscheme : hasScheme "Km+Jcq" = false := by decide +kernel
    have hmem : '+' ∈ (strip "Km+Jcq").toList := by decide +kernel
    have hother : dedupeName (onePourDict 3).name
        ((⟨Dict.empty, none⟩ : Store).visible noYaml).keys ≠ strip "Km+Jcq" := by decide +kernel
    rcases hfound with h | h | ⟨e, he, _⟩ | h
    · rw [hscheme] at h
      cases h
    · exact h hmem
    · cases he
    · exact hother h

end XBloom.Cloud
