/-
# XBloom.Recipe.Frame — operations on one recipe leave the others alone

From a store whose visible recipes are stored under their own names with uids of their own
(`WellKept`), an operation should leave every recipe it is not about as it is, and the store well
kept, so that a uid finds its recipe (`Framed`).  Every coordinator operation does
(`coordinator_framed`).  A step of the options flow does exactly when

* a rename does not land on a name that shows another recipe, and
* no YAML recipe it uncovers (by dropping a tombstone, by renaming, or by deleting what lay over it)
  has the uid of a recipe that stays visible

(`KeepsApart`).
-/
import XBloom.Recipe.Tombstones

namespace XBloom.Recipe

open XBloom.Py XBloom.Logic

variable (I : Identifiers) (yaml : YamlLayer)

/-- `yaml_recipe_uid` tells the YAML recipes apart. -/
def YamlLayer.UidsInjective : Prop :=
  ∀ n n', yaml.recipes.contains n = true → yaml.recipes.contains n' = true →
    yaml.yamlRecipeUid n = yaml.yamlRecipeUid n' → n = n'

/-- What every operation should do to the recipes it is not about, and to the store. -/
structure Framed (s : Store) (op : StoreOp) : Prop where
  others : ∀ n r, view yaml s n = some r → subject I yaml s op ≠ some n →
    view yaml (s.step I yaml op) n = some r
  wellKept : WellKept keying (view yaml (s.step I yaml op))
  finds : ∀ n r uid, view yaml (s.step I yaml op) n = some r → r.uid = some uid →
    strip uid = uid → uid ≠ "" →
    findRecipe I ((s.step I yaml op).visible yaml) uid = some (n, r)

/-- The YAML recipe of a name has no uid of a visible recipe, but perhaps of the one named `gone`. -/
def UidUnseen (s : Store) (gone : Option String) (n : String) : Prop :=
  ∀ y k r, yaml.recipes.get? n = some y → view yaml s k = some r → some k ≠ gone → r.uid ≠ y.uid

/-- Whether an operation keeps the visible recipes apart. -/
def KeepsApart (s : Store) : StoreOp → Prop
  | .flowAdd parsed _ => ∀ r, AddsRecipe I yaml s parsed r →
    ∀ n, n ≠ r.name → Hides yaml s n → UidUnseen yaml s none n
  | .flowEdit editing parsed => ∀ original r, EditsRecipe I yaml s editing parsed original r →
    (r.name = editing ∨ view yaml s r.name = none) ∧
      ∀ n, n ≠ r.name → (Hides yaml s n ∨ n = editing) → UidUnseen yaml s none n
  | .flowDelete name => DeletesRecipe yaml s →
    ∀ n, (if n = name then Overrides yaml s n else Hides yaml s n) → UidUnseen yaml s (some name) n
  | _ => True

variable {I yaml} {s : Store}

/-! ## The layers -/

theorem yaml_wellKept (hyaml : yaml.UidsInjective) : WellKept keying yaml.recipes.get? := by
  refine ⟨fun n r h => yaml.named h, ?_⟩
  intro n n' r r' h h' heq
  have huid : r.uid = r'.uid := heq
  rw [yaml.identified h, yaml.identified h'] at huid
  have hcontains : ∀ {m y}, yaml.recipes.get? m = some y → yaml.recipes.contains m = true :=
    fun hm => Option.isSome_iff_exists.mpr ⟨_, hm⟩
  exact hyaml n n' (hcontains h) (hcontains h') (Option.some.inj huid)

/-- A tombstone's name shows nothing. -/
theorem view_of_hides {n : String} (h : Hides yaml s n) : view yaml s n = none := by
  rw [view_apply, h.1, Option.getD_some]

/-- A name that shows something is not hidden. -/
theorem not_hides {n : String} {r : RecipeDict} (hn : view yaml s n = some r) : ¬ Hides yaml s n := by
  intro hhides
  rw [view_of_hides hhides] at hn
  cases hn

/-- In a well-kept store a uid finds its recipe. -/
theorem finds_of_wellKept (h : WellKept keying (view yaml s)) {n uid : String} {r : RecipeDict}
    (hr : view yaml s n = some r) (huid : r.uid = some uid) (hstrip : strip uid = uid)
    (hne : uid ≠ "") : findRecipe I (s.visible yaml) uid = some (n, r) := by
  refine findRecipe_uid I hr huid hstrip hne ?_
  intro n' r' hr' huid'
  exact h.distinct n' n r' r hr' hr (huid'.trans huid.symm)

theorem framed_of_wellKept {op : StoreOp}
    (hothers : ∀ n r, view yaml s n = some r → subject I yaml s op ≠ some n →
      view yaml (s.step I yaml op) n = some r)
    (h : WellKept keying (view yaml (s.step I yaml op))) : Framed I yaml s op :=
  ⟨hothers, h, fun _ _ _ hr huid hstrip hne => finds_of_wellKept h hr huid hstrip hne⟩

/-- Doing nothing is framed. -/
theorem framed_unchanged {op : StoreOp} (h : WellKept keying (view yaml s))
    (hstep : s.step I yaml op = s) : Framed I yaml s op := by
  refine framed_of_wellKept ?_ ?_
  · intro n r hr _
    rw [hstep]
    exact hr
  · rw [hstep]
    exact h

/-- A recipe that a framed operation shows shares its uid with none that stays. -/
theorem Framed.apart {op : StoreOp} (hframed : Framed I yaml s op) {n k : String} {y rk : RecipeDict}
    (hn : view yaml (s.step I yaml op) n = some y) (hk : view yaml s k = some rk)
    (hsubject : subject I yaml s op ≠ some k) (hne : k ≠ n) : rk.uid ≠ y.uid := by
  have hk' := hframed.others k rk hk hsubject
  exact fun heq => hne (hframed.wellKept.distinct k n rk y hk' hn heq)

/-! ## The coordinator -/

/-- **Every coordinator operation leaves the other recipes alone.** -/
theorem coordinator_framed {op : StoreOp} (hop : op.IsCoordinator)
    (h : WellKept keying (view yaml s)) (hfresh : Fresh yaml s op) : Framed I yaml s op := by
  obtain ⟨cs, hcs⟩ := @coordinator_refines I yaml s op hop
  refine framed_of_wellKept ?_ ?_
  · intro n r hr hsubject
    rw [hcs.view]
    refine frame_run hr hcs.legal ?_
    intro c hc hn
    rcases hcs.subjects hfresh c hc n hn with hsame | hnone
    · exact hsubject hsame
    · rw [hnone] at hr
      cases hr
  · rw [hcs.view]
    refine wellKept_run h hcs.legal (hcs.mints.nodup hfresh.nodup) ?_
    intro u hu
    exact hfresh.unused u (hcs.mints.subset hu)

/-! ## The options flow -/

theorem flowAdd_framed_iff (hyaml : yaml.UidsInjective) (h : WellKept keying (view yaml s))
    {parsed : Option PyVal} {uid : String} (hfresh : Fresh yaml s (.flowAdd parsed uid)) :
    Framed I yaml s (.flowAdd parsed uid) ↔ KeepsApart I yaml s (.flowAdd parsed uid) := by
  rcases @stepAddRecipe_cases I yaml s parsed uid with ⟨hno, hstep⟩ | ⟨r, hadds, _, hview⟩
  · exact ⟨fun _ r hadds => absurd hadds (hno r), fun _ => framed_unchanged h hstep⟩
  have hmem : uid ∈ mints (.flowAdd parsed uid) := List.mem_cons_self
  constructor
  · intro hframed r' hadds' n hn hhides y k rk hy hk _
    obtain rfl : r = r' := Except.ok.inj (hadds.1.symm.trans hadds'.1)
    have hn' : view yaml (s.step I yaml (.flowAdd parsed uid)) n = some y := by
      rw [hview, Function.update_of_ne hn, view_flowOptions_hidden hhides, hy]
    exact hframed.apart hn' hk (by simp [subject]) fun hsame => not_hides hk (hsame ▸ hhides)
  · intro hkeeps
    refine framed_of_wellKept ?_ ?_
    · intro n rn hn _
      have hne : n ≠ r.name := by
        rintro rfl
        rw [hadds.2] at hn
        cases hn
      rw [hview, Function.update_of_ne hne, view_flowOptions (not_hides hn), hn]
    · -- the recipe is added first; then the dropped tombstones uncover what they hid
      have hadded : WellKept keying
          (Function.update (view yaml s) r.name (some (r.saveAs r.name uid "manual"))) :=
        @wellKept_apply _ _ _ _ keying _ (.add (r.saveAs r.name uid "manual")) h
          ⟨hadds.2, uid, rfl⟩ (by
            intro u hu
            rw [List.mem_singleton.mp hu]
            exact hfresh.unused uid hmem)
      rw [hview]
      refine hadded.uncover (yaml_wellKept hyaml) ?_
      intro n rn hn
      by_cases hname : n = r.name
      · rw [hname, Function.update_self] at hn
        rw [hname, Function.update_self]
        exact Or.inl hn
      rw [Function.update_of_ne hname] at hn
      rcases view_flowOptions_cases hn with hshown | ⟨hhides, hy⟩
      · rw [Function.update_of_ne hname]
        exact Or.inl hshown
      · refine Or.inr ⟨hy, ?_⟩
        intro k rk hk
        rcases update_eq_some hk with ⟨_, rfl⟩ | ⟨_, hk⟩
        · exact fun heq => hfresh.unusedYaml uid hmem n rn hy heq.symm
        · exact hkeeps r hadds n hname hhides rn k rk hy hk (by simp)

/-- An edit in the options flow keeps the recipe's uid. -/
theorem restoreProtected_uid {parsed : Option PyVal} {original r : RecipeDict}
    (h : parseAndValidate I parsed = .ok r) : (restoreProtected r original).uid = original.uid := by
  show (original.uid <|> r.uid) = original.uid
  rw [parseAndValidate_uid h]
  cases original.uid <;> rfl

section
variable {editing : String} {parsed : Option PyVal} {original r : RecipeDict}
  (hedits : EditsRecipe I yaml s editing parsed original r)
  (hview : view yaml (s.step I yaml (.flowEdit editing parsed)) =
    Function.update (Function.update (view yaml ⟨flowOptionsRecipes s, s.selectedRecipe⟩) editing
      (yaml.recipes.get? editing)) r.name (some (restoreProtected r original)))

include hview in
theorem edited_new : view yaml (s.step I yaml (.flowEdit editing parsed)) r.name =
    some (restoreProtected r original) := by
  rw [hview, Function.update_self]

include hview in
/-- A YAML recipe that an edit uncovers, or leaves under the old name. -/
theorem edited_uncovered {n : String} {y : RecipeDict} (hn : n ≠ r.name)
    (hwhy : Hides yaml s n ∨ n = editing) (hy : yaml.recipes.get? n = some y) :
    view yaml (s.step I yaml (.flowEdit editing parsed)) n = some y := by
  rw [hview, Function.update_of_ne hn]
  by_cases hediting : n = editing
  · rw [hediting, Function.update_self, ← hediting, hy]
  · rw [Function.update_of_ne hediting,
      view_flowOptions_hidden (hwhy.resolve_right hediting), hy]

include hedits hview

/-- What the new name showed is gone, unless it was the edited recipe. -/
theorem edited_place (h : WellKept keying (view yaml s))
    (hframed : Framed I yaml s (.flowEdit editing parsed)) :
    r.name = editing ∨ view yaml s r.name = none := by
  by_cases hname : r.name = editing
  · exact Or.inl hname
  refine Or.inr ?_
  cases hshown : view yaml s r.name with
  | none => rfl
  | some other =>
    have hkept := hframed.others r.name other hshown fun hsame =>
      hname (Option.some.inj hsame).symm
    rw [edited_new hview] at hkept
    have hsame := h.distinct r.name editing other original hshown hedits.1
      ((congrArg RecipeDict.uid (Option.some.inj hkept)).symm.trans (restoreProtected_uid hedits.2))
    exact absurd hsame hname

/-- What a framed edit uncovers has a uid of its own. -/
theorem edited_unseen (hframed : Framed I yaml s (.flowEdit editing parsed)) {n : String}
    (hn : n ≠ r.name) (hwhy : Hides yaml s n ∨ n = editing) : UidUnseen yaml s none n := by
  intro y k rk hy hk _ heq
  have hn' := edited_uncovered hview hn hwhy hy
  by_cases hediting : k = editing
  · -- the edited recipe has its uid under the new name
    rw [hediting] at hk
    have hrk : original = rk := Option.some.inj (hedits.1.symm.trans hk)
    have hshare : keying.ident (restoreProtected r original) = keying.ident y := by
      show (restoreProtected r original).uid = y.uid
      rw [restoreProtected_uid hedits.2, hrk, heq]
    exact hn (hframed.wellKept.distinct r.name n _ y (edited_new hview) hn' hshare).symm
  · refine hframed.apart hn' hk (fun hsame => hediting (Option.some.inj hsame).symm) ?_ heq
    intro hsame
    rcases hwhy with hhides | hwhy
    · exact not_hides hk (hsame ▸ hhides)
    · exact hediting (hsame.trans hwhy)

omit hedits in
theorem edited_others (hplace : r.name = editing ∨ view yaml s r.name = none) (n : String)
    (rn : RecipeDict) (hn : view yaml s n = some rn)
    (hsubject : subject I yaml s (.flowEdit editing parsed) ≠ some n) :
    view yaml (s.step I yaml (.flowEdit editing parsed)) n = some rn := by
  have hediting : n ≠ editing := fun heq => hsubject (congrArg some heq.symm)
  have hne : n ≠ r.name := by
    rintro rfl
    rcases hplace with hplace | hplace
    · exact hediting hplace
    · rw [hplace] at hn
      cases hn
  rw [hview, Function.update_of_ne hne, Function.update_of_ne hediting,
    view_flowOptions (not_hides hn), hn]

theorem edited_wellKept (hyaml : yaml.UidsInjective) (h : WellKept keying (view yaml s))
    (hunseen : ∀ n, n ≠ r.name → (Hides yaml s n ∨ n = editing) → UidUnseen yaml s none n) :
    WellKept keying (view yaml (s.step I yaml (.flowEdit editing parsed))) := by
  have huid : (restoreProtected r original).uid = original.uid := restoreProtected_uid hedits.2
  -- the edited recipe moves with its uid; then the layers under it show
  have hmoved : WellKept keying (Function.update (Function.update (view yaml s) editing none)
      r.name (some (restoreProtected r original))) := by
    refine @WellKept.update _ _ _ _ keying _ (h.remove editing) (restoreProtected r original) ?_
    intro k rk hk heq
    obtain ⟨hk, hrk⟩ := update_none_eq_some hk
    exact absurd (h.distinct k editing rk original hrk hedits.1 (heq.trans huid)) hk
  rw [hview]
  refine hmoved.uncover (yaml_wellKept hyaml) ?_
  intro n rn hn
  by_cases hname : n = r.name
  · rw [hname, Function.update_self] at hn
    rw [hname, Function.update_self]
    exact Or.inl hn
  rw [Function.update_of_ne hname] at hn
  have happart : (Hides yaml s n ∨ n = editing) → yaml.recipes.get? n = some rn →
      ∀ k rk, Function.update (Function.update (view yaml s) editing none) r.name
        (some (restoreProtected r original)) k = some rk → keying.ident rk ≠ keying.ident rn := by
    intro hwhy hy k rk hk
    rcases update_eq_some hk with ⟨_, rfl⟩ | ⟨_, hk⟩
    · intro heq
      exact hunseen n hname hwhy rn editing original hy hedits.1 (by simp) (huid.symm.trans heq)
    · exact hunseen n hname hwhy rn k rk hy (update_none_eq_some hk).2 (by simp)
  by_cases hediting : n = editing
  · rw [hediting, Function.update_self, ← hediting] at hn
    exact Or.inr ⟨hn, happart (Or.inr hediting) hn⟩
  rw [Function.update_of_ne hediting] at hn
  rcases view_flowOptions_cases hn with hshown | ⟨hhides, hy⟩
  · rw [Function.update_of_ne hname, Function.update_of_ne hediting]
    exact Or.inl hshown
  · exact Or.inr ⟨hy, happart (Or.inl hhides) hy⟩

end

theorem flowEdit_framed_iff (hyaml : yaml.UidsInjective) (h : WellKept keying (view yaml s))
    {editing : String} {parsed : Option PyVal} :
    Framed I yaml s (.flowEdit editing parsed) ↔ KeepsApart I yaml s (.flowEdit editing parsed) := by
  rcases @stepEditRecipe_cases I yaml s editing parsed with
    ⟨hno, hstep⟩ | ⟨original, r, hedits, _, hview⟩
  · exact ⟨fun _ original r hedits => absurd hedits (hno original r),
      fun _ => framed_unchanged h hstep⟩
  constructor
  · intro hframed original' r' hedits'
    obtain rfl : original = original' := Option.some.inj (hedits.1.symm.trans hedits'.1)
    obtain rfl : r = r' := Except.ok.inj (hedits.2.symm.trans hedits'.2)
    exact ⟨edited_place hedits hview h hframed,
      fun n hn hwhy => edited_unseen hedits hview hframed hn hwhy⟩
  · intro hkeeps
    obtain ⟨hplace, hunseen⟩ := hkeeps original r hedits
    exact framed_of_wellKept (edited_others hview hplace) (edited_wellKept hedits hview hyaml h hunseen)

section
variable {name : String}
  (hview : view yaml (s.step I yaml (.flowDelete name)) =
    Function.update (view yaml ⟨flowOptionsRecipes s, s.selectedRecipe⟩) name
      (if (flowOptionsRecipes s).contains name = true then yaml.recipes.get? name else none))

include hview

/-- What a framed deletion uncovers has a uid of its own. -/
theorem deleted_unseen (hframed : Framed I yaml s (.flowDelete name)) {n : String}
    (hwhy : if n = name then Overrides yaml s n else Hides yaml s n) :
    UidUnseen yaml s (some name) n := by
  intro y k rk hy hk hgone
  have hkname : k ≠ name := fun hk => hgone (congrArg some hk)
  have hsubject : subject I yaml s (.flowDelete name) ≠ some k := fun hsame =>
    hkname (Option.some.inj hsame).symm
  by_cases hname : n = name
  · rw [if_pos hname] at hwhy
    have hn : view yaml (s.step I yaml (.flowDelete name)) n = some y := by
      rw [hname] at hwhy hy ⊢
      rw [hview, Function.update_self, if_pos hwhy.1, hy]
    exact hframed.apart hn hk hsubject fun hsame => hkname (hsame.trans hname)
  · rw [if_neg hname] at hwhy
    have hn : view yaml (s.step I yaml (.flowDelete name)) n = some y := by
      rw [hview, Function.update_of_ne hname, view_flowOptions_hidden hwhy, hy]
    exact hframed.apart hn hk hsubject fun hsame => not_hides hk (hsame ▸ hwhy)

theorem deleted_others (n : String) (rn : RecipeDict) (hn : view yaml s n = some rn)
    (hsubject : subject I yaml s (.flowDelete name) ≠ some n) :
    view yaml (s.step I yaml (.flowDelete name)) n = some rn := by
  have hname : n ≠ name := fun heq => hsubject (congrArg some heq.symm)
  rw [hview, Function.update_of_ne hname, view_flowOptions (not_hides hn), hn]

theorem deleted_wellKept (hyaml : yaml.UidsInjective) (h : WellKept keying (view yaml s))
    (hunseen : ∀ n, (if n = name then Overrides yaml s n else Hides yaml s n) →
      UidUnseen yaml s (some name) n) :
    WellKept keying (view yaml (s.step I yaml (.flowDelete name))) := by
  rw [hview]
  refine (h.remove name).uncover (yaml_wellKept hyaml) ?_
  intro n rn hn
  have happart : (if n = name then Overrides yaml s n else Hides yaml s n) →
      yaml.recipes.get? n = some rn → ∀ k rk,
        Function.update (view yaml s) name none k = some rk → keying.ident rk ≠ keying.ident rn := by
    intro hwhy hy k rk hk
    obtain ⟨hkname, hk⟩ := update_none_eq_some hk
    exact hunseen n hwhy rn k rk hy hk fun hgone => hkname (Option.some.inj hgone)
  by_cases hname : n = name
  · rw [hname, Function.update_self] at hn
    by_cases hown : (flowOptionsRecipes s).contains name = true
    · rw [if_pos hown] at hn
      have hover : Overrides yaml s name := ⟨hown, Option.isSome_iff_exists.mpr ⟨rn, hn⟩⟩
      rw [← hname] at hn hover
      exact Or.inr ⟨hn, happart (by rw [if_pos hname]; exact hover) hn⟩
    · rw [if_neg hown] at hn
      cases hn
  rw [Function.update_of_ne hname] at hn
  rcases view_flowOptions_cases hn with hshown | ⟨hhides, hy⟩
  · rw [Function.update_of_ne hname]
    exact Or.inl hshown
  · exact Or.inr ⟨hy, happart (by rw [if_neg hname]; exact hhides) hy⟩

end

theorem flowDelete_framed_iff (hyaml : yaml.UidsInjective) (h : WellKept keying (view yaml s))
    {name : String} :
    Framed I yaml s (.flowDelete name) ↔ KeepsApart I yaml s (.flowDelete name) := by
  rcases @stepDeleteRecipe_cases I yaml s name with ⟨hno, hstep⟩ | ⟨hdeletes, hview⟩
  · exact ⟨fun _ hdeletes => absurd hdeletes hno, fun _ => framed_unchanged h hstep⟩
  constructor
  · exact fun hframed _ n hwhy => deleted_unseen hview hframed hwhy
  · intro hkeeps
    exact framed_of_wellKept (deleted_others hview) (deleted_wellKept hview hyaml h (hkeeps hdeletes))

/-! ## Runs -/

/-- **One operation leaves the others alone exactly when it keeps the recipes apart.** -/
theorem step_framed_iff (hyaml : yaml.UidsInjective) (h : WellKept keying (view yaml s))
    {op : StoreOp} (hfresh : Fresh yaml s op) : Framed I yaml s op ↔ KeepsApart I yaml s op := by
  cases op with
  | flowAdd parsed uid => exact flowAdd_framed_iff hyaml h hfresh
  | flowEdit editing parsed => exact flowEdit_framed_iff hyaml h
  | flowDelete name => exact flowDelete_framed_iff hyaml h
  | create _ _ => exact ⟨fun _ => trivial, fun _ => coordinator_framed trivial h hfresh⟩
  | edit _ _ _ _ => exact ⟨fun _ => trivial, fun _ => coordinator_framed trivial h hfresh⟩
  | delete _ => exact ⟨fun _ => trivial, fun _ => coordinator_framed trivial h hfresh⟩
  | importCloud _ _ _ => exact ⟨fun _ => trivial, fun _ => coordinator_framed trivial h hfresh⟩
  | savePod _ => exact ⟨fun _ => trivial, fun _ => coordinator_framed trivial h hfresh⟩
  | exportCloud _ _ => exact ⟨fun _ => trivial, fun _ => coordinator_framed trivial h hfresh⟩

/-- **Operations leave each other's recipes alone exactly when every step keeps them apart.**  Over
any YAML layer with uids of its own, in every run of both paths from a well-kept store whose minted
uids are fresh. -/
theorem operations_framed_iff (hyaml : yaml.UidsInjective) (ops : List StoreOp) :
    ∀ s : Store, WellKept keying (view yaml s) →
      AllSteps (Store.step I yaml) (Fresh yaml) s ops →
      (AllSteps (Store.step I yaml) (Framed I yaml) s ops ↔
        AllSteps (Store.step I yaml) (KeepsApart I yaml) s ops) := by
  induction ops with
  | nil => exact fun _ _ _ => Iff.rfl
  | cons op rest ih =>
    intro s h hfresh
    have hstep := @step_framed_iff I yaml s hyaml h op hfresh.1
    constructor
    · rintro ⟨hframed, hrest⟩
      exact ⟨hstep.mp hframed, (ih _ hframed.wellKept hfresh.2).mp hrest⟩
    · rintro ⟨hkeeps, hrest⟩
      have hframed := hstep.mpr hkeeps
      exact ⟨hframed, (ih _ hframed.wellKept hfresh.2).mpr hrest⟩

/-! ## A YAML recipe and two saved ones -/

theorem morning_uidsInjective : morningYaml.UidsInjective := by
  have honly : ∀ n, morningYaml.recipes.contains n = true → n = "Morning" := by
    intro n h
    obtain ⟨r, hr⟩ := yaml_get?_of_contains h
    have hget : (Dict.empty.insert "Morning" morningRecipe).get? n = some r := hr
    rw [Dict.get?_insert] at hget
    by_contra hn
    rw [if_neg hn] at hget
    cases hget
  intro n n' h h' _
  rw [honly n h, honly n' h']

theorem view_noRecipesSaved (n : String) :
    view morningYaml noRecipesSaved n = if n = "Morning" then some morningRecipe else none := by
  have hyaml : morningYaml.recipes.get? n = if n = "Morning" then some morningRecipe else none := by
    show (Dict.empty.insert "Morning" morningRecipe).get? n = _
    rw [Dict.get?_insert]
    rfl
  rw [view_apply, hyaml]
  rfl

theorem noRecipesSaved_wellKept : WellKept keying (view morningYaml noRecipesSaved) := by
  have honly : ∀ {n r}, view morningYaml noRecipesSaved n = some r →
      n = "Morning" ∧ r = morningRecipe := by
    intro n r h
    rw [view_noRecipesSaved] at h
    by_cases hn : n = "Morning"
    · rw [if_pos hn] at h
      exact ⟨hn, (Option.some.inj h).symm⟩
    · rw [if_neg hn] at h
      cases h
  refine ⟨?_, ?_⟩
  · intro n r h
    rw [(honly h).1, (honly h).2]
    rfl
  · intro n n' r r' h h' _
    rw [(honly h).1, (honly h').1]

theorem noRecipesSaved_fresh :
    Fresh morningYaml noRecipesSaved (.create (onePourEntries "V60") "4f1c0a9b7d21") := by
  have hmint : ∀ u ∈ mints (.create (onePourEntries "V60") "4f1c0a9b7d21"), u = "4f1c0a9b7d21" :=
    fun u hu => List.mem_singleton.mp hu
  refine ⟨by decide, ?_, ?_, ?_⟩
  · intro u hu n r hr huid
    rw [hmint u hu] at huid
    rw [view_noRecipesSaved] at hr
    split at hr
    · rw [← Option.some.inj hr] at huid
      exact absurd huid (by decide)
    · cases hr
  · intro u hu n r hr huid
    rw [hmint u hu] at huid
    have hyaml : "yaml-8d3f2a10" = "4f1c0a9b7d21" :=
      Option.some.inj ((morningYaml.identified hr).symm.trans huid)
    exact absurd hyaml (by decide)
  · intro u hu
    rw [hmint u hu]
    exact ⟨by decide +kernel, by decide⟩

/-- Creating a recipe beside the YAML one leaves that alone. -/
theorem create_framed :
    AllSteps (Store.step plainIdentifiers morningYaml) (Framed plainIdentifiers morningYaml)
      noRecipesSaved [.create (onePourEntries "V60") "4f1c0a9b7d21"] :=
  (operations_framed_iff morning_uidsInjective [.create (onePourEntries "V60") "4f1c0a9b7d21"]
    noRecipesSaved noRecipesSaved_wellKept ⟨noRecipesSaved_fresh, trivial⟩).mpr ⟨trivial, trivial⟩

/-- **A rename in the options flow overwrites the recipe it lands on.**  From a well-kept store, the
created recipe is renamed to the YAML one's name, which then no longer shows the YAML one. -/
theorem rename_overwrites :
    morningYaml.UidsInjective ∧ WellKept keying (view morningYaml noRecipesSaved) ∧
      (let create := StoreOp.create (onePourEntries "V60") "4f1c0a9b7d21"
       let rename := StoreOp.flowEdit "V60" (some (.dict (onePourEntries "Morning")))
       let created := noRecipesSaved.step plainIdentifiers morningYaml create
       Fresh morningYaml noRecipesSaved create ∧
         subject plainIdentifiers morningYaml created rename = some "V60" ∧
         view morningYaml created "Morning" = some morningRecipe ∧
         view morningYaml (created.step plainIdentifiers morningYaml rename) "Morning" ≠
          some morningRecipe) := by
  refine ⟨morning_uidsInjective, noRecipesSaved_wellKept, noRecipesSaved_fresh, rfl, ?_, ?_⟩
  · decide +kernel
  · decide +kernel

end XBloom.Recipe
