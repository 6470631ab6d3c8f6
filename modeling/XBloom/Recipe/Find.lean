/-
# XBloom.Recipe.Find — resolving an identifier, and free names

`find_recipe` tries an identifier as a uid, a cloud table id, a share link and a name, in that order;
`dedupe_name` appends ` (2)`, ` (3)`, … to a name until it is free.  Two facts the stores rest on:
what is found is stored under the name it is found with, and a deduplicated name is free.
-/
import XBloom.Logic.Search
import XBloom.Py.Dict
import XBloom.Recipe.Schema

namespace XBloom.Recipe

open XBloom.Logic XBloom.Py

/-! ## `find_recipe` -/

/-- What identifiers are compared with: the text conversions and `share_id_of`, which normalises a
share link or a bare id (`none` for a link without one). -/
structure Identifiers where
  texts : TextNumbers
  shareIdOf : String → Option String
  isDigitText : String → Bool

variable (I : Identifiers)

/-- A stored share link that normalises to `shareId`. -/
def sharesId (shareId : String) (recipe : RecipeDict) : Bool :=
  match recipe.shareUrl with
  | some stored => decide (stored ≠ "") && I.shareIdOf stored == some shareId
  | none => false

/-- `find_recipe`. -/
def findRecipe (recipes : Dict String RecipeDict) (identifier : String) :
    Option (String × RecipeDict) :=
  let identifier := strip identifier
  if identifier = "" ∨ recipes.entries.isEmpty then none
  else
    (recipes.entries.find? fun e => decide (e.2.uid = some identifier)).or
    (((I.texts.parseInt identifier).bind fun tableId =>
      recipes.entries.find? fun e => decide (e.2.cloudTableId = some tableId)).or
    (((I.shareIdOf identifier).bind fun shareId =>
      if shareId = "" then none else recipes.entries.find? fun e => sharesId I shareId e.2).or
    ((recipes.get? identifier).map fun recipe => (identifier, recipe))))

/-- **What is found is stored under its name.** -/
theorem findRecipe_get? {recipes : Dict String RecipeDict} {identifier : String}
    {e : String × RecipeDict} (h : findRecipe I recipes identifier = some e) :
    recipes.get? e.1 = some e.2 := by
  unfold findRecipe at h
  dsimp only at h
  split at h
  · cases h
  · rcases Option.or_eq_some_iff.mp h with h | ⟨_, h⟩
    · exact Dict.get?_eq_some_iff.mpr (List.mem_of_find?_eq_some h)
    · rcases Option.or_eq_some_iff.mp h with h | ⟨_, h⟩
      · obtain ⟨_, _, h⟩ := Option.bind_eq_some_iff.mp h
        exact Dict.get?_eq_some_iff.mpr (List.mem_of_find?_eq_some h)
      · rcases Option.or_eq_some_iff.mp h with h | ⟨_, h⟩
        · obtain ⟨_, _, h⟩ := Option.bind_eq_some_iff.mp h
          split at h
          · cases h
          · exact Dict.get?_eq_some_iff.mpr (List.mem_of_find?_eq_some h)
        · obtain ⟨recipe, hrecipe, rfl⟩ := Option.map_eq_some_iff.mp h
          exact hrecipe

theorem isSome_bind_iff {α β : Type} {x : Option α} {f : α → Option β} :
    (x.bind f).isSome = true ↔ ∃ a, x = some a ∧ (f a).isSome = true := by
  cases x with
  | none => simp
  | some a => simp

/-- What an identifier, without its spaces, can find a recipe by. -/
def AnswersTo (identifier name : String) (recipe : RecipeDict) : Prop :=
  recipe.uid = some identifier ∨
  (∃ tableId, I.texts.parseInt identifier = some tableId ∧ recipe.cloudTableId = some tableId) ∨
  (∃ shareId, I.shareIdOf identifier = some shareId ∧ shareId ≠ "" ∧ sharesId I shareId recipe = true) ∨
  name = identifier

/-- **A recipe is found exactly when one answers to the identifier.** -/
theorem findRecipe_isSome_iff {recipes : Dict String RecipeDict} {identifier : String} :
    (findRecipe I recipes identifier).isSome = true ↔ strip identifier ≠ "" ∧
      ∃ n r, recipes.get? n = some r ∧ AnswersTo I (strip identifier) n r := by
  have hfind : ∀ p : String × RecipeDict → Bool, (recipes.entries.find? p).isSome = true ↔
      ∃ n r, recipes.get? n = some r ∧ p (n, r) = true := fun p => by
    rw [List.find?_isSome, Prod.exists]
    exact exists₂_congr fun n r => and_congr_left' Dict.get?_eq_some_iff.symm
  have hshare : ∀ shareId : String, (if shareId = "" then none else
      recipes.entries.find? fun e => sharesId I shareId e.2).isSome = true ↔
      shareId ≠ "" ∧ ∃ n r, recipes.get? n = some r ∧ sharesId I shareId r = true := fun shareId => by
    by_cases h : shareId = ""
    · simp [h]
    · rw [if_neg h, hfind]
      exact (and_iff_right h).symm
  unfold findRecipe
  dsimp only
  by_cases hempty : strip identifier = "" ∨ recipes.entries.isEmpty = true
  · rw [if_pos hempty]
    refine ⟨fun h => (Bool.false_ne_true h).elim, ?_⟩
    rintro ⟨hne, n, r, hget, -⟩
    have hmem : (n, r) ∈ recipes.entries := Dict.get?_eq_some_iff.mp hget
    rw [List.isEmpty_iff.mp (hempty.resolve_left hne)] at hmem
    cases hmem
  · rw [if_neg hempty]
    have hne : strip identifier ≠ "" := fun h => hempty (Or.inl h)
    simp only [Option.isSome_or, Bool.or_eq_true, hfind, isSome_bind_iff, hshare, Option.isSome_map,
      decide_eq_true_eq]
    constructor
    · rintro (⟨n, r, hget, h⟩ | ⟨tableId, hparse, n, r, hget, h⟩ |
        ⟨shareId, hid, hnonempty, n, r, hget, h⟩ | h)
      · exact ⟨hne, n, r, hget, Or.inl h⟩
      · exact ⟨hne, n, r, hget, Or.inr (Or.inl ⟨tableId, hparse, h⟩)⟩
      · exact ⟨hne, n, r, hget, Or.inr (Or.inr (Or.inl ⟨shareId, hid, hnonempty, h⟩))⟩
      · obtain ⟨r, hget⟩ := Option.isSome_iff_exists.mp h
        exact ⟨hne, _, r, hget, Or.inr (Or.inr (Or.inr rfl))⟩
    · rintro ⟨-, n, r, hget, h | ⟨tableId, hparse, h⟩ | ⟨shareId, hid, hnonempty, h⟩ | rfl⟩
      · exact Or.inl ⟨n, r, hget, h⟩
      · exact Or.inr (Or.inl ⟨tableId, hparse, n, r, hget, h⟩)
      · exact Or.inr (Or.inr (Or.inl ⟨shareId, hid, hnonempty, n, r, hget, h⟩))
      · exact Or.inr (Or.inr (Or.inr (Option.isSome_iff_exists.mpr ⟨r, hget⟩)))

/-- **A uid finds a recipe that has it.** -/
theorem findRecipe_has_uid {recipes : Dict String RecipeDict} {name uid : String} {recipe : RecipeDict}
    (hget : recipes.get? name = some recipe) (huid : recipe.uid = some uid)
    (hstrip : strip uid = uid) (hne : uid ≠ "") :
    ∃ e, findRecipe I recipes uid = some e ∧ e.2.uid = some uid := by
  have hmem : (name, recipe) ∈ recipes.entries := Dict.get?_eq_some_iff.mp hget
  have hentries : recipes.entries.isEmpty = false := by
    rw [← Bool.not_eq_true, List.isEmpty_iff]
    exact List.ne_nil_of_mem hmem
  obtain ⟨e, he⟩ : ∃ e, (recipes.entries.find? fun e => decide (e.2.uid = some uid)) = some e := by
    cases hf : recipes.entries.find? fun e => decide (e.2.uid = some uid) with
    | none => exact absurd (decide_eq_true huid) (List.find?_eq_none.mp hf (name, recipe) hmem)
    | some e => exact ⟨e, rfl⟩
  have hfound := List.find?_some he
  refine ⟨e, ?_, of_decide_eq_true hfound⟩
  unfold findRecipe
  simp only [hstrip]
  rw [if_neg (by simp [hne, hentries]), he]
  rfl

/-- **A uid no other recipe has finds its recipe.** -/
theorem findRecipe_uid {recipes : Dict String RecipeDict} {name uid : String} {recipe : RecipeDict}
    (hget : recipes.get? name = some recipe) (huid : recipe.uid = some uid)
    (hstrip : strip uid = uid) (hne : uid ≠ "")
    (hunique : ∀ n r, recipes.get? n = some r → r.uid = some uid → n = name) :
    findRecipe I recipes uid = some (name, recipe) := by
  obtain ⟨e, hfind, hfound⟩ := findRecipe_has_uid I hget huid hstrip hne
  have hget' : recipes.get? e.1 = some e.2 := findRecipe_get? I hfind
  have hname : e.1 = name := hunique e.1 e.2 hget' hfound
  rw [hname, hget] at hget'
  rw [hfind, ← hname, Option.some.inj hget']

/-! ## `dedupe_name` -/

/-- `f"{name} ({n})"`. -/
def suffixed (name : String) (n : ℕ) : String := name ++ " (" ++ Nat.repr n ++ ")"

/-- The suffix loop of `dedupe_name`, from `n` on; the fuel bounds its steps. -/
def firstFree (name : String) (existing : List String) : ℕ → ℕ → ℕ
  | 0, n => n
  | fuel + 1, n => if suffixed name n ∈ existing then firstFree name existing fuel (n + 1) else n

/-- `dedupe_name`.  One step more than there are existing names is enough (`firstFree_searches`). -/
def dedupeName (name : String) (existing : List String) : String :=
  if name ∉ existing then name
  else suffixed name (firstFree name existing (existing.length + 1) 2)

theorem suffixed_injective (name : String) : Function.Injective (suffixed name) := by
  intro m n h
  unfold suffixed at h
  have hrepr : Nat.repr m = Nat.repr n := by
    rw [String.append_left_inj, String.append_right_inj] at h
    exact h
  have hdigits : Nat.toDigits 10 m = Nat.toDigits 10 n := by
    rw [← Nat.toList_repr, ← Nat.toList_repr, hrepr]
  rw [← @Nat.ofDigitChars_ten_toDigits m, hdigits, Nat.ofDigitChars_ten_toDigits]

/-- With fuel for its passes, the loop ends where the search does. -/
theorem firstFree_of_searches {name : String} {existing : List String} {n m : ℕ}
    (h : Searches (suffixed name) (· ∈ existing) n m) :
    ∀ {fuel : ℕ}, m ≤ n + fuel → firstFree name existing fuel n = m := by
  induction h with
  | @stops n hfree =>
    intro fuel _
    cases fuel with
    | zero => rfl
    | succ fuel => exact if_neg hfree
  | @goes n m htaken hrest ih =>
    intro fuel hfuel
    have hle : n + 1 ≤ m := Searches.le hrest
    cases fuel with
    | zero => omega
    | succ fuel =>
      unfold firstFree
      rw [if_pos htaken]
      exact ih (by omega)

/-- **The suffix loop ends**, and with one step more than there are existing names `firstFree` comes to
its end. -/
theorem firstFree_searches (name : String) (existing : List String) :
    Searches (suffixed name) (· ∈ existing) 2 (firstFree name existing (existing.length + 1) 2) := by
  obtain ⟨m, hle, hsearch⟩ := exists_searches (suffixed_injective name) existing.toFinset
    (fun _ hs => List.mem_toFinset.mpr hs) 2
  have hcard : existing.toFinset.card ≤ existing.length := existing.toFinset_card_le
  rw [firstFree_of_searches hsearch (by omega)]
  exact hsearch

/-- **A deduplicated name is free.** -/
theorem dedupeName_not_mem (name : String) (existing : List String) :
    dedupeName name existing ∉ existing := by
  unfold dedupeName
  split
  · assumption
  · exact (firstFree_searches name existing).ends

/-- **No recipe has it**, deduplicated against their names. -/
theorem get?_dedupeName (recipes : Dict String RecipeDict) (name : String) :
    recipes.get? (dedupeName name recipes.keys) = none := by
  by_contra h
  have hmem := Dict.contains_iff.mp (Option.isSome_iff_ne_none.mpr h)
  exact dedupeName_not_mem _ _ hmem

end XBloom.Recipe
