/-
# XBloom.Cloud.ShareId — the three readings of a share reference

A reference to a shared recipe, a `share-h5.xbloom.com` link or a bare share id, is read three times:
`_parse_share_id` makes the id that is posted, an import stores the reference as a link, and
`share_id_of` makes the id that `find_recipe` compares.  Here are the three, the import around them,
and what each does to the references it is meant for (`ShareReference`).
-/
import XBloom.Cloud.Translate
import XBloom.Py.Url
import XBloom.Recipe.Store
import Mathlib.Data.List.DropRight

namespace XBloom.Cloud

open XBloom.Py XBloom.Recipe

/-! ## The readings -/

/-- `"share-h5.xbloom.com" in value`. -/
def isShareLink (value : String) : Bool :=
  decide ("share-h5.xbloom.com".toList <:+: value.toList)

/-- The `id` parameter of a url. -/
def idParameter (url : String) : Option String := parseQs (urlQuery url.toList) "id"

/-- `_parse_share_id`. -/
def parseShareId (shareUrlOrId : String) : String :=
  let value := strip shareUrlOrId
  if isShareLink value then (idParameter value).getD "" else value

/-- `share_id_of`. -/
@[irreducible] def shareIdOf (urlOrId : String) : Option String :=
  let s := strip urlOrId
  if hasScheme s then idParameter s else if unquote s = "" then none else some (unquote s)

/-! ## The import -/

/-- The conversions of texts, and what Python takes for digits: `\d` of a character, `isdigit()` of a
text. -/
structure CloudTexts extends Texts where
  isDecimal : Char → Bool
  isDigitText : String → Bool

variable (T : CloudTexts)

/-- What identifiers are compared with. -/
def CloudTexts.identifiers : Identifiers := ⟨T.toTextNumbers, shareIdOf, T.isDigitText⟩

@[simp] theorem CloudTexts.identifiers_shareIdOf : T.identifiers.shareIdOf = shareIdOf := rfl

/-- `_COLLECTIVE_RECIPE_URL_RE.search(value)`, its group. -/
def collectiveRecipeId (value : String) : Option String :=
  let mark := "collective.xbloom.com/recipe/".toList
  value.toList.tails.findSome? fun tail =>
    let digits := (tail.drop mark.length).takeWhile T.isDecimal
    if mark <+: tail ∧ digits ≠ [] then some (String.ofList digits) else none

/-- The community recipe a reference names, if it names one. -/
def communityRecipeId (value : String) : Option String :=
  (collectiveRecipeId T value).or (if T.isDigitText value then some value else none)

/-- What the network answers: the share link of a community recipe, and the `recipeVo` of a share id. -/
structure CloudServer where
  resolveCollectiveLink : String → Option String
  recipeDetail : String → Option Entries

/-- The text a share id is read from: the reference, or the share link of the community recipe it
names. -/
def sharedLink (server : CloudServer) (shareUrlOrId : String) : Option String :=
  match communityRecipeId T (strip shareUrlOrId) with
  | some id => server.resolveCollectiveLink id
  | none => some (strip shareUrlOrId)

/-- The share id `fetch_shared_recipe` posts. -/
def postedShareId (server : CloudServer) (shareUrlOrId : String) : Option String :=
  ((sharedLink T server shareUrlOrId).map parseShareId).filter fun shareId => decide (shareId ≠ "")

/-- `fetch_shared_recipe`. -/
def fetchSharedRecipe (server : CloudServer) (shareUrlOrId : String) : Except PyErr (Option PyVal) :=
  match (postedShareId T server shareUrlOrId).bind server.recipeDetail with
  | none => .ok none
  | some cloud => do
    let m ← cloudRecipeToLocal T.toTexts cloud
    pure (some (.dict m))

/-- `async_import_cloud_recipe`. -/
def importReference (yaml : YamlLayer) (server : CloudServer) (s : Store) (shareUrlOrId uid : String) :
    Except PyErr (Store × StoreResult) := do
  let fetched ← fetchSharedRecipe T server shareUrlOrId
  pure (importCloudRecipe T.identifiers yaml s shareUrlOrId fetched uid)

/-! ## References -/

/-- A character of a share id: base64. -/
def isBase64 (c : Char) : Bool := c.isAlphanum || c == '+' || c == '/' || c == '='

/-- A text that spells a share id, each of its characters plain or percent-encoded. -/
inductive Spells : List Char → List Char → Prop where
  | nil : Spells [] []
  | plain {c : Char} {x id : List Char} (hc : isBase64 c = true) (h : Spells x id) :
      Spells (c :: x) (c :: id)
  | escape {a b : Char} {n : ℕ} {x id : List Char} (hbyte : hexByte a b = some n) (hn : n < 0x80)
      (hc : isBase64 (Char.ofNat n) = true) (h : Spells x id) :
      Spells ('%' :: a :: b :: x) (Char.ofNat n :: id)

/-- A bare share id. -/
def IsBareId (value : String) : Prop := value ≠ "" ∧ ∃ id, Spells value.toList id

/-- A link to the host that shares recipes; no url has a tab or a line end in it. -/
def IsShareUrl (value : String) : Prop :=
  isShareLink value = true ∧ ∀ c ∈ value.toList, c ∉ ['\t', '\r', '\n']

/-- **The references an import takes for share references**: links and bare ids, and neither a
`collective.xbloom.com` link nor digits only, which name community recipes. -/
structure ShareReference (reference : String) : Prop where
  notCommunity : communityRecipeId T (strip reference) = none
  form : IsShareUrl (strip reference) ∨ IsBareId (strip reference)

/-! ## Texts -/

theorem strip_strip (s : String) : strip (strip s) = strip s := by
  -- what is left begins as the text did after its leading spaces, if anything is left
  have hhead : ((s.toList.dropWhile isSpace).rdropWhile isSpace).dropWhile isSpace =
      (s.toList.dropWhile isSpace).rdropWhile isSpace := by
    refine List.dropWhile_eq_self_iff.mpr fun hlt => ?_
    have hleading := List.rdropWhile_prefix isSpace (s.toList.dropWhile isSpace)
    have hpos : 0 < (s.toList.dropWhile isSpace).length := hlt.trans_le hleading.length_le
    rw [hleading.getElem hlt]
    exact List.dropWhile_eq_self_iff.mp (List.dropWhile_idempotent isSpace s.toList) hpos
  show String.ofList (((strip s).toList.dropWhile isSpace).rdropWhile isSpace) =
    String.ofList ((s.toList.dropWhile isSpace).rdropWhile isSpace)
  rw [strip, String.toList_ofList]
  refine congrArg String.ofList ?_
  show (((s.toList.dropWhile isSpace).rdropWhile isSpace).dropWhile isSpace).rdropWhile isSpace = _
  rw [hhead, List.rdropWhile_idempotent]

/-- Leading characters a text has not cannot be part of it. -/
theorem infix_dropWhile {p l : List Char} {q : Char → Bool} (hne : p ≠ [])
    (hp : ∀ c ∈ p, q c = false) : p <:+: l.dropWhile q ↔ p <:+: l := by
  induction l with
  | nil => exact Iff.rfl
  | cons a l ih =>
    cases ha : q a with
    | false => rw [List.dropWhile_cons_of_neg (by simp [ha])]
    | true =>
      rw [List.dropWhile_cons_of_pos ha, ih, List.infix_cons_iff]
      refine ⟨Or.inr, fun h => h.resolve_left fun hleading => ?_⟩
      cases p with
      | nil => exact hne rfl
      | cons c p =>
        have hca : c = a := (List.cons_prefix_cons.mp hleading).1
        have hc := hp c List.mem_cons_self
        rw [hca, ha] at hc
        cases hc

theorem hasScheme_strip (s : String) : hasScheme (strip s) = hasScheme s := by
  have hmark : ∀ c ∈ "://".toList, isSpace c = false := by
    have hall : "://".toList.all (fun c => !isSpace c) = true := by decide
    simpa only [Bool.not_eq_true'] using List.all_eq_true.mp hall
  have hchars : (strip s).toList =
      ((s.toList.dropWhile isSpace).reverse.dropWhile isSpace).reverse := String.toList_ofList
  unfold hasScheme
  refine decide_eq_decide.mpr ?_
  rw [hchars, ← List.reverse_infix, List.reverse_reverse,
    infix_dropWhile (by decide) fun c hc => hmark c (List.mem_reverse.mp hc), List.reverse_infix,
    infix_dropWhile (by decide) hmark]

/-! ## Links and bare ids -/

theorem ne_percent {c : Char} (h : isBase64 c = true) : c ≠ '%' := by
  rintro rfl
  exact absurd h (by decide)

theorem isBase64_of_hexDigit {c : Char} {n : ℕ} (h : hexDigit c = some n) : isBase64 c = true := by
  have hrange : ('0' ≤ c ∧ c ≤ '9') ∨ ('a' ≤ c ∧ c ≤ 'f') ∨ ('A' ≤ c ∧ c ≤ 'F') := by
    unfold hexDigit at h
    split at h
    · exact Or.inl ‹_›
    · split at h
      · exact Or.inr (Or.inl ‹_›)
      · split at h
        · exact Or.inr (Or.inr ‹_›)
        · cases h
  have halnum : c.isAlphanum = true := by
    rcases hrange with ⟨hlow, hhigh⟩ | ⟨hlow, hhigh⟩ | ⟨hlow, hhigh⟩
    · have hdigit : c.isDigit = true := by
        rw [Char.isDigit, Bool.and_eq_true, decide_eq_true_iff, decide_eq_true_iff]
        exact ⟨hlow, hhigh⟩
      simp [Char.isAlphanum, hdigit]
    · have hlower : c.isLower = true := by
        show (decide (c.val ≥ 'a'.val) && decide (c.val ≤ 'z'.val)) = true
        rw [Bool.and_eq_true, decide_eq_true_iff, decide_eq_true_iff]
        have hz : c ≤ 'z' := Char.le_trans hhigh (show 'f' ≤ 'z' by decide)
        exact ⟨hlow, hz⟩
      show (c.isUpper || c.isLower || c.isDigit) = true
      rw [hlower, Bool.or_true, Bool.true_or]
    · have hupper : c.isUpper = true := by
        have hz : c ≤ 'Z' := Char.le_trans hhigh (show 'F' ≤ 'Z' by decide)
        show decide (c.val ≥ 'A'.val ∧ c.val ≤ 'Z'.val) = true
        rw [decide_eq_true_iff]
        exact ⟨hlow, hz⟩
      show (c.isUpper || c.isLower || c.isDigit) = true
      rw [hupper, Bool.true_or, Bool.true_or]
  simp [isBase64, halnum]

/-- A bare id is made of base64 characters and `%`. -/
theorem Spells.chars {x id : List Char} (h : Spells x id) :
    ∀ c ∈ x, isBase64 c = true ∨ c = '%' := by
  induction h with
  | nil => exact fun c hc => absurd hc List.not_mem_nil
  | plain hc _ ih =>
    intro c hmem
    rcases List.mem_cons.mp hmem with rfl | hmem
    · exact Or.inl hc
    · exact ih c hmem
  | @escape a b n x id hbyte _ _ _ ih =>
    intro c hmem
    obtain ⟨_, ha, hrest⟩ := Option.bind_eq_some_iff.mp hbyte
    obtain ⟨_, hb, _⟩ := Option.bind_eq_some_iff.mp hrest
    simp only [List.mem_cons] at hmem
    rcases hmem with rfl | rfl | rfl | hmem
    · exact Or.inr rfl
    · exact Or.inl (isBase64_of_hexDigit ha)
    · exact Or.inl (isBase64_of_hexDigit hb)
    · exact ih c hmem

/-- **`unquote` decodes a bare id.** -/
theorem Spells.unquote {x id : List Char} (h : Spells x id) : unquoteChars x = id := by
  induction h with
  | nil => rfl
  | plain hc _ ih => rw [unquoteChars_of_ne (ne_percent hc), ih]
  | escape hbyte hn _ _ ih => rw [unquoteChars_of_hexByte hbyte hn, ih]

/-- An escape is longer than what it stands for. -/
theorem Spells.eq_iff {x id : List Char} (h : Spells x id) :
    (x = id ↔ '%' ∉ x) ∧ id.length ≤ x.length := by
  induction h with
  | nil => exact ⟨⟨fun _ => List.not_mem_nil, fun _ => rfl⟩, le_rfl⟩
  | @plain c x id hc _ ih =>
    refine ⟨?_, Nat.succ_le_succ ih.2⟩
    rw [List.mem_cons, not_or, ← ih.1]
    exact ⟨fun heq => ⟨(ne_percent hc).symm, (List.cons.inj heq).2⟩, fun heq => by rw [heq.2]⟩
  | escape hbyte _ _ _ ih =>
    refine ⟨⟨fun heq => ?_, fun hmem => absurd List.mem_cons_self hmem⟩, ?_⟩
    · have hlength := congrArg List.length heq
      simp only [List.length_cons] at hlength
      omega
    · simp only [List.length_cons]
      omega

/-! ## What each reading makes of a reference -/

/-- The link an import stores for a bare id. -/
def shareLink (value : String) : String := "https://share-h5.xbloom.com/?id=" ++ value

variable {v : String}

/-- A bare id is stored, and posted, as it stands. -/
theorem IsBareId.not_link (h : IsBareId v) : hasScheme v = false ∧ isShareLink v = false := by
  obtain ⟨_, id, hid⟩ := h
  have hmark : ∀ {c : Char} {p : List Char}, c ∈ p → isBase64 c = false → c ≠ '%' →
      ¬ p <:+: v.toList := by
    intro c p hc hnot hpercent hwithin
    rcases hid.chars c (hwithin.subset hc) with hbase | hc
    · rw [hnot] at hbase
      cases hbase
    · exact hpercent hc
  constructor
  · exact decide_eq_false (hmark (c := ':') (by decide) (by decide) (by decide))
  · exact decide_eq_false (hmark (c := '-') (by decide) (by decide) (by decide))

theorem isSpace_of_isBase64 {c : Char} (h : isBase64 c = true) : isSpace c = false := by
  have hbounds : 43 ≤ c.toNat ∧ c.toNat ≤ 122 := by
    change (decide (c.val ≥ 'A'.val ∧ c.val ≤ 'Z'.val) ||
      (decide (c.val ≥ 'a'.val) && decide (c.val ≤ 'z'.val)) ||
      (decide (c.val ≥ '0'.val) && decide (c.val ≤ '9'.val)) || c == '+' || c == '/' || c == '=') =
        true at h
    simp only [Bool.or_eq_true, Bool.and_eq_true, decide_eq_true_eq, beq_iff_eq, ge_iff_le,
      UInt32.le_iff_toNat_le] at h
    rcases h with (((((h | h) | h) | rfl) | rfl) | rfl)
    · exact ⟨le_trans (by decide) h.1, le_trans h.2 (by decide)⟩
    · exact ⟨le_trans (by decide) h.1, le_trans h.2 (by decide)⟩
    · exact ⟨le_trans (by decide) h.1, le_trans h.2 (by decide)⟩
    · decide
    · decide
    · decide
  unfold isSpace
  simp only [Bool.or_eq_false_iff, Bool.and_eq_false_iff, decide_eq_false_iff_not, beq_eq_false_iff_ne]
  omega

/-- The characters a bare id has none of. -/
theorem IsBareId.no_space (h : IsBareId v) : ∀ c ∈ v.toList, isSpace c = false ∧
    c ∉ ['\t', '\r', '\n', '#', '&'] := by
  obtain ⟨_, id, hid⟩ := h
  intro c hc
  rcases hid.chars c hc with hbase | rfl
  · refine ⟨isSpace_of_isBase64 hbase, fun hmem => ?_⟩
    -- none of the five is a base 64 digit
    simp only [List.mem_cons, List.not_mem_nil, or_false] at hmem
    rcases hmem with rfl | rfl | rfl | rfl | rfl
    all_goals exact absurd hbase (by decide)
  · decide

/-- What stands before the `?` of a stored link. -/
def linkFront : List Char := "https://share-h5.xbloom.com/".toList

theorem shareLink_toList (v : String) :
    (shareLink v).toList = linkFront ++ '?' :: ("id=".toList ++ v.toList) := by
  have hfront : "https://share-h5.xbloom.com/?id=".toList = linkFront ++ '?' :: "id=".toList := by
    decide +kernel
  have happend : (shareLink v).toList = "https://share-h5.xbloom.com/?id=".toList ++ v.toList :=
    String.toList_append
  exact happend.trans ((congrArg (· ++ v.toList) hfront).trans (List.append_assoc _ _ _))

theorem hasScheme_shareLink (v : String) : hasScheme (shareLink v) = true := by
  have hmark : "https".toList ++ "://".toList ++ "share-h5.xbloom.com/".toList = linkFront := by
    decide +kernel
  refine decide_eq_true ⟨"https".toList,
    "share-h5.xbloom.com/".toList ++ '?' :: ("id=".toList ++ v.toList), ?_⟩
  rw [shareLink_toList, ← hmark, List.append_assoc, List.append_assoc, List.append_assoc]

/-- **What `share_id_of` reads in the stored link of a bare id**: the id, with `+` read as a space. -/
theorem IsBareId.shareIdOf_link (h : IsBareId v) :
    shareIdOf (shareLink v) = some (String.ofList (unquoteChars (plusToSpace v.toList))) := by
  have hchars : ∀ c ∈ (shareLink v).toList, isSpace c = false ∧ c ∉ ['\t', '\r', '\n', '#'] := by
    have hall : (linkFront ++ '?' :: "id=".toList).all
        (fun c => decide (isSpace c = false ∧ c ∉ ['\t', '\r', '\n', '#'])) = true := by decide
    have hfixed : ∀ c ∈ linkFront ++ '?' :: "id=".toList,
        isSpace c = false ∧ c ∉ ['\t', '\r', '\n', '#'] :=
      fun c hc => of_decide_eq_true (List.all_eq_true.mp hall c hc)
    intro c hc
    rw [shareLink_toList, ← List.cons_append, ← List.append_assoc] at hc
    rcases List.mem_append.mp hc with hc | hc
    · exact hfixed c hc
    · obtain ⟨hspace, hnot⟩ := h.no_space c hc
      exact ⟨hspace, fun hmem => hnot (List.mem_append_left ['&'] hmem)⟩
  -- nothing of a bare id ends the query early or starts another field
  have hquery : urlQuery (shareLink v).toList = "id=".toList ++ v.toList := by
    have hfilter : (shareLink v).toList.filter (fun c => c ∉ ['\t', '\r', '\n']) =
        (shareLink v).toList := by
      refine List.filter_eq_self.mpr fun c hc => decide_eq_true fun hmem => (hchars c hc).2 ?_
      exact List.mem_append_left ['#'] hmem
    have hfragment : '#' ∉ (shareLink v).toList := fun hc => (hchars _ hc).2 (by decide)
    rw [urlQuery, hfilter, cutBefore_of_not_mem hfragment, shareLink_toList,
      (cut_append (by decide) _).2]
  have hvalue : fieldValue "id".toList ("id=".toList ++ v.toList) =
      some (unquoteChars (plusToSpace v.toList)) := by
    obtain ⟨hbefore, hafter⟩ := cut_append (c := '=') (x := "id".toList) (by decide) v.toList
    have hfield : "id=".toList ++ v.toList = "id".toList ++ '=' :: v.toList := rfl
    have hne : v.toList ≠ [] := fun hnil => h.1 (String.toList_eq_nil_iff.mp hnil)
    rw [fieldValue, hfield, hbefore, hafter, if_pos ⟨hne, by decide⟩]
  have hsplit : ("id=".toList ++ v.toList).splitOn '&' = ["id=".toList ++ v.toList] := by
    refine List.splitOn_eq_singleton fun hmem => ?_
    rcases List.mem_append.mp hmem with hmem | hmem
    · exact absurd hmem (by decide)
    · exact (h.no_space _ hmem).2 (by decide)
  rw [shareIdOf, strip_of_no_space fun c hc => (hchars c hc).1]
  rw [if_pos (hasScheme_shareLink v), idParameter, hquery, parseQs, hsplit,
    List.findSome?_singleton, hvalue]
  rfl

end XBloom.Cloud
