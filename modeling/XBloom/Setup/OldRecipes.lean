/-
# XBloom.Setup.OldRecipes — recipes an earlier version has stored

The first recipes called their fields otherwise: the field names of the cloud came with version 2, a uid
and a source with version 3.  What a recipe of each version looks like, brought up to date, is said field
by field: `BrewingRenamed` and `RecipeMoved`.
-/
import XBloom.Cloud.Translate
import XBloom.Py.Dict
import Mathlib.Data.List.Forall2

namespace XBloom.Setup

open XBloom.Py XBloom.Cloud XBloom.Recipe

/-! ## Mappings -/

/-- `m[key] = value`. -/
def setKey (key : String) (value : PyVal) (m : Entries) : Entries := Dict.insertEntry key value m

/-- `m.pop(key, None)`. -/
def popKey (key : String) (m : Entries) : Entries := Dict.otherEntries key m

/-- `if old in m: m[new] = m.pop(old)`. -/
def renameKey (old new : String) (m : Entries) : Entries :=
  match m.lookup old with
  | some v => setKey new v (popKey old m)
  | none => m

/-- `m.setdefault(key, value)`. -/
def setDefault (key : String) (value : PyVal) (m : Entries) : Entries :=
  match m.lookup key with
  | some _ => m
  | none => setKey key value m

theorem lookup_setKey (key k : String) (value : PyVal) (m : Entries) :
    (setKey key value m).lookup k = if k = key then some value else m.lookup k := by
  unfold setKey
  induction m with
  | nil =>
    rw [Dict.insertEntry, List.lookup_cons]
    by_cases hk : k = key
    · rw [if_pos hk, hk, beq_self_eq_true]
    · rw [if_neg hk, beq_eq_false_iff_ne.mpr hk]
  | cons e rest ih =>
    rw [Dict.insertEntry]
    by_cases he : e.1 = key
    · rw [if_pos he, List.lookup_cons, List.lookup_cons, he]
      by_cases hk : k = key
      · rw [if_pos hk, hk, beq_self_eq_true]
      · rw [if_neg hk, beq_eq_false_iff_ne.mpr hk]
    · rw [if_neg he, List.lookup_cons, List.lookup_cons, ih]
      by_cases hk : k = key
      · rw [if_pos hk, if_pos hk, beq_eq_false_iff_ne.mpr fun h => he (h.symm.trans hk)]
      · rw [if_neg hk, if_neg hk]

theorem lookup_popKey (key k : String) (m : Entries) :
    (popKey key m).lookup k = if k = key then none else m.lookup k := by
  unfold popKey Dict.otherEntries
  induction m with
  | nil => exact (ite_self none).symm
  | cons e rest ih =>
    by_cases he : e.1 = key
    · rw [List.filter_cons_of_neg (by simp [he]), ih, List.lookup_cons]
      by_cases hk : k = key
      · rw [if_pos hk, if_pos hk]
      · rw [if_neg hk, if_neg hk, beq_eq_false_iff_ne.mpr fun h => hk (h.trans he)]
    · rw [List.filter_cons_of_pos (by simp [he]), List.lookup_cons, List.lookup_cons, ih]
      by_cases hk : k = key
      · rw [if_pos hk, if_pos hk, beq_eq_false_iff_ne.mpr fun h => he (h.symm.trans hk)]
      · rw [if_neg hk, if_neg hk]

/-- A field moves to its new name, where it wins. -/
theorem lookup_renameKey (old new k : String) (m : Entries) :
    (renameKey old new m).lookup k =
      if k = new then (m.lookup old).or (m.lookup new)
      else if k = old then none else m.lookup k := by
  unfold renameKey
  cases hold : m.lookup old with
  | none =>
    by_cases hn : k = new
    · rw [if_pos hn, hn, Option.none_or]
    · rw [if_neg hn]
      by_cases ho : k = old
      · rw [if_pos ho, ho, hold]
      · rw [if_neg ho]
  | some v =>
    dsimp only
    rw [lookup_setKey, lookup_popKey, Option.some_or]

theorem lookup_setDefault (key k : String) (value : PyVal) (m : Entries) :
    (setDefault key value m).lookup k =
      if k = key then some ((m.lookup key).getD value) else m.lookup k := by
  unfold setDefault
  cases hkey : m.lookup key with
  | none =>
    dsimp only
    rw [lookup_setKey, Option.getD_none]
  | some v =>
    dsimp only
    by_cases hk : k = key
    · rw [if_pos hk, hk, hkey, Option.getD_some]
    · rw [if_neg hk]

/-! ## Conversions -/

/-- What a `for` goes through. -/
def iterate : PyVal → Except PyErr (List PyVal)
  | .list items => .ok items
  | .dict m => .ok (m.map fun e => .str e.1)
  | .str s => .ok (s.toList.map fun c => .str (String.singleton c))
  | _ => .error .typeError

/-- A key and a value. -/
def keyAndValue (item : PyVal) : Except PyErr (String × PyVal) := do
  let parts ← iterate item
  match parts with
  | [.str key, value] => return (key, value)
  | [_, _] => throw .typeError
  | _ => throw (.valueError [.lit "dictionary update sequence element"])

/-- `dict(v)`. -/
def toDict : PyVal → Except PyErr Entries
  | .dict m => .ok m
  | v => do
    let items ← iterate v
    let pairs ← items.mapM keyAndValue
    return pairs.foldl (fun m e => setKey e.1 e.2 m) []

/-! ## Recipes -/

/-- One pour of `_migrate_recipe_v1_to_v2`. -/
def migratePour (p : PyVal) : Except PyErr PyVal := do
  let newPour ← toDict p
  return .dict (renameKey "pausing" "pause_seconds"
    (renameKey "temperature" "temperature_c" (renameKey "volume" "volume_ml" newPour)))

/-- `(total_water / dose_g) if dose_g > 0 else None`. -/
def migratedRatio (doseG totalWater : PyFloat) : Except PyErr PyVal :=
  if PyFloat.lt 0 doseG then (totalWater.div doseG).map .float else .ok .none

/-- `_migrate_recipe_v1_to_v2`. -/
def migrateRecipeV1ToV2 (T : Texts) : PyVal → Except PyErr PyVal
  | .dict recipe => do
    let doseG ← toFloat T (getOr recipe "bean_weight" (.float 15))
    let totalWater ← toFloat T (getOr recipe "total_water" (.int 250))
    let ratio ← migratedRatio doseG totalWater
    let pours ← iterate (getOr recipe "pours" (.list []))
    let newPours ← pours.mapM migratePour
    let newRecipe := popKey "total_water" (popKey "bean_weight" recipe)
    return .dict (setKey "pours" (.list newPours) (setKey "ratio" ratio
      (setKey "dose_g" (.float doseG) newRecipe)))
  | _ => .error .attributeError

/-- `_migrate_recipe_v2_to_v3`, with the uid it mints. -/
def migrateRecipeV2ToV3 (uid : String) (recipe : PyVal) : Except PyErr PyVal := do
  let migrated ← toDict recipe
  return .dict (setDefault "source" (.str "manual") (setDefault "uid" (.str uid) migrated))

/-! ## What becomes of them -/

/-- A pour under its new field names. -/
structure PourRenamed (m m' : Entries) : Prop where
  volume : m'.lookup "volume_ml" = (m.lookup "volume").or (m.lookup "volume_ml")
  temperature : m'.lookup "temperature_c" = (m.lookup "temperature").or (m.lookup "temperature_c")
  pausing : m'.lookup "pause_seconds" = (m.lookup "pausing").or (m.lookup "pause_seconds")
  gone : ∀ key ∈ ["volume", "temperature", "pausing"], m'.lookup key = none
  kept : ∀ key ∉ ["volume", "temperature", "pausing", "volume_ml", "temperature_c", "pause_seconds"],
    m'.lookup key = m.lookup key

theorem pourRenamed (m : Entries) :
    PourRenamed m (renameKey "pausing" "pause_seconds"
      (renameKey "temperature" "temperature_c" (renameKey "volume" "volume_ml" m))) := by
  have hlookup : ∀ k, (renameKey "pausing" "pause_seconds"
      (renameKey "temperature" "temperature_c" (renameKey "volume" "volume_ml" m))).lookup k = _ :=
    fun k => lookup_renameKey _ _ k _
  have hlookup' : ∀ k, (renameKey "temperature" "temperature_c"
      (renameKey "volume" "volume_ml" m)).lookup k = _ :=
    fun k => lookup_renameKey _ _ k _
  have hlookup'' : ∀ k, (renameKey "volume" "volume_ml" m).lookup k = _ :=
    fun k => lookup_renameKey _ _ k _
  refine ⟨?_, ?_, ?_, ?_, ?_⟩
  · simp [hlookup, hlookup', hlookup'']
  · simp [hlookup, hlookup', hlookup'']
  · simp [hlookup, hlookup', hlookup'']
  · intro key hkey
    simp only [List.mem_cons, List.not_mem_nil, or_false] at hkey
    rcases hkey with rfl | rfl | rfl
    all_goals simp [hlookup, hlookup', hlookup'']
  · intro key hkey
    simp only [List.mem_cons, List.not_mem_nil, or_false, not_or] at hkey
    simp [hlookup, hlookup', hlookup'', hkey]

/-- The fields `_migrate_recipe_v1_to_v2` takes away or sets. -/
def renamedFields : List String := ["bean_weight", "total_water", "dose_g", "ratio", "pours"]

/-- A recipe whose numbers are numbers and whose pours are mappings, as version 1 has stored it. -/
structure FirstRecipe (T : Texts) (m : Entries) : Prop where
  dose : (toFloat T (getOr m "bean_weight" (.float 15))).toOption.isSome
  water : (toFloat T (getOr m "total_water" (.int 250))).toOption.isSome
  pours : ∃ ps : List Entries, getOr m "pours" (.list []) = .list (ps.map .dict)

/-- A recipe's dose, ratio and pours under their new names: the ratio is what the water was of the dose,
and there is none where there was no dose. -/
structure BrewingRenamed (T : Texts) (m m' : Entries) : Prop where
  brewed : ∃ dose water ratio, toFloat T (getOr m "bean_weight" (.float 15)) = .ok dose ∧
    toFloat T (getOr m "total_water" (.int 250)) = .ok water ∧
    m'.lookup "dose_g" = some (.float dose) ∧ m'.lookup "ratio" = some ratio ∧
    (PyFloat.lt 0 dose = false → ratio = .none) ∧
    (PyFloat.lt 0 dose = true → ∃ x, water.div dose = .ok x ∧ ratio = .float x)
  pours : ∃ ps ps' : List Entries, getOr m "pours" (.list []) = .list (ps.map .dict) ∧
    m'.lookup "pours" = some (.list (ps'.map .dict)) ∧ List.Forall₂ PourRenamed ps ps'
  gone : m'.lookup "bean_weight" = none ∧ m'.lookup "total_water" = none
  kept : ∀ key ∉ renamedFields, m'.lookup key = m.lookup key

theorem migratePours_renames (ps : List Entries) :
    ∃ ps' : List Entries, (ps.map PyVal.dict).mapM migratePour = .ok (ps'.map .dict) ∧
      List.Forall₂ PourRenamed ps ps' := by
  induction ps with
  | nil => exact ⟨[], rfl, .nil⟩
  | cons p rest ih =>
    obtain ⟨rest', hrest, hrenamed⟩ := ih
    refine ⟨_ :: rest', ?_, .cons (pourRenamed p) hrenamed⟩
    rw [List.map_cons, List.mapM_cons, hrest]
    rfl

/-- A positive number divides. -/
theorem div_of_pos (a : PyFloat) {b : PyFloat} (hb : PyFloat.lt 0 b = true) :
    ∃ x, a.div b = .ok x := by
  have hne : b ≠ .fin 0 := by
    rintro rfl
    exact absurd hb (by decide)
  unfold PyFloat.div
  split
  · exact absurd rfl hne
  all_goals exact ⟨_, rfl⟩

theorem migratedRatio_returns (dose water : PyFloat) :
    ∃ ratio, migratedRatio dose water = .ok ratio ∧ (PyFloat.lt 0 dose = false → ratio = .none) ∧
      (PyFloat.lt 0 dose = true → ∃ x, water.div dose = .ok x ∧ ratio = .float x) := by
  unfold migratedRatio
  cases hpos : PyFloat.lt 0 dose with
  | false => exact ⟨.none, rfl, fun _ => rfl, nofun⟩
  | true =>
    obtain ⟨x, hx⟩ := div_of_pos water hpos
    refine ⟨.float x, ?_, nofun, fun _ => ⟨x, hx, rfl⟩⟩
    rw [if_pos rfl, hx]
    rfl

/-- **A first recipe is taken**, and its fields have their new names. -/
theorem migrateRecipeV1ToV2_renames {T : Texts} {m : Entries} (h : FirstRecipe T m) :
    ∃ m', migrateRecipeV1ToV2 T (.dict m) = .ok (.dict m') ∧ BrewingRenamed T m m' := by
  obtain ⟨dose, hdose⟩ := returns_of_isSome h.dose
  obtain ⟨water, hwater⟩ := returns_of_isSome h.water
  obtain ⟨ps, hps⟩ := h.pours
  obtain ⟨ps', hps', hpours⟩ := migratePours_renames ps
  obtain ⟨ratio, hratio, hzero, hpositive⟩ := migratedRatio_returns dose water
  refine ⟨setKey "pours" (.list (ps'.map .dict)) (setKey "ratio" ratio
    (setKey "dose_g" (.float dose) (popKey "total_water" (popKey "bean_weight" m)))), ?_,
    ⟨⟨dose, water, ratio, hdose, hwater, ?_, ?_, hzero, hpositive⟩,
    ⟨ps, ps', hps, ?_, hpours⟩, ⟨?_, ?_⟩, ?_⟩⟩
  · show (toFloat T _ >>= _) = _
    rw [hdose]
    show (toFloat T _ >>= _) = _
    rw [hwater]
    show (migratedRatio dose water >>= _) = _
    rw [hratio]
    show (iterate _ >>= _) = _
    rw [hps]
    show ((ps.map PyVal.dict).mapM migratePour >>= _) = _
    rw [hps']
    rfl
  · simp [lookup_setKey]
  · simp [lookup_setKey]
  · simp [lookup_setKey]
  · simp [lookup_setKey, lookup_popKey]
  · simp [lookup_setKey, lookup_popKey]
  · intro key hkey
    simp only [renamedFields, List.mem_cons, List.not_mem_nil, or_false, not_or] at hkey
    simp [lookup_setKey, lookup_popKey, hkey]

/-- A recipe of version 2 with a uid and a source. -/
structure Identified (m m' : Entries) : Prop where
  uid : ∃ uid, m'.lookup "uid" = some uid ∧ ∀ v, m.lookup "uid" = some v → uid = v
  source : m'.lookup "source" = some ((m.lookup "source").getD (.str "manual"))
  kept : ∀ key ∉ ["uid", "source"], m'.lookup key = m.lookup key

theorem lookup_migrateRecipeV2ToV3 (uid : String) (m : Entries) :
    (setDefault "source" (.str "manual") (setDefault "uid" (.str uid) m)).lookup "uid" =
      some ((m.lookup "uid").getD (.str uid)) := by
  simp [lookup_setDefault]

theorem migrateRecipeV2ToV3_identifies (uid : String) (m : Entries) :
    Identified m (setDefault "source" (.str "manual") (setDefault "uid" (.str uid) m)) := by
  refine ⟨⟨_, lookup_migrateRecipeV2ToV3 uid m, fun v hv => ?_⟩, ?_, ?_⟩
  · rw [hv, Option.getD_some]
  · simp [lookup_setDefault]
  · intro key hkey
    simp only [List.mem_cons, List.not_mem_nil, or_false, not_or] at hkey
    simp [lookup_setDefault, hkey]

end XBloom.Setup
