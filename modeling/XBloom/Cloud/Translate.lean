/-
# XBloom.Cloud.Translate — recipes in the shape of the local schema and in that of the cloud

Two hand-written translations.  The cloud names and numbers things its own way, and its absent values
are filled in with `x or default`, which takes a zero for an absent one.
-/
import XBloom.Recipe.Build

namespace XBloom.Cloud

open XBloom.Py XBloom.Ble XBloom.Recipe

/-! ## Python objects -/

/-- The conversions between objects and texts; `str()` of a list or a mapping is left open. -/
structure Texts extends TextNumbers where
  showObject : PyVal → String

/-- A mapping's entries. -/
abbrev Entries := List (String × PyVal)

/-- `m.get(key, default)`. -/
def getOr (m : Entries) (key : String) (dflt : PyVal) : PyVal := (m.lookup key).getD dflt

/-- `m.get(key)`. -/
def get (m : Entries) (key : String) : PyVal := getOr m key .none

/-- `a or b`. -/
def pyOr (a b : PyVal) : PyVal := if a.truthy then a else b

/-- `v == 1`. -/
def isOne : PyVal → Bool
  | .int n => decide (n = 1)
  | .bool b => b
  | .float x => x.eq 1
  | _ => false

section
variable (T : Texts)

/-- `int(v)`. -/
def toInt : PyVal → Except PyErr ℤ
  | .int n => .ok n
  | .bool b => .ok (if b then 1 else 0)
  | .float x => x.toInt
  | .str s =>
    match T.parseInt s with
    | some n => .ok n
    | none => .error (.valueError [.lit "invalid literal for int()"])
  | _ => .error .typeError

/-- `float(v)`. -/
def toFloat : PyVal → Except PyErr PyFloat
  | .int n => PyFloat.ofInt n
  | .bool b => .ok (if b then 1 else 0)
  | .float x => .ok x
  | .str s =>
    match T.parseFloat s with
    | some x => .ok x
    | none => .error (.valueError [.lit "could not convert string to float"])
  | _ => .error .typeError

/-- `str(v)`. -/
def toStr : PyVal → String
  | .none => "None"
  | .bool b => if b then "True" else "False"
  | .int n => toString n
  | .float x => T.reprFloat x
  | .str s => s
  | .other text => text
  | v => T.showObject v

/-! ## From the cloud -/

/-- `_CLOUD_PATTERN_TO_LOCAL.get(n, "spiral")`. -/
def cloudPatternToLocal (n : ℤ) : String :=
  if n = 1 then "center" else if n = 2 then "spiral" else if n = 3 then "circular" else "spiral"

/-- `_CLOUD_CUP_TYPE_TO_LOCAL.get(n, "other")`. -/
def cloudCupTypeToLocal (n : ℤ) : String :=
  if n = 1 then "x_pod" else if n = 2 then "omni_dripper" else if n = 3 then "other"
  else if n = 4 then "tea" else "other"

/-- `_cloud_vibration_to_local`. -/
def cloudVibrationToLocal (before after : PyVal) : String :=
  match isOne before, isOne after with
  | true, true => "both"
  | true, false => "before"
  | false, true => "after"
  | false, false => "none"

/-- `_cloud_pour_to_local`. -/
def cloudPourToLocal (p : Entries) : Except PyErr Entries := do
  let volume ← toInt T (pyOr (getOr p "volume" (.int 30)) (.int 30))
  let temperature ← toInt T (pyOr (getOr p "temperature" (.int 93)) (.int 93))
  let flow ← toFloat T (pyOr (getOr p "flowRate" (.float 3)) (.float 3))
  let pause ← toInt T (pyOr (getOr p "pausing" (.int 0)) (.int 0))
  let pattern ← toInt T (pyOr (getOr p "pattern" (.int 2)) (.int 2))
  return [("volume_ml", .int volume), ("temperature_c", .int temperature),
    ("flow_rate", .float flow), ("pause_seconds", .int pause),
    ("pattern", .str (cloudPatternToLocal pattern)),
    ("vibration", .str (cloudVibrationToLocal (get p "isEnableVibrationBefore")
      (get p "isEnableVibrationAfter")))]

/-- `_cloud_pour_to_local` of an element of the list: anything but a mapping has no `get`. -/
def cloudItemToLocal : PyVal → Except PyErr PyVal
  | .dict p => (cloudPourToLocal T p).map .dict
  | _ => .error .attributeError

/-- `[_cloud_pour_to_local(p) for p in pour_list]`. -/
def cloudPoursToLocal : PyVal → Except PyErr (List PyVal)
  | .list items => items.mapM (cloudItemToLocal T)
  | .str _ => .error .attributeError
  | .dict _ => .error .attributeError
  | _ => .error .typeError

/-- `isEnableBypassWater in (None, 1)`. -/
def bypassOn (v : PyVal) : Bool :=
  match v with
  | .none => true
  | v => isOne v

/-- `float(ratio_raw) if (dose_g > 0 and ratio_raw) else None`. -/
def cloudRatio (doseG : PyFloat) (ratio : PyVal) : Except PyErr PyVal :=
  if PyFloat.lt 0 doseG && ratio.truthy then (toFloat T ratio).map .float else .ok .none

/-- A bypass field, zero when the bypass is off. -/
def cloudBypass (on : Bool) (v : PyVal) : Except PyErr PyFloat :=
  if on then toFloat T (pyOr v (.int 0)) else .ok 0

/-- `cloud_recipe_to_local`. -/
def cloudRecipeToLocal (cloud : Entries) : Except PyErr Entries := do
  let doseG ← toFloat T (pyOr (getOr cloud "dose" (.int 0)) (.int 0))
  let ratio ← cloudRatio T doseG (get cloud "grandWater")
  let cup ← toInt T (pyOr (getOr cloud "cupType" (.int 2)) (.int 2))
  let on := bypassOn (get cloud "isEnableBypassWater")
  let grind ← toInt T (pyOr (getOr cloud "grinderSize" (.int 50)) (.int 0))
  let rpm ← toInt T (pyOr (getOr cloud "rpm" (.int 80)) (.int 0))
  let bypassVolume ← cloudBypass T on (getOr cloud "bypassVolume" (.int 0))
  let bypassTemperature ← cloudBypass T on (getOr cloud "bypassTemp" (.int 0))
  let pours ← cloudPoursToLocal T (pyOr (get cloud "pourList") (.list []))
  return [("name", .str (toStr T (pyOr (get cloud "theName") (.str "Imported Recipe")))),
    ("grind_size", .int grind), ("rpm", .int rpm), ("dose_g", .float doseG), ("ratio", ratio),
    ("cup_type", .str (cloudCupTypeToLocal cup)), ("bypass_volume", .float bypassVolume),
    ("bypass_temperature", .float bypassTemperature), ("pours", .list pours)]

end

/-! ## To the cloud -/

/-- `_LOCAL_PATTERN_TO_CLOUD.get(n, 2)`. -/
def localPatternToCloud (n : ℤ) : ℤ := if n = 0 then 1 else if n = 1 then 3 else 2

/-- `_LOCAL_CUP_TYPE_TO_CLOUD.get(key, 2)`. -/
def localCupTypeToCloud (key : String) : ℤ :=
  if key = "x_pod" then 1 else if key = "omni_dripper" then 2 else if key = "other" then 3
  else if key = "tea" then 4 else 2

/-- `_local_vibration_to_cloud`. -/
def localVibrationToCloud (vibration : String) : ℤ × ℤ :=
  let v := if vibration = "" then "none" else vibration
  (if v = "before" ∨ v = "both" then 1 else 2, if v = "after" ∨ v = "both" then 1 else 2)

/-- The name of a pour, by its position. -/
def pourName (index : ℕ) : String := if index = 0 then "Bloom" else s!"Pour {index + 1}"

/-- `_local_pour_to_cloud`. -/
def localPourToCloud (p : PourDict) (index : ℕ) : Entries :=
  [("theName", .str (pourName index)), ("volume", .int p.volumeMl),
    ("temperature", .int p.temperatureC), ("flowRate", .float p.flowRate),
    ("pausing", .int p.pauseSeconds), ("pattern", .int (localPatternToCloud p.pattern)),
    ("isEnableVibrationBefore", .int (localVibrationToCloud p.vibration).1),
    ("isEnableVibrationAfter", .int (localVibrationToCloud p.vibration).2)]

/-- `x or 0` of a float. -/
def floatOrZero (x : PyFloat) : PyFloat := if x.truthy then x else 0

/-- The value of an optional float. -/
def optionalFloat : Option PyFloat → PyVal
  | some x => .float x
  | none => .none

/-- `local_recipe_to_cloud`.  The value whose JSON text is sent stands for `pourDataJSONStr`. -/
def localRecipeToCloud (r : RecipeDict) : Entries :=
  let bypassVolume := floatOrZero r.bypassVolume
  let bypassTemperature := floatOrZero r.bypassTemperature
  [("theName", .str r.name), ("dose", pyOr (.float r.doseG) (.int 0)),
    ("grandWater", optionalFloat r.ratio), ("grinderSize", .int r.grindSize), ("rpm", .int r.rpm),
    ("cupType", .int (localCupTypeToCloud r.cupType)), ("bypassTemp", .float bypassTemperature),
    ("bypassVolume", .float bypassVolume),
    ("isSetGrinderSize", .int (if 0 < r.grindSize then 1 else 2)),
    ("isEnableBypassWater",
      .int (if PyFloat.lt 0 bypassVolume || PyFloat.lt 0 bypassTemperature then 1 else 2)),
    ("pourDataJSONStr", .list (r.pours.mapIdx fun i p => .dict (localPourToCloud p i)))]

/-- What a server returns of the fields it was sent: the same, and the pours parsed. -/
def serverReturns (cloud : Entries) : Entries := cloud ++ [("pourList", get cloud "pourDataJSONStr")]

/-! ## There and back -/

/-- A pour after the round trip. -/
def viaCloudPour (p : PourDict) : PourDict :=
  { p with
    volumeMl := if p.volumeMl = 0 then 30 else p.volumeMl
    flowRate := if p.flowRate.truthy then p.flowRate else 3 }

/-- Whether the bypass is on, as the cloud is told. -/
def bypassSet (r : RecipeDict) : Bool :=
  PyFloat.lt 0 (floatOrZero r.bypassVolume) || PyFloat.lt 0 (floatOrZero r.bypassTemperature)

/-- A recipe after the round trip: its brew fields, and none of the store's own. -/
def viaCloud (r : RecipeDict) : RecipeDict where
  name := r.name
  grindSize := r.grindSize
  rpm := r.rpm
  doseG := floatOrZero r.doseG
  ratio := r.ratio.filter fun x => PyFloat.lt 0 (floatOrZero r.doseG) && x.truthy
  cupType := cloudCupTypeToLocal (localCupTypeToCloud r.cupType)
  bypassVolume := if bypassSet r then floatOrZero r.bypassVolume else 0
  bypassTemperature := if bypassSet r then floatOrZero r.bypassTemperature else 0
  pours := r.pours.map viaCloudPour

section
variable {T : Texts}

/-- A pour that came through `POUR_SCHEMA`. -/
structure Sendable (p : PourDict) : Prop extends p.Accepted where
  temperatureC : 0 < p.temperatureC
  vibration : p.vibration ∈ ["none", "before", "after", "both"]

theorem toInt_pyOr (n dflt : ℤ) :
    toInt T (pyOr (.int n) (.int dflt)) = .ok (if n = 0 then dflt else n) := by
  by_cases h : n = 0
  · simp [pyOr, PyVal.truthy, toInt, h]
  · simp [pyOr, PyVal.truthy, toInt, h]

theorem toInt_pyOr_of_ne {n : ℤ} (h : n ≠ 0) (dflt : ℤ) :
    toInt T (pyOr (.int n) (.int dflt)) = .ok n := by
  rw [toInt_pyOr, if_neg h]

theorem toInt_pyOr_zero (n : ℤ) : toInt T (pyOr (.int n) (.int 0)) = .ok n := by
  rw [toInt_pyOr]
  split
  · rename_i h
    rw [h]
  · rfl

theorem toFloat_pyOr (x dflt : PyFloat) :
    toFloat T (pyOr (.float x) (.float dflt)) = .ok (if x.truthy then x else dflt) := by
  cases h : x.truthy with
  | true => simp [pyOr, PyVal.truthy, toFloat, h]
  | false => simp [pyOr, PyVal.truthy, toFloat, h]

theorem toFloat_zero : toFloat T (.int 0) = .ok 0 := by
  have h := PyFloat.ofInt_of_lt (n := 0) (PyFloat.lt_overflowBound_of_le (by norm_num))
  simpa [toFloat] using h

theorem toFloat_pyOr_zero (x : PyFloat) :
    toFloat T (pyOr (.float x) (.int 0)) = .ok (floatOrZero x) := by
  unfold floatOrZero
  cases h : x.truthy with
  | true => simp [pyOr, PyVal.truthy, toFloat, h]
  | false => simp [pyOr, PyVal.truthy, toFloat_zero, h]

theorem vibration_round_trips {vibration : String}
    (h : vibration ∈ ["none", "before", "after", "both"]) :
    cloudVibrationToLocal (.int (localVibrationToCloud vibration).1)
      (.int (localVibrationToCloud vibration).2) = vibration := by
  simp only [List.mem_cons, List.not_mem_nil, or_false] at h
  rcases h with rfl | rfl | rfl | rfl <;> decide

/-- A pour on its way back. -/
theorem cloudPourToLocal_localPourToCloud {p : PourDict} (h : Sendable p) (index : ℕ) :
    cloudPourToLocal T (localPourToCloud p index) = .ok
      [("volume_ml", .int (viaCloudPour p).volumeMl), ("temperature_c", .int p.temperatureC),
        ("flow_rate", .float (viaCloudPour p).flowRate), ("pause_seconds", .int p.pauseSeconds),
        ("pattern", .str (cloudPatternToLocal (localPatternToCloud p.pattern))),
        ("vibration", .str p.vibration)] := by
  have hpattern : localPatternToCloud p.pattern ≠ 0 := by
    unfold localPatternToCloud
    split
    · decide
    · split <;> decide
  refine bind_eq_ok.mpr ⟨_, toInt_pyOr p.volumeMl 30, bind_eq_ok.mpr ⟨_,
    toInt_pyOr_of_ne (by have := h.temperatureC; omega) 93, bind_eq_ok.mpr ⟨_, toFloat_pyOr p.flowRate 3,
      bind_eq_ok.mpr ⟨_, toInt_pyOr_zero p.pauseSeconds, bind_eq_ok.mpr ⟨_, toInt_pyOr_of_ne hpattern 2, ?_⟩⟩⟩⟩⟩
  rw [show get (localPourToCloud p index) "isEnableVibrationBefore" =
      .int (localVibrationToCloud p.vibration).1 from rfl,
    show get (localPourToCloud p index) "isEnableVibrationAfter" =
      .int (localVibrationToCloud p.vibration).2 from rfl, vibration_round_trips h.vibration]
  rfl

/-- **`POUR_SCHEMA` takes it**, with the zeros it had replaced. -/
theorem pourSchema_viaCloud {p : PourDict} (h : Sendable p) (index : ℕ) :
    ∃ m, cloudItemToLocal T (.dict (localPourToCloud p index)) = .ok (.dict m) ∧
      pourSchema T.toTextNumbers (.dict m) = .ok (viaCloudPour p) := by
  refine ⟨_, by rw [cloudItemToLocal, cloudPourToLocal_localPourToCloud h index]; rfl, ?_⟩
  have hvolume : positiveInt T.toTextNumbers (.int (viaCloudPour p).volumeMl) =
      .ok (viaCloudPour p).volumeMl := by
    have hnonneg : 0 ≤ (viaCloudPour p).volumeMl := by
      show 0 ≤ if p.volumeMl = 0 then (30 : ℤ) else p.volumeMl
      split
      · decide
      · exact h.volumeMl
    show (if 0 ≤ (viaCloudPour p).volumeMl then Except.ok _ else _) = _
    rw [if_pos hnonneg]
  have htemperature : coerceTemperatureC (.int p.temperatureC) = .ok p.temperatureC :=
    if_pos h.temperatureC
  have hpattern : coercePourPattern (.str (cloudPatternToLocal (localPatternToCloud p.pattern))) =
      .ok p.pattern := by
    rcases h.pattern with hp | hp | hp <;> rw [hp] <;> decide
  have hvibration : inVibrations (.str p.vibration) = .ok p.vibration := if_pos h.vibration
  exact bind_eq_ok.mpr ⟨(), rfl,
    bind_eq_ok.mpr ⟨_, required_of_lookup rfl hvolume,
    bind_eq_ok.mpr ⟨_, required_of_lookup rfl htemperature,
    bind_eq_ok.mpr ⟨_, optionalOr_of_lookup rfl rfl,
    bind_eq_ok.mpr ⟨_, optionalOr_of_lookup rfl rfl,
    bind_eq_ok.mpr ⟨_, optionalOr_of_lookup rfl hpattern,
    bind_eq_ok.mpr ⟨_, optionalOr_of_lookup rfl hvibration, rfl⟩⟩⟩⟩⟩⟩⟩

/-- The pours of a recipe, from any position on. -/
theorem poursSchema_viaCloud {pours : List PourDict} (h : ∀ p ∈ pours, Sendable p) (n k : ℕ) :
    ∃ items, (pours.mapIdx fun i p => PyVal.dict (localPourToCloud p (n + i))).mapM
        (cloudItemToLocal T) = .ok items ∧
      eachItem (pourSchema T.toTextNumbers) k items = .ok (pours.map viaCloudPour) := by
  induction pours generalizing n k with
  | nil => exact ⟨[], rfl, rfl⟩
  | cons p rest ih =>
    obtain ⟨m, hm, hp⟩ := pourSchema_viaCloud (T := T) (h p List.mem_cons_self) n
    obtain ⟨items, hitems, hrest⟩ := ih (fun p' hp' => h p' (List.mem_cons_of_mem _ hp')) (n + 1) (k + 1)
    refine ⟨.dict m :: items, ?_, ?_⟩
    · have hshift : (fun i p => PyVal.dict (localPourToCloud p (n + (i + 1)))) =
          fun i p => PyVal.dict (localPourToCloud p (n + 1 + i)) := by
        funext i p
        rw [show n + (i + 1) = n + 1 + i by omega]
      rw [List.mapIdx_cons, List.mapM_cons, hshift]
      exact bind_eq_ok.mpr ⟨_, hm, bind_eq_ok.mpr ⟨items, hitems, rfl⟩⟩
    · simp only [eachItem, hp, hrest, List.map_cons]

theorem pyOr_pyOr (a b : PyVal) : pyOr (pyOr a b) b = pyOr a b := by
  unfold pyOr
  split
  · rfl
  · split <;> rfl

theorem pyOr_list (items : List PyVal) : pyOr (.list items) (.list []) = .list items := by
  cases items <;> rfl

theorem pyOr_str {s : String} (h : s ≠ "") (dflt : PyVal) : pyOr (.str s) dflt = .str s :=
  if_pos (decide_eq_true h)

theorem floatOrZero_floatOrZero (x : PyFloat) : floatOrZero (floatOrZero x) = floatOrZero x := by
  unfold floatOrZero
  split
  · rfl
  · split <;> rfl

theorem cloudRatio_optionalFloat (doseG : PyFloat) (ratio : Option PyFloat) :
    cloudRatio T doseG (optionalFloat ratio) =
      .ok (optionalFloat (ratio.filter fun x => PyFloat.lt 0 doseG && x.truthy)) := by
  cases ratio with
  | none => simp [cloudRatio, optionalFloat, PyVal.truthy]
  | some x =>
    show (if (PyFloat.lt 0 doseG && x.truthy) = true then _ else _) = Except.ok
      (optionalFloat (if (PyFloat.lt 0 doseG && x.truthy) = true then some x else none))
    split <;> rfl

theorem noneOrFloat_optionalFloat (N : TextNumbers) (x : Option PyFloat) :
    noneOrFloat N (optionalFloat x) = .ok x := by
  cases x <;> rfl

theorem localCupTypeToCloud_ne_zero (key : String) : localCupTypeToCloud key ≠ 0 := by
  unfold localCupTypeToCloud
  split_ifs <;> decide

theorem cloudBypass_floatOrZero (on : Bool) (x : PyFloat) :
    cloudBypass T on (.float (floatOrZero x)) = .ok (if on then floatOrZero x else 0) := by
  cases on with
  | true =>
    show toFloat T (pyOr (.float (floatOrZero x)) (.int 0)) = .ok (floatOrZero x)
    rw [toFloat_pyOr_zero, floatOrZero_floatOrZero]
  | false => rfl

theorem bypassOn_set (r : RecipeDict) :
    bypassOn (get (serverReturns (localRecipeToCloud r)) "isEnableBypassWater") = bypassSet r := by
  show bypassOn (.int (if bypassSet r then 1 else 2)) = bypassSet r
  cases bypassSet r <;> decide

/-- **The round trip**: what comes back goes through `RECIPE_SCHEMA`, as `viaCloud` says. -/
theorem recipeSchema_viaCloud {r : RecipeDict} (hname : r.name ≠ "")
    (hpours : ∀ p ∈ r.pours, Sendable p) :
    ∃ m, cloudRecipeToLocal T (serverReturns (localRecipeToCloud r)) = .ok m ∧
      recipeSchema T.toTextNumbers (.dict m) = .ok (viaCloud r) := by
  obtain ⟨items, hitems, hschema⟩ := poursSchema_viaCloud (T := T) hpours 0 0
  simp only [Nat.zero_add] at hitems
  have hlist : cloudPoursToLocal T (pyOr (get (serverReturns (localRecipeToCloud r)) "pourList")
      (.list [])) = .ok items := by
    rw [show get (serverReturns (localRecipeToCloud r)) "pourList" =
      .list (r.pours.mapIdx fun i p => .dict (localPourToCloud p i)) from rfl, pyOr_list]
    exact hitems
  have hdose : toFloat T (pyOr (pyOr (.float r.doseG) (.int 0)) (.int 0)) =
      .ok (floatOrZero r.doseG) := by
    rw [pyOr_pyOr, toFloat_pyOr_zero]
  have hbypass : ∀ x, cloudBypass T
      (bypassOn (get (serverReturns (localRecipeToCloud r)) "isEnableBypassWater"))
      (.float (floatOrZero x)) = .ok (if bypassSet r then floatOrZero x else 0) := by
    intro x
    rw [bypassOn_set, cloudBypass_floatOrZero]
  -- `_cloud_recipe_to_local` field by field, then `RECIPE_SCHEMA` on what it returns
  refine ⟨_, bind_eq_ok.mpr ⟨_, hdose,
    bind_eq_ok.mpr ⟨_, cloudRatio_optionalFloat _ r.ratio,
    bind_eq_ok.mpr ⟨_, toInt_pyOr_of_ne (localCupTypeToCloud_ne_zero r.cupType) 2,
    bind_eq_ok.mpr ⟨_, toInt_pyOr_zero r.grindSize,
    bind_eq_ok.mpr ⟨_, toInt_pyOr_zero r.rpm,
    bind_eq_ok.mpr ⟨_, hbypass r.bypassVolume,
    bind_eq_ok.mpr ⟨_, hbypass r.bypassTemperature,
    bind_eq_ok.mpr ⟨items, hlist, rfl⟩⟩⟩⟩⟩⟩⟩⟩, ?_⟩
  rw [show get (serverReturns (localRecipeToCloud r)) "theName" = .str r.name from rfl,
    pyOr_str hname]
  exact bind_eq_ok.mpr ⟨(), rfl,
    bind_eq_ok.mpr ⟨none, optional_of_absent rfl,
    bind_eq_ok.mpr ⟨none, optional_of_absent rfl,
    bind_eq_ok.mpr ⟨none, optional_of_absent rfl,
    bind_eq_ok.mpr ⟨none, optional_of_absent rfl,
    bind_eq_ok.mpr ⟨_, required_of_lookup rfl rfl,
    bind_eq_ok.mpr ⟨_, optionalOr_of_lookup rfl rfl,
    bind_eq_ok.mpr ⟨_, optionalOr_of_lookup rfl rfl,
    bind_eq_ok.mpr ⟨_, optionalOr_of_lookup rfl rfl,
    bind_eq_ok.mpr ⟨_, optionalOr_of_lookup rfl (noneOrFloat_optionalFloat _ _),
    bind_eq_ok.mpr ⟨_, optionalOr_of_lookup rfl rfl,
    bind_eq_ok.mpr ⟨_, optionalOr_of_lookup rfl rfl,
    bind_eq_ok.mpr ⟨_, optionalOr_of_lookup rfl rfl,
    bind_eq_ok.mpr ⟨_, required_of_lookup rfl hschema, rfl⟩⟩⟩⟩⟩⟩⟩⟩⟩⟩⟩⟩⟩⟩

theorem recipeSchema_sendable {N : TextNumbers} {v : PyVal} {r : RecipeDict}
    (h : recipeSchema N v = .ok r) : ∀ p ∈ r.pours, Sendable p := by
  refine recipeSchema_pours (fun x p hp => ?_) h
  obtain ⟨htemperature, hvibration⟩ := pourSchema_named hp
  exact ⟨pourSchema_accepted hp, htemperature, hvibration⟩

/-! ## What survives -/

/-- `x or 0` is `x`. -/
theorem floatOrZero_eq (x : PyFloat) : floatOrZero x = x := by
  unfold floatOrZero
  cases x with
  | fin q =>
    by_cases h : q = 0
    · simp [h]
    · simp [h]
  | inf neg => rfl
  | nan => rfl

/-- **What the round trip keeps**: pours with a volume and a flow, a vessel under its own name (or any
other spelling of the one that unknown names become), and a bypass that is on, or all zero. -/
structure SurvivesCloud (r : RecipeDict) : Prop where
  volume : ∀ p ∈ r.pours, p.volumeMl ≠ 0
  flow : ∀ p ∈ r.pours, p.flowRate ≠ 0
  cup : r.cupType ∈ ["x_pod", "omni_dripper", "other", "tea"] ∨
    lower (strip r.cupType) = "omni_dripper"
  bypass : PyFloat.lt 0 r.bypassVolume = true ∨ PyFloat.lt 0 r.bypassTemperature = true ∨
    (r.bypassVolume = 0 ∧ r.bypassTemperature = 0)

theorem truthy_iff (x : PyFloat) : x.truthy = true ↔ x ≠ 0 := by
  cases x with
  | fin q => simp
  | inf neg => simp [PyFloat.truthy]
  | nan => simp [PyFloat.truthy]

theorem cup_survives_iff (key : String) :
    yamlCupTypeMap (lower (strip (cloudCupTypeToLocal (localCupTypeToCloud key)))) =
        yamlCupTypeMap (lower (strip key)) ↔
      key ∈ ["x_pod", "omni_dripper", "other", "tea"] ∨ lower (strip key) = "omni_dripper" := by
  by_cases hnamed : key ∈ ["x_pod", "omni_dripper", "other", "tea"]
  · refine iff_of_true ?_ (Or.inl hnamed)
    simp only [List.mem_cons, List.not_mem_nil, or_false] at hnamed
    rcases hnamed with rfl | rfl | rfl | rfl <;> decide +kernel
  · -- any other name is sent, and comes back, as an omni dripper
    have hsent : localCupTypeToCloud key = 2 := by
      simp only [List.mem_cons, List.not_mem_nil, or_false, not_or] at hnamed
      obtain ⟨h1, _, h3, h4⟩ := hnamed
      unfold localCupTypeToCloud
      rw [if_neg h1, if_neg h3, if_neg h4, ite_self]
    have homni : yamlCupTypeMap (lower (strip (cloudCupTypeToLocal 2))) = 2 := by decide +kernel
    rw [hsent, homni, or_iff_right hnamed]
    unfold yamlCupTypeMap
    constructor
    · intro h
      split_ifs at h with h1 h2
      · cases h
      · exact h2
      · cases h
      · cases h
      · cases h
    · intro h
      rw [h]
      decide

theorem bypass_survives_iff (r : RecipeDict) :
    ((viaCloud r).bypassVolume = r.bypassVolume ∧
        (viaCloud r).bypassTemperature = r.bypassTemperature) ↔
      (PyFloat.lt 0 r.bypassVolume = true ∨ PyFloat.lt 0 r.bypassTemperature = true ∨
        (r.bypassVolume = 0 ∧ r.bypassTemperature = 0)) := by
  show ((if bypassSet r then floatOrZero r.bypassVolume else 0) = r.bypassVolume ∧
    (if bypassSet r then floatOrZero r.bypassTemperature else 0) = r.bypassTemperature) ↔ _
  have hset : bypassSet r = true ↔
      PyFloat.lt 0 r.bypassVolume = true ∨ PyFloat.lt 0 r.bypassTemperature = true := by
    simp only [bypassSet, floatOrZero_eq, Bool.or_eq_true]
  rw [← or_assoc, ← hset]
  cases bypassSet r with
  | true => simp [floatOrZero_eq]
  | false => simp [eq_comm]

theorem viaCloudPour_eq_iff (p : PourDict) :
    ((viaCloudPour p).volumeMl = p.volumeMl ↔ p.volumeMl ≠ 0) ∧
      ((viaCloudPour p).flowRate = p.flowRate ↔ p.flowRate ≠ 0) := by
  constructor
  · show (if p.volumeMl = 0 then (30 : ℤ) else p.volumeMl) = p.volumeMl ↔ _
    split
    · rename_i h
      simp [h]
    · rename_i h
      simp [h]
  · show (if p.flowRate.truthy then p.flowRate else 3) = p.flowRate ↔ _
    rw [← truthy_iff]
    split
    · rename_i h
      simp [h]
    · rename_i h
      have hzero : p.flowRate = 0 := by
        by_contra hne
        exact h ((truthy_iff _).mpr hne)
      simp [hzero]

theorem viaCloudPour_eq {p : PourDict} (hvolume : p.volumeMl ≠ 0) (hflow : p.flowRate ≠ 0) :
    viaCloudPour p = p := by
  obtain ⟨hv, hf⟩ := viaCloudPour_eq_iff p
  show { p with volumeMl := (viaCloudPour p).volumeMl, flowRate := (viaCloudPour p).flowRate } = p
  rw [hv.mpr hvolume, hf.mpr hflow]

theorem recipeArgs_cupType (r : RecipeDict) (steps : List PourStep) (totalWater : ℤ) :
    (recipeArgs r steps totalWater).cupType = yamlCupTypeMap (lower (strip r.cupType)) := by
  simp only [recipeArgs]

theorem viaCloud_cupType (r : RecipeDict) :
    (viaCloud r).cupType = cloudCupTypeToLocal (localCupTypeToCloud r.cupType) := rfl

/-- Dropping a ratio that yields no total changes no total. -/
theorem computeTotalWaterMl_viaCloud {r : RecipeDict} (hpours : (viaCloud r).pours = r.pours) :
    computeTotalWaterMl (viaCloud r) = computeTotalWaterMl r := by
  have hdose : (viaCloud r).doseG = r.doseG := floatOrZero_eq r.doseG
  have hratio : (viaCloud r).ratio = r.ratio.filter fun x => PyFloat.lt 0 r.doseG && x.truthy := by
    show (r.ratio.filter fun x => PyFloat.lt 0 (floatOrZero r.doseG) && x.truthy) = _
    rw [floatOrZero_eq]
  have hor : (if r.doseG.truthy then r.doseG else 0) = r.doseG := floatOrZero_eq r.doseG
  simp only [computeTotalWaterMl, hdose, hratio, hpours, hor]
  cases r.ratio with
  | none => rfl
  | some x =>
    by_cases hyields : (PyFloat.lt 0 r.doseG && x.truthy) = true
    · simp only [Option.filter, if_pos hyields]
    · simp only [Option.filter, if_neg hyields]

/-- **When a cloud round trip brews the same.**  For every recipe the schema produced and the machine
accepts, what comes back from the cloud goes through `RECIPE_SCHEMA` and builds the same recipe with
the same bypass exactly when each pour has a volume and a flow, the vessel is spelled as the cloud's
translation knows it, and the bypass is on or all zero. -/
theorem cloud_round_trip_iff (raw : PyVal) (r : RecipeDict) (built : XBloomRecipe)
    (hschema : recipeSchema T.toTextNumbers raw = .ok r) (hname : r.name ≠ "")
    (hbuilt : buildRecipeFromYaml r = .ok built) :
    (∃ m r', cloudRecipeToLocal T (serverReturns (localRecipeToCloud r)) = .ok m ∧
      recipeSchema T.toTextNumbers (.dict m) = .ok r' ∧
      buildRecipeFromYaml r' = buildRecipeFromYaml r ∧ r'.bypassVolume = r.bypassVolume ∧
      r'.bypassTemperature = r.bypassTemperature) ↔ SurvivesCloud r := by
  obtain ⟨m, hm, hback⟩ := recipeSchema_viaCloud (T := T) hname (recipeSchema_sendable hschema)
  constructor
  · rintro ⟨m', r', hm', hr', hsame, hbypass⟩
    obtain rfl : m = m' := Except.ok.inj (hm.symm.trans hm')
    obtain rfl : viaCloud r = r' := Except.ok.inj (hback.symm.trans hr')
    obtain ⟨total, hpours, heq, _⟩ := buildRecipe_eq_ok hbuilt
    obtain ⟨total', hpours', heq', _⟩ := buildRecipe_eq_ok (hsame.trans hbuilt)
    obtain ⟨_, hvolumes, hflows⟩ := buildPours_eq_ok hpours
    obtain ⟨_, hvolumes', hflows'⟩ := buildPours_eq_ok hpours'
    -- both builds have the same pours and the same vessel
    have hvolume : (r.pours.map viaCloudPour).map PourDict.volumeMl = r.pours.map PourDict.volumeMl :=
      hvolumes'.symm.trans hvolumes
    have hflow : (r.pours.map viaCloudPour).map PourDict.flowRate = r.pours.map PourDict.flowRate :=
      hflows'.symm.trans hflows
    rw [List.map_map, List.map_inj_left] at hvolume hflow
    have hcup := congrArg XBloomRecipe.cupType (heq'.symm.trans heq)
    rw [recipeArgs_cupType, recipeArgs_cupType, viaCloud_cupType] at hcup
    exact ⟨fun p hp => (viaCloudPour_eq_iff p).1.mp (hvolume p hp),
      fun p hp => (viaCloudPour_eq_iff p).2.mp (hflow p hp), (cup_survives_iff r.cupType).mp hcup,
      (bypass_survives_iff r).mp hbypass⟩
  · intro h
    have hpours : (viaCloud r).pours = r.pours := by
      show r.pours.map viaCloudPour = r.pours
      exact (List.map_congr_left fun p hp => viaCloudPour_eq (h.volume p hp) (h.flow p hp)).trans
        (List.map_id _)
    have hargs : recipeArgs (viaCloud r) = recipeArgs r := by
      funext steps total
      have hcup := (cup_survives_iff r.cupType).mpr h.cup
      have hdose : floatOrZero r.doseG = r.doseG := floatOrZero_eq r.doseG
      simp only [recipeArgs, viaCloud, hcup, hdose]
    have hsame : buildRecipeFromYaml (viaCloud r) = buildRecipeFromYaml r := by
      unfold buildRecipeFromYaml
      rw [hpours, computeTotalWaterMl_viaCloud hpours, hargs]
    exact ⟨m, viaCloud r, hm, hback, hsame, (bypass_survives_iff r).mpr h.bypass⟩

end

/-! ## A recipe that survives, and one that does not -/

/-- Plain texts, for mappings whose values are numbers and texts already. -/
def plainTexts : Texts := { decimalTexts with showObject := fun _ => "" }

/-- The one-pour recipe comes back as it was. -/
theorem one_pour_survives :
    ∃ m r', cloudRecipeToLocal plainTexts (serverReturns (localRecipeToCloud (onePourDict 3))) = .ok m ∧
      recipeSchema decimalTexts (.dict m) = .ok r' ∧
      buildRecipeFromYaml r' = buildRecipeFromYaml (onePourDict 3) ∧
      r'.bypassVolume = (onePourDict 3).bypassVolume ∧
      r'.bypassTemperature = (onePourDict 3).bypassTemperature := by
  obtain ⟨built, _, hbuilt, _⟩ := one_pour_brews
  refine (cloud_round_trip_iff (T := plainTexts) (onePourMapping 3) _ built ?_ ?_ hbuilt).mpr ?_
  · decide +kernel
  · decide
  · exact ⟨by decide, by decide +kernel, Or.inl (by decide), Or.inr (Or.inr ⟨rfl, rfl⟩)⟩

/-- **A pour at the machine's own flow does not come back.**  A flow of 0, which `PourStep` accepts,
comes back as 3.0, so another recipe is built. -/
theorem zero_flow_lost :
    recipeSchema decimalTexts (onePourMapping 0) = .ok (onePourDict 0) ∧
      (buildRecipeFromYaml (onePourDict 0)).toOption.isSome = true ∧
      ¬ ∃ m r', cloudRecipeToLocal plainTexts (serverReturns (localRecipeToCloud (onePourDict 0))) =
          .ok m ∧ recipeSchema decimalTexts (.dict m) = .ok r' ∧
        buildRecipeFromYaml r' = buildRecipeFromYaml (onePourDict 0) := by
  have hschema : recipeSchema decimalTexts (onePourMapping 0) = .ok (onePourDict 0) := by
    decide +kernel
  refine ⟨hschema, by decide +kernel, ?_⟩
  rintro ⟨m', r', hm', hr', hsame⟩
  obtain ⟨m, hm, hback⟩ := recipeSchema_viaCloud (T := plainTexts) (r := onePourDict 0) (by decide)
    (recipeSchema_sendable hschema)
  obtain rfl : m = m' := Except.ok.inj (hm.symm.trans hm')
  obtain rfl : viaCloud (onePourDict 0) = r' := Except.ok.inj (hback.symm.trans hr')
  exact absurd hsame (by decide +kernel)

end XBloom.Cloud
