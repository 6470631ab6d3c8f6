/-
# XBloom.Recipe.Schema — `POUR_SCHEMA`, `RECIPE_SCHEMA` and the recipes they produce

A recipe dict that went through `RECIPE_SCHEMA` has every key with a default, so it is a record.  The
record keeps the schema's own (cloud-shaped) field names; `_build_recipe_from_yaml` translates them
to the BLE layer's.
-/
import XBloom.Py.Value

namespace XBloom.Recipe

open XBloom.Py

/-! ## Records -/

/-- A pour that went through `POUR_SCHEMA`. -/
structure PourDict where
  volumeMl : ℤ
  temperatureC : ℤ
  flowRate : PyFloat := 3
  pauseSeconds : ℤ := 0
  pattern : ℤ := 2
  vibration : String := "none"
  deriving DecidableEq, Repr

/-- A recipe that went through `RECIPE_SCHEMA`.  `uid`, `cloudTableId`, `shareUrl` and `source` are
the store's own metadata and have no default. -/
structure RecipeDict where
  uid : Option String := none
  cloudTableId : Option ℤ := none
  shareUrl : Option String := none
  source : Option String := none
  name : String
  grindSize : ℤ := 50
  rpm : ℤ := 80
  doseG : PyFloat := 15
  ratio : Option PyFloat := none
  cupType : String := "omni_dripper"
  bypassVolume : PyFloat := 0
  bypassTemperature : PyFloat := 0
  pours : List PourDict
  deriving DecidableEq, Repr

/-! ## Validators -/

/-- `_PATTERN_NAME_TO_INT`. -/
def patternNameToInt (key : String) : Option ℤ :=
  if key = "center" then some 0
  else if key = "circular" then some 1
  else if key = "spiral" then some 2
  else none

/-- `_coerce_pour_pattern`: the int or the name; a `bool` is neither. -/
def coercePourPattern : PyVal → Except Invalid ℤ
  | .int n => if n = 0 ∨ n = 1 ∨ n = 2 then .ok n else .error (.patternInt n)
  | .str s =>
    match patternNameToInt (lower (strip s)) with
    | some n => .ok n
    | none => .error (.patternName s)
  | _ => .error .patternType

/-- `_TEMPERATURE_NAME_TO_C`: room temperature and boiling point. -/
def temperatureNameToC (key : String) : Option ℤ :=
  if key = "rt" then some 20 else if key = "bp" then some 98 else none

/-- `_coerce_temperature_c`: a positive int or a name. -/
def coerceTemperatureC : PyVal → Except Invalid ℤ
  | .int n => if 0 < n then .ok n else .error (.temperatureInt n)
  | .str s =>
    match temperatureNameToC (lower (strip s)) with
    | some n => .ok n
    | none => .error (.temperatureName s)
  | _ => .error .temperatureType

/-- `vol.In(["none", "before", "after", "both"])`. -/
def inVibrations : PyVal → Except Invalid String
  | .str s =>
    if s ∈ ["none", "before", "after", "both"] then .ok s
    else .error (.notIn ["none", "before", "after", "both"])
  | _ => .error (.notIn ["none", "before", "after", "both"])

/-- `vol.Any(None, vol.Coerce(float))`. -/
def noneOrFloat (T : TextNumbers) : PyVal → Except Invalid (Option PyFloat)
  | .none => .ok none
  | v => (coerceFloat T v).map some

/-! ## The schemas -/

/-- The keys of `POUR_SCHEMA`. -/
def pourKeys : List String :=
  ["volume_ml", "temperature_c", "flow_rate", "pause_seconds", "pattern", "vibration"]

/-- The keys of `RECIPE_SCHEMA`. -/
def recipeKeys : List String :=
  ["uid", "cloud_table_id", "share_url", "source", "name", "grind_size", "rpm", "dose_g", "ratio",
    "cup_type", "bypass_volume", "bypass_temperature", "pours"]

/-- `POUR_SCHEMA(v)`. -/
def pourSchema (T : TextNumbers) : PyVal → Except Invalid PourDict
  | .dict m => do
    noExtraKeys m pourKeys
    let volumeMl ← required m "volume_ml" (positiveInt T)
    let temperatureC ← required m "temperature_c" coerceTemperatureC
    let flowRate ← optionalOr m "flow_rate" 3 (coerceFloat T)
    let pauseSeconds ← optionalOr m "pause_seconds" 0 (coerceInt T)
    let pattern ← optionalOr m "pattern" 2 coercePourPattern
    let vibration ← optionalOr m "vibration" "none" inVibrations
    return { volumeMl, temperatureC, flowRate, pauseSeconds, pattern, vibration }
  | _ => .error .expectedDict

/-- `[POUR_SCHEMA]`. -/
def poursSchema (T : TextNumbers) : PyVal → Except Invalid (List PourDict)
  | .list items => eachItem (pourSchema T) 0 items
  | _ => .error .expectedList

/-- `RECIPE_SCHEMA(v)`. -/
def recipeSchema (T : TextNumbers) : PyVal → Except Invalid RecipeDict
  | .dict m => do
    noExtraKeys m recipeKeys
    let uid ← optional m "uid" (cvString T)
    let cloudTableId ← optional m "cloud_table_id" (coerceInt T)
    let shareUrl ← optional m "share_url" (cvString T)
    let source ← optional m "source" (cvString T)
    let name ← required m "name" (cvString T)
    let grindSize ← optionalOr m "grind_size" 50 (coerceInt T)
    let rpm ← optionalOr m "rpm" 80 (coerceInt T)
    let doseG ← optionalOr m "dose_g" 15 (coerceFloat T)
    let ratio ← optionalOr m "ratio" none (noneOrFloat T)
    let cupType ← optionalOr m "cup_type" "omni_dripper" (cvString T)
    let bypassVolume ← optionalOr m "bypass_volume" 0 (coerceFloat T)
    let bypassTemperature ← optionalOr m "bypass_temperature" 0 (coerceFloat T)
    let pours ← required m "pours" (poursSchema T)
    return { uid, cloudTableId, shareUrl, source, name, grindSize, rpm, doseG, ratio, cupType,
             bypassVolume, bypassTemperature, pours }
  | _ => .error .expectedDict

/-! ## What the schemas guarantee -/

/-- What `POUR_SCHEMA` guarantees beyond the types: a volume, and one of the three patterns. -/
structure PourDict.Accepted (p : PourDict) : Prop where
  volumeMl : 0 ≤ p.volumeMl
  pattern : p.pattern = 0 ∨ p.pattern = 1 ∨ p.pattern = 2

theorem atKey_eq_ok {α : Type} {key : String} {x : Except Invalid α} {a : α}
    (h : atKey key x = .ok a) : x = .ok a := by
  cases x with
  | error e => cases h
  | ok b => exact h

theorem required_eq_ok {α : Type} {m : List (String × PyVal)} {key : String}
    {v : PyVal → Except Invalid α} {a : α} (h : required m key v = .ok a) :
    ∃ x, v x = .ok a := by
  unfold required at h
  split at h
  · exact ⟨_, atKey_eq_ok h⟩
  · cases h

theorem optionalOr_eq_ok {α : Type} {m : List (String × PyVal)} {key : String} {dflt a : α}
    {v : PyVal → Except Invalid α} (h : optionalOr m key dflt v = .ok a) :
    a = dflt ∨ ∃ x, v x = .ok a := by
  unfold optionalOr at h
  split at h
  · exact Or.inr ⟨_, atKey_eq_ok h⟩
  · exact Or.inl (Except.ok.inj h).symm

theorem coercePourPattern_eq_ok {v : PyVal} {n : ℤ} (h : coercePourPattern v = .ok n) :
    n = 0 ∨ n = 1 ∨ n = 2 := by
  unfold coercePourPattern at h
  split at h
  · split at h
    · rename_i hn
      rw [← Except.ok.inj h]
      exact hn
    · cases h
  · unfold patternNameToInt at h
    split at h
    · rename_i hname
      rw [← Except.ok.inj h]
      repeat' split at hname
      all_goals first | cases hname; decide | cases hname
    · cases h
  · cases h

/-- The reads a mapping was made a pour by. -/
structure PourRead (T : TextNumbers) (m : List (String × PyVal)) (p : PourDict) : Prop where
  volumeMl : required m "volume_ml" (positiveInt T) = .ok p.volumeMl
  temperatureC : required m "temperature_c" coerceTemperatureC = .ok p.temperatureC
  flowRate : optionalOr m "flow_rate" 3 (coerceFloat T) = .ok p.flowRate
  pauseSeconds : optionalOr m "pause_seconds" 0 (coerceInt T) = .ok p.pauseSeconds
  pattern : optionalOr m "pattern" 2 coercePourPattern = .ok p.pattern
  vibration : optionalOr m "vibration" "none" inVibrations = .ok p.vibration

/-- The reads a mapping was made a recipe by. -/
structure RecipeRead (T : TextNumbers) (m : List (String × PyVal)) (r : RecipeDict) : Prop where
  uid : optional m "uid" (cvString T) = .ok r.uid
  cloudTableId : optional m "cloud_table_id" (coerceInt T) = .ok r.cloudTableId
  shareUrl : optional m "share_url" (cvString T) = .ok r.shareUrl
  source : optional m "source" (cvString T) = .ok r.source
  name : required m "name" (cvString T) = .ok r.name
  grindSize : optionalOr m "grind_size" 50 (coerceInt T) = .ok r.grindSize
  rpm : optionalOr m "rpm" 80 (coerceInt T) = .ok r.rpm
  doseG : optionalOr m "dose_g" 15 (coerceFloat T) = .ok r.doseG
  ratio : optionalOr m "ratio" none (noneOrFloat T) = .ok r.ratio
  cupType : optionalOr m "cup_type" "omni_dripper" (cvString T) = .ok r.cupType
  bypassVolume : optionalOr m "bypass_volume" 0 (coerceFloat T) = .ok r.bypassVolume
  bypassTemperature : optionalOr m "bypass_temperature" 0 (coerceFloat T) = .ok r.bypassTemperature
  pours : required m "pours" (poursSchema T) = .ok r.pours

theorem pourSchema_eq_ok {T : TextNumbers} {v : PyVal} {p : PourDict} (h : pourSchema T v = .ok p) :
    ∃ m, v = .dict m ∧ PourRead T m p := by
  unfold pourSchema at h
  split at h
  · rename_i m
    obtain ⟨_, _, h⟩ := bind_eq_ok.mp h
    obtain ⟨_, hvolume, h⟩ := bind_eq_ok.mp h
    obtain ⟨_, htemperature, h⟩ := bind_eq_ok.mp h
    obtain ⟨_, hflow, h⟩ := bind_eq_ok.mp h
    obtain ⟨_, hpause, h⟩ := bind_eq_ok.mp h
    obtain ⟨_, hpattern, h⟩ := bind_eq_ok.mp h
    obtain ⟨_, hvibration, h⟩ := bind_eq_ok.mp h
    rw [← Except.ok.inj h]
    exact ⟨m, rfl, hvolume, htemperature, hflow, hpause, hpattern, hvibration⟩
  · cases h

theorem recipeSchema_eq_ok {T : TextNumbers} {v : PyVal} {r : RecipeDict}
    (h : recipeSchema T v = .ok r) : ∃ m, v = .dict m ∧ RecipeRead T m r := by
  unfold recipeSchema at h
  split at h
  · rename_i m
    obtain ⟨_, _, h⟩ := bind_eq_ok.mp h
    obtain ⟨_, huid, h⟩ := bind_eq_ok.mp h
    obtain ⟨_, htable, h⟩ := bind_eq_ok.mp h
    obtain ⟨_, hshare, h⟩ := bind_eq_ok.mp h
    obtain ⟨_, hsource, h⟩ := bind_eq_ok.mp h
    obtain ⟨_, hname, h⟩ := bind_eq_ok.mp h
    obtain ⟨_, hgrind, h⟩ := bind_eq_ok.mp h
    obtain ⟨_, hrpm, h⟩ := bind_eq_ok.mp h
    obtain ⟨_, hdose, h⟩ := bind_eq_ok.mp h
    obtain ⟨_, hratio, h⟩ := bind_eq_ok.mp h
    obtain ⟨_, hcup, h⟩ := bind_eq_ok.mp h
    obtain ⟨_, hbypass, h⟩ := bind_eq_ok.mp h
    obtain ⟨_, htemperature, h⟩ := bind_eq_ok.mp h
    obtain ⟨_, hpours, h⟩ := bind_eq_ok.mp h
    rw [← Except.ok.inj h]
    exact ⟨m, rfl, huid, htable, hshare, hsource, hname, hgrind, hrpm, hdose, hratio, hcup, hbypass,
      htemperature, hpours⟩
  · cases h

theorem pourSchema_accepted {T : TextNumbers} {v : PyVal} {p : PourDict}
    (h : pourSchema T v = .ok p) : p.Accepted := by
  obtain ⟨m, _, hread⟩ := pourSchema_eq_ok h
  obtain ⟨x, hx⟩ := required_eq_ok hread.volumeMl
  refine ⟨positiveInt_nonneg hx, ?_⟩
  rcases optionalOr_eq_ok hread.pattern with heq | ⟨y, hy⟩
  · exact Or.inr (Or.inr heq)
  · exact coercePourPattern_eq_ok hy

theorem coerceTemperatureC_pos {v : PyVal} {n : ℤ} (h : coerceTemperatureC v = .ok n) : 0 < n := by
  unfold coerceTemperatureC at h
  split at h
  · split at h
    · rename_i hn
      rw [← Except.ok.inj h]
      exact hn
    · cases h
  · unfold temperatureNameToC at h
    split at h
    · rename_i hname
      rw [← Except.ok.inj h]
      repeat' split at hname
      all_goals first | cases hname; decide | cases hname
    · cases h
  · cases h

theorem inVibrations_mem {v : PyVal} {s : String} (h : inVibrations v = .ok s) :
    s ∈ ["none", "before", "after", "both"] := by
  unfold inVibrations at h
  split at h
  · split at h
    · rename_i hs
      rw [← Except.ok.inj h]
      exact hs
    · cases h
  · cases h

/-- The temperature and the vibration of a pour that `POUR_SCHEMA` produced. -/
theorem pourSchema_named {T : TextNumbers} {v : PyVal} {p : PourDict} (h : pourSchema T v = .ok p) :
    0 < p.temperatureC ∧ p.vibration ∈ ["none", "before", "after", "both"] := by
  obtain ⟨m, _, hread⟩ := pourSchema_eq_ok h
  obtain ⟨x, hx⟩ := required_eq_ok hread.temperatureC
  refine ⟨coerceTemperatureC_pos hx, ?_⟩
  rcases optionalOr_eq_ok hread.vibration with heq | ⟨y, hy⟩
  · exact heq ▸ List.mem_cons_self
  · exact inVibrations_mem hy

/-- What holds of every pour that `POUR_SCHEMA` produces holds of a recipe's pours. -/
theorem recipeSchema_pours {T : TextNumbers} {P : PourDict → Prop}
    (hP : ∀ x p, pourSchema T x = .ok p → P p) {v : PyVal} {r : RecipeDict}
    (h : recipeSchema T v = .ok r) : ∀ p ∈ r.pours, P p := by
  obtain ⟨m, _, hread⟩ := recipeSchema_eq_ok h
  obtain ⟨x, hx⟩ := required_eq_ok hread.pours
  unfold poursSchema at hx
  split at hx
  · exact eachItem_forall hP hx
  · cases hx

/-- **Every pour of an accepted recipe is an accepted pour.** -/
theorem recipeSchema_accepted {T : TextNumbers} {v : PyVal} {r : RecipeDict}
    (h : recipeSchema T v = .ok r) : ∀ p ∈ r.pours, p.Accepted :=
  recipeSchema_pours (fun _ _ => pourSchema_accepted) h

end XBloom.Recipe
