/-
# XBloom.Units.Values — the weight unit, the temperature unit and the water source

Three values that live in `entry.options`, in the coordinator and on the machine.  A change in the
Settings step is adopted by the coordinator and queued for the machine (`_handle_unit_options_change`);
a change on the machine's own touchscreen is reported by cmd 8015 and adopted, except for a value that
still waits to be delivered (`_async_sync_units_from_machine`).  All of it runs between two awaits.
-/
import Mathlib.Data.Fintype.Basic

namespace XBloom.Units

/-! ## Options -/

/-- A value in `entry.options`; `other` stands for one that is only ever compared. -/
inductive OptionValue where
  | int (n : ℤ)
  | str (s : String)
  | other (repr : String)
  deriving DecidableEq, Repr

/-- The keys of `entry.options`. -/
inductive OptionKey where
  | telemetryInterval
  | sessionTimeout
  | weightUnit
  | tempUnit
  | waterSource
  | mode
  | storeRegion
  | recipes
  | recipesSeeded
  | accountRecipesSeeded
  | easySlots
  deriving DecidableEq, Repr

instance : Fintype OptionKey where
  elems := {.telemetryInterval, .sessionTimeout, .weightUnit, .tempUnit, .waterSource, .mode,
    .storeRegion, .recipes, .recipesSeeded, .accountRecipesSeeded, .easySlots}
  complete key := by cases key <;> simp

/-- `entry.options`, and `entry.data` as far as it holds settings: a mapping, by its `get`. -/
abbrev Options := OptionKey → Option OptionValue

/-- `_UNIT_OPTION_KEYS`, in the order of `_UNIT_PUSH_ORDER`. -/
def unitPushOrder : List OptionKey := [.weightUnit, .tempUnit, .waterSource]

/-- The keys whose values differ between two mappings. -/
def changedKeys (prev cur : Options) : Finset OptionKey := Finset.univ.filter fun k => prev k ≠ cur k

theorem mem_changedKeys {prev cur : Options} {k : OptionKey} :
    k ∈ changedKeys prev cur ↔ prev k ≠ cur k := by simp [changedKeys]

theorem changedKeys_eq_empty {prev cur : Options} : changedKeys prev cur = ∅ ↔ prev = cur := by
  simp only [changedKeys, Finset.filter_eq_empty_iff, Finset.mem_univ, ne_eq, not_not,
    forall_true_left, funext_iff]

/-! ## The coordinator's values -/

/-- `_weight_unit`, `_temp_unit`, `water_source` and `_pending_unit_pushes`. -/
structure UnitPreferences where
  weightUnit : OptionValue
  tempUnit : OptionValue
  waterSource : OptionValue
  pendingUnitPushes : Finset OptionKey := ∅
  deriving DecidableEq

/-- The value of a unit key. -/
def UnitPreferences.value (u : UnitPreferences) : OptionKey → OptionValue
  | .weightUnit => u.weightUnit
  | .tempUnit => u.tempUnit
  | _ => u.waterSource

/-- `WEIGHT_UNIT_OPTIONS.get(unit, WEIGHT_UNIT_OPTIONS["g"])`. -/
def weightUnitCode (unit : OptionValue) : ℤ :=
  if unit = .str "ml" then 0 else if unit = .str "oz" then 2 else 1

/-- `TEMP_UNIT_OPTIONS.get(unit, TEMP_UNIT_OPTIONS["c"])`. -/
def tempUnitCode (unit : OptionValue) : ℤ := if unit = .str "f" then 0 else 1

/-- `_unit_push_command`: the command id and its payload. -/
def UnitPreferences.pushCommand (u : UnitPreferences) : OptionKey → ℤ × List OptionValue
  | .weightUnit => (8005, [.int (weightUnitCode u.weightUnit)])
  | .tempUnit => (8010, [.int (tempUnitCode u.tempUnit)])
  | _ => (4508, [u.waterSource])

/-! ## A Settings change -/

/-- The new value of a key: `options.get(key, current)`. -/
def UnitPreferences.incoming (u : UnitPreferences) (options : Options) (key : OptionKey) : OptionValue :=
  (options key).getD (u.value key)

/-- The keys whose value changes. -/
def UnitPreferences.changed (u : UnitPreferences) (options : Options) : Finset OptionKey :=
  (unitPushOrder.filter fun key => u.incoming options key ≠ u.value key).toFinset

/-- `_handle_unit_options_change`, and whether it schedules a push. -/
def UnitPreferences.handleUnitOptionsChange (u : UnitPreferences) (options : Options) : UnitPreferences × Bool :=
  if u.changed options = ∅ then (u, false)
  else
    ({ weightUnit := u.incoming options .weightUnit
       tempUnit := u.incoming options .tempUnit
       waterSource := u.incoming options .waterSource
       pendingUnitPushes := u.pendingUnitPushes ∪ u.changed options }, true)

theorem UnitPreferences.mem_changed {u : UnitPreferences} {options : Options} {key : OptionKey} :
    key ∈ u.changed options ↔ key ∈ unitPushOrder ∧ u.incoming options key ≠ u.value key := by
  simp [UnitPreferences.changed]

/-- **The new values are adopted.** -/
theorem UnitPreferences.handle_value {u : UnitPreferences} {options : Options} {key : OptionKey}
    (hkey : key ∈ unitPushOrder) :
    (u.handleUnitOptionsChange options).1.value key = u.incoming options key := by
  unfold UnitPreferences.handleUnitOptionsChange
  split
  · rename_i hsame
    by_contra hne
    have hmem : key ∈ u.changed options := UnitPreferences.mem_changed.mpr ⟨hkey, fun h => hne h.symm⟩
    rw [hsame] at hmem
    exact absurd hmem (Finset.notMem_empty key)
  · simp only [unitPushOrder, List.mem_cons, List.not_mem_nil, or_false] at hkey
    rcases hkey with rfl | rfl | rfl <;> rfl

/-- **The keys that changed are queued**, beside those that were. -/
theorem UnitPreferences.handle_pending (u : UnitPreferences) (options : Options) :
    (u.handleUnitOptionsChange options).1.pendingUnitPushes =
      u.pendingUnitPushes ∪ u.changed options := by
  unfold UnitPreferences.handleUnitOptionsChange
  split
  · rename_i hsame
    rw [hsame, Finset.union_empty]
  · rfl

/-! ## A report of the machine -/

/-- The attributes of cmd 8015 that are read. -/
structure UnitReport where
  weightUnit : Option ℤ := none
  tempUnit : Option ℤ := none
  waterSource : Option ℤ := none

/-- `_RAW_TO_WEIGHT_UNIT.get(raw)`. -/
def rawToWeightUnit : Option ℤ → Option OptionValue
  | some raw =>
    if raw = 0 then some (.str "ml") else if raw = 1 then some (.str "g")
    else if raw = 2 then some (.str "oz") else none
  | none => none

/-- `_RAW_TO_TEMP_UNIT.get(raw)`. -/
def rawToTempUnit : Option ℤ → Option OptionValue
  | some raw => if raw = 0 then some (.str "f") else if raw = 1 then some (.str "c") else none
  | none => none

/-- The water source, if it is one of the two. -/
def rawToWaterSource : Option ℤ → Option OptionValue
  | some raw => if raw = 0 ∨ raw = 1 then some (.int raw) else none
  | none => none

/-- What a report says of a key. -/
def UnitReport.reported (r : UnitReport) : OptionKey → Option OptionValue
  | .weightUnit => rawToWeightUnit r.weightUnit
  | .tempUnit => rawToTempUnit r.tempUnit
  | _ => rawToWaterSource r.waterSource

/-- The value of a key after a report: what it says, unless the key still waits to be delivered. -/
def UnitPreferences.reported (u : UnitPreferences) (r : UnitReport) (key : OptionKey) : OptionValue :=
  if key ∈ u.pendingUnitPushes then u.value key else (r.reported key).getD (u.value key)

/-- `_async_sync_units_from_machine`, and whether anything changed. -/
def UnitPreferences.syncFromMachine (u : UnitPreferences) (r : UnitReport) : UnitPreferences × Bool :=
  ({ u with
      weightUnit := u.reported r .weightUnit
      tempUnit := u.reported r .tempUnit
      waterSource := u.reported r .waterSource },
    unitPushOrder.any fun key => decide (u.reported r key ≠ u.value key))

theorem UnitPreferences.sync_value {u : UnitPreferences} {r : UnitReport} {key : OptionKey}
    (hkey : key ∈ unitPushOrder) : (u.syncFromMachine r).1.value key = u.reported r key := by
  simp only [unitPushOrder, List.mem_cons, List.not_mem_nil, or_false] at hkey
  rcases hkey with rfl | rfl | rfl <;> rfl

/-- **A report never changes a value that waits to be delivered.** -/
theorem UnitPreferences.sync_keeps_pending {u : UnitPreferences} {r : UnitReport} {key : OptionKey}
    (hkey : key ∈ unitPushOrder) (hpending : key ∈ u.pendingUnitPushes) :
    (u.syncFromMachine r).1.value key = u.value key := by
  rw [UnitPreferences.sync_value hkey, UnitPreferences.reported, if_pos hpending]

end XBloom.Units
