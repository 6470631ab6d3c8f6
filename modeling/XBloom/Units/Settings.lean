/-
# XBloom.Units.Settings — from the Settings form to the coordinator that serves the entry

`async_step_settings` keeps of the five submitted keys those whose value differs from the effective
one, and merges them into `entry.options`.  `_async_update_listener` compares the options with its
snapshot: a change inside `_NO_RELOAD_OPTION_KEYS` is applied in place, any other reloads the entry,
that is, builds a coordinator from the options.  `Serves` is what every run keeps of the two;
`settings_queued_iff` says which submissions reach the machine.
-/
import XBloom.Logic.Runs
import XBloom.Units.Values

namespace XBloom.Units

open XBloom.Logic

/-! ## The entry and its coordinator -/

/-- A `ConfigEntry`. -/
structure Entry where
  options : Options
  data : Options

/-- The part of the coordinator that is built from the options. -/
structure Coordinator where
  updateInterval : OptionValue
  sessionTimeout : OptionValue
  units : UnitPreferences

/-- The entry, what `hass.data` holds for it, and the SET commands sent to its machine so far. -/
structure Hass where
  entry : Entry
  coordinator : Coordinator
  optionsSnapshot : Options
  sends : List (ℤ × List OptionValue) := []

/-- The default of a settings key. -/
def defaultValue : OptionKey → OptionValue
  | .telemetryInterval => .int 5
  | .sessionTimeout => .int 60
  | .weightUnit => .str "g"
  | .tempUnit => .str "c"
  | _ => .int 0

/-- `_effective_settings`: options, then `entry.data` for the two keys the first flow writes there,
then the default. -/
def Entry.effectiveSettings (entry : Entry) : OptionKey → OptionValue
  | .telemetryInterval => (entry.options .telemetryInterval).getD
      ((entry.data .telemetryInterval).getD (defaultValue .telemetryInterval))
  | .sessionTimeout => (entry.options .sessionTimeout).getD
      ((entry.data .sessionTimeout).getD (defaultValue .sessionTimeout))
  | key => (entry.options key).getD (defaultValue key)

/-- `async_setup_entry`: a coordinator built from the options, with nothing pending. -/
def asyncSetupEntry (entry : Entry) (sends : List (ℤ × List OptionValue) := []) : Hass where
  entry := entry
  coordinator :=
    { updateInterval := entry.effectiveSettings .telemetryInterval
      sessionTimeout := entry.effectiveSettings .sessionTimeout
      units :=
        { weightUnit := (entry.options .weightUnit).getD (defaultValue .weightUnit)
          tempUnit := (entry.options .tempUnit).getD (defaultValue .tempUnit)
          waterSource := (entry.options .waterSource).getD (defaultValue .waterSource) } }
  optionsSnapshot := entry.options
  sends := sends

/-! ## The update listener -/

/-- `_RECIPE_ONLY_OPTION_KEYS`, `CONF_MODE` and `CONF_STORE_REGION`. -/
def otherOptionKeys : Finset OptionKey :=
  {.recipes, .recipesSeeded, .accountRecipesSeeded, .easySlots, .mode, .storeRegion}

/-- `_UNIT_OPTION_KEYS`. -/
def unitOptionKeys : Finset OptionKey := {.weightUnit, .tempUnit, .waterSource}

/-- `_NO_RELOAD_OPTION_KEYS`. -/
def noReloadOptionKeys : Finset OptionKey := otherOptionKeys ∪ unitOptionKeys

theorem mem_unitPushOrder {key : OptionKey} : key ∈ unitPushOrder ↔ key ∈ unitOptionKeys := by
  simp [unitPushOrder, unitOptionKeys]

/-- `hass.config_entries.async_reload`: the entry is unloaded and set up again. -/
def Hass.asyncReload (h : Hass) : Hass := asyncSetupEntry h.entry h.sends

/-- `_async_update_listener`. -/
def Hass.asyncUpdateListener (h : Hass) : Hass :=
  let cur := h.entry.options
  let changed := changedKeys h.optionsSnapshot cur
  let h := { h with optionsSnapshot := cur }
  if changed ≠ ∅ ∧ changed ⊆ noReloadOptionKeys then
    if changed ∩ unitOptionKeys ≠ ∅ then
      { h with coordinator :=
          { h.coordinator with units := (h.coordinator.units.handleUnitOptionsChange cur).1 } }
    else h
  else h.asyncReload

/-- `async_update_entry` with new options: listeners hear of it if anything changed. -/
def Hass.asyncUpdateEntry (h : Hass) (options : Options) : Hass :=
  if options = h.entry.options then h
  else { h with entry := { h.entry with options := options } }.asyncUpdateListener

/-! ## The Settings step -/

/-- What the form submits: all five keys, the water source by its name. -/
structure Submission where
  telemetryInterval : ℤ
  sessionTimeout : ℤ
  weightUnit : String
  tempUnit : String
  waterSource : String

/-- `WATER_SOURCE_OPTIONS.get(name, DEFAULT_WATER_SOURCE)`. -/
def waterSourceOf (name : String) : ℤ := if name = "direct" then 1 else 0

/-- `settings`, the water source by its number. -/
def Submission.settings (form : Submission) : Options
  | .telemetryInterval => some (.int form.telemetryInterval)
  | .sessionTimeout => some (.int form.sessionTimeout)
  | .weightUnit => some (.str form.weightUnit)
  | .tempUnit => some (.str form.tempUnit)
  | .waterSource => some (.int (waterSourceOf form.waterSource))
  | _ => none

/-- `_save_options(entry, settings=…)`. -/
def saveOptions (entry : Entry) (settings : Options) : Options :=
  fun key => (settings key).or (entry.options key)

/-- `async_step_settings`: the options that are saved, with what did not change left out. -/
def asyncStepSettings (entry : Entry) (form : Submission) : Options :=
  saveOptions entry fun key =>
    (form.settings key).filter fun value => value ≠ entry.effectiveSettings key

/-! ## What happens to an entry -/

/-- `_persist_unit_options`. -/
def Hass.persistUnitOptions (h : Hass) : Hass :=
  h.asyncUpdateEntry fun key =>
    if key ∈ unitOptionKeys then some (h.coordinator.units.value key) else h.entry.options key

/-- What happens to an entry: the Settings step, a cmd 8015 report, a write of another option (the
recipe store, the mode, the store region), a reload (a change of the account, the user's own), and a
SET command that goes out for a pending key, given up on or delivered, or not. -/
inductive Op where
  | settings (form : Submission)
  | report (r : UnitReport)
  | write (key : OptionKey) (hkey : key ∈ otherOptionKeys) (value : Option OptionValue)
  | reload
  | push (key : OptionKey) (discards : Bool)

/-- A SET command for a pending key. -/
def Hass.push (h : Hass) (key : OptionKey) (discards : Bool) : Hass :=
  if key ∈ h.coordinator.units.pendingUnitPushes then
    { h with
        sends := h.sends ++ [h.coordinator.units.pushCommand key]
        coordinator :=
          if discards then
            { h.coordinator with units :=
                { h.coordinator.units with
                    pendingUnitPushes := h.coordinator.units.pendingUnitPushes.erase key } }
          else h.coordinator }
  else h

/-- One step. -/
def Hass.step (h : Hass) : Op → Hass
  | .settings form => h.asyncUpdateEntry (asyncStepSettings h.entry form)
  | .report r =>
    let synced := h.coordinator.units.syncFromMachine r
    let h := { h with coordinator := { h.coordinator with units := synced.1 } }
    if synced.2 then h.persistUnitOptions else h
  | .write key _ value => h.asyncUpdateEntry (Function.update h.entry.options key value)
  | .reload => h.asyncReload
  | .push key discards => h.push key discards

/-! ## The options and the coordinator agree -/

/-- **What holds between two updates**: the snapshot is the options, and the coordinator has their
effective values. -/
structure Serves (h : Hass) : Prop where
  snapshot : h.optionsSnapshot = h.entry.options
  value : ∀ key ∈ unitOptionKeys, h.coordinator.units.value key = h.entry.effectiveSettings key

theorem eq_unit_of_mem {key : OptionKey} (hkey : key ∈ unitOptionKeys) :
    key = .weightUnit ∨ key = .tempUnit ∨ key = .waterSource := by
  simpa [unitOptionKeys] using hkey

theorem effective_of_unit {entry : Entry} {key : OptionKey} (hkey : key ∈ unitOptionKeys) :
    entry.effectiveSettings key = (entry.options key).getD (defaultValue key) := by
  rcases eq_unit_of_mem hkey with rfl | rfl | rfl <;> rfl

/-- A coordinator that was just built. -/
theorem serves_setup (entry : Entry) (sends : List (ℤ × List OptionValue)) :
    Serves (asyncSetupEntry entry sends) := by
  refine ⟨rfl, fun key hkey => ?_⟩
  rcases eq_unit_of_mem hkey with rfl | rfl | rfl <;> rfl

/-- **An update keeps it**, if the coordinator would adopt the new options and has the effective value
wherever they are the old ones. -/
theorem serves_update {h : Hass} {options : Options} (hsnapshot : h.optionsSnapshot = h.entry.options)
    (hincoming : ∀ key ∈ unitOptionKeys, h.coordinator.units.incoming options key =
      (options key).getD (defaultValue key))
    (hunchanged : ∀ key ∈ unitOptionKeys, options key = h.entry.options key →
      h.coordinator.units.value key = (options key).getD (defaultValue key)) :
    Serves (h.asyncUpdateEntry options) := by
  unfold Hass.asyncUpdateEntry
  split
  · rename_i hsame
    refine ⟨hsnapshot, fun key hkey => ?_⟩
    rw [effective_of_unit hkey, ← hsame]
    exact hunchanged key hkey (by rw [hsame])
  · unfold Hass.asyncUpdateListener
    dsimp only
    split
    · split
      · -- in place: the coordinator adopts the new values
        refine ⟨rfl, fun key hkey => ?_⟩
        rw [effective_of_unit hkey]
        exact (UnitPreferences.handle_value (mem_unitPushOrder.mpr hkey)).trans (hincoming key hkey)
      · -- in place, and no unit key is among the changed ones
        rename_i hno
        refine ⟨rfl, fun key hkey => ?_⟩
        rw [effective_of_unit hkey]
        refine hunchanged key hkey ?_
        by_contra hne
        refine hno (Finset.ne_empty_of_mem (Finset.mem_inter.mpr ⟨?_, hkey⟩))
        rw [mem_changedKeys, hsnapshot]
        exact fun h => hne h.symm
    · exact serves_setup _ _

/-- An update that removes no unit key. -/
theorem Serves.update {h : Hass} (hserves : Serves h) {options : Options}
    (hkeeps : ∀ key ∈ unitOptionKeys, options key = none → h.entry.options key = none) :
    Serves (h.asyncUpdateEntry options) := by
  have hvalue : ∀ key ∈ unitOptionKeys, h.coordinator.units.value key =
      (h.entry.options key).getD (defaultValue key) := by
    intro key hkey
    rw [hserves.value key hkey, effective_of_unit hkey]
  refine serves_update hserves.snapshot (fun key hkey => ?_) fun key hkey hsame => ?_
  · unfold UnitPreferences.incoming
    cases hopt : options key with
    | some v => rfl
    | none =>
      have hold := hvalue key hkey
      rw [hkeeps key hkey hopt] at hold
      exact hold
  · rw [hsame]
    exact hvalue key hkey

/-- **The values are written back** as they are. -/
theorem serves_persist {h : Hass} (hsnapshot : h.optionsSnapshot = h.entry.options) :
    Serves h.persistUnitOptions := by
  refine serves_update hsnapshot (fun key hkey => ?_) fun key hkey _ => ?_
  · simp [UnitPreferences.incoming, hkey]
  · simp [hkey]

/-- The Settings step removes no key. -/
theorem asyncStepSettings_none {entry : Entry} {form : Submission} {key : OptionKey}
    (h : asyncStepSettings entry form key = none) : entry.options key = none := by
  unfold asyncStepSettings saveOptions at h
  exact (Option.or_eq_none_iff.mp h).2

/-- A SET command changes no value. -/
theorem Hass.push_value (h : Hass) (key : OptionKey) (discards : Bool) (key' : OptionKey) :
    (h.push key discards).coordinator.units.value key' = h.coordinator.units.value key' := by
  unfold Hass.push
  split
  · cases discards with
    | true => cases key' <;> rfl
    | false => rfl
  · rfl

theorem Hass.push_entry (h : Hass) (key : OptionKey) (discards : Bool) :
    (h.push key discards).entry = h.entry ∧
      (h.push key discards).optionsSnapshot = h.optionsSnapshot := by
  unfold Hass.push
  split <;> exact ⟨rfl, rfl⟩

/-- **Every step keeps it.** -/
theorem Serves.step {h : Hass} (hserves : Serves h) (op : Op) : Serves (h.step op) := by
  cases op with
  | settings form => exact hserves.update fun key _ hnone => asyncStepSettings_none hnone
  | report r =>
    unfold Hass.step
    dsimp only
    split
    · exact serves_persist hserves.snapshot
    · rename_i hsame
      refine ⟨hserves.snapshot, fun key hkey => ?_⟩
      -- nothing changed, so the values are those of before
      have hall : ∀ key ∈ unitPushOrder, h.coordinator.units.reported r key =
          h.coordinator.units.value key := by
        simpa [UnitPreferences.syncFromMachine] using hsame
      rw [UnitPreferences.sync_value (mem_unitPushOrder.mpr hkey),
        hall key (mem_unitPushOrder.mpr hkey)]
      exact hserves.value key hkey
  | write key hother value =>
    refine hserves.update fun key' hkey' hnone => ?_
    have hne : key' ≠ key := by
      rintro rfl
      rcases eq_unit_of_mem hkey' with rfl | rfl | rfl <;> simp [otherOptionKeys] at hother
    rwa [Function.update_of_ne hne] at hnone
  | reload => exact serves_setup _ _
  | push key discards =>
    obtain ⟨hentry, hsnapshot⟩ := h.push_entry key discards
    refine ⟨?_, fun key' hkey' => ?_⟩
    · exact hsnapshot.trans (hserves.snapshot.trans (by rw [← hentry]; rfl))
    · show (h.push key discards).coordinator.units.value key' = _
      rw [h.push_value, hserves.value key' hkey']
      exact (congrArg (·.effectiveSettings key') hentry).symm

/-! ## A submission -/

/-- The submission changes the effective value of a key. -/
def Submission.Changes (form : Submission) (entry : Entry) (key : OptionKey) : Prop :=
  form.settings key ≠ none ∧ form.settings key ≠ some (entry.effectiveSettings key)

instance (form : Submission) (entry : Entry) (key : OptionKey) : Decidable (form.Changes entry key) :=
  inferInstanceAs (Decidable (_ ∧ _))

/-- The submission changes one of the two keys that are no `_NO_RELOAD_OPTION_KEYS`. -/
def Submission.Reloads (form : Submission) (entry : Entry) : Prop :=
  form.Changes entry .telemetryInterval ∨ form.Changes entry .sessionTimeout

instance (form : Submission) (entry : Entry) : Decidable (form.Reloads entry) :=
  inferInstanceAs (Decidable (_ ∨ _))

/-- What the Settings step saves for a key. -/
theorem asyncStepSettings_eq (entry : Entry) (form : Submission) (key : OptionKey) :
    asyncStepSettings entry form key =
      if form.Changes entry key then form.settings key else entry.options key := by
  unfold asyncStepSettings saveOptions
  dsimp only
  split
  · rename_i hchanges
    obtain ⟨value, hvalue⟩ := Option.ne_none_iff_exists'.mp hchanges.1
    have hne : value ≠ entry.effectiveSettings key := by
      rintro rfl
      exact hchanges.2 hvalue
    simp [hvalue, Option.filter, hne]
  · rename_i hno
    cases hvalue : form.settings key with
    | none => rfl
    | some value =>
      have hsame : value = entry.effectiveSettings key := by
        by_contra hne
        exact hno ⟨by simp [hvalue], by simp [hvalue, hne]⟩
      simp [Option.filter, hsame]

/-- The effective value of a key whose option is set. -/
theorem effective_of_option {entry : Entry} {key : OptionKey} {value : OptionValue}
    (h : entry.options key = some value) : entry.effectiveSettings key = value := by
  cases key <;> simp [Entry.effectiveSettings, h]

/-- The effective value of a key follows its option. -/
theorem effective_congr {entry : Entry} {options : Options} {key : OptionKey}
    (h : options key = entry.options key) :
    ({ entry with options := options } : Entry).effectiveSettings key =
      entry.effectiveSettings key := by
  cases key <;> simp [Entry.effectiveSettings, h]

/-- **The effective value after the Settings step is the submitted one.** -/
theorem effective_submitted {entry : Entry} {form : Submission} {key : OptionKey}
    (hkey : form.settings key ≠ none) :
    some (({ entry with options := asyncStepSettings entry form } : Entry).effectiveSettings key) =
      form.settings key := by
  obtain ⟨value, hvalue⟩ := Option.ne_none_iff_exists'.mp hkey
  by_cases hchanges : form.Changes entry key
  · have hoption : asyncStepSettings entry form key = some value := by
      rw [asyncStepSettings_eq, if_pos hchanges, hvalue]
    rw [effective_of_option hoption, hvalue]
  · have hoption : asyncStepSettings entry form key = entry.options key := by
      rw [asyncStepSettings_eq, if_neg hchanges]
    rw [effective_congr hoption]
    by_contra hne
    exact hchanges ⟨hkey, fun h => hne h.symm⟩

/-- **What the listener sees changed** is what the submission changes. -/
theorem mem_changed_submitted {entry : Entry} {form : Submission} {key : OptionKey} :
    key ∈ changedKeys entry.options (asyncStepSettings entry form) ↔ form.Changes entry key := by
  rw [mem_changedKeys, asyncStepSettings_eq]
  constructor
  · intro hne
    by_contra hno
    rw [if_neg hno] at hne
    exact hne rfl
  · intro hchanges hsame
    rw [if_pos hchanges] at hsame
    obtain ⟨value, hvalue⟩ := Option.ne_none_iff_exists'.mp hchanges.1
    refine hchanges.2 ?_
    rw [effective_of_option (hsame.trans hvalue), hvalue]

theorem Submission.settings_unit (form : Submission) {key : OptionKey} (hkey : key ∈ unitOptionKeys) :
    form.settings key ≠ none := by
  rcases eq_unit_of_mem hkey with rfl | rfl | rfl <;> exact Option.some_ne_none _

/-- A submission stays inside `_NO_RELOAD_OPTION_KEYS` unless it changes one of the two others. -/
theorem changed_subset_iff {entry : Entry} {form : Submission} :
    changedKeys entry.options (asyncStepSettings entry form) ⊆ noReloadOptionKeys ↔
      ¬ form.Reloads entry := by
  constructor
  · rintro hsub (h | h)
    · exact absurd (hsub (mem_changed_submitted.mpr h)) (by decide)
    · exact absurd (hsub (mem_changed_submitted.mpr h)) (by decide)
  · intro hno key hkey
    have hchanges := mem_changed_submitted.mp hkey
    cases key with
    | telemetryInterval => exact absurd (Or.inl hchanges) hno
    | sessionTimeout => exact absurd (Or.inr hchanges) hno
    | _ => decide

/-! ## What became of it -/

theorem Hass.asyncUpdateEntry_entry (h : Hass) (options : Options) :
    (h.asyncUpdateEntry options).entry = { h.entry with options := options } := by
  unfold Hass.asyncUpdateEntry
  split
  · rename_i hsame
    rw [hsame]
  · unfold Hass.asyncUpdateListener
    dsimp only
    split
    · split <;> rfl
    · rfl

/-- **The values are the submitted ones**, whether the entry was reloaded or not. -/
theorem submitted_value {h : Hass} (hserves : Serves h) (form : Submission) {key : OptionKey}
    (hkey : key ∈ unitOptionKeys) :
    some ((h.step (.settings form)).coordinator.units.value key) = form.settings key := by
  rw [(hserves.step (.settings form)).value key hkey]
  show some ((h.asyncUpdateEntry _).entry.effectiveSettings key) = _
  rw [h.asyncUpdateEntry_entry]
  exact effective_submitted (form.settings_unit hkey)

/-- **Applied in place**, every unit key that changes is queued. -/
theorem submitted_pending {h : Hass} (hserves : Serves h) {form : Submission}
    (hplace : ¬ form.Reloads h.entry) {key : OptionKey} (hkey : key ∈ unitOptionKeys)
    (hchanges : form.Changes h.entry key) :
    key ∈ (h.step (.settings form)).coordinator.units.pendingUnitPushes := by
  have hvalue := submitted_value hserves form hkey
  have hchanged := mem_changed_submitted.mpr hchanges
  have hnonempty := Finset.ne_empty_of_mem hchanged
  have hunit := Finset.ne_empty_of_mem (Finset.mem_inter.mpr ⟨hchanged, hkey⟩)
  have hne : asyncStepSettings h.entry form ≠ h.entry.options := fun hsame =>
    hnonempty (changedKeys_eq_empty.mpr hsame.symm)
  have hstep : h.step (.settings form) =
      { h with
          entry := { h.entry with options := asyncStepSettings h.entry form }
          optionsSnapshot := asyncStepSettings h.entry form
          coordinator := { h.coordinator with units :=
            (h.coordinator.units.handleUnitOptionsChange (asyncStepSettings h.entry form)).1 } } := by
    show h.asyncUpdateEntry _ = _
    rw [Hass.asyncUpdateEntry, if_neg hne, Hass.asyncUpdateListener]
    dsimp only
    rw [hserves.snapshot, if_pos ⟨hnonempty, changed_subset_iff.mpr hplace⟩, if_pos hunit]
  rw [hstep] at hvalue ⊢
  dsimp only at hvalue ⊢
  rw [UnitPreferences.handle_pending, Finset.mem_union]
  refine Or.inr (UnitPreferences.mem_changed.mpr ⟨mem_unitPushOrder.mpr hkey, fun hsame => ?_⟩)
  rw [UnitPreferences.handle_value (mem_unitPushOrder.mpr hkey), hsame, hserves.value key hkey] at hvalue
  exact hchanges.2 hvalue.symm

/-- **Reloaded**, the entry is served by a coordinator with nothing pending. -/
theorem submitted_reload {h : Hass} (hserves : Serves h) {form : Submission}
    (hreload : form.Reloads h.entry) :
    (h.step (.settings form)).coordinator.units.pendingUnitPushes = ∅ ∧
      (h.step (.settings form)).sends = h.sends := by
  have hnot := changed_subset_iff.not.mpr (not_not.mpr hreload)
  have hne : asyncStepSettings h.entry form ≠ h.entry.options := by
    intro hsame
    refine hnot ?_
    rw [changedKeys_eq_empty.mpr hsame.symm]
    exact Finset.empty_subset _
  have hstep : h.step (.settings form) =
      asyncSetupEntry { h.entry with options := asyncStepSettings h.entry form } h.sends := by
    show h.asyncUpdateEntry _ = _
    rw [Hass.asyncUpdateEntry, if_neg hne, Hass.asyncUpdateListener]
    dsimp only
    rw [hserves.snapshot, if_neg fun hboth => hnot hboth.2]
    rfl
  rw [hstep]
  exact ⟨rfl, rfl⟩

/-! ## Whether it reaches the machine -/

/-- The submitted values are the coordinator's, and each unit key whose value changed is pending or
was sent since. -/
def Queued (form : Submission) (before after : Hass) : Prop :=
  ∀ key ∈ unitOptionKeys, some (after.coordinator.units.value key) = form.settings key ∧
    (form.Changes before.entry key → key ∈ after.coordinator.units.pendingUnitPushes ∨
      after.coordinator.units.pushCommand key ∈ after.sends.drop before.sends.length)

theorem Hass.push_command (h : Hass) (key : OptionKey) (discards : Bool) (key' : OptionKey) :
    (h.push key discards).coordinator.units.pushCommand key' =
      h.coordinator.units.pushCommand key' := by
  unfold Hass.push
  split
  · cases discards with
    | true => cases key' <;> rfl
    | false => rfl
  · rfl

/-- **A queued key stays pending until it is sent.** -/
theorem push_keeps {h : Hass} {key : OptionKey} {discards : Bool} {n : ℕ} {key' : OptionKey}
    (hn : n ≤ h.sends.length)
    (hqueued : key' ∈ h.coordinator.units.pendingUnitPushes ∨
      h.coordinator.units.pushCommand key' ∈ h.sends.drop n) :
    n ≤ (h.push key discards).sends.length ∧
      (key' ∈ (h.push key discards).coordinator.units.pendingUnitPushes ∨
        (h.push key discards).coordinator.units.pushCommand key' ∈
          (h.push key discards).sends.drop n) := by
  rw [h.push_command]
  unfold Hass.push
  split
  · simp only [List.length_append, List.length_singleton, List.drop_append_of_le_length hn,
      List.mem_append, List.mem_singleton]
    refine ⟨by omega, ?_⟩
    rcases hqueued with hpending | hsent
    · by_cases hsame : key' = key
      · exact Or.inr (Or.inr (by rw [hsame]))
      · left
        cases discards with
        | true => exact Finset.mem_erase.mpr ⟨hsame, hpending⟩
        | false => exact hpending
    · exact Or.inr (Or.inl hsent)
  · exact ⟨hn, hqueued⟩

/-- With nothing pending nothing is sent. -/
theorem push_empty {h : Hass} {key : OptionKey} {discards : Bool}
    (hempty : h.coordinator.units.pendingUnitPushes = ∅) : h.push key discards = h := by
  rw [Hass.push, if_neg (by rw [hempty]; exact Finset.notMem_empty key)]

/-- SET commands, one after the other. -/
def pushes (l : List (OptionKey × Bool)) : List Op := l.map fun q => .push q.1 q.2

theorem pushes_value (l : List (OptionKey × Bool)) (h : Hass) (key : OptionKey) :
    (run Hass.step h (pushes l)).coordinator.units.value key = h.coordinator.units.value key := by
  induction l generalizing h with
  | nil => rfl
  | cons q rest ih => exact (ih (h.push q.1 q.2)).trans (h.push_value q.1 q.2 key)

theorem pushes_keep (l : List (OptionKey × Bool)) {h : Hass} {n : ℕ} {key : OptionKey}
    (hn : n ≤ h.sends.length)
    (hqueued : key ∈ h.coordinator.units.pendingUnitPushes ∨
      h.coordinator.units.pushCommand key ∈ h.sends.drop n) :
    key ∈ (run Hass.step h (pushes l)).coordinator.units.pendingUnitPushes ∨
      (run Hass.step h (pushes l)).coordinator.units.pushCommand key ∈
        (run Hass.step h (pushes l)).sends.drop n := by
  induction l generalizing h with
  | nil => exact hqueued
  | cons q rest ih =>
    have hkeeps : n ≤ (h.step (.push q.1 q.2)).sends.length ∧ _ := push_keeps hn hqueued
    exact ih hkeeps.1 hkeeps.2

theorem pushes_empty (l : List (OptionKey × Bool)) {h : Hass}
    (hempty : h.coordinator.units.pendingUnitPushes = ∅) :
    run Hass.step h (pushes l) = h := by
  induction l with
  | nil => rfl
  | cons q rest ih =>
    show run Hass.step (h.push q.1 q.2) (pushes rest) = h
    rw [push_empty hempty]
    exact ih

theorem Hass.asyncUpdateEntry_sends (h : Hass) (options : Options) :
    (h.asyncUpdateEntry options).sends = h.sends := by
  unfold Hass.asyncUpdateEntry Hass.asyncUpdateListener
  dsimp only
  split
  · rfl
  · split
    · split <;> rfl
    · rfl

/-- **A submission reaches the machine**, that is, its values are adopted and every unit key it changes
is pending until it is sent, **if and only if** it does not change a reloading key together with a
unit key. -/
theorem settings_queued_iff (entry : Entry) (ops : List Op) (form : Submission)
    (later : List (OptionKey × Bool)) :
    Queued form (run Hass.step (asyncSetupEntry entry) ops)
        (run Hass.step ((run Hass.step (asyncSetupEntry entry) ops).step (.settings form))
          (pushes later)) ↔
      ¬ form.Reloads (run Hass.step (asyncSetupEntry entry) ops).entry ∨
        ∀ key ∈ unitOptionKeys,
          ¬ form.Changes (run Hass.step (asyncSetupEntry entry) ops).entry key := by
  have hserves : Serves (run Hass.step (asyncSetupEntry entry) ops) :=
    run_preserves (fun h op hserves => hserves.step op) (serves_setup entry []) ops
  generalize run Hass.step (asyncSetupEntry entry) ops = before at hserves ⊢
  constructor
  · intro hqueued
    by_contra hboth
    simp only [not_or, not_not, not_forall] at hboth
    obtain ⟨hreload, key, hkey, hchanges⟩ := hboth
    -- the coordinator that was built anew has nothing to send
    obtain ⟨hempty, hsends⟩ := submitted_reload hserves hreload
    rw [pushes_empty later hempty] at hqueued
    rcases (hqueued key hkey).2 hchanges with hpending | hsent
    · rw [hempty] at hpending
      exact absurd hpending (Finset.notMem_empty key)
    · rw [hsends, List.drop_length] at hsent
      exact absurd hsent List.not_mem_nil
  · intro h key hkey
    refine ⟨?_, fun hchanges => ?_⟩
    · rw [pushes_value]
      exact submitted_value hserves form hkey
    · rcases h with hplace | hno
      · have hsends : before.sends.length ≤ (before.step (.settings form)).sends.length :=
          (congrArg List.length (before.asyncUpdateEntry_sends _)).ge
        exact pushes_keep later hsends (.inl (submitted_pending hserves hplace hkey hchanges))
      · exact absurd hchanges (hno key hkey)

/-- A fresh entry: the first flow stored the two intervals, and nothing was ever changed. -/
def freshEntry : Entry where
  options _ := none
  data key := if key = .telemetryInterval then some (.int 5)
    else if key = .sessionTimeout then some (.int 60) else none

/-- The water source is switched to the plumbed line, and the telemetry interval set to 10 seconds. -/
def waterAndInterval : Submission := ⟨10, 60, "g", "c", "direct"⟩

/-- **The new water source never reaches the machine.** -/
theorem mixed_change_lost :
    ¬ Queued waterAndInterval (asyncSetupEntry freshEntry)
      ((asyncSetupEntry freshEntry).step (.settings waterAndInterval)) := by
  intro hqueued
  have hlost : ¬ (OptionKey.waterSource ∈
      ((asyncSetupEntry freshEntry).step
        (.settings waterAndInterval)).coordinator.units.pendingUnitPushes ∨
      ((asyncSetupEntry freshEntry).step
        (.settings waterAndInterval)).coordinator.units.pushCommand .waterSource ∈
        ((asyncSetupEntry freshEntry).step (.settings waterAndInterval)).sends.drop 0) := by
    decide +kernel
  exact hlost ((hqueued .waterSource (by decide)).2 (by decide))

/-- Without the interval the same change is queued. -/
example : ((asyncSetupEntry freshEntry).step
    (.settings { waterAndInterval with telemetryInterval := 5 })).coordinator.units.pendingUnitPushes =
      {.waterSource} := by decide +kernel

end XBloom.Units
