/-
# XBloom.Recipe.Canonical — what the schemas produce, they accept again

A stored recipe goes through `RECIPE_SCHEMA` again whenever it is edited: the changes are laid over the
recipe, and the whole is validated.  That this works is a property of the schemas alone.  Each validator
has a printer that fits it (`Fits`): whatever it returns is good, and whatever is good reads back from its
print.  Fits are put together key by key, so the schemas of pours and recipes have them too.

`recipeSchema_below` is what edits rest on: two mappings that read as the same recipe cannot be told apart
below any changes.  `recipeSchema_blames` is who is to blame when one fails.
-/
import XBloom.Recipe.Store

namespace XBloom.Recipe

open XBloom.Py

/-! ## Validators and their printers -/

section Fits

variable {ε α β γ : Type}

/-- **A printer fits a validator**: what is returned is good, and what is good is read back from its
print. -/
structure Fits (read : α → Except ε β) (print : β → α) (good : β → Prop) : Prop where
  sound : ∀ {a b}, read a = .ok b → good b
  complete : ∀ {b}, good b → read (print b) = .ok b

/-- **Reading again changes nothing.** -/
theorem Fits.again {read : α → Except ε β} {print : β → α} {good : β → Prop}
    (h : Fits read print good) {a : α} {b : β} (hread : read a = .ok b) : read (print b) = .ok b :=
  h.complete (h.sound hread)

end Fits

/-! ## The single values -/

variable {T : TextNumbers}

theorem coerceInt_fits : Fits (coerceInt T) .int fun _ => True :=
  ⟨fun _ => trivial, fun _ => rfl⟩

theorem coerceFloat_fits : Fits (coerceFloat T) .float fun _ => True :=
  ⟨fun _ => trivial, fun _ => rfl⟩

theorem cvString_fits : Fits (cvString T) .str fun _ => True :=
  ⟨fun _ => trivial, fun _ => rfl⟩

theorem positiveInt_fits : Fits (positiveInt T) .int (0 ≤ ·) := by
  refine ⟨positiveInt_nonneg, fun {n} hn => ?_⟩
  show (if 0 ≤ n then Except.ok n else .error Invalid.belowMinimum) = .ok n
  rw [if_pos hn]

theorem coerceTemperatureC_fits : Fits coerceTemperatureC .int (0 < ·) :=
  ⟨coerceTemperatureC_pos, fun hn => if_pos hn⟩

theorem coercePourPattern_fits : Fits coercePourPattern .int fun n => n = 0 ∨ n = 1 ∨ n = 2 :=
  ⟨coercePourPattern_eq_ok, fun hn => if_pos hn⟩

theorem inVibrations_fits : Fits inVibrations .str (· ∈ ["none", "before", "after", "both"]) :=
  ⟨inVibrations_mem, fun hs => if_pos hs⟩

theorem noneOrFloat_fits : Fits (noneOrFloat T) (fun x => x.elim .none .float) fun _ => True := by
  refine ⟨fun _ => trivial, fun {x} _ => ?_⟩
  cases x with
  | none => rfl
  | some y => rfl

/-- Lists, element by element. -/
theorem eachItem_fits {α : Type} {v : PyVal → Except Invalid α} {print : α → PyVal} {good : α → Prop}
    (h : Fits v print good) : ∀ (as : List α) (i : ℕ), (∀ a ∈ as, good a) →
      eachItem v i (as.map print) = .ok as := by
  intro as
  induction as with
  | nil => exact fun _ _ => rfl
  | cons a rest ih =>
    intro i hgood
    have ha := h.complete (hgood a List.mem_cons_self)
    have hrest := ih (i + 1) fun b hb => hgood b (List.mem_cons_of_mem a hb)
    rw [List.map_cons, eachItem, ha]
    simp only [hrest]

/-! ## Pours -/

/-- What `POUR_SCHEMA` produces. -/
structure PourDict.Storable (p : PourDict) : Prop where
  volumeMl : 0 ≤ p.volumeMl
  temperatureC : 0 < p.temperatureC
  pattern : p.pattern = 0 ∨ p.pattern = 1 ∨ p.pattern = 2
  vibration : p.vibration ∈ ["none", "before", "after", "both"]

theorem pourSchema_fits : Fits (pourSchema T) (fun p => .dict p.entries) PourDict.Storable := by
  refine ⟨fun h => ?_, fun {p} h => ?_⟩
  · obtain ⟨hvolume, hpattern⟩ := pourSchema_accepted h
    obtain ⟨htemperature, hvibration⟩ := pourSchema_named h
    exact ⟨hvolume, htemperature, hpattern, hvibration⟩
  · have hvolume : required p.entries "volume_ml" (positiveInt T) = .ok p.volumeMl :=
      required_of_lookup rfl (positiveInt_fits.complete h.volumeMl)
    have htemperature : required p.entries "temperature_c" coerceTemperatureC = .ok p.temperatureC :=
      required_of_lookup rfl (coerceTemperatureC_fits.complete h.temperatureC)
    have hpattern : optionalOr p.entries "pattern" 2 coercePourPattern = .ok p.pattern :=
      optionalOr_of_lookup rfl (coercePourPattern_fits.complete h.pattern)
    have hvibration : optionalOr p.entries "vibration" "none" inVibrations = .ok p.vibration :=
      optionalOr_of_lookup rfl (inVibrations_fits.complete h.vibration)
    simp only [pourSchema, hvolume, htemperature, hpattern, hvibration]
    rfl

/-! ## Recipes -/

/-- What `RECIPE_SCHEMA` produces. -/
def RecipeDict.Storable (r : RecipeDict) : Prop := ∀ p ∈ r.pours, p.Storable

/-- A key that is there when its value is. -/
theorem lookup_present {α : Type} (o : Option α) (k key : String) (f : α → PyVal) :
    (o.toList.map fun v => (k, f v)).lookup key = if key = k then o.map f else none := by
  cases o with
  | none => simp
  | some v =>
    by_cases h : key = k
    · simp [h]
    · simp [h, List.lookup_cons, beq_eq_false_iff_ne.mpr h]

/-- The metadata of a recipe. -/
theorem optional_present {α : Type} {m : PyMap} {key : String} {o : Option α} {print : α → PyVal}
    {v : PyVal → Except Invalid α} (hv : Fits v print fun _ => True)
    (hm : m.lookup key = o.map print) : Py.optional m key v = .ok o := by
  cases o with
  | none => exact optional_of_absent hm
  | some a =>
    have hlookup : m.lookup key = some (print a) := hm
    simp only [Py.optional, hlookup, hv.complete trivial, atKey]
    rfl

/-- The keys of a recipe are known ones. -/
theorem keys_entries (r : RecipeDict) : ∀ e ∈ r.entries, e.1 ∈ recipeKeys := by
  intro e he
  simp only [RecipeDict.entries, List.mem_append, List.mem_map, List.mem_cons, List.not_mem_nil,
    or_false] at he
  rcases he with (((⟨_, _, rfl⟩ | ⟨_, _, rfl⟩) | ⟨_, _, rfl⟩) | ⟨_, _, rfl⟩) |
    rfl | rfl | rfl | rfl | rfl | rfl | rfl | rfl | rfl <;> simp [recipeKeys]

theorem noExtraKeys_entries (r : RecipeDict) : noExtraKeys r.entries recipeKeys = .ok () := by
  have hknown : r.entries.find? (fun e => decide (e.1 ∉ recipeKeys)) = none :=
    List.find?_eq_none.mpr fun e he => by simpa using keys_entries r e he
  simp only [noExtraKeys, hknown]

/-- **A recipe reads back from the mapping it is.** -/
theorem recipeRead_entries {r : RecipeDict} (h : r.Storable) : RecipeRead T r.entries r := by
  have hpours : poursSchema T (.list (r.pours.map fun p => .dict p.entries)) = .ok r.pours :=
    eachItem_fits pourSchema_fits r.pours 0 h
  constructor
  all_goals
    first
    | refine optional_present cvString_fits ?_
    | refine optional_present coerceInt_fits ?_
    | refine required_of_lookup ?_ (cvString_fits.complete trivial)
    | refine required_of_lookup ?_ hpours
    | refine optionalOr_of_lookup ?_ (coerceInt_fits.complete trivial)
    | refine optionalOr_of_lookup ?_ (coerceFloat_fits.complete trivial)
    | refine optionalOr_of_lookup ?_ (cvString_fits.complete trivial)
    | refine optionalOr_of_lookup ?_ (noneOrFloat_fits.complete trivial)
    simp [RecipeDict.entries, List.lookup_append, lookup_present, List.lookup_cons]

/-- A mapping of known keys that reads as a recipe is that recipe. -/
theorem recipeSchema_of_read {m : PyMap} {r : RecipeDict} (hkeys : noExtraKeys m recipeKeys = .ok ())
    (h : RecipeRead T m r) : recipeSchema T (.dict m) = .ok r := by
  simp only [recipeSchema, hkeys, h.uid, h.cloudTableId, h.shareUrl, h.source, h.name, h.grindSize,
    h.rpm, h.doseG, h.ratio, h.cupType, h.bypassVolume, h.bypassTemperature, h.pours]
  rfl

/-- **What `RECIPE_SCHEMA` produces, it accepts again as it is.** -/
theorem recipeSchema_fits : Fits (recipeSchema T) (fun r => .dict r.entries) RecipeDict.Storable :=
  ⟨recipeSchema_pours fun _ _ h => pourSchema_fits.sound h,
    fun {r} h => recipeSchema_of_read (noExtraKeys_entries r) (recipeRead_entries h)⟩

/-! ## Changes laid over a mapping -/

section Below

variable {α : Type} {m m' : PyMap} {key : String} {v : PyVal → Except Invalid α}

/-- A key that is not changed reads what lies below. -/
theorem required_unchanged {changes : PyMap} (h : changes.lookup key = none) :
    required (changes ++ m) key v = required m key v := by
  simp only [required, List.lookup_append, h, Option.none_or]

theorem optionalOr_unchanged {changes : PyMap} {dflt : α} (h : changes.lookup key = none) :
    optionalOr (changes ++ m) key dflt v = optionalOr m key dflt v := by
  simp only [optionalOr, List.lookup_append, h, Option.none_or]

theorem optional_unchanged {changes : PyMap} (h : changes.lookup key = none) :
    Py.optional (changes ++ m) key v = Py.optional m key v := by
  simp only [Py.optional, List.lookup_append, h, Option.none_or]

/-- A key that is changed hides what lies below. -/
theorem required_below (changes : PyMap) (h : required m key v = required m' key v) :
    required (changes ++ m) key v = required (changes ++ m') key v := by
  cases hlookup : changes.lookup key with
  | none => rw [required_unchanged hlookup, required_unchanged hlookup, h]
  | some x => simp only [required, List.lookup_append, hlookup, Option.some_or]

theorem optionalOr_below {dflt : α} (changes : PyMap)
    (h : optionalOr m key dflt v = optionalOr m' key dflt v) :
    optionalOr (changes ++ m) key dflt v = optionalOr (changes ++ m') key dflt v := by
  cases hlookup : changes.lookup key with
  | none => rw [optionalOr_unchanged hlookup, optionalOr_unchanged hlookup, h]
  | some x => simp only [optionalOr, List.lookup_append, hlookup, Option.some_or]

theorem optional_below (changes : PyMap) (h : Py.optional m key v = Py.optional m' key v) :
    Py.optional (changes ++ m) key v = Py.optional (changes ++ m') key v := by
  cases hlookup : changes.lookup key with
  | none => rw [optional_unchanged hlookup, optional_unchanged hlookup, h]
  | some x => simp only [Py.optional, List.lookup_append, hlookup, Option.some_or]

/-- Only the changes can bring a key that is not known. -/
theorem noExtraKeys_below (changes : PyMap) {allowed : List String}
    (h : noExtraKeys m allowed = .ok ()) :
    noExtraKeys (changes ++ m) allowed = noExtraKeys changes allowed := by
  have hknown : m.find? (fun e => decide (e.1 ∉ allowed)) = none := by
    unfold noExtraKeys at h
    split at h
    · cases h
    · assumption
  simp only [noExtraKeys, List.find?_append, hknown, Option.or_none]

end Below

/-- **Two mappings that read as the same recipe cannot be told apart below any changes.** -/
theorem recipeSchema_below {m m' : PyMap} {r : RecipeDict} (hkeys : noExtraKeys m recipeKeys = .ok ())
    (hkeys' : noExtraKeys m' recipeKeys = .ok ()) (h : RecipeRead T m r) (h' : RecipeRead T m' r)
    (changes : PyMap) :
    recipeSchema T (.dict (changes ++ m)) = recipeSchema T (.dict (changes ++ m')) := by
  unfold recipeSchema
  simp only [noExtraKeys_below changes hkeys, noExtraKeys_below changes hkeys',
    optional_below changes (h.uid.trans h'.uid.symm),
    optional_below changes (h.cloudTableId.trans h'.cloudTableId.symm),
    optional_below changes (h.shareUrl.trans h'.shareUrl.symm),
    optional_below changes (h.source.trans h'.source.symm),
    required_below changes (h.name.trans h'.name.symm),
    optionalOr_below changes (h.grindSize.trans h'.grindSize.symm),
    optionalOr_below changes (h.rpm.trans h'.rpm.symm),
    optionalOr_below changes (h.doseG.trans h'.doseG.symm),
    optionalOr_below changes (h.ratio.trans h'.ratio.symm),
    optionalOr_below changes (h.cupType.trans h'.cupType.symm),
    optionalOr_below changes (h.bypassVolume.trans h'.bypassVolume.symm),
    optionalOr_below changes (h.bypassTemperature.trans h'.bypassTemperature.symm),
    required_below changes (h.pours.trans h'.pours.symm)]

/-- **What two recipes hold under a key that no change names.** -/
theorem entries_below {changes m : PyMap} {r r' : RecipeDict} (h : RecipeRead T m r)
    (h' : RecipeRead T (changes ++ m) r') {key : String} (hkey : changes.lookup key = none) :
    r'.entries.lookup key = r.entries.lookup key := by
  have hsame : ∀ {α : Type} {x : Except Invalid α} {a b : α}, x = .ok a → x = .ok b → a = b :=
    fun ha hb => Except.ok.inj (ha.symm.trans hb)
  by_cases hknown : key ∈ recipeKeys
  · simp only [recipeKeys, List.mem_cons, List.not_mem_nil, or_false] at hknown
    rcases hknown with rfl | rfl | rfl | rfl | rfl | rfl | rfl | rfl | rfl | rfl | rfl | rfl | rfl
    · simp [RecipeDict.entries, List.lookup_append, lookup_present, List.lookup_cons,
        hsame (optional_unchanged hkey ▸ h'.uid) h.uid]
    · simp [RecipeDict.entries, List.lookup_append, lookup_present, List.lookup_cons,
        hsame (optional_unchanged hkey ▸ h'.cloudTableId) h.cloudTableId]
    · simp [RecipeDict.entries, List.lookup_append, lookup_present, List.lookup_cons,
        hsame (optional_unchanged hkey ▸ h'.shareUrl) h.shareUrl]
    · simp [RecipeDict.entries, List.lookup_append, lookup_present, List.lookup_cons,
        hsame (optional_unchanged hkey ▸ h'.source) h.source]
    · simp [RecipeDict.entries, List.lookup_append, lookup_present,
        hsame (required_unchanged hkey ▸ h'.name) h.name]
    · simp [RecipeDict.entries, List.lookup_append, lookup_present, List.lookup_cons,
        hsame (optionalOr_unchanged hkey ▸ h'.grindSize) h.grindSize]
    · simp [RecipeDict.entries, List.lookup_append, lookup_present, List.lookup_cons,
        hsame (optionalOr_unchanged hkey ▸ h'.rpm) h.rpm]
    · simp [RecipeDict.entries, List.lookup_append, lookup_present, List.lookup_cons,
        hsame (optionalOr_unchanged hkey ▸ h'.doseG) h.doseG]
    · simp [RecipeDict.entries, List.lookup_append, lookup_present, List.lookup_cons,
        hsame (optionalOr_unchanged hkey ▸ h'.ratio) h.ratio]
    · simp [RecipeDict.entries, List.lookup_append, lookup_present, List.lookup_cons,
        hsame (optionalOr_unchanged hkey ▸ h'.cupType) h.cupType]
    · simp [RecipeDict.entries, List.lookup_append, lookup_present, List.lookup_cons,
        hsame (optionalOr_unchanged hkey ▸ h'.bypassVolume) h.bypassVolume]
    · simp [RecipeDict.entries, List.lookup_append, lookup_present, List.lookup_cons,
        hsame (optionalOr_unchanged hkey ▸ h'.bypassTemperature) h.bypassTemperature]
    · simp [RecipeDict.entries, List.lookup_append, lookup_present, List.lookup_cons,
        hsame (required_unchanged hkey ▸ h'.pours) h.pours]
  · have hnone : ∀ x : RecipeDict, x.entries.lookup key = none := fun x =>
      List.lookup_eq_none_iff.mpr fun e he => by
        have hne : e.1 ≠ key := fun heq => hknown (heq ▸ keys_entries x e he)
        simpa using fun heq => hne heq.symm
    rw [hnone, hnone]

/-! ## Who is to blame -/

/-- A key of a mapping is named by an error. -/
def Blames (m : PyMap) (e : Invalid) : Prop :=
  ∃ key ∈ m.map Prod.fst, e = .extraKey key ∨ ∃ inner, e = .at key inner

section Blame

variable {α : Type} {changes m : PyMap} {key : String} {v : PyVal → Except Invalid α} {a : α}
  {e : Invalid}

/-- A value that a mapping gives a key is under one of its keys. -/
theorem mem_keys_of_lookup {x : PyVal} (h : changes.lookup key = some x) :
    key ∈ changes.map Prod.fst := by
  induction changes with
  | nil => cases h
  | cons entry rest ih =>
    obtain ⟨k, y⟩ := entry
    rw [List.lookup_cons] at h
    rw [List.map_cons]
    cases hk : key == k with
    | true => exact beq_iff_eq.mp hk ▸ List.mem_cons_self
    | false =>
      rw [hk] at h
      exact List.mem_cons_of_mem k (ih h)

theorem atKey_blames {x : PyVal} (hx : changes.lookup key = some x) (h : atKey key (v x) = .error e) :
    Blames changes e := by
  refine ⟨key, mem_keys_of_lookup hx, Or.inr ?_⟩
  cases hv : v x with
  | ok a =>
    rw [hv] at h
    cases h
  | error inner =>
    rw [hv] at h
    exact ⟨inner, (Except.error.inj h).symm⟩

theorem required_blames (hm : required m key v = .ok a) (h : required (changes ++ m) key v = .error e) :
    Blames changes e := by
  cases hlookup : changes.lookup key with
  | none =>
    rw [required_unchanged hlookup, hm] at h
    cases h
  | some x =>
    refine atKey_blames (v := v) hlookup ?_
    rw [← h]
    simp only [required, List.lookup_append, hlookup, Option.some_or]

theorem optionalOr_blames {dflt : α} (hm : optionalOr m key dflt v = .ok a)
    (h : optionalOr (changes ++ m) key dflt v = .error e) : Blames changes e := by
  cases hlookup : changes.lookup key with
  | none =>
    rw [optionalOr_unchanged hlookup, hm] at h
    cases h
  | some x =>
    refine atKey_blames (v := v) hlookup ?_
    rw [← h]
    simp only [optionalOr, List.lookup_append, hlookup, Option.some_or]

theorem optional_blames {o : Option α} (hm : Py.optional m key v = .ok o)
    (h : Py.optional (changes ++ m) key v = .error e) : Blames changes e := by
  cases hlookup : changes.lookup key with
  | none =>
    rw [optional_unchanged hlookup, hm] at h
    cases h
  | some x =>
    have hread : (atKey key (v x)).map some = .error e := by
      rw [← h]
      simp only [Py.optional, List.lookup_append, hlookup, Option.some_or]
    refine atKey_blames (v := v) hlookup ?_
    cases hx : atKey key (v x) with
    | ok b =>
      rw [hx] at hread
      cases hread
    | error inner =>
      rw [hx] at hread
      exact congrArg _ (Except.error.inj hread)

theorem noExtraKeys_blames {allowed : List String} (hm : noExtraKeys m allowed = .ok ())
    (h : noExtraKeys (changes ++ m) allowed = .error e) : Blames changes e := by
  rw [noExtraKeys_below changes hm] at h
  unfold noExtraKeys at h
  split at h
  · rename_i entry hfound
    exact ⟨entry.1, List.mem_map_of_mem (List.mem_of_find?_eq_some hfound),
      Or.inl (Except.error.inj h).symm⟩
  · cases h

end Blame

/-- A sequence of two steps fails where its first step does, or its second. -/
theorem bind_eq_error {ε α β : Type} {x : Except ε α} {f : α → Except ε β} {e : ε}
    (h : (x >>= f) = .error e) : x = .error e ∨ ∃ a, x = .ok a ∧ f a = .error e := by
  cases x with
  | error e' =>
    cases h
    exact Or.inl rfl
  | ok a => exact Or.inr ⟨a, rfl, h⟩

/-- **When changes of a recipe fail, one of them is to blame.** -/
theorem recipeSchema_blames {changes m : PyMap} {r : RecipeDict} {e : Invalid}
    (hkeys : noExtraKeys m recipeKeys = .ok ()) (hread : RecipeRead T m r)
    (h : recipeSchema T (.dict (changes ++ m)) = .error e) : Blames changes e := by
  unfold recipeSchema at h
  rcases bind_eq_error h with h | ⟨_, _, h⟩
  · exact noExtraKeys_blames hkeys h
  rcases bind_eq_error h with h | ⟨_, _, h⟩
  · exact optional_blames hread.uid h
  rcases bind_eq_error h with h | ⟨_, _, h⟩
  · exact optional_blames hread.cloudTableId h
  rcases bind_eq_error h with h | ⟨_, _, h⟩
  · exact optional_blames hread.shareUrl h
  rcases bind_eq_error h with h | ⟨_, _, h⟩
  · exact optional_blames hread.source h
  rcases bind_eq_error h with h | ⟨_, _, h⟩
  · exact required_blames hread.name h
  rcases bind_eq_error h with h | ⟨_, _, h⟩
  · exact optionalOr_blames hread.grindSize h
  rcases bind_eq_error h with h | ⟨_, _, h⟩
  · exact optionalOr_blames hread.rpm h
  rcases bind_eq_error h with h | ⟨_, _, h⟩
  · exact optionalOr_blames hread.doseG h
  rcases bind_eq_error h with h | ⟨_, _, h⟩
  · exact optionalOr_blames hread.ratio h
  rcases bind_eq_error h with h | ⟨_, _, h⟩
  · exact optionalOr_blames hread.cupType h
  rcases bind_eq_error h with h | ⟨_, _, h⟩
  · exact optionalOr_blames hread.bypassVolume h
  rcases bind_eq_error h with h | ⟨_, _, h⟩
  · exact optionalOr_blames hread.bypassTemperature h
  rcases bind_eq_error h with h | ⟨_, _, h⟩
  · exact required_blames hread.pours h
  · cases h

end XBloom.Recipe
