/-
# XBloom.Py.Value — untyped Python values, and the conversions voluptuous applies to them

What reaches `RECIPE_SCHEMA` is whatever a YAML or JSON parser built: `PyVal`.  Only three
conversions of the standard library depend on details nothing here needs — `int(text)` and
`float(text)` (Unicode digits, underscores) and `str(float)` (shortest representation) — so they are
a parameter, `TextNumbers`, and every result holds whatever they return.

`strip()` is Python's (Unicode whitespace).  `lower()` is modelled by ASCII lowering: it is only ever
compared with the ASCII keys `rt`, `bp`, `center`, `circular`, `spiral`, `x_pod`, `xpod`,
`omni_dripper`, `other`, `tea`, `none`, `before`, `after`, `both`, and no other character of Unicode
lowers to a letter of these.
-/
import XBloom.Py.Number

namespace XBloom.Py

/-! ## Values -/

/-- A value as a YAML or JSON parser builds it.  A mapping is its entries (string keys, the only ones
the schemas accept); `other` is any further object, of which only `str()` is defined. -/
inductive PyVal where
  | none
  | bool (b : Bool)
  | int (n : ℤ)
  | float (x : PyFloat)
  | str (s : String)
  | list (items : List PyVal)
  | dict (entries : List (String × PyVal))
  | other (text : String)
  deriving Repr

/-- The truth value of an object. -/
def PyVal.truthy : PyVal → Bool
  | .none => false
  | .bool b => b
  | .int n => decide (n ≠ 0)
  | .float x => x.truthy
  | .str s => decide (s ≠ "")
  | .list items => !items.isEmpty
  | .dict entries => !entries.isEmpty
  | .other _ => true

/-- The conversions between texts and numbers. -/
structure TextNumbers where
  parseInt : String → Option ℤ
  parseFloat : String → Option PyFloat
  reprFloat : PyFloat → String

/-! ## Texts -/

/-- The characters `str.strip()` removes. -/
def isSpace (c : Char) : Bool :=
  let n := c.toNat
  (9 ≤ n && n ≤ 13) || (28 ≤ n && n ≤ 32) || n == 0x85 || n == 0xA0 || n == 0x1680 ||
    (0x2000 ≤ n && n ≤ 0x200A) || n == 0x2028 || n == 0x2029 || n == 0x202F || n == 0x205F ||
    n == 0x3000

/-- `s.strip()`. -/
def strip (s : String) : String :=
  String.ofList ((s.toList.dropWhile isSpace).reverse.dropWhile isSpace).reverse

/-- `s.lower()`, on ASCII. -/
def lower (s : String) : String := String.ofList (s.toList.map Char.toLower)

theorem strip_of_no_space {s : String} (h : ∀ c ∈ s.toList, isSpace c = false) : strip s = s := by
  have hdrop : ∀ l : List Char, (∀ c ∈ l, isSpace c = false) → l.dropWhile isSpace = l := by
    intro l hl
    cases l with
    | nil => rfl
    | cons c rest => exact List.dropWhile_cons_of_neg (by simp [hl c List.mem_cons_self])
  unfold strip
  rw [hdrop _ h, hdrop _ fun c hc => h c (List.mem_reverse.mp hc), List.reverse_reverse,
    String.ofList_toList]

/-- The lower case of a space is that space. -/
theorem isSpace_toLower {c : Char} (h : isSpace c = true) : isSpace c.toLower = true := by
  have hupper : ¬ (65 ≤ c.toNat ∧ c.toNat ≤ 90) := by
    intro hrange
    unfold isSpace at h
    simp at h
    omega
  have hsame : c.toLower = c := by
    refine dif_neg ?_
    intro hc
    exact hupper ⟨UInt32.le_iff_toNat_le.mp hc.1, UInt32.le_iff_toNat_le.mp hc.2⟩
  rw [hsame]
  exact h

/-- A text whose lower case has no spaces has none to strip. -/
theorem strip_of_lower {s : String} (h : ∀ c ∈ (lower s).toList, isSpace c = false) :
    strip s = s := by
  apply strip_of_no_space
  intro c hc
  by_contra hspace
  have hmem : c.toLower ∈ (lower s).toList := by
    unfold lower
    rw [String.toList_ofList]
    exact List.mem_map_of_mem hc
  have hlower := isSpace_toLower ((Bool.not_eq_false _).mp hspace)
  rw [h _ hmem] at hlower
  cases hlower

/-! ## Validation errors -/

/-- Why a schema refuses a value; `at` and `item` are the steps of the path to it. -/
inductive Invalid where
  | expectedDict
  | extraKey (key : String)
  | requiredKey (key : String)
  | expectedList
  | expectedInt
  | expectedFloat
  | stringIsNone
  | notAString
  | belowMinimum
  | notIn (allowed : List String)
  | patternType
  | patternInt (n : ℤ)
  | patternName (s : String)
  | temperatureType
  | temperatureInt (n : ℤ)
  | temperatureName (s : String)
  | at (key : String) (inner : Invalid)
  | item (index : ℕ) (inner : Invalid)
  deriving DecidableEq, Repr

/-! ## `vol.Coerce`, `cv.string` -/

section Coercions

variable (T : TextNumbers)

/-- `vol.Coerce(int)`. -/
def coerceInt : PyVal → Except Invalid ℤ
  | .int n => .ok n
  | .bool b => .ok (if b then 1 else 0)
  | .float x =>
    match x.toInt with
    | .ok n => .ok n
    | .error _ => .error .expectedInt
  | .str s =>
    match T.parseInt s with
    | some n => .ok n
    | none => .error .expectedInt
  | _ => .error .expectedInt

/-- `vol.Coerce(float)`. -/
def coerceFloat : PyVal → Except Invalid PyFloat
  | .int n =>
    match PyFloat.ofInt n with
    | .ok x => .ok x
    | .error _ => .error .expectedFloat
  | .bool b => .ok (if b then 1 else 0)
  | .float x => .ok x
  | .str s =>
    match T.parseFloat s with
    | some x => .ok x
    | none => .error .expectedFloat
  | _ => .error .expectedFloat

/-- `cv.string`: anything but `None`, a list or a mapping, as text. -/
def cvString : PyVal → Except Invalid String
  | .none => .error .stringIsNone
  | .str s => .ok s
  | .list _ => .error .notAString
  | .dict _ => .error .notAString
  | .bool b => .ok (if b then "True" else "False")
  | .int n => .ok (toString n)
  | .float x => .ok (T.reprFloat x)
  | .other text => .ok text

/-- `cv.positive_int`: an integer of at least zero. -/
def positiveInt (v : PyVal) : Except Invalid ℤ := do
  let n ← coerceInt T v
  if 0 ≤ n then .ok n else .error .belowMinimum

end Coercions

theorem positiveInt_nonneg {T : TextNumbers} {v : PyVal} {n : ℤ} (h : positiveInt T v = .ok n) :
    0 ≤ n := by
  unfold positiveInt at h
  cases hc : coerceInt T v with
  | error e =>
    rw [hc] at h
    cases h
  | ok m =>
    rw [hc] at h
    by_cases hm : 0 ≤ m
    · have heq : (if 0 ≤ m then Except.ok m else .error Invalid.belowMinimum) = .ok n := h
      rw [if_pos hm] at heq
      exact Except.ok.inj heq ▸ hm
    · have heq : (if 0 ≤ m then Except.ok m else .error Invalid.belowMinimum) = .ok n := h
      rw [if_neg hm] at heq
      cases heq

/-! ## Mappings -/

/-- Report an error under a key. -/
def atKey {α : Type} (key : String) : Except Invalid α → Except Invalid α
  | .ok a => .ok a
  | .error e => .error (.at key e)

/-- `vol.Required(key): v`. -/
def required {α : Type} (m : List (String × PyVal)) (key : String)
    (v : PyVal → Except Invalid α) : Except Invalid α :=
  match m.lookup key with
  | some x => atKey key (v x)
  | none => .error (.requiredKey key)

/-- `vol.Optional(key, default): v`, the default already validated. -/
def optionalOr {α : Type} (m : List (String × PyVal)) (key : String) (dflt : α)
    (v : PyVal → Except Invalid α) : Except Invalid α :=
  match m.lookup key with
  | some x => atKey key (v x)
  | none => .ok dflt

/-- `vol.Optional(key): v`. -/
def optional {α : Type} (m : List (String × PyVal)) (key : String)
    (v : PyVal → Except Invalid α) : Except Invalid (Option α) :=
  match m.lookup key with
  | some x => (atKey key (v x)).map some
  | none => .ok none

/-- The keys a schema does not list are errors. -/
def noExtraKeys (m : List (String × PyVal)) (allowed : List String) : Except Invalid Unit :=
  match m.find? (fun e => decide (e.1 ∉ allowed)) with
  | some e => .error (.extraKey e.1)
  | none => .ok ()

/-- `[v]`: every element of a list. -/
def eachItem {α : Type} (v : PyVal → Except Invalid α) : ℕ → List PyVal → Except Invalid (List α)
  | _, [] => .ok []
  | i, x :: rest =>
    match v x with
    | .error e => .error (.item i e)
    | .ok a =>
      match eachItem v (i + 1) rest with
      | .error e => .error e
      | .ok as => .ok (a :: as)

/-! A key that is present is validated, one that is absent gets its default. -/

section
variable {α : Type} {m : List (String × PyVal)} {key : String} {x : PyVal} {a : α}
  {v : PyVal → Except Invalid α}

theorem required_of_lookup (hx : m.lookup key = some x) (ha : v x = .ok a) :
    required m key v = .ok a := by
  simp only [required, hx, ha, atKey]

theorem optionalOr_of_lookup {dflt : α} (hx : m.lookup key = some x) (ha : v x = .ok a) :
    optionalOr m key dflt v = .ok a := by
  simp only [optionalOr, hx, ha, atKey]

theorem optional_of_absent (hx : m.lookup key = none) : optional m key v = .ok none := by
  simp only [optional, hx]

end

/-- Every element of a validated list came out of the validator. -/
theorem eachItem_forall {α : Type} {v : PyVal → Except Invalid α} {P : α → Prop}
    (hv : ∀ x a, v x = .ok a → P a) {xs : List PyVal} :
    ∀ {i : ℕ} {as : List α}, eachItem v i xs = .ok as → ∀ a ∈ as, P a := by
  induction xs with
  | nil =>
    intro i as h a ha
    cases h
    exact absurd ha List.not_mem_nil
  | cons x rest ih =>
    intro i as h a ha
    unfold eachItem at h
    split at h
    · cases h
    · rename_i b hb
      split at h
      · cases h
      · rename_i bs hbs
        cases h
        rcases List.mem_cons.mp ha with rfl | ha
        · exact hv x _ hb
        · exact ih hbs a ha

end XBloom.Py
