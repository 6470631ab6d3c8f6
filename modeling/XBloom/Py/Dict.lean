/-
# XBloom.Py.Dict — insertion-ordered dictionaries

A Python `dict` keeps its keys in insertion order: assigning to a present key leaves its place,
assigning to a new one appends, `pop` removes.  `Dict` is that, with the uniqueness of the keys as a
field, so every operation below hands the proof on and lookups are characterised once:
`get?_insert`, `get?_erase`, `get?_filter`.

The last section is the layering of two dictionaries the way a store over read-only defaults works:
`overlay base top` is `base` overridden by `top`, where a `none` in `top` is a *tombstone* that hides
the key.
-/
import Mathlib.Data.List.Basic
import Mathlib.Data.List.Nodup

namespace XBloom.Py

/-- A dictionary in insertion order; no key occurs twice. -/
structure Dict (κ α : Type) where
  entries : List (κ × α)
  nodup : (entries.map Prod.fst).Nodup

namespace Dict

variable {κ α β : Type} [DecidableEq κ]

/-! ## Reading -/

/-- `{}`. -/
def empty : Dict κ α := ⟨[], List.nodup_nil⟩

/-- The first value under a key in a list of entries. -/
def lookupEntry (k : κ) : List (κ × α) → Option α
  | [] => none
  | e :: rest => if e.1 = k then some e.2 else lookupEntry k rest

/-- `d.get(k)`. -/
def get? (d : Dict κ α) (k : κ) : Option α := lookupEntry k d.entries

/-- `list(d)`. -/
def keys (d : Dict κ α) : List κ := d.entries.map Prod.fst

/-- `k in d`. -/
def contains (d : Dict κ α) (k : κ) : Bool := (d.get? k).isSome

theorem lookupEntry_eq_none_iff {k : κ} {l : List (κ × α)} :
    lookupEntry k l = none ↔ k ∉ l.map Prod.fst := by
  induction l with
  | nil => exact ⟨fun _ h => absurd h List.not_mem_nil, fun _ => rfl⟩
  | cons e rest ih =>
    unfold lookupEntry
    by_cases he : e.1 = k
    · rw [if_pos he]
      simp [he]
    · rw [if_neg he, ih, List.map_cons, List.mem_cons, not_or]
      exact ⟨fun h => ⟨Ne.symm he, h⟩, fun h => h.2⟩

theorem lookupEntry_eq_some_iff {k : κ} {v : α} {l : List (κ × α)}
    (hl : (l.map Prod.fst).Nodup) : lookupEntry k l = some v ↔ (k, v) ∈ l := by
  induction l with
  | nil => simp [lookupEntry]
  | cons e rest ih =>
    obtain ⟨hfresh, hrest⟩ := List.nodup_cons.mp hl
    unfold lookupEntry
    by_cases he : e.1 = k
    · rw [if_pos he, List.mem_cons]
      constructor
      · intro h
        left
        rw [← he, ← Option.some.inj h]
      · rintro (h | h)
        · rw [← h]
        · exact absurd (he ▸ List.mem_map_of_mem h) hfresh
    · rw [if_neg he, ih hrest, List.mem_cons]
      constructor
      · exact Or.inr
      · rintro (h | h)
        · exact absurd (by rw [← h]) he
        · exact h

/-- A key has a value exactly when the pair is an entry. -/
theorem get?_eq_some_iff {d : Dict κ α} {k : κ} {v : α} : d.get? k = some v ↔ (k, v) ∈ d.entries :=
  lookupEntry_eq_some_iff d.nodup

theorem mem_keys_iff {d : Dict κ α} {k : κ} : k ∈ d.keys ↔ ∃ v, d.get? k = some v := by
  rw [← Option.isSome_iff_exists, ← Option.ne_none_iff_isSome, Ne, get?, lookupEntry_eq_none_iff,
    not_not]
  rfl

theorem contains_iff {d : Dict κ α} {k : κ} : d.contains k = true ↔ k ∈ d.keys := by
  rw [contains, Option.isSome_iff_exists, mem_keys_iff]

/-! ## Writing -/

/-- Put a value under a key: in place when the key is there, else at the end. -/
def insertEntry (k : κ) (v : α) : List (κ × α) → List (κ × α)
  | [] => [(k, v)]
  | e :: rest => if e.1 = k then (k, v) :: rest else e :: insertEntry k v rest

theorem mem_keys_insertEntry {k k' : κ} {v : α} {l : List (κ × α)} :
    k' ∈ (insertEntry k v l).map Prod.fst ↔ k' = k ∨ k' ∈ l.map Prod.fst := by
  induction l with
  | nil => simp [insertEntry]
  | cons e rest ih =>
    unfold insertEntry
    by_cases he : e.1 = k
    · rw [if_pos he, List.map_cons, List.map_cons, List.mem_cons, List.mem_cons, he]
      exact ⟨fun h => h.elim Or.inl fun h => Or.inr (Or.inr h),
        fun h => h.elim Or.inl fun h => h⟩
    · rw [if_neg he, List.map_cons, List.mem_cons, ih, List.map_cons, List.mem_cons]
      exact ⟨fun h => by rcases h with h | h | h <;> simp [h],
        fun h => by rcases h with h | h | h <;> simp [h]⟩

theorem nodup_insertEntry {k : κ} {v : α} {l : List (κ × α)} (hl : (l.map Prod.fst).Nodup) :
    ((insertEntry k v l).map Prod.fst).Nodup := by
  induction l with
  | nil => simp [insertEntry]
  | cons e rest ih =>
    obtain ⟨hfresh, hrest⟩ := List.nodup_cons.mp hl
    unfold insertEntry
    by_cases he : e.1 = k
    · rw [if_pos he, List.map_cons, List.nodup_cons]
      exact ⟨he ▸ hfresh, hrest⟩
    · rw [if_neg he, List.map_cons, List.nodup_cons, mem_keys_insertEntry, not_or]
      exact ⟨⟨he, hfresh⟩, ih hrest⟩

/-- `d[k] = v`. -/
def insert (d : Dict κ α) (k : κ) (v : α) : Dict κ α :=
  ⟨insertEntry k v d.entries, nodup_insertEntry d.nodup⟩

/-- The entries a predicate on them keeps. -/
def filter (d : Dict κ α) (p : κ → α → Bool) : Dict κ α :=
  ⟨d.entries.filter fun e => p e.1 e.2, d.nodup.sublist (List.filter_sublist.map _)⟩

/-- `d.pop(k, None)`. -/
def erase (d : Dict κ α) (k : κ) : Dict κ α := d.filter fun k' _ => decide (k' ≠ k)

theorem lookupEntry_insertEntry {k k' : κ} {v : α} {l : List (κ × α)} :
    lookupEntry k' (insertEntry k v l) = if k' = k then some v else lookupEntry k' l := by
  induction l with
  | nil =>
    by_cases h : k' = k
    · simp [insertEntry, lookupEntry, h]
    · simp [insertEntry, lookupEntry, h, Ne.symm h]
  | cons e rest ih =>
    unfold insertEntry
    by_cases he : e.1 = k
    · rw [if_pos he]
      by_cases h : k' = k
      · simp [lookupEntry, h]
      · simp [lookupEntry, h, he, Ne.symm h]
    · rw [if_neg he]
      by_cases h : k' = k
      · rw [lookupEntry, if_neg (h ▸ he), ih]
        simp [h]
      · rw [lookupEntry, ih, if_neg h, if_neg h, lookupEntry]

/-- **Reading after writing.** -/
theorem get?_insert (d : Dict κ α) (k k' : κ) (v : α) :
    (d.insert k v).get? k' = if k' = k then some v else d.get? k' := lookupEntry_insertEntry

theorem lookupEntry_filter {p : κ → α → Bool} {k : κ} {l : List (κ × α)}
    (hl : (l.map Prod.fst).Nodup) :
    lookupEntry k (l.filter fun e => p e.1 e.2) = (lookupEntry k l).filter (p k) := by
  induction l with
  | nil => rfl
  | cons e rest ih =>
    obtain ⟨hfresh, hrest⟩ := List.nodup_cons.mp hl
    rw [List.filter_cons]
    by_cases he : e.1 = k
    · have hnone : lookupEntry k rest = none := lookupEntry_eq_none_iff.mpr (he ▸ hfresh)
      cases hp : p e.1 e.2 with
      | true =>
        rw [if_pos rfl, lookupEntry, if_pos he, lookupEntry, if_pos he]
        simp only [Option.filter, ← he, hp, if_true]
      | false =>
        rw [if_neg Bool.false_ne_true, ih hrest, hnone, lookupEntry, if_pos he]
        simp only [Option.filter, ← he, hp, Bool.false_eq_true, if_false]
    · cases hp : p e.1 e.2 with
      | true => rw [if_pos rfl, lookupEntry, if_neg he, ih hrest, lookupEntry, if_neg he]
      | false => rw [if_neg Bool.false_ne_true, ih hrest, lookupEntry, if_neg he]

/-- **Reading after filtering.** -/
theorem get?_filter (d : Dict κ α) (p : κ → α → Bool) (k : κ) :
    (d.filter p).get? k = (d.get? k).filter (p k) := lookupEntry_filter d.nodup

/-- **Reading after removing.** -/
theorem get?_erase (d : Dict κ α) (k k' : κ) :
    (d.erase k).get? k' = if k' = k then none else d.get? k' := by
  rw [erase, get?_filter]
  by_cases h : k' = k
  · rw [if_pos h]
    cases d.get? k' <;> simp [h]
  · rw [if_neg h]
    cases d.get? k' <;> simp [h]

/-! ## A store over defaults -/

/-- Apply one entry of the upper layer: a value overrides, a tombstone hides. -/
def overlayEntry (base : Dict κ α) (e : κ × Option α) : Dict κ α :=
  match e.2 with
  | some v => base.insert e.1 v
  | none => base.erase e.1

/-- `base` overridden by `top`. -/
def overlay (base : Dict κ α) (top : Dict κ (Option α)) : Dict κ α :=
  top.entries.foldl overlayEntry base

theorem get?_overlayEntry (base : Dict κ α) (e : κ × Option α) (k : κ) :
    (overlayEntry base e).get? k = if k = e.1 then e.2 else base.get? k := by
  obtain ⟨k', v⟩ := e
  cases v with
  | none => exact get?_erase base k' k
  | some v => exact get?_insert base k' k v

theorem get?_foldl_overlayEntry {l : List (κ × Option α)} (hl : (l.map Prod.fst).Nodup) (k : κ) :
    ∀ base : Dict κ α,
      (l.foldl overlayEntry base).get? k = (lookupEntry k l).getD (base.get? k) := by
  induction l with
  | nil => exact fun base => rfl
  | cons e rest ih =>
    intro base
    obtain ⟨hfresh, hrest⟩ := List.nodup_cons.mp hl
    rw [List.foldl_cons, ih hrest, lookupEntry]
    by_cases he : e.1 = k
    · have hnone : lookupEntry k rest = none := lookupEntry_eq_none_iff.mpr (he ▸ hfresh)
      rw [hnone, if_pos he, get?_overlayEntry, if_pos he.symm]
      rfl
    · rw [if_neg he, get?_overlayEntry, if_neg (Ne.symm he)]

/-- **Reading through the layers**: the upper one where it has an entry (a tombstone included), else
the lower one. -/
theorem get?_overlay (base : Dict κ α) (top : Dict κ (Option α)) (k : κ) :
    (overlay base top).get? k = (top.get? k).getD (base.get? k) :=
  get?_foldl_overlayEntry top.nodup k base

/-! ### The order of a layered store -/

/-- The entries under other keys. -/
def otherEntries (k : κ) (l : List (κ × α)) : List (κ × α) := l.filter fun e => decide (e.1 ≠ k)

theorem otherEntries_insertEntry (k k' : κ) (v : α) (l : List (κ × α)) :
    otherEntries k (insertEntry k' v l) =
      if k' = k then otherEntries k l else insertEntry k' v (otherEntries k l) := by
  unfold otherEntries
  induction l with
  | nil => by_cases h : k' = k <;> simp [insertEntry, h]
  | cons e rest ih =>
    rw [insertEntry]
    by_cases he : e.1 = k'
    · by_cases h : k' = k
      · simp [he, h]
      · simp [he, h, insertEntry]
    · rw [if_neg he, List.filter_cons, List.filter_cons, ih]
      by_cases hek : e.1 = k
      · simp [hek]
      · by_cases h : k' = k
        · simp [h, hek]
        · simp [h, hek, insertEntry, he]

/-- What an entry of the upper layer does to the entries under other keys. -/
theorem otherEntries_overlayEntry {d d' : Dict κ α} {k : κ}
    (h : otherEntries k d.entries = otherEntries k d'.entries) (e : κ × Option α) :
    otherEntries k (overlayEntry d e).entries = otherEntries k (overlayEntry d' e).entries := by
  obtain ⟨k', v⟩ := e
  cases v with
  | some v =>
    show otherEntries k (insertEntry k' v d.entries) = otherEntries k (insertEntry k' v d'.entries)
    rw [otherEntries_insertEntry, otherEntries_insertEntry, h]
  | none =>
    show otherEntries k (otherEntries k' d.entries) = otherEntries k (otherEntries k' d'.entries)
    have hcomm : ∀ l : List (κ × α),
        otherEntries k (otherEntries k' l) = otherEntries k' (otherEntries k l) := by
      intro l
      unfold otherEntries
      rw [List.filter_filter, List.filter_filter]
      exact List.filter_congr fun e _ => Bool.and_comm _ _
    rw [hcomm, hcomm, h]

theorem otherEntries_foldl {k : κ} (l : List (κ × Option α)) :
    ∀ {d d' : Dict κ α}, otherEntries k d.entries = otherEntries k d'.entries →
      otherEntries k (l.foldl overlayEntry d).entries =
        otherEntries k (l.foldl overlayEntry d').entries := by
  induction l with
  | nil => exact fun h => h
  | cons e rest ih => exact fun h => ih (otherEntries_overlayEntry h e)

theorem otherEntries_insertEntry_foldl (k : κ) (v : Option α) (l : List (κ × Option α)) :
    ∀ d : Dict κ α, otherEntries k ((insertEntry k v l).foldl overlayEntry d).entries =
      otherEntries k (l.foldl overlayEntry d).entries := by
  have hself : ∀ (d : Dict κ α) (v : Option α),
      otherEntries k (overlayEntry d (k, v)).entries = otherEntries k d.entries := by
    intro d v
    cases v with
    | some v => exact (otherEntries_insertEntry k k v d.entries).trans (if_pos rfl)
    | none =>
      show otherEntries k (otherEntries k d.entries) = _
      rw [otherEntries, otherEntries, List.filter_filter]
      exact List.filter_congr fun e _ => Bool.and_self _
  induction l with
  | nil => exact fun d => hself d v
  | cons e rest ih =>
    intro d
    unfold insertEntry
    by_cases he : e.1 = k
    · rw [if_pos he]
      refine otherEntries_foldl rest ?_
      rw [hself, show e = (k, e.2) from Prod.ext he rfl, hself]
    · rw [if_neg he]
      exact ih (overlayEntry d e)

/-- A search that does not want a key does not see it. -/
theorem find?_otherEntries {k : κ} {p : κ × α → Bool} {l : List (κ × α)}
    (h : ∀ e ∈ l, e.1 = k → p e = false) : l.find? p = (otherEntries k l).find? p := by
  induction l with
  | nil => rfl
  | cons e rest ih =>
    have hrest := ih fun e he => h e (List.mem_cons_of_mem _ he)
    unfold otherEntries at hrest ⊢
    rw [List.find?_cons, List.filter_cons, hrest]
    by_cases hek : e.1 = k
    · simp [hek, h e List.mem_cons_self hek]
    · simp [hek, List.find?_cons]

/-- **Writing a new key leaves the order of the others**: a search that does not want it finds what it
found. -/
theorem find?_overlay_insert {base : Dict κ α} {top : Dict κ (Option α)} {k : κ} {v : α}
    {p : κ × α → Bool} (hk : (overlay base top).get? k = none) (hp : p (k, v) = false) :
    (overlay base (top.insert k (some v))).entries.find? p = (overlay base top).entries.find? p := by
  have hget : (overlay base (top.insert k (some v))).get? k = some v := by
    rw [get?_overlay, get?_insert, if_pos rfl]
    rfl
  -- neither search stops at the key
  rw [find?_otherEntries fun e he hek => ?_,
    find?_otherEntries (l := (overlay base top).entries) fun e he hek => ?_]
  · exact congrArg _ (otherEntries_insertEntry_foldl k (some v) top.entries base)
  · have hnone := lookupEntry_eq_none_iff.mp hk
    exact absurd (List.mem_map.mpr ⟨e, he, hek⟩) hnone
  · have he' : (overlay base (top.insert k (some v))).get? k = some e.2 :=
      get?_eq_some_iff.mpr (hek ▸ he)
    have hv := Option.some.inj (hget.symm.trans he')
    rw [show e = (k, v) from Prod.ext hek hv.symm]
    exact hp

end Dict

end XBloom.Py
