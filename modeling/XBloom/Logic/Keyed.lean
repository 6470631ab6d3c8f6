/-
# XBloom.Logic.Keyed — collections of records kept under one of their fields

Records of type `ρ` are kept under a key (`Keying.key`) and recognised by an identity that their key
does not determine (`Keying.ident`, which a record may lack).  A collection is just what each key
holds.  Four changes are enough to describe a user editing one:

* `add` a new record under a free key, with an identity of its own;
* `replace` a record under its key, keeping its identity;
* `rename` a record to a free key, keeping its identity;
* `remove` a key.

`Legal` states these side conditions.  A legal run keeps every record under its own key and all
identities apart (`wellKept_run`), leaves alone every record it is not about (`frame_run`), and brings
no key back that it does not introduce (`absent_run`).
-/
import Mathlib.Logic.Function.Basic
import XBloom.Logic.Runs

namespace XBloom.Logic

/-- What each key holds. -/
abbrev Collection (κ ρ : Type) := κ → Option ρ

/-- The key a record is kept under, and what identifies it. -/
structure Keying (κ ρ ι : Type) where
  key : ρ → κ
  ident : ρ → Option ι

/-- A user's change to a collection. -/
inductive Change (κ ρ : Type) where
  | add (r : ρ)
  | replace (k : κ) (r : ρ)
  | rename (old : κ) (r : ρ)
  | remove (k : κ)

variable {κ ρ ι : Type} [DecidableEq κ] (K : Keying κ ρ ι)

namespace Change

/-- The collection after a change. -/
def apply (v : Collection κ ρ) : Change κ ρ → Collection κ ρ
  | add r => Function.update v (K.key r) (some r)
  | replace k r => Function.update v k (some r)
  | rename old r => Function.update (Function.update v old none) (K.key r) (some r)
  | remove k => Function.update v k none

/-- The side conditions of a change. -/
def Legal (v : Collection κ ρ) : Change κ ρ → Prop
  | add r => v (K.key r) = none ∧ ∃ u, K.ident r = some u
  | replace k r => ∃ r₀, v k = some r₀ ∧ (K.key r = k ∨ K.key r = K.key r₀) ∧ K.ident r = K.ident r₀
  | rename old r => v (K.key r) = none ∧ ∃ r₀, v old = some r₀ ∧ K.ident r = K.ident r₀
  | remove _ => True

/-- The keys a change introduces. -/
def introduces : Change κ ρ → List κ
  | add r => [K.key r]
  | rename _ r => [K.key r]
  | replace _ _ => []
  | remove _ => []

/-- The keys whose record a change is about. -/
def subjects : Change κ ρ → List κ
  | add _ => []
  | replace k _ => [k]
  | rename old _ => [old]
  | remove k => [k]

/-- The identities a change mints. -/
def mints : Change κ ρ → List ι
  | add r => (K.ident r).toList
  | _ => []

end Change

/-- Every record is kept under its own key, and no two share an identity. -/
structure WellKept (v : Collection κ ρ) : Prop where
  keyed : ∀ k r, v k = some r → K.key r = k
  distinct : ∀ k k' r r', v k = some r → v k' = some r' → K.ident r = K.ident r' → k = k'

/-- An identity no record of the collection has. -/
def FreshIdent (v : Collection κ ρ) (u : ι) : Prop := ∀ k r, v k = some r → K.ident r ≠ some u

variable {K} {v : Collection κ ρ} {c : Change κ ρ}

/-- What a key holds after `some r` was put under the key of `r`. -/
theorem update_eq_some {k k₀ : κ} {r r₀ : ρ}
    (h : Function.update v k₀ (some r₀) k = some r) : (k = k₀ ∧ r = r₀) ∨ (k ≠ k₀ ∧ v k = some r) := by
  by_cases hk : k = k₀
  · rw [hk, Function.update_self] at h
    exact Or.inl ⟨hk, (Option.some.inj h).symm⟩
  · rw [Function.update_of_ne hk] at h
    exact Or.inr ⟨hk, h⟩

/-- What a key holds after another was emptied. -/
theorem update_none_eq_some {k k₀ : κ} {r : ρ} (h : Function.update v k₀ none k = some r) :
    k ≠ k₀ ∧ v k = some r := by
  by_cases hk : k = k₀
  · rw [hk, Function.update_self] at h
    cases h
  · rw [Function.update_of_ne hk] at h
    exact ⟨hk, h⟩

/-- Putting a record with an unused identity, or the identity of the record whose place it takes,
keeps the collection well kept. -/
theorem WellKept.update (h : WellKept K v) {r₀ : ρ}
    (hident : ∀ k r, v k = some r → K.ident r = K.ident r₀ → k = K.key r₀) :
    WellKept K (Function.update v (K.key r₀) (some r₀)) := by
  refine ⟨?_, ?_⟩
  · intro k r hr
    rcases update_eq_some hr with ⟨rfl, rfl⟩ | ⟨_, hr⟩
    · rfl
    · exact h.keyed k r hr
  · intro k k' r r' hr hr' heq
    rcases update_eq_some hr with ⟨hk, hrEq⟩ | ⟨_, hold⟩
    · rcases update_eq_some hr' with ⟨hk', _⟩ | ⟨_, hold'⟩
      · rw [hk, hk']
      · rw [hk]
        exact (hident k' r' hold' (hrEq ▸ heq.symm)).symm
    · rcases update_eq_some hr' with ⟨hk', hrEq'⟩ | ⟨_, hold'⟩
      · rw [hk']
        exact hident k r hold (hrEq' ▸ heq)
      · exact h.distinct k k' r r' hold hold' heq

theorem WellKept.remove (h : WellKept K v) (k₀ : κ) : WellKept K (Function.update v k₀ none) := by
  refine ⟨?_, ?_⟩
  · intro k r hr
    exact h.keyed k r (update_none_eq_some hr).2
  · intro k k' r r' hr hr' heq
    exact h.distinct k k' r r' (update_none_eq_some hr).2 (update_none_eq_some hr').2 heq

omit [DecidableEq κ] in
/-- Records of another well-kept collection may take places in this one, as long as their identities
are apart from all of this one's. -/
theorem WellKept.uncover {v' w : Collection κ ρ} (h : WellKept K v) (hw : WellKept K w)
    (hsource : ∀ k r, v' k = some r → v k = some r ∨
      (w k = some r ∧ ∀ k' r', v k' = some r' → K.ident r' ≠ K.ident r)) : WellKept K v' := by
  refine ⟨?_, ?_⟩
  · intro k r hr
    rcases hsource k r hr with hold | ⟨hnew, _⟩
    · exact h.keyed k r hold
    · exact hw.keyed k r hnew
  · intro k k' r r' hr hr' heq
    rcases hsource k r hr with hold | ⟨hnew, hapart⟩
    · rcases hsource k' r' hr' with hold' | ⟨_, hapart'⟩
      · exact h.distinct k k' r r' hold hold' heq
      · exact absurd heq (hapart' k r hold)
    · rcases hsource k' r' hr' with hold' | ⟨hnew', _⟩
      · exact absurd heq.symm (hapart k' r' hold')
      · exact hw.distinct k k' r r' hnew hnew' heq

/-- **A legal change with fresh identities keeps a collection well kept.** -/
theorem wellKept_apply (h : WellKept K v) (hlegal : c.Legal K v)
    (hfresh : ∀ u ∈ c.mints K, FreshIdent K v u) : WellKept K (c.apply K v) := by
  cases c with
  | add r =>
    obtain ⟨_, u, hu⟩ := hlegal
    apply h.update
    intro k r' hr' heq
    have hmint : u ∈ (Change.add r : Change κ ρ).mints K := by
      simp [Change.mints, hu]
    exact absurd (heq.trans hu) (hfresh u hmint k r' hr')
  | replace k r =>
    obtain ⟨r₀, hr₀, hkey, hident⟩ := hlegal
    have hkeyed : K.key r = k := by
      rcases hkey with hkey | hkey
      · exact hkey
      · exact hkey.trans (h.keyed k r₀ hr₀)
    show WellKept K (Function.update v k (some r))
    rw [← hkeyed] at hr₀ ⊢
    apply h.update
    intro k' r' hr' heq
    exact h.distinct k' _ r' r₀ hr' hr₀ (heq.trans hident)
  | rename old r =>
    obtain ⟨_, r₀, hr₀, hident⟩ := hlegal
    apply (h.remove old).update
    intro k r' hr' heq
    obtain ⟨hk, hr'⟩ := update_none_eq_some hr'
    exact absurd (h.distinct k old r' r₀ hr' hr₀ (heq.trans hident)) hk
  | remove k => exact h.remove k

/-- A record a change is not about stays. -/
theorem frame_apply {k : κ} {r : ρ} (hk : v k = some r) (hlegal : c.Legal K v)
    (hsubject : k ∉ c.subjects) : c.apply K v k = some r := by
  cases c with
  | add r' =>
    have hne : k ≠ K.key r' := by
      intro heq
      rw [heq, hlegal.1] at hk
      cases hk
    exact (Function.update_of_ne hne _ _).trans hk
  | replace k' r' =>
    have hne : k ≠ k' := fun heq => hsubject (List.mem_singleton.mpr heq)
    exact (Function.update_of_ne hne _ _).trans hk
  | rename old r' =>
    have hold : k ≠ old := fun heq => hsubject (List.mem_singleton.mpr heq)
    have hne : k ≠ K.key r' := by
      intro heq
      rw [heq, hlegal.1] at hk
      cases hk
    exact (Function.update_of_ne hne _ _).trans ((Function.update_of_ne hold _ _).trans hk)
  | remove k' =>
    have hne : k ≠ k' := fun heq => hsubject (List.mem_singleton.mpr heq)
    exact (Function.update_of_ne hne _ _).trans hk

/-- A key that holds nothing stays empty unless a change introduces it. -/
theorem absent_apply {k : κ} (hk : v k = none) (hlegal : c.Legal K v)
    (hintro : k ∉ c.introduces K) : c.apply K v k = none := by
  cases c with
  | add r =>
    have hne : k ≠ K.key r := fun heq => hintro (List.mem_singleton.mpr heq)
    exact (Function.update_of_ne hne _ _).trans hk
  | replace k' r =>
    obtain ⟨r₀, hr₀, _⟩ := hlegal
    have hne : k ≠ k' := by
      intro heq
      rw [heq, hr₀] at hk
      cases hk
    exact (Function.update_of_ne hne _ _).trans hk
  | rename old r =>
    have hne : k ≠ K.key r := fun heq => hintro (List.mem_singleton.mpr heq)
    refine (Function.update_of_ne hne _ _).trans ?_
    by_cases hold : k = old
    · rw [hold, Function.update_self]
    · exact (Function.update_of_ne hold _ _).trans hk
  | remove k' =>
    show Function.update v k' none k = none
    by_cases hold : k = k'
    · rw [hold, Function.update_self]
    · exact (Function.update_of_ne hold _ _).trans hk

/-! ## Runs of changes -/

/-- An identity a change does not mint is as fresh after it as before. -/
theorem freshIdent_apply {u : ι} (h : FreshIdent K v u) (hlegal : c.Legal K v)
    (hmint : u ∉ c.mints K) : FreshIdent K (c.apply K v) u := by
  intro k r hr
  cases c with
  | add r' =>
    rcases update_eq_some hr with ⟨_, rfl⟩ | ⟨_, hr⟩
    · intro hu
      exact hmint (by simp [Change.mints, hu])
    · exact h k r hr
  | replace k' r' =>
    obtain ⟨r₀, hr₀, _, hident⟩ := hlegal
    rcases update_eq_some hr with ⟨_, rfl⟩ | ⟨_, hr⟩
    · rw [hident]
      exact h _ r₀ hr₀
    · exact h k r hr
  | rename old r' =>
    obtain ⟨_, r₀, hr₀, hident⟩ := hlegal
    rcases update_eq_some hr with ⟨_, rfl⟩ | ⟨_, hr⟩
    · rw [hident]
      exact h old r₀ hr₀
    · exact h k r (update_none_eq_some hr).2
  | remove k' => exact h k r (update_none_eq_some hr).2

/-- **A legal run keeps a collection well kept**, when the identities it mints are fresh and none is
minted twice. -/
theorem wellKept_run {cs : List (Change κ ρ)} :
    ∀ {v : Collection κ ρ}, WellKept K v →
      AllSteps (Change.apply K) (fun v c => c.Legal K v) v cs →
      (cs.flatMap (Change.mints K)).Nodup →
      (∀ u ∈ cs.flatMap (Change.mints K), FreshIdent K v u) →
      WellKept K (run (Change.apply K) v cs) := by
  induction cs with
  | nil => exact fun h _ _ _ => h
  | cons c rest ih =>
    intro v h hlegal hnodup hfresh
    rw [List.flatMap_cons] at hnodup hfresh
    obtain ⟨_, hrest, hdisjoint⟩ := List.nodup_append.mp hnodup
    refine ih (wellKept_apply h hlegal.1 fun u hu => hfresh u (List.mem_append_left _ hu)) hlegal.2
      hrest ?_
    intro u hu
    refine freshIdent_apply (hfresh u (List.mem_append_right _ hu)) hlegal.1 ?_
    intro hmint
    exact hdisjoint u hmint u hu rfl

/-- **A legal run leaves alone every record it is not about.** -/
theorem frame_run {k : κ} {r : ρ} {cs : List (Change κ ρ)} :
    ∀ {v : Collection κ ρ}, v k = some r →
      AllSteps (Change.apply K) (fun v c => c.Legal K v) v cs →
      (∀ c ∈ cs, k ∉ c.subjects) → run (Change.apply K) v cs k = some r := by
  induction cs with
  | nil => exact fun h _ _ => h
  | cons c rest ih =>
    intro v h hlegal hsubject
    exact ih (frame_apply h hlegal.1 (hsubject c List.mem_cons_self)) hlegal.2
      fun c' hc' => hsubject c' (List.mem_cons_of_mem _ hc')

/-- **A legal run brings no key back that it does not introduce.** -/
theorem absent_run {k : κ} {cs : List (Change κ ρ)} :
    ∀ {v : Collection κ ρ}, v k = none →
      AllSteps (Change.apply K) (fun v c => c.Legal K v) v cs →
      (∀ c ∈ cs, k ∉ c.introduces K) → run (Change.apply K) v cs k = none := by
  induction cs with
  | nil => exact fun h _ _ => h
  | cons c rest ih =>
    intro v h hlegal hintro
    exact ih (absent_apply h hlegal.1 (hintro c List.mem_cons_self)) hlegal.2
      fun c' hc' => hintro c' (List.mem_cons_of_mem _ hc')

end XBloom.Logic
