/-
# XBloom.Pods.Passes — what every segment of a call does to the pod library

Between two awaits a call runs alone.  The events of such a segment account for what it makes of the
library (`Accounts`), and what it changed it is about to save (`WaitsWell`); a listing shows the library
as it is.  `routine_passes` has it for every call.
-/
import XBloom.Pods.History

namespace XBloom.Pods

open XBloom.Py XBloom.Cloud XBloom.Async XBloom.Logic

/-! ## One event -/

/-- The library is what its history makes it. -/
def Described (events : List PodEvent) (pods : Dict String Entries) : Prop :=
  ∀ xid, Holds xid (factsOf xid events) (pods.get? xid)

section
variable {T : Texts} {events : List PodEvent} {pods : Dict String Entries} {xid : String}
  {detail : Entries}

theorem factsOf_append (xid : String) (events : List PodEvent) (e : PodEvent) :
    factsOf xid (events ++ [e]) = factsOf xid events ++ (e.fact xid).toList := by
  rw [factsOf, factsOf, List.filterMap_append]
  cases h : e.fact xid with
  | none => simp [h]
  | some f => simp [h]

/-- An event that is about no pod. -/
theorem Described.aside (h : Described events pods) {e : PodEvent} (he : ∀ xid, e.fact xid = none) :
    Described (events ++ [e]) pods := by
  intro xid
  rw [factsOf_append, he xid]
  exact (List.append_nil _).symm ▸ h xid

/-- An event about one pod, whose entry follows it. -/
theorem Described.about (h : Described events pods) {e : PodEvent} {f : PodFact}
    (he : ∀ x, e.fact x = if xid = x then some f else none) {pods' : Dict String Entries}
    (hself : Holds xid (factsOf xid events ++ [f]) (pods'.get? xid))
    (hothers : ∀ x, x ≠ xid → pods'.get? x = pods.get? x) : Described (events ++ [e]) pods' := by
  intro x
  rw [factsOf_append, he x]
  by_cases hx : xid = x
  · subst hx
    rw [if_pos rfl]
    exact hself
  · rw [if_neg hx, hothers x (Ne.symm hx)]
    exact (List.append_nil _).symm ▸ h x

variable (T xid) in
/-- A scan is counted. -/
theorem Described.scanned (h : Described events pods) (hplain : Plain detail) (now : Stamp) :
    ∃ pod, recorded T xid now.isoformat detail ((pods.get? xid).getD []) = .ok pod ∧
      Described (events ++ [.scanned xid detail now]) (pods.insert xid pod) := by
  obtain ⟨pod, hpod, hholds⟩ := recorded_expected T now (h xid) hplain
  refine ⟨pod, hpod, h.about (fun _ => rfl) ?_ fun x hx => ?_⟩
  · rw [Dict.get?_insert, if_pos rfl]
    exact hholds
  · rw [Dict.get?_insert, if_neg hx]

/-- What a retry brought is filled in. -/
theorem Described.retried (h : Described events pods) (hplain : Plain detail) {pod : Entries}
    (hpod : pods.get? xid = some pod) (hbrings : brings detail = true) :
    Described (events ++ [.retried xid detail]) (pods.insert xid (updatedDetail detail pod)) := by
  refine h.about (fun _ => rfl) ?_ fun x hx => ?_
  · rw [Dict.get?_insert, if_pos rfl]
    exact updatedDetail_expected (hpod ▸ h xid) hplain hbrings
  · rw [Dict.get?_insert, if_neg hx]

/-- A retry that brings nothing, or of no pod. -/
theorem Described.retried_nothing (h : Described events pods)
    (hnothing : pods.get? xid = none ∨ brings detail = false) :
    Described (events ++ [.retried xid detail]) pods :=
  h.about (fun _ => rfl) (holds_retried_nothing (h xid) hnothing) fun _ _ => rfl

/-- A pod is forgotten. -/
theorem Described.forgets (h : Described events pods) {pods' : Dict String Entries}
    (hself : pods'.get? xid = none) (hothers : ∀ x, x ≠ xid → pods'.get? x = pods.get? x) :
    Described (events ++ [.forgets xid]) pods' := by
  refine h.about (fun _ => rfl) ?_ hothers
  rw [hself]
  exact expectedPod_forgotten.symm

end

/-! ## One segment -/

/-- A segment of a call on the library. -/
abbrev PodPassage := Segment PodWorld PodEvent PodPoint PodAnswer

/-- **What a segment does**: its events account for what it makes of the library, and list nothing. -/
structure Accounts (σ : PodPassage) : Prop where
  library : ∀ events, Described events σ.before.pods → Described (events ++ σ.events) σ.now.pods
  unlisted : ∀ l, .replied (.pods l) ∉ σ.events

/-- The segment leaves the library and its file alone. -/
structure LeavesFile (σ : PodPassage) : Prop where
  pods : σ.now.pods = σ.before.pods
  stored : σ.now.stored = σ.before.stored
  unsaved : σ.now.unsaved = σ.before.unsaved

/-- Nothing yet. -/
structure Untouched (σ : PodPassage) : Prop where
  world : σ.now = σ.before
  events : σ.events = []

/-- The segment is a listing. -/
structure Lists (σ : PodPassage) : Prop where
  world : σ.now = σ.before
  events : σ.events = [.replied (.pods (listPods σ.before.pods))]

/-- How a segment ends that waits: its changes are still to be saved, if there are any. -/
def WaitsWell (l : PodPoint) (σ : PodPassage) : Prop :=
  Accounts σ ∧ (LeavesFile σ ∨ (σ.now.unsaved = true ∧ l = .saving))

/-- How a call ends. -/
def EndsWell (σ : PodPassage) : Prop := (Accounts σ ∧ LeavesFile σ) ∨ Lists σ

section
variable {σ : PodPassage}

theorem LeavesFile.of_world (h : σ.now = σ.before) : LeavesFile σ := by
  refine ⟨?_, ?_, ?_⟩ <;> rw [h]

theorem Untouched.accounts (h : Untouched σ) : Accounts σ := by
  refine ⟨fun events hevents => ?_, ?_⟩
  · rw [h.events, h.world, List.append_nil]
    exact hevents
  · rw [h.events]
    exact fun _ => List.not_mem_nil

theorem Untouched.waits (h : Untouched σ) (l : PodPoint) : WaitsWell l σ :=
  ⟨h.accounts, Or.inl (.of_world h.world)⟩

theorem Untouched.both (h : Untouched σ) : Accounts σ ∧ LeavesFile σ :=
  ⟨h.accounts, .of_world h.world⟩

theorem untouched_start (resumed : Option (PodPoint × PodAnswer)) (w : PodWorld) :
    Untouched (.start resumed w : PodPassage) := ⟨rfl, rfl⟩

/-- An event that is about no pod, and no listing. -/
theorem Accounts.emit (h : Accounts σ) {e : PodEvent} (haside : ∀ xid, e.fact xid = none)
    (hlisting : ∀ l, .replied (.pods l) ≠ e) : Accounts { σ with events := σ.events ++ [e] } := by
  refine ⟨fun events hevents => ?_, fun l hmem => ?_⟩
  · show Described (events ++ (σ.events ++ [e])) σ.now.pods
    rw [← List.append_assoc]
    exact (h.library events hevents).aside haside
  · rcases List.mem_append.mp hmem with hmem | hmem
    · exact h.unlisted l hmem
    · exact hlisting l (List.mem_singleton.mp hmem)

/-- A call that is over answers. -/
theorem Accounts.replies (h : Accounts σ ∧ LeavesFile σ) {e : PodEvent}
    (haside : ∀ xid, e.fact xid = none) (hlisting : ∀ l, .replied (.pods l) ≠ e) :
    EndsWell { σ with events := σ.events ++ [e] } :=
  Or.inl ⟨h.1.emit haside hlisting, ⟨h.2.pods, h.2.stored, h.2.unsaved⟩⟩

/-- The segment so far is one event about a pod, on what it found. -/
structure Tells (e : PodEvent) (σ : PodPassage) : Prop where
  world : σ.now = σ.before
  events : σ.events = [e]
  unlisted : ∀ l, .replied (.pods l) ≠ e

/-- **The event is accounted for** once the library follows it. -/
theorem Tells.accounts {e : PodEvent} (h : Tells e σ) {pods : Dict String Entries}
    (hpods : ∀ events, Described events σ.before.pods → Described (events ++ [e]) pods) :
    Accounts { σ with now := { σ.now with pods := pods } } := by
  refine ⟨fun events hevents => ?_, fun l hmem => ?_⟩
  · show Described (events ++ σ.events) pods
    rw [h.events]
    exact hpods events hevents
  · rw [h.events] at hmem
    exact h.unlisted l (List.mem_singleton.mp hmem)

/-- The library follows the event as it is. -/
theorem Tells.both {e : PodEvent} (h : Tells e σ)
    (hpods : ∀ events, Described events σ.before.pods → Described (events ++ [e]) σ.before.pods) :
    Accounts σ ∧ LeavesFile σ := by
  have haccounts := h.accounts hpods
  rw [← congrArg PodWorld.pods h.world] at haccounts
  exact ⟨haccounts, .of_world h.world⟩

end

/-! ## The calls -/

section
variable {T : Texts} {xid : String} {detail : Entries}

/-- What follows a save follows a segment that begins. -/
theorem asyncSave_passes : Passes WaitsWell Accounts asyncSave (fun _ => Untouched)
    fun _ => Untouched := by
  refine .bind (Q := fun _ σ => Accounts σ ∧ σ.now.unsaved = true) (.assign fun σ h => ?_) fun _ => ?_
  · exact ⟨⟨h.library, h.unlisted⟩, rfl⟩
  · refine .bind (Q := fun _ => Untouched) (.await (fun σ h => ⟨h.1, Or.inr ⟨h.2, rfl⟩⟩)
      fun r w => untouched_start _ w) fun r => ?_
    cases r with
    | failed => exact .throw fun σ h => h
    | answered resp => exact .pure fun σ h => h
    | finished => exact .pure fun σ h => h

theorem asyncLookupPod_passes {X : PyErr → PodPassage → Prop} :
    Passes WaitsWell Untouched (asyncLookupPod T xid)
      (fun detail σ => Untouched σ ∧ Plain detail) X := by
  refine .bind (Q := fun _ => Untouched) (.await (fun σ h => h.waits _)
    fun r w => untouched_start _ w) fun r => ?_
  have hnothing : Passes WaitsWell Untouched (pure [] : PodRoutine Entries)
      (fun detail σ => Untouched σ ∧ Plain detail) X := .pure fun σ h => ⟨h, plain_nil⟩
  cases r with
  | failed => exact hnothing
  | finished => exact hnothing
  | answered resp =>
    dsimp only
    split
    · exact .pure fun σ h => ⟨h, fetchPodDetail_plain ‹_›⟩
    · exact hnothing

/-- `async_record` counts the scan it is told of. -/
theorem asyncRecord_passes (hplain : Plain detail) :
    Passes WaitsWell (fun σ => Tells (.scanned xid detail σ.before.now) σ) (asyncRecord T xid detail)
      (fun _ σ => Accounts σ ∧ LeavesFile σ) fun _ σ => Accounts σ ∧ LeavesFile σ := by
  refine .world fun w => .bind (Q := fun pod σ => Tells (.scanned xid detail σ.before.now) σ ∧
      recorded T xid σ.before.now.isoformat detail ((σ.before.pods.get? xid).getD []) = .ok pod)
    (.lift ?_ ?_) fun pod => ?_
  · rintro pod hpod σ ⟨h, rfl⟩
    exact ⟨h, h.world ▸ hpod⟩
  · rintro e he σ ⟨h, rfl⟩
    -- an entry that history tells of is counted up without fail
    refine h.both fun events hevents => ?_
    obtain ⟨pod, hpod, _⟩ := hevents.scanned T xid hplain σ.before.now
    rw [h.world, hpod] at he
    cases he
  · refine .bind (Q := fun _ => Accounts) (.assign ?_) fun _ =>
      asyncSave_passes.weaken (fun _ h => h) (fun _ _ h => h.both) fun _ _ h => h.both
    rintro σ ⟨h, hpod⟩
    refine h.accounts fun events hevents => ?_
    obtain ⟨pod', hpod', hdescribed⟩ := hevents.scanned T xid hplain σ.before.now
    rw [hpod] at hpod'
    rw [h.world, Except.ok.inj hpod']
    exact hdescribed

/-- `async_update_detail` fills in what the retry brought. -/
theorem asyncUpdateDetail_passes (hplain : Plain detail) :
    Passes WaitsWell (Tells (.retried xid detail)) (asyncUpdateDetail xid detail)
      (fun _ σ => Accounts σ ∧ LeavesFile σ) fun _ σ => Accounts σ ∧ LeavesFile σ := by
  refine .world fun w => ?_
  cases hpod : w.pods.get? xid with
  | none =>
    refine .pure ?_
    rintro σ ⟨h, rfl⟩
    exact h.both fun events hevents => hevents.retried_nothing (Or.inl (h.world ▸ hpod))
  | some pod =>
    dsimp only
    split
    · rename_i hbrings
      refine .pure ?_
      rintro σ ⟨h, rfl⟩
      exact h.both fun events hevents => hevents.retried_nothing (Or.inr hbrings)
    · rename_i hbrings
      refine .bind (Q := fun _ => Accounts) (.assign ?_) fun _ =>
        .bind (asyncSave_passes.weaken (fun _ h => h) (fun _ _ h => h.both) fun _ _ h => h.both)
          fun _ => .pure fun σ h => h
      rintro σ ⟨h, rfl⟩
      refine h.accounts fun events hevents => ?_
      rw [h.world] at hpod ⊢
      exact hevents.retried hplain hpod ((Bool.not_eq_false _).mp hbrings)

/-- `async_delete` forgets the pod. -/
theorem asyncDelete_passes :
    Passes WaitsWell (Tells (.forgets xid)) (asyncDelete xid)
      (fun _ σ => Accounts σ ∧ LeavesFile σ) fun _ σ => Accounts σ ∧ LeavesFile σ := by
  refine .world fun w => ?_
  cases hpod : w.pods.get? xid with
  | none =>
    refine .pure ?_
    rintro σ ⟨h, rfl⟩
    exact h.both fun events hevents => hevents.forgets (h.world ▸ hpod) fun _ _ => rfl
  | some pod =>
    refine .bind (Q := fun _ => Accounts) (.assign ?_) fun _ =>
      .bind (asyncSave_passes.weaken (fun _ h => h) (fun _ _ h => h.both) fun _ _ h => h.both)
        fun _ => .pure fun σ h => h
    rintro σ ⟨h, rfl⟩
    refine h.accounts fun events hevents => ?_
    rw [h.world]
    refine hevents.forgets ?_ fun x hx => ?_
    · rw [Dict.get?_erase, if_pos rfl]
    · rw [Dict.get?_erase, if_neg hx]

/-- A segment that tells of an event, first thing. -/
theorem Untouched.tells {σ : PodPassage} (h : Untouched σ) {e : PodEvent}
    (hunlisted : ∀ l, .replied (.pods l) ≠ e) : Tells e { σ with events := σ.events ++ [e] } :=
  ⟨h.world, by rw [h.events]; rfl, hunlisted⟩

/-- **Every segment of every call accounts for itself.** -/
theorem routine_passes (c : PodCall) :
    Passes WaitsWell Untouched (c.routine T) (fun _ => EndsWell) fun _ => EndsWell := by
  cases c with
  | detected xid =>
    refine .bind asyncLookupPod_passes fun detail => .world fun w => ?_
    refine .bind (Q := fun _ σ => Tells (.scanned xid detail σ.before.now) σ ∧ Plain detail)
      (.emit ?_) fun _ => ?_
    · rintro σ ⟨⟨h, hplain⟩, rfl⟩
      refine ⟨?_, hplain⟩
      rw [show σ.now.now = σ.before.now from congrArg PodWorld.now h.world]
      exact h.tells nofun
    · refine .bind (Q := fun _ σ => Accounts σ ∧ LeavesFile σ) (.attempt ?_) fun _ =>
        .emit fun σ h => Accounts.replies h (fun _ => rfl) nofun
      intro σ h
      exact asyncRecord_passes h.2 σ h.1
  | pods =>
    refine .world fun w => .emit ?_
    rintro σ ⟨h, rfl⟩
    exact Or.inr ⟨h.world, by rw [h.events, h.world]; rfl⟩
  | refresh xid =>
    refine .world fun w => ?_
    show Passes _ _ (if _ then _ else _) _ _
    split
    · exact .emit fun σ h => Accounts.replies h.1.both (fun _ => rfl) nofun
    · refine .bind (asyncLookupPod_passes.pre fun σ h => h.1) fun detail => ?_
      refine .bind (Q := fun _ σ => Tells (.retried xid detail) σ ∧ Plain detail) (.emit ?_) fun _ => ?_
      · rintro σ ⟨h, hplain⟩
        exact ⟨h.tells nofun, hplain⟩
      · refine .bind (Q := fun _ σ => Accounts σ ∧ LeavesFile σ) ?_ fun updated =>
          .emit fun σ h => Accounts.replies h (fun _ => rfl) nofun
        intro σ h
        exact (asyncUpdateDetail_passes h.2 |>.weaken (fun _ h => h) (fun _ _ h => h)
          fun _ _ h => Or.inl h) σ h.1
  | delete xid =>
    refine .bind (Q := fun _ => Tells (.forgets xid)) (.emit fun σ h =>
      h.tells nofun) fun _ => ?_
    exact .bind (asyncDelete_passes.weaken (fun _ h => h) (fun _ _ h => h) fun _ _ h => Or.inl h)
      fun deleted => .emit fun σ h => Accounts.replies h (fun _ => rfl) nofun

end

end XBloom.Pods
