/-
# XBloom.Pods.History — what the library holds, as a function of what happened

Three things happen to a pod: a scan's lookup is over, a retried lookup is over, it is forgotten.  What
counts is what happened since it was last forgotten, from its first scan then on.  An entry tells the
first and the last of these scans and how many there were, and the bean info and recipes of the last
lookup that brought any (`expectedPod`); a lookup that failed takes nothing away, and a retry alone makes
no entry.

The writers of `XBloom.Pods.Library` keep to it one by one: `recorded_expected`,
`updatedDetail_expected`.
-/
import XBloom.Pods.Library
import Mathlib.Data.List.DropRight
import Mathlib.Data.List.Induction

namespace XBloom.Pods

open XBloom.Py XBloom.Cloud

/-! ## History -/

/-- What happens to one pod. -/
inductive PodFact where
  | scanned (detail : Entries) (now : Stamp)
  | retried (detail : Entries)
  | forgotten

namespace PodFact

def isForgotten : PodFact → Bool
  | forgotten => true
  | _ => false

def isScan : PodFact → Bool
  | scanned _ _ => true
  | _ => false

/-- When it was scanned. -/
def scanTime : PodFact → Option Stamp
  | scanned _ now => some now
  | _ => none

/-- What a lookup brought. -/
def brought : PodFact → Option Entries
  | scanned detail _ => if brings detail then some detail else none
  | retried detail => if brings detail then some detail else none
  | forgotten => none

end PodFact

/-- What an event means to a pod. -/
def PodEvent.fact (xid : String) : PodEvent → Option PodFact
  | .scanned x detail now => if x = xid then some (.scanned detail now) else none
  | .retried x detail => if x = xid then some (.retried detail) else none
  | .forgets x => if x = xid then some .forgotten else none
  | .podDetected _ => none
  | .replied _ => none

/-- What happened to a pod. -/
def factsOf (xid : String) (events : List PodEvent) : List PodFact :=
  events.filterMap (PodEvent.fact xid)

/-- **What counts**: what happened since the pod was last forgotten, from its first scan then on. -/
def counted (facts : List PodFact) : List PodFact :=
  (facts.rtakeWhile fun f => !f.isForgotten).dropWhile fun f => !f.isScan

/-- The scans that count. -/
def scanTimes (facts : List PodFact) : List Stamp := (counted facts).filterMap PodFact.scanTime

/-- What the lookups that count brought. -/
def lookups (facts : List PodFact) : List Entries := (counted facts).filterMap PodFact.brought

/-- An entry of the library, by what it answers. -/
abbrev Answers := String → Option PyVal

/-- The answers of an entry. -/
def answers (entry : Entries) : Answers := fun k => entry.lookup k

/-- The entry of a pod first scanned and last scanned at these times, with what was looked up. -/
def podAnswers (xid : String) (first last : Stamp) (scans : ℕ) (detail : Answers) : Answers := fun k =>
  if k = "xid" then some (.str xid)
  else if k = "first_scanned" then some (.str first.isoformat)
  else if k = "last_scanned" then some (.str last.isoformat)
  else if k = "scans" then some (.int scans)
  else detail k

/-- What the last lookup that brought recipes answers. -/
def lastLookup (facts : List PodFact) : Answers := fun k =>
  (lookups facts).getLast?.bind fun detail => detail.lookup k

/-- **What the library holds of a pod**, by its history. -/
def expectedPod (xid : String) (facts : List PodFact) : Option Answers :=
  match (scanTimes facts).head?, (scanTimes facts).getLast? with
  | some first, some last =>
    some (podAnswers xid first last (scanTimes facts).length (lastLookup facts))
  | _, _ => none

/-! ## One more fact -/

section
variable {facts : List PodFact} {detail : Entries} {now : Stamp} {xid : String}

theorem counted_forgotten : counted (facts ++ [.forgotten]) = [] := by
  rw [counted, List.rtakeWhile_concat_neg _ _ _ (by decide)]
  rfl

theorem counted_scanned :
    counted (facts ++ [.scanned detail now]) = counted facts ++ [.scanned detail now] := by
  rw [counted, counted, List.rtakeWhile_concat_pos _ _ _ rfl, List.dropWhile_append]
  split
  · rename_i h
    rw [List.isEmpty_iff.mp h]
    rfl
  · rfl

theorem counted_retried : counted (facts ++ [.retried detail]) =
    if counted facts = [] then [] else counted facts ++ [.retried detail] := by
  rw [counted, counted, List.rtakeWhile_concat_pos _ _ _ rfl, List.dropWhile_append]
  split
  · rename_i h
    rw [if_pos (List.isEmpty_iff.mp h)]
    rfl
  · rename_i h
    rw [if_neg fun hnil => h (List.isEmpty_iff.mpr hnil)]

/-- What counts begins with a scan. -/
theorem counted_eq_nil_iff : counted facts = [] ↔ scanTimes facts = [] := by
  induction facts using List.reverseRecOn with
  | nil => exact iff_of_true rfl rfl
  | append_singleton facts f ih =>
    unfold scanTimes at ih ⊢
    cases f with
    | scanned detail now =>
      rw [counted_scanned, List.filterMap_append]
      simp [PodFact.scanTime]
    | retried detail =>
      rw [counted_retried]
      split
      · exact iff_of_true rfl rfl
      · rename_i h
        rw [List.filterMap_append]
        exact iff_of_false (by simp) fun hnil => h (ih.mpr (List.append_eq_nil_iff.mp hnil).1)
    | forgotten =>
      rw [counted_forgotten]
      exact iff_of_true rfl rfl

theorem expectedPod_eq_none_iff : expectedPod xid facts = none ↔ counted facts = [] := by
  rw [counted_eq_nil_iff]
  unfold expectedPod
  cases h : scanTimes facts with
  | nil => simp
  | cons first rest => simp [List.getLast?_cons]

/-- A pod that is held was scanned. -/
theorem expectedPod_eq_some {a : Answers} (h : expectedPod xid facts = some a) :
    ∃ first last, (scanTimes facts).head? = some first ∧ (scanTimes facts).getLast? = some last ∧
      a = podAnswers xid first last (scanTimes facts).length (lastLookup facts) := by
  unfold expectedPod at h
  split at h
  · exact ⟨_, _, ‹_›, ‹_›, (Option.some.inj h).symm⟩
  · cases h

theorem expectedPod_forgotten : expectedPod xid (facts ++ [.forgotten]) = none :=
  expectedPod_eq_none_iff.mpr counted_forgotten

/-- **A scan**: one more, the last; the first is the first there is. -/
theorem expectedPod_scanned : expectedPod xid (facts ++ [.scanned detail now]) =
    some (podAnswers xid ((scanTimes facts).head?.getD now) now ((scanTimes facts).length + 1)
      (if brings detail then answers detail else lastLookup facts)) := by
  have htimes : scanTimes (facts ++ [.scanned detail now]) = scanTimes facts ++ [now] := by
    rw [scanTimes, counted_scanned, List.filterMap_append]
    rfl
  have hlookup : lastLookup (facts ++ [.scanned detail now]) =
      if brings detail then answers detail else lastLookup facts := by
    unfold lastLookup lookups
    rw [counted_scanned, List.filterMap_append]
    funext k
    cases hbrings : brings detail with
    | true => simp [PodFact.brought, hbrings, answers]
    | false => simp [PodFact.brought, hbrings]
  unfold expectedPod
  rw [htimes, hlookup]
  cases hscans : scanTimes facts with
  | nil => rfl
  | cons first rest =>
    rw [List.getLast?_concat]
    simp

/-- **A retry** of a pod that is held. -/
theorem expectedPod_retried (h : counted facts ≠ []) : expectedPod xid (facts ++ [.retried detail]) =
    if brings detail then
      (expectedPod xid facts).map fun a k => if k ∈ libraryKeys then a k else answers detail k
    else expectedPod xid facts := by
  have htimes : scanTimes (facts ++ [.retried detail]) = scanTimes facts := by
    rw [scanTimes, counted_retried, if_neg h, List.filterMap_append]
    exact List.append_nil _
  have hlookup : lastLookup (facts ++ [.retried detail]) =
      if brings detail then answers detail else lastLookup facts := by
    unfold lastLookup lookups
    rw [counted_retried, if_neg h, List.filterMap_append]
    funext k
    cases hbrings : brings detail with
    | true => simp [PodFact.brought, hbrings, answers]
    | false => simp [PodFact.brought, hbrings]
  unfold expectedPod
  rw [htimes, hlookup]
  cases hbrings : brings detail with
  | false => rfl
  | true =>
    cases hscans : scanTimes facts with
    | nil => rfl
    | cons first rest =>
      rw [List.getLast?_cons]
      simp only [List.head?_cons, if_true, Option.map_some, Option.some.injEq]
      funext k
      unfold podAnswers libraryKeys
      split_ifs <;> simp_all

/-- A retry of a pod that is not held makes none. -/
theorem expectedPod_retried_absent (h : counted facts = []) :
    expectedPod xid (facts ++ [.retried detail]) = none := by
  rw [expectedPod_eq_none_iff, counted_retried, if_pos h]

end

/-! ## Looking up -/

/-- What a lookup may return: nothing, or fields with recipes and none of the library's own. -/
def Plain (detail : Entries) : Prop :=
  (detail = [] ∨ brings detail = true) ∧ ∀ k ∈ libraryKeys, detail.lookup k = none

theorem plain_nil : Plain [] := ⟨Or.inl rfl, fun _ _ => rfl⟩

theorem lookup_of_keys {detail : Entries} {k : String} (h : k ∉ detail.map Prod.fst) :
    detail.lookup k = none := by
  refine List.lookup_eq_none_iff.mpr fun e he => ?_
  rw [bne_iff_ne]
  rintro rfl
  exact h (List.mem_map_of_mem he)

/-- The keys a lookup fills in before the recipes. -/
def detailKeys : List String := beanFields.map Prod.fst ++ ["roast", "image"]

section
variable {T : Texts} {k : String}

theorem lookup_beanFields (pod : Entries) (hk : k ∉ detailKeys) :
    (beanFields.filterMap (beanField T pod)).lookup k = none := by
  refine lookup_of_keys fun hmem => hk (List.mem_append_left _ ?_)
  obtain ⟨e, he, rfl⟩ := List.mem_map.mp hmem
  obtain ⟨e₀, he₀, hvalue⟩ := List.mem_filterMap.mp he
  unfold beanField at hvalue
  dsimp only at hvalue
  split at hvalue
  · rw [← Option.some.inj hvalue]
    exact List.mem_map_of_mem he₀
  · cases hvalue

theorem lookup_roastField (v : PyVal) (hk : k ∉ detailKeys) : (roastField v).lookup k = none := by
  refine lookup_of_keys fun hmem => hk (List.mem_append_right _ ?_)
  unfold roastField at hmem
  split at hmem
  · split at hmem
    · simp_all
    · cases hmem
  · simp_all
  · cases hmem

theorem lookup_imageField (pod : Entries) (hk : k ∉ detailKeys) :
    (imageField pod).lookup k = none := by
  refine lookup_of_keys fun hmem => hk (List.mem_append_right _ ?_)
  unfold imageField at hmem
  dsimp only at hmem
  split at hmem
  · simp_all
  · cases hmem

/-- What a detail answers under the keys of no field. -/
theorem lookup_detail (pod : Entries) (v : PyVal) (rest : Entries) (hk : k ∉ detailKeys) :
    (beanFields.filterMap (beanField T pod) ++ roastField v ++ imageField pod ++ rest).lookup k =
      rest.lookup k := by
  rw [List.lookup_append, List.lookup_append, List.lookup_append, lookup_beanFields pod hk,
    lookup_roastField v hk, lookup_imageField pod hk]
  rfl

/-- **What the cloud's answer is read as** brings recipes, and keeps off the library's keys. -/
theorem fetchPodDetail_plain {resp detail : Entries} (h : fetchPodDetail T resp = .ok (some detail)) :
    Plain detail := by
  unfold fetchPodDetail at h
  split at h
  case isFalse => cases h
  split at h
  case h_1 => cases h
  case h_3 => cases h
  rename_i cloudRecipes hne _
  split at h
  case h_2 => cases h
  obtain ⟨recipes, hrecipes, h⟩ := bind_eq_ok.mp h
  have hdetail := Option.some.inj (Except.ok.inj h)
  have hsome : recipes ≠ [] := by
    rintro rfl
    cases cloudRecipes with
    | nil => exact hne rfl
    | cons c rest =>
      rw [List.mapM_cons] at hrecipes
      obtain ⟨r, _, hrest⟩ := bind_eq_ok.mp hrecipes
      obtain ⟨rs, _, hcons⟩ := bind_eq_ok.mp hrest
      cases hcons
  rw [← hdetail]
  refine ⟨Or.inr ?_, fun k hk => ?_⟩
  · have hkey : "recipes" ∉ detailKeys := by decide
    unfold brings Cloud.get getOr
    rw [lookup_detail _ _ _ hkey]
    show (!(recipes.map PyVal.dict).isEmpty) = true
    simp [hsome]
  · have hkey : k ∉ detailKeys := by
      revert hk
      revert k
      decide
    have hrest : ∀ k ∈ libraryKeys, k ∉ ["default_recipe", "recipes"] := by decide
    rw [lookup_detail _ _ _ hkey]
    exact lookup_of_keys (hrest k hk)

end

/-! ## The writers -/

section
variable {T : Texts} {xid : String} {facts : List PodFact} {detail : Entries} {now : Stamp}

/-- What a library entry of a pod is, if it is held. -/
def Holds (xid : String) (facts : List PodFact) (entry : Option Entries) : Prop :=
  entry.map answers = expectedPod xid facts

theorem lookup_cons_ite {k k' : String} {v : PyVal} {l : Entries} :
    ((k', v) :: l).lookup k = if k = k' then some v else l.lookup k := by
  rw [List.lookup_cons]
  by_cases h : k = k'
  · simp [h]
  · rw [beq_eq_false_iff_ne.mpr h, if_neg h]

theorem answers_libraryKeys (first last : String) (n : ℤ) (rest : Entries) :
    answers ([("xid", .str xid), ("first_scanned", .str first), ("last_scanned", .str last),
      ("scans", .int n)] ++ rest) = fun k =>
        if k = "xid" then some (.str xid) else if k = "first_scanned" then some (.str first)
        else if k = "last_scanned" then some (.str last) else if k = "scans" then some (.int n)
        else rest.lookup k := by
  funext k
  simp only [answers, List.cons_append, List.nil_append, lookup_cons_ite]

/-- What is left of the entry before is what the lookups brought before. -/
theorem lookup_kept {entry : Option Entries} (h : Holds xid facts entry) (hplain : Plain detail)
    {k : String} (hk : k ∉ libraryKeys) :
    (detail ++ if brings detail then [] else entry.getD []).lookup k =
      (if brings detail then answers detail else lastLookup facts) k := by
  rw [List.lookup_append]
  cases hbrings : brings detail with
  | true => exact Option.or_none
  | false =>
    have hempty : detail = [] := hplain.1.resolve_right (by rw [hbrings]; exact Bool.false_ne_true)
    rw [hempty]
    show (entry.getD []).lookup k = lastLookup facts k
    cases entry with
    | none =>
      have hnone : counted facts = [] := expectedPod_eq_none_iff.mp h.symm
      rw [lastLookup, lookups, hnone]
      rfl
    | some pod =>
      obtain ⟨first, last, _, _, ha⟩ := expectedPod_eq_some h.symm
      show answers pod k = _
      simp only [libraryKeys, List.mem_cons, List.not_mem_nil, or_false, not_or] at hk
      rw [ha, podAnswers, if_neg hk.1, if_neg hk.2.1, if_neg hk.2.2.1, if_neg hk.2.2.2]

variable (T now) in
/-- **`async_record` counts the scan.** -/
theorem recorded_expected {entry : Option Entries} (h : Holds xid facts entry) (hplain : Plain detail) :
    ∃ pod, recorded T xid now.isoformat detail (entry.getD []) = .ok pod ∧
      Holds xid (facts ++ [.scanned detail now]) (some pod) := by
  have hprevious : getOr (entry.getD []) "scans" (.int 0) = .int (scanTimes facts).length ∧
      getOr (entry.getD []) "first_scanned" (.str now.isoformat) =
        .str ((scanTimes facts).head?.getD now).isoformat := by
    cases entry with
    | none =>
      rw [counted_eq_nil_iff.mp (expectedPod_eq_none_iff.mp h.symm)]
      exact ⟨rfl, rfl⟩
    | some pod =>
      obtain ⟨first, last, hfirst, _, ha⟩ := expectedPod_eq_some h.symm
      rw [hfirst]
      exact ⟨congrArg (Option.getD · _) (congrFun ha "scans"),
        congrArg (Option.getD · _) (congrFun ha "first_scanned")⟩
  refine ⟨_, by rw [recorded, hprevious.1, hprevious.2]; rfl, ?_⟩
  unfold Holds
  rw [expectedPod_scanned, Option.map_some, List.append_assoc, answers_libraryKeys]
  refine congrArg some (funext fun k => ?_)
  rw [podAnswers]
  by_cases h₁ : k = "xid"
  · rw [if_pos h₁, if_pos h₁]
  by_cases h₂ : k = "first_scanned"
  · rw [if_neg h₁, if_neg h₁, if_pos h₂, if_pos h₂]
  by_cases h₃ : k = "last_scanned"
  · rw [if_neg h₁, if_neg h₁, if_neg h₂, if_neg h₂, if_pos h₃, if_pos h₃]
  by_cases h₄ : k = "scans"
  · rw [if_neg h₁, if_neg h₁, if_neg h₂, if_neg h₂, if_neg h₃, if_neg h₃, if_pos h₄, if_pos h₄]
    rfl
  · rw [if_neg h₁, if_neg h₁, if_neg h₂, if_neg h₂, if_neg h₃, if_neg h₃, if_neg h₄, if_neg h₄]
    have hk : k ∉ libraryKeys := by simp [libraryKeys, h₁, h₂, h₃, h₄]
    exact lookup_kept h hplain hk

theorem lookup_filterMap_keys (pod rest : Entries) (keys : List String) (k : String) :
    (keys.filterMap (fun k => (pod.lookup k).map fun v => (k, v)) ++ rest).lookup k =
      if k ∈ keys then (pod.lookup k).or (rest.lookup k) else rest.lookup k := by
  induction keys with
  | nil => rfl
  | cons key keys ih =>
    rw [List.filterMap_cons]
    cases hkey : pod.lookup key with
    | none =>
      rw [Option.map_none]
      dsimp only
      rw [ih]
      by_cases h : k = key
      · rw [h, hkey]
        simp
      · simp [h]
    | some v =>
      rw [Option.map_some]
      dsimp only
      rw [List.cons_append, lookup_cons_ite, ih]
      by_cases h : k = key
      · rw [h, hkey]
        simp
      · simp [h]

/-- **`async_update_detail` fills in what the retry brought**, and nothing else. -/
theorem updatedDetail_expected {pod : Entries} (h : Holds xid facts (some pod))
    (hplain : Plain detail) (hbrings : brings detail = true) :
    Holds xid (facts ++ [.retried detail]) (some (updatedDetail detail pod)) := by
  have hheld : counted facts ≠ [] := fun hnil =>
    Option.some_ne_none _ (h.trans (expectedPod_eq_none_iff.mpr hnil))
  unfold Holds at h ⊢
  rw [expectedPod_retried hheld, if_pos hbrings, ← h, Option.map_some, Option.map_some, Option.map_some]
  refine congrArg some (funext fun k => ?_)
  rw [answers, updatedDetail, lookup_filterMap_keys]
  split_ifs with hk
  · rw [hplain.2 k hk, Option.or_none]
    rfl
  · rfl

/-- A retry that brings nothing leaves the entry. -/
theorem holds_retried_nothing {entry : Option Entries} (h : Holds xid facts entry)
    (hbrings : entry = none ∨ brings detail = false) :
    Holds xid (facts ++ [.retried detail]) entry := by
  unfold Holds at h ⊢
  by_cases hheld : counted facts = []
  · rw [expectedPod_retried_absent hheld, h, expectedPod_eq_none_iff.mpr hheld]
  · rcases hbrings with rfl | hbrings
    · exact absurd (expectedPod_eq_none_iff.mp h.symm) hheld
    · rw [expectedPod_retried hheld, if_neg (by rw [hbrings]; exact Bool.false_ne_true), h]

end

end XBloom.Pods
