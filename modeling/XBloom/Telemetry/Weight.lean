/-
# XBloom.Telemetry.Weight — the scale's readings and the glitch filter

Two commands stream the weight, CURRENT_WEIGHT (10507) and CURRENT_WEIGHT2 (20501), and both go through
`_filter_weight`: a reading more than 300 away from the last accepted one is dropped, and the old value
shown again, unless four readings in a row were dropped before it.  The filter is an instance of
`Outliers`, whatever mixture of the two commands the readings arrive on (`onReading_filter`).

Readings are exact numbers here; the values that are no numbers, which a float32 can hold too, are left
out.
-/
import Mathlib.Data.List.Induction
import Mathlib.Data.Rat.Defs
import Mathlib.Algebra.Order.Ring.Rat
import Mathlib.Algebra.Order.Group.Unbundled.Abs
import XBloom.Logic.Outliers

namespace XBloom.Telemetry

open XBloom.Logic

/-! ## The filter -/

/-- `_WEIGHT_GLITCH_LIMIT`. -/
def weightGlitchLimit : ℚ := 300

/-- `_WEIGHT_GLITCH_ESCAPE_COUNT`. -/
def weightGlitchEscapeCount : ℕ := 4

/-- What the client keeps of the scale: `_last_accepted_weight`, `_weight_out_of_limit_count` and the
weight of `ScaleStatus`, the one that is shown. -/
structure Scale where
  lastAcceptedWeight : Option ℚ := none
  weightOutOfLimitCount : ℕ := 0
  weight : ℚ := 0
  deriving DecidableEq, Repr

/-- The commands that carry a weight. -/
inductive WeightResponse where
  | currentWeight
  | currentWeight2
  deriving DecidableEq, Repr

namespace Scale

/-- `_filter_weight`: the value to show, and the client after it. -/
def filterWeight (s : Scale) (new : ℚ) : ℚ × Scale :=
  match s.lastAcceptedWeight with
  | some last =>
    if weightGlitchLimit < |new - last| ∧ s.weightOutOfLimitCount < weightGlitchEscapeCount then
      -- the counter is read before it is raised: four readings are dropped, the fifth is not
      (last, { s with weightOutOfLimitCount := s.weightOutOfLimitCount + 1 })
    else (new, { s with lastAcceptedWeight := some new, weightOutOfLimitCount := 0 })
  | none => (new, { s with lastAcceptedWeight := some new, weightOutOfLimitCount := 0 })

/-- The weight branches of `_handle_response`; a payload of less than four bytes holds no reading. -/
def handleResponse (s : Scale) (response : WeightResponse) (reading : Option ℚ) : Scale :=
  match response, reading with
  | .currentWeight2, some new => { (s.filterWeight new).2 with weight := (s.filterWeight new).1 }
  | .currentWeight, some new => { (s.filterWeight new).2 with weight := (s.filterWeight new).1 }
  | _, none => s

/-- A reading arrives on one of the commands. -/
def onReading (s : Scale) (r : WeightResponse × ℚ) : Scale := s.handleResponse r.1 (some r.2)

/-- The scale after some readings, from a new client. -/
def after (readings : List (WeightResponse × ℚ)) : Scale := run onReading {} readings

/-- The filter takes a reading: it becomes the last accepted one and the count starts again. -/
def Accepts (s : Scale) (r : WeightResponse × ℚ) : Prop :=
  (s.onReading r).lastAcceptedWeight = some r.2 ∧ (s.onReading r).weightOutOfLimitCount = 0

instance (s : Scale) (r : WeightResponse × ℚ) : Decidable (s.Accepts r) :=
  inferInstanceAs (Decidable (_ ∧ _))

/-- More than 300 away from the last accepted reading, if there is one. -/
def OutOfLimit (s : Scale) (r : WeightResponse × ℚ) : Prop :=
  ∃ last, s.lastAcceptedWeight = some last ∧ weightGlitchLimit < |r.2 - last|

/-- **The last accepted of some readings**, told by the readings: it was accepted, and none behind it
was. -/
def LastAccepted (readings : List (WeightResponse × ℚ)) (last : ℚ) : Prop :=
  ∃ pre a dropped, readings = pre ++ a :: dropped ∧ (after pre).Accepts a ∧
    AllSteps onReading (fun s r => ¬ s.Accepts r) (after (pre ++ [a])) dropped ∧ last = a.2

/-! ## The filter as an instance of `Outliers` -/

/-- Too far from the last accepted weight. -/
def FarWeight (last new : ℚ) : Prop := weightGlitchLimit < |new - last|

instance : DecidableRel FarWeight := fun last new => inferInstanceAs (Decidable (_ < |new - last|))

/-- The client's two fields as an outlier filter. -/
def filter (s : Scale) : Outliers ℚ :=
  { last := s.lastAcceptedWeight, count := s.weightOutOfLimitCount }

/-- `_filter_weight` drops what the outlier filter rejects. -/
abbrev Drops (s : Scale) (new : ℚ) : Prop := s.filter.Rejects FarWeight weightGlitchEscapeCount new

variable {s : Scale} {r : WeightResponse × ℚ}

theorem onReading_eq (s : Scale) (r : WeightResponse × ℚ) :
    s.onReading r = { (s.filterWeight r.2).2 with weight := (s.filterWeight r.2).1 } := by
  obtain ⟨response, new⟩ := r
  cases response <;> rfl

/-- A dropped reading raises the count and shows the last accepted one again. -/
theorem onReading_of_drops (h : s.Drops r.2) :
    s.lastAcceptedWeight = some (s.onReading r).weight ∧
      (s.onReading r).filter = { s.filter with count := s.weightOutOfLimitCount + 1 } := by
  obtain ⟨⟨last, hlast, hfar⟩, hcount⟩ := h
  change s.lastAcceptedWeight = some last at hlast
  have hfilter : s.filterWeight r.2 =
      (last, { s with weightOutOfLimitCount := s.weightOutOfLimitCount + 1 }) := by
    unfold filterWeight
    rw [hlast]
    exact if_pos ⟨hfar, hcount⟩
  rw [onReading_eq, hfilter]
  exact ⟨hlast, rfl⟩

/-- A reading that is not dropped is the one shown, and the last accepted one. -/
theorem onReading_of_not_drops (h : ¬ s.Drops r.2) :
    (s.onReading r).weight = r.2 ∧ (s.onReading r).filter = { last := some r.2, count := 0 } := by
  have hfilter : s.filterWeight r.2 =
      (r.2, { s with lastAcceptedWeight := some r.2, weightOutOfLimitCount := 0 }) := by
    unfold filterWeight
    cases hlast : s.lastAcceptedWeight with
    | none => rfl
    | some last => exact if_neg fun hif => h ⟨⟨last, hlast, hif.1⟩, hif.2⟩
  rw [onReading_eq, hfilter]
  exact ⟨rfl, rfl⟩

/-- **The client's filter is an outlier filter**, on either command. -/
theorem onReading_filter (s : Scale) (r : WeightResponse × ℚ) :
    (s.onReading r).filter = s.filter.step FarWeight weightGlitchEscapeCount r.2 := by
  by_cases h : s.Drops r.2
  · rw [(onReading_of_drops h).2, Outliers.step_of_rejects h]
    rfl
  · rw [(onReading_of_not_drops h).2, Outliers.step_of_not_rejects h]

theorem accepts_iff : s.Accepts r ↔ ¬ s.Drops r.2 := by
  constructor
  · rintro ⟨_, hcount⟩ hdrops
    have hraised := congrArg Outliers.count (onReading_of_drops hdrops).2
    change (s.onReading r).weightOutOfLimitCount = s.weightOutOfLimitCount + 1 at hraised
    omega
  · intro h
    have hfilter := (onReading_of_not_drops h).2
    exact ⟨congrArg Outliers.last hfilter, congrArg Outliers.count hfilter⟩

theorem not_accepts_iff : ¬ s.Accepts r ↔ s.Drops r.2 := by
  rw [accepts_iff, not_not]

/-! ## Runs -/

variable {readings pre dropped : List (WeightResponse × ℚ)}

theorem run_filter (s : Scale) (readings : List (WeightResponse × ℚ)) :
    (run onReading s readings).filter =
      run (Outliers.step FarWeight weightGlitchEscapeCount) s.filter (readings.map Prod.snd) :=
  run_view onReading_filter s readings

theorem after_append (readings later : List (WeightResponse × ℚ)) :
    after (readings ++ later) = run onReading (after readings) later := by
  unfold after
  rw [run_append]

theorem after_snoc (readings : List (WeightResponse × ℚ)) (r : WeightResponse × ℚ) :
    after (readings ++ [r]) = (after readings).onReading r := after_append readings [r]

/-- Readings that are all dropped, as the outlier filter sees them. -/
theorem allSteps_drops_iff (s : Scale) (dropped : List (WeightResponse × ℚ)) :
    AllSteps onReading (fun s r => ¬ s.Accepts r) s dropped ↔
      AllSteps (Outliers.step FarWeight weightGlitchEscapeCount)
        (Outliers.Rejects FarWeight weightGlitchEscapeCount) s.filter (dropped.map Prod.snd) := by
  rw [← AllSteps.view_iff onReading_filter]
  exact ⟨AllSteps.imp fun _ _ => not_accepts_iff.mp, AllSteps.imp fun _ _ => not_accepts_iff.mpr⟩

/-- The count of a client never passes four. -/
theorem count_le (readings : List (WeightResponse × ℚ)) :
    (after readings).weightOutOfLimitCount ≤ weightGlitchEscapeCount := by
  have hfilter := run_filter {} readings
  show (after readings).filter.count ≤ weightGlitchEscapeCount
  unfold after
  rw [hfilter]
  exact Outliers.count_le (Nat.zero_le _) _

/-- The filter right after an accepted reading. -/
theorem filter_of_accepts {a : WeightResponse × ℚ} (h : (after pre).Accepts a) :
    (after (pre ++ [a])).filter = { last := some a.2, count := 0 } := by
  rw [after_snoc]
  exact (onReading_of_not_drops (accepts_iff.mp h)).2

/-- **`_last_accepted_weight` is the last accepted reading.** -/
theorem lastAcceptedWeight_iff (readings : List (WeightResponse × ℚ)) (last : ℚ) :
    (after readings).lastAcceptedWeight = some last ↔ LastAccepted readings last := by
  constructor
  · induction readings using List.reverseRecOn with
    | nil => exact fun h => absurd h (by simp [after, run])
    | append_singleton readings r ih =>
      intro h
      rw [after_snoc] at h
      by_cases hr : (after readings).Accepts r
      · refine ⟨readings, r, [], rfl, hr, trivial, ?_⟩
        exact Option.some.inj (h.symm.trans hr.1)
      · have hdrops := not_accepts_iff.mp hr
        have hsame := congrArg Outliers.last (onReading_of_drops hdrops).2
        change ((after readings).onReading r).lastAcceptedWeight = (after readings).lastAcceptedWeight
          at hsame
        obtain ⟨pre, a, dropped, rfl, ha, hdropped, hlast⟩ := ih (hsame.symm.trans h)
        refine ⟨pre, a, dropped ++ [r], by simp, ha, ?_, hlast⟩
        refine AllSteps.append_iff.mpr ⟨hdropped, ?_, trivial⟩
        rwa [← after_append, List.append_assoc]
  · rintro ⟨pre, a, dropped, rfl, ha, hdropped, rfl⟩
    have hrejects := (allSteps_drops_iff _ dropped).mp hdropped
    rw [filter_of_accepts ha] at hrejects
    have hrun := run_filter (after (pre ++ [a])) dropped
    rw [filter_of_accepts ha, Outliers.run_rejects hrejects, ← after_append, List.append_assoc] at hrun
    exact congrArg Outliers.last hrun

section
variable {pre dropped outliers five : List (WeightResponse × ℚ)} {a b : WeightResponse × ℚ}

/-- What is shown is the newest reading or the last accepted one. -/
theorem shows_newest_or_accepted (readings : List (WeightResponse × ℚ)) (r : WeightResponse × ℚ) :
    (after (readings ++ [r])).weight = r.2 ∨
      LastAccepted readings (after (readings ++ [r])).weight := by
  rw [after_snoc]
  by_cases h : (after readings).Drops r.2
  · right
    exact (lastAcceptedWeight_iff _ _).mp (onReading_of_drops h).1
  · left
    exact (onReading_of_not_drops h).1

/-- **A jump has its price**: four readings were dropped before it. -/
theorem length_dropped_of_jump (ha : (after pre).Accepts a)
    (hdropped : AllSteps onReading (fun s r => ¬ s.Accepts r) (after (pre ++ [a])) dropped)
    (hb : (after (pre ++ a :: dropped)).Accepts b) (hfar : 300 < |b.2 - a.2|) :
    dropped.length = 4 := by
  have hrejects := (allSteps_drops_iff _ dropped).mp hdropped
  have hrun := run_filter (after (pre ++ [a])) dropped
  rw [filter_of_accepts ha] at hrejects hrun
  have hafter : after (pre ++ a :: dropped) = run onReading (after (pre ++ [a])) dropped := by
    rw [← after_append, List.append_assoc, List.singleton_append]
  have hnot : ¬ (after (pre ++ a :: dropped)).filter.Rejects FarWeight weightGlitchEscapeCount b.2 :=
    accepts_iff.mp hb
  rw [hafter, hrun] at hnot
  have hlength := Outliers.length_eq_limit_of_jump hrejects hnot hfar
  rwa [List.length_map] at hlength

/-- **A short burst is dropped whole.** -/
theorem burst_dropped
    (hmaximal : pre = [] ∨ ∃ before r, pre = before ++ [r] ∧ ¬ (after before).OutOfLimit r)
    (hout : AllSteps onReading OutOfLimit (after pre) outliers) (hlength : outliers.length ≤ 4) :
    AllSteps onReading (fun s r => ¬ s.Accepts r ∧ s.lastAcceptedWeight = some (s.onReading r).weight)
      (after pre) outliers := by
  -- the reading before them was accepted, so nothing is counted yet
  have hzero : (after pre).weightOutOfLimitCount = 0 := by
    rcases hmaximal with rfl | ⟨before, r, rfl, hr⟩
    · rfl
    · have haccepts : (after before).Accepts r := accepts_iff.mpr fun hdrops => hr hdrops.1
      rw [after_snoc]
      exact haccepts.2
  have hfar : AllSteps (Outliers.step FarWeight weightGlitchEscapeCount) (Outliers.Far FarWeight)
      (after pre).filter (outliers.map Prod.snd) :=
    (AllSteps.view_iff onReading_filter _ _).mp hout
  have hle : (after pre).filter.count + (outliers.map Prod.snd).length ≤ weightGlitchEscapeCount := by
    show (after pre).weightOutOfLimitCount + (outliers.map Prod.snd).length ≤ 4
    rw [hzero, List.length_map]
    omega
  have hdropped := (allSteps_drops_iff _ outliers).mpr (Outliers.rejects_of_far hle hfar)
  exact hdropped.imp fun s r h => ⟨h, (onReading_of_drops (not_accepts_iff.mp h)).1⟩

/-- **The filter never gets stuck**: of five readings one is accepted. -/
theorem exists_accepted_of_five (hfive : five.length = 5) :
    ∃ before r behind, five = before ++ r :: behind ∧ (after (pre ++ before)).Accepts r := by
  have hcount := count_le pre
  have hnot : ¬ AllSteps onReading (fun s r => ¬ s.Accepts r) (after pre) five := by
    intro hall
    have hle := Outliers.count_add_length_le hcount ((allSteps_drops_iff _ five).mp hall)
    rw [List.length_map, hfive] at hle
    change (after pre).weightOutOfLimitCount + 5 ≤ 4 at hle
    omega
  obtain ⟨before, r, behind, rfl, _, hr⟩ := AllSteps.exists_first hnot
  refine ⟨before, r, behind, rfl, ?_⟩
  rw [after_append]
  exact not_not.mp hr

end

/-- **The scale filter stops glitches and never gets stuck**, for every sequence of readings on the two
commands:

* the client's last accepted weight is the last reading it accepted;
* what is shown is the newest reading or the last accepted one;
* the counter stays within four;
* an accepted reading more than 300 away from the one accepted before it has exactly four dropped
  readings before it;
* of at most four readings in a row that are out of the limit, where the reading before them was not,
  none is taken, and the last accepted one is shown throughout;
* of five readings in a row at least one is accepted. -/
theorem filterWeight_stops_glitches :
    (∀ readings last, (after readings).lastAcceptedWeight = some last ↔ LastAccepted readings last) ∧
      (∀ readings r, (after (readings ++ [r])).weight = r.2 ∨
        LastAccepted readings (after (readings ++ [r])).weight) ∧
      (∀ readings, (after readings).weightOutOfLimitCount ≤ 4) ∧
      (∀ pre a dropped b, (after pre).Accepts a →
        AllSteps onReading (fun s r => ¬ s.Accepts r) (after (pre ++ [a])) dropped →
        (after (pre ++ a :: dropped)).Accepts b → 300 < |b.2 - a.2| → dropped.length = 4) ∧
      (∀ pre outliers,
        (pre = [] ∨ ∃ before r, pre = before ++ [r] ∧ ¬ (after before).OutOfLimit r) →
        AllSteps onReading OutOfLimit (after pre) outliers → outliers.length ≤ 4 →
        AllSteps onReading
          (fun s r => ¬ s.Accepts r ∧ s.lastAcceptedWeight = some (s.onReading r).weight)
          (after pre) outliers) ∧
      ∀ pre five, five.length = 5 →
        ∃ before r behind, five = before ++ r :: behind ∧ (after (pre ++ before)).Accepts r := by
  refine ⟨lastAcceptedWeight_iff, shows_newest_or_accepted, count_le, ?_, ?_, ?_⟩
  · exact fun pre a dropped b ha hdropped hb hfar => length_dropped_of_jump ha hdropped hb hfar
  · exact fun pre outliers hmaximal hout hlength => burst_dropped hmaximal hout hlength
  · exact fun pre five hfive => exists_accepted_of_five hfive

end Scale

end XBloom.Telemetry
