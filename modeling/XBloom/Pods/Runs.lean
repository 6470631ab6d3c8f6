/-
# XBloom.Pods.Runs — the pod library over any interleaving of scans, retries and deletions

Every segment of a call accounts for itself, so at every moment of every run the library is what its
history makes it: `library_tells_history`.  What the panel is shown is then the pods held, the last
scanned first (`listing_newest_first`), since the clock's texts sort as its times.

The file follows the library: when no call waits for its save, they are the same
(`library_stored`).  And a scan fires `pod_detected` once, with what its lookup brought, however the
lookup and the recording went (`scan_fires_once`).
-/
import XBloom.Async.Locks
import XBloom.Async.Logic
import XBloom.Async.Protocols
import XBloom.Pods.Passes
import Mathlib.Data.List.Pairwise

namespace XBloom.Pods

open XBloom.Py XBloom.Cloud XBloom.Async XBloom.Logic

/-! ## Listings -/

/-- When a pod was last scanned, of the scans that count. -/
def lastScan (xid : String) (events : List PodEvent) : ℕ :=
  ((scanTimes (factsOf xid events)).getLast?.map Stamp.rank).getD 0

/-- **A listing of a history**: each pod it holds once, as it tells of it, the last scanned first. -/
structure Listing (events : List PodEvent) (l : List Entries) (xids : List String) : Prop where
  nodup : xids.Nodup
  held : ∀ xid, xid ∈ xids ↔ expectedPod xid (factsOf xid events) ≠ none
  entries : l.map (fun entry => some (answers entry)) =
    xids.map fun xid => expectedPod xid (factsOf xid events)
  newest : xids.Pairwise fun x y => lastScan y events ≤ lastScan x events

section
variable {events : List PodEvent} {pods : Dict String Entries} {xid : String} {entry : Entries}

/-- The text an entry is sorted by is the time of the pod's last scan. -/
theorem lastScanned_eq (h : Holds xid (factsOf xid events) (some entry)) :
    ∃ last : Stamp, lastScanned entry = last.isoformat ∧ lastScan xid events = last.rank := by
  obtain ⟨first, last, _, hlast, ha⟩ := expectedPod_eq_some h.symm
  have hanswer : entry.lookup "last_scanned" = some (.str last.isoformat) := congrFun ha "last_scanned"
  refine ⟨last, ?_, ?_⟩
  · rw [lastScanned, hanswer]
  · rw [lastScan, hlast]
    rfl

/-- **What the panel is shown.** -/
theorem listPods_listing (h : Described events pods) : ∃ xids, Listing events (listPods pods) xids := by
  let newer : String × Entries → String × Entries → Bool := fun p q =>
    decide (lastScanned q.2 ≤ lastScanned p.2)
  have hperm : (pods.entries.mergeSort newer).Perm pods.entries := List.mergeSort_perm _ _
  have hvalues : listPods pods = (pods.entries.mergeSort newer).map Prod.snd :=
    (List.map_mergeSort (f := Prod.snd) fun _ _ _ _ => rfl).symm
  have hentry : ∀ e ∈ pods.entries.mergeSort newer, Holds e.1 (factsOf e.1 events) (some e.2) := by
    intro e he
    have hget : pods.get? e.1 = some e.2 := Dict.get?_eq_some_iff.mpr (hperm.mem_iff.mp he)
    exact hget ▸ h e.1
  refine ⟨(pods.entries.mergeSort newer).map Prod.fst, ?_, fun xid => ?_, ?_, ?_⟩
  · exact (hperm.map Prod.fst).nodup_iff.mpr pods.nodup
  · rw [(hperm.map Prod.fst).mem_iff, ← h xid, Ne, Option.map_eq_none_iff, ← Ne,
      Option.ne_none_iff_exists']
    exact Dict.mem_keys_iff
  · rw [hvalues, List.map_map, List.map_map]
    exact List.map_congr_left fun e he => hentry e he
  · rw [List.pairwise_map]
    have hsorted : (pods.entries.mergeSort newer).Pairwise fun p q => newer p q = true :=
      List.pairwise_mergeSort
        (fun a b c hab hbc => by
          simp only [newer, decide_eq_true_eq] at hab hbc ⊢
          exact le_trans hbc hab)
        (fun a b => by
          simp only [newer, Bool.or_eq_true, decide_eq_true_eq]
          exact le_total _ _) _
    refine hsorted.imp_of_mem fun {p q} hp hq hpq => ?_
    obtain ⟨last, htext, hscan⟩ := lastScanned_eq (hentry p hp)
    obtain ⟨last', htext', hscan'⟩ := lastScanned_eq (hentry q hq)
    simp only [newer, decide_eq_true_eq] at hpq
    rw [htext, htext', ← not_lt, Stamp.isoformat_lt_iff, not_lt] at hpq
    rw [hscan, hscan']
    exact hpq

end

/-! ## Steps -/

variable {T : Texts} {p : PodPool} {events : List PodEvent}

/-- The events of a trace. -/
def eventsOf (tr : Trace PodCall PodEvent) : List PodEvent := tr.map Entry.event

theorem eventsOf_mark (tr : Trace PodCall PodEvent) (t : ℕ) (c : PodCall) (es : List PodEvent) :
    eventsOf (tr ++ mark t c es) = eventsOf tr ++ es := by
  unfold eventsOf mark
  rw [List.map_append, List.map_map]
  exact congrArg _ (List.map_id es)

theorem program_passes (c : PodCall) (w : PodWorld) :
    ((podSystem T).program c).AllSegments WaitsWell EndsWell (.start none w) :=
  (routine_passes c).allSegments (untouched_start none w)

/-- A library and what was made of it so far, after some events. -/
structure Chronicle (events : List PodEvent) (p : PodPool) : Prop where
  segments : PoolPasses WaitsWell EndsWell p
  library : Described (events ++ eventsOf p.trace) p.world.pods
  listings : EachFinds (fun past e => ∀ l, e.event = .replied (.pods l) →
    ∃ xids, Listing (events ++ eventsOf past) l xids) p.trace

/-- How the segment of a step ends. -/
theorem segment_ends {a : PodAction} {turn : Turn PodWorld PodEvent PodPoint PodAnswer PodCall}
    (h : StepPasses WaitsWell EndsWell (podSystem T) p a) (hturn : p.turn (podSystem T) a = some turn) :
    Accounts (p.passage (podSystem T) a turn) ∨ Lists (p.passage (podSystem T) a turn) := by
  cases htask : (p.step (podSystem T) a).tasks turn.task with
  | some τ => exact Or.inl ((h turn hturn).1 τ htask).1
  | none => exact ((h turn hturn).2 htask).imp_left And.left

/-- **A step of the pool is a step of the chronicle.** -/
theorem Chronicle.step (h : Chronicle events p) (a : PodAction) :
    Chronicle events (p.step (podSystem T) a) := by
  obtain ⟨hsegments, hpasses⟩ := h.segments.step (fun c w => program_passes c w) a
  cases hturn : p.turn (podSystem T) a with
  | none =>
    have htrace := (Pool.step_of_no_turn hturn).1
    have hpods : (p.step (podSystem T) a).world.pods = p.world.pods := by
      rcases Pool.world_of_no_turn hturn with ⟨m, _, hworld⟩ | hworld
      · rw [hworld]
        cases m <;> rfl
      · rw [hworld]
    refine ⟨hsegments, ?_, ?_⟩
    · rw [htrace, hpods]
      exact h.library
    · rw [htrace]
      exact h.listings
  | some turn =>
    have htrace := (Pool.step_of_turn hturn).2.1
    rw [← Pool.emitted_of_turn hturn] at htrace
    rcases segment_ends hpasses hturn with haccounts | hlists
    · refine ⟨hsegments, ?_, ?_⟩
      · rw [htrace, eventsOf_mark, ← List.append_assoc]
        exact haccounts.library _ h.library
      · rw [htrace]
        refine h.listings.append (emits_of_mem (fun e he past l hl => ?_) _)
        have hevent : e = .replied (.pods l) := hl
        exact absurd (hevent ▸ he) (haccounts.unlisted l)
    · have hworld : (p.step (podSystem T) a).world = p.world := hlists.world
      have hevents : p.emitted (podSystem T) a = [.replied (.pods (listPods p.world.pods))] :=
        hlists.events
      refine ⟨hsegments, ?_, ?_⟩
      · rw [htrace, hevents, eventsOf_mark, hworld, ← List.append_assoc]
        exact h.library.aside fun _ => rfl
      · rw [htrace, hevents]
        refine h.listings.append ⟨fun l hl => ?_, trivial⟩
        rw [← PodReply.pods.inj (PodEvent.replied.inj hl)]
        exact listPods_listing h.library

theorem chronicle_run {w : PodWorld} (h : Described events w.pods) (as : List PodAction) :
    Chronicle events (run (Pool.step (podSystem T)) (Pool.idle w) as) := by
  refine run_preserves (fun _ a h => h.step a) ⟨poolPasses_idle w, ?_, eachFinds_nil⟩ as
  exact (List.append_nil events).symm ▸ h

/-! ## Runs -/

/-- **The library is what its history makes it**, at every moment of every run. -/
theorem library_tells_history {w : PodWorld} (h : Described events w.pods) (as : List PodAction)
    (xid : String) :
    ((run (Pool.step (podSystem T)) (Pool.idle w) as).world.pods.get? xid).map answers =
      expectedPod xid (factsOf xid
        (events ++ eventsOf (run (Pool.step (podSystem T)) (Pool.idle w) as).trace)) :=
  (chronicle_run h as).library xid

/-- Half past eight. -/
def halfPastEight : Stamp := ⟨2026, 10, 15, 8, 30, 0, 0, by decide, by decide, by decide, by decide,
  by decide, by decide, by decide⟩

/-- A card that was scanned once, when the cloud could not be reached. -/
def cardScanned : Dict String Entries :=
  Dict.empty.insert "KR0005" [("xid", .str "KR0005"), ("first_scanned", .str halfPastEight.isoformat),
    ("last_scanned", .str halfPastEight.isoformat), ("scans", .int 1)]

theorem cardScanned_described : Described [.scanned "KR0005" [] halfPastEight] cardScanned := by
  have hnew : Described [] (Dict.empty : Dict String Entries) := fun _ => rfl
  obtain ⟨pod, hpod, hdescribed⟩ :=
    hnew.scanned plainTexts "KR0005" plain_nil halfPastEight
  cases hpod
  exact hdescribed

/-- A second scan of the card, while the panel forgets it. -/
def scanWhileForgetting : List PodAction :=
  [.spawn (.detected "KR0005"), .spawn (.delete "KR0005"), .resume 0 .failed, .move .writes,
    .resume 0 .finished, .resume 1 .finished, .spawn .pods]

/-- What it leads to. -/
def scannedAgain : PodPool :=
  run (Pool.step (podSystem plainTexts)) (Pool.idle ⟨cardScanned, cardScanned, false, halfPastEight⟩)
    scanWhileForgetting

theorem card_scanned_again : (scannedAgain.world.pods.get? "KR0005").map answers =
    expectedPod "KR0005" (factsOf "KR0005"
      ([.scanned "KR0005" [] halfPastEight] ++ eventsOf scannedAgain.trace)) :=
  library_tells_history cardScanned_described scanWhileForgetting "KR0005"

/-- **The panel is shown the pods held, the last scanned first**, whenever it asks. -/
theorem listing_newest_first {w : PodWorld} (h : Described events w.pods) (as : List PodAction)
    {past later : Trace PodCall PodEvent} {e : Entry PodCall PodEvent} {l : List Entries}
    (htrace : (run (Pool.step (podSystem T)) (Pool.idle w) as).trace = past ++ e :: later)
    (hlists : e.event = .replied (.pods l)) :
    ∃ xids, Listing (events ++ eventsOf past) l xids :=
  (chronicle_run h as).listings past e later htrace l hlists

theorem card_listed : ∃ xids, Listing
    ([.scanned "KR0005" [] halfPastEight] ++ eventsOf scannedAgain.trace.dropLast)
    (listPods scannedAgain.world.pods) xids := by
  have htrace : scannedAgain.trace = scannedAgain.trace.dropLast ++
      ⟨2, .pods, .replied (.pods (listPods scannedAgain.world.pods))⟩ :: [] := rfl
  exact listing_newest_first cardScanned_described scanWhileForgetting htrace rfl

/-! ## The file -/

/-- The file is the library, or a call waits for a save that is outstanding. -/
structure Backed (p : PodPool) : Prop where
  numbered : Numbered p
  segments : PoolPasses WaitsWell EndsWell p
  stored : p.world.unsaved = false → p.world.stored = p.world.pods
  saving : p.world.unsaved = true → ∃ t, p.At t .saving

/-- The write to the file does not fail. -/
def Written : PodAction → Prop
  | .move .writeFails => False
  | _ => True

instance (a : PodAction) : Decidable (Written a) := by
  unfold Written
  split <;> infer_instance

/-- A segment that changes something else waits on for its save. -/
theorem Backed.leaves {a : PodAction} {turn : Turn PodWorld PodEvent PodPoint PodAnswer PodCall}
    (h : Backed p) (hsegments : PoolPasses WaitsWell EndsWell (p.step (podSystem T) a))
    (hleaves : LeavesFile (p.passage (podSystem T) a turn)) : Backed (p.step (podSystem T) a) := by
  have hunsaved : (p.step (podSystem T) a).world.unsaved = p.world.unsaved := hleaves.unsaved
  refine ⟨h.numbered.step a, hsegments, fun hsaved => ?_, fun hdirty => ?_⟩
  · exact hleaves.stored.trans ((h.stored (hunsaved ▸ hsaved)).trans hleaves.pods.symm)
  · rw [hunsaved] at hdirty
    obtain ⟨t, hat⟩ := h.saving hdirty
    refine ⟨t, Pool.at_of_other hat fun turn' hturn' => ?_⟩
    -- the one that waits for its save is not resumed before the file is written
    rintro rfl
    obtain ⟨r, hresumed, _⟩ := Pool.resumed_of_at h.numbered hturn' hat
    have henabled : (!p.world.unsaved) = true := Pool.turn_enabled hturn' hresumed
    rw [hdirty] at henabled
    cases henabled

theorem Backed.step (h : Backed p) {a : PodAction} (ha : Written a) :
    Backed (p.step (podSystem T) a) := by
  obtain ⟨hsegments, hpasses⟩ := h.segments.step (fun c w => program_passes (T := T) c w) a
  cases hturn : p.turn (podSystem T) a with
  | none =>
    have htasks := (Pool.step_of_no_turn hturn).2
    have hat : ∀ t, (p.step (podSystem T) a).At t .saving ↔ p.At t .saving := fun t => by
      unfold Pool.At
      rw [htasks]
    refine ⟨h.numbered.step a, hsegments, ?_, ?_⟩
    · rcases Pool.world_of_no_turn hturn with ⟨m, rfl, hworld⟩ | hworld
      · rw [hworld]
        cases m with
        | writes => exact fun _ => rfl
        | writeFails => exact absurd ha id
        | tick now => exact h.stored
      · rw [hworld]
        exact h.stored
    · simp only [hat]
      rcases Pool.world_of_no_turn hturn with ⟨m, rfl, hworld⟩ | hworld
      · rw [hworld]
        cases m with
        | writes => exact fun hdirty => by cases hdirty
        | writeFails => exact absurd ha id
        | tick now => exact h.saving
      · rw [hworld]
        exact h.saving
  | some turn =>
    cases htask : (p.step (podSystem T) a).tasks turn.task with
    | some τ =>
      rcases ((hpasses turn hturn).1 τ htask).2 with hleaves | ⟨hdirty, hsaving⟩
      · exact h.leaves hsegments hleaves
      · refine ⟨h.numbered.step a, hsegments, fun hsaved => ?_, fun _ => ⟨_, τ, htask, hsaving⟩⟩
        have hboth : true = false := hdirty.symm.trans hsaved
        cases hboth
    | none =>
      rcases (hpasses turn hturn).2 htask with ⟨_, hleaves⟩ | hlists
      · exact h.leaves hsegments hleaves
      · exact h.leaves hsegments (.of_world hlists.world)

/-- **Once no call waits for its save, the file holds the library**, and so does whatever reads it
back. -/
theorem library_stored {w : PodWorld} (hstored : w.stored = w.pods) (hsaved : w.unsaved = false)
    {as : List PodAction} (has : ∀ a ∈ as, Written a)
    (hsettled : ∀ t, ¬ (run (Pool.step (podSystem T)) (Pool.idle w) as).At t .saving) :
    (run (Pool.step (podSystem T)) (Pool.idle w) as).world.stored =
      (run (Pool.step (podSystem T)) (Pool.idle w) as).world.pods := by
  have hidle : Backed (Pool.idle w : PodPool) := by
    refine ⟨numbered_idle w, poolPasses_idle w, fun _ => hstored, fun hdirty => ?_⟩
    have hboth : true = false := hdirty.symm.trans hsaved
    cases hboth
  have hbacked : Backed (run (Pool.step (podSystem T)) (Pool.idle w) as) :=
    run_invariant (fun _ _ h ha => h.step ha) hidle (AllSteps.of_forall has)
  refine hbacked.stored (Bool.eq_false_iff.mpr fun hdirty => ?_)
  obtain ⟨t, hat⟩ := hbacked.saving hdirty
  exact hsettled t hat

theorem card_stored : scannedAgain.world.stored = scannedAgain.world.pods := by
  have hover : ∀ t, scannedAgain.tasks t = none := by
    intro t
    rcases t with _ | _ | _ | t
    · rfl
    · rfl
    · rfl
    · rfl
  have hwritten : ∀ a ∈ scanWhileForgetting, Written a := by
    unfold scanWhileForgetting
    simp [Written]
  refine library_stored rfl rfl hwritten fun t hat => ?_
  obtain ⟨τ, hτ, _⟩ := hat
  cases (hover t).symm.trans hτ

/-! ## Scans -/

/-- How far a scan has come. -/
inductive ScanPhase where
  | looking
  | found (detail : Entries)
  | fired (detail : Entries)

open Classical in
/-- What a scan may say: what its lookup brought, then `pod_detected` with just that. -/
noncomputable def scanTalk (xid : String) : Protocol ScanPhase PodEvent
  | .looking, .scanned x detail _ => if x = xid then some (.found detail) else none
  | .found detail, .podDetected attributes =>
    if attributes = detail ++ [("xid", .str xid)] then some (.fired detail) else none
  | _, _ => none

/-- What a call may say; only of a scan is anything asked. -/
noncomputable def PodCall.talk : PodCall → Protocol ScanPhase PodEvent
  | .detected xid => scanTalk xid
  | _ => fun s _ => some s

/-- How a call ends: a scan has fired. -/
def PodCall.ended : PodCall → ScanPhase → Prop
  | .detected _, s => ∃ detail, s = .fired detail
  | _, _ => True

section
variable {xid : String} {detail : Entries}

/-- Nothing is said. -/
def silence : Footprint PodWorld PodEvent PodPoint := ⟨fun _ => True, fun _ => False, fun _ _ => True⟩

theorem asyncSave_silent : Within silence asyncSave := by
  refine .bind (.assign fun _ => trivial) fun _ => .bind (.await trivial) fun r => ?_
  cases r with
  | failed => exact .throw _
  | answered resp => exact .pure _
  | finished => exact .pure _

theorem asyncRecord_silent : Within silence (asyncRecord T xid detail) :=
  .world fun _ => .bind (.lift _) fun _ => .bind (.assign fun _ => trivial) fun _ => asyncSave_silent

/-- A routine that says nothing stays in its phase. -/
theorem silent_talks {α : Type} {δ : Protocol ScanPhase PodEvent} {A : ScanPhase → Prop}
    {x : PodRoutine α} (hx : Within silence x) :
    Says δ (fun s _ => A s) x (fun _ s _ => A s) fun _ s _ => A s :=
  hx.talks fun _ _ _ hemits => False.elim hemits

/-- A lookup says nothing, and never raises. -/
theorem asyncLookupPod_talks {δ : Protocol ScanPhase PodEvent} {A : ScanPhase → Prop}
    {X : PyErr → ScanPhase → PodWorld → Prop} :
    Says δ (fun s _ => A s) (asyncLookupPod T xid) (fun _ s _ => A s) X := by
  refine .bind (Q := fun _ s _ => A s) (.await fun s w h r w' => h) fun r => ?_
  cases r with
  | failed => exact .pure fun _ _ h => h
  | finished => exact .pure fun _ _ h => h
  | answered resp =>
    dsimp only
    split
    · exact .pure fun _ _ h => h
    · exact .pure fun _ _ h => h

/-- **A scan fires with what its lookup brought**, whether or not it could be recorded. -/
theorem enrichAndDispatch_talks :
    Says (scanTalk xid) (fun s _ => s = .looking) (enrichAndDispatch T xid)
      (fun _ s _ => ∃ detail, s = .fired detail) fun _ s _ => ∃ detail, s = .fired detail := by
  refine .bind asyncLookupPod_talks fun detail => .world fun w => ?_
  refine .bind (Q := fun _ s _ => s = .found detail) (.emit ?_) fun _ => ?_
  · rintro s w' ⟨rfl, _⟩
    exact ⟨.found detail, if_pos rfl, rfl⟩
  · refine .bind (Q := fun _ s _ => s = .found detail) (.attempt (silent_talks asyncRecord_silent))
      fun _ => .emit ?_
    rintro s w' rfl
    exact ⟨.fired detail, if_pos rfl, detail, rfl⟩

theorem program_talks (c : PodCall) (w : PodWorld) :
    ((podSystem T).program c).Speaks c.talk (fun _ s _ => c.ended s) .looking w := by
  cases c with
  | detected xid =>
    show ((enrichAndDispatch T xid).run.bind _).Speaks (scanTalk xid) _ .looking w
    rw [Co.speaks_bind]
    refine (enrichAndDispatch_talks .looking w rfl).mono fun r s w h => ?_
    cases r with
    | ok a => exact h
    | error e => exact h
  | pods => exact (Co.speaks_free _).mono fun _ _ _ _ => trivial
  | refresh xid => exact (Co.speaks_free _).mono fun _ _ _ _ => trivial
  | delete xid => exact (Co.speaks_free _).mono fun _ _ _ _ => trivial

/-- What was said on the way to a phase. -/
def ScanPhase.said (xid : String) (said : List PodEvent) : ScanPhase → Prop
  | .looking => said = []
  | .found detail => ∃ now, said = [.scanned xid detail now]
  | .fired detail =>
    ∃ now, said = [.scanned xid detail now, .podDetected (detail ++ [("xid", .str xid)])]

theorem scanTalk_said {said : List PodEvent} {s : ScanPhase}
    (h : (scanTalk xid).after .looking said = some s) : s.said xid said := by
  refine Protocol.after_tells (I := fun said s => s.said xid said) rfl (fun said now e next hnow hnext => ?_)
    said h
  cases now with
  | looking =>
    cases e with
    | scanned x detail now =>
      have hif : (if x = xid then some (ScanPhase.found detail) else none) = some next := hnext
      split at hif
      · rename_i hx
        cases hif
        have hempty : said = [] := hnow
        exact ⟨now, by rw [hempty, hx]; rfl⟩
      · cases hif
    | retried x detail => cases hnext
    | forgets x => cases hnext
    | podDetected attributes => cases hnext
    | replied reply => cases hnext
  | found detail =>
    cases e with
    | podDetected attributes =>
      classical
      have hif : (if attributes = detail ++ [("xid", .str xid)] then some (ScanPhase.fired detail)
          else none) = some next := by
        rw [← hnext]
        unfold scanTalk
        congr
      split at hif
      · rename_i hattributes
        cases hif
        obtain ⟨now, hsaid⟩ := hnow
        exact ⟨now, by rw [hsaid, hattributes]; rfl⟩
      · cases hif
    | scanned x detail now => cases hnext
    | retried x detail => cases hnext
    | forgets x => cases hnext
    | replied reply => cases hnext
  | fired detail => cases e <;> cases hnext

end

/-- **A scan fires `pod_detected` once**, with what its lookup brought: at no time has it said more, and
when it is over, however the lookup and the recording went, it has said just that. -/
theorem scan_fires_once (w : PodWorld) (as : List PodAction) {t : ℕ} {xid : String}
    (hscan : (calls as)[t]? = some (.detected xid)) :
    ∃ detail now,
      saidBy t (run (Pool.step (podSystem T)) (Pool.idle w) as).trace <+:
        [.scanned xid detail now, .podDetected (detail ++ [("xid", .str xid)])] ∧
      ((run (Pool.step (podSystem T)) (Pool.idle w) as).tasks t = none →
        saidBy t (run (Pool.step (podSystem T)) (Pool.idle w) as).trace =
          [.scanned xid detail now, .podDetected (detail ++ [("xid", .str xid)])]) := by
  obtain ⟨s, hs, hended⟩ := call_kept program_talks w as hscan
  have hsaid := scanTalk_said hs
  cases s with
  | looking =>
    have hempty : saidBy t (run (Pool.step (podSystem T)) (Pool.idle w) as).trace = [] := hsaid
    refine ⟨[], w.now, hempty ▸ List.nil_prefix, fun hover => ?_⟩
    obtain ⟨_, hfired⟩ := hended hover
    cases hfired
  | found detail =>
    obtain ⟨now, hfound⟩ := hsaid
    refine ⟨detail, now, hfound ▸ List.prefix_append _ _, fun hover => ?_⟩
    obtain ⟨_, hfired⟩ := hended hover
    cases hfired
  | fired detail =>
    obtain ⟨now, hfired⟩ := hsaid
    exact ⟨detail, now, hfired ▸ List.prefix_refl _, fun _ => hfired⟩

theorem card_fired_once : ∃ detail now,
    saidBy 0 scannedAgain.trace <+:
      [.scanned "KR0005" detail now, .podDetected (detail ++ [("xid", .str "KR0005")])] ∧
    (scannedAgain.tasks 0 = none → saidBy 0 scannedAgain.trace =
      [.scanned "KR0005" detail now, .podDetected (detail ++ [("xid", .str "KR0005")])]) :=
  scan_fires_once _ scanWhileForgetting rfl

end XBloom.Pods
