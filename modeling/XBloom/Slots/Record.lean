/-
# XBloom.Slots.Record — whether the slot record tells the truth

The record names a recipe by its uid for each slot the user has written.  A write of another slot sends
that slot again, with what the uid resolves to by then, and leaves its entry alone.  So after a write
that succeeds the record is true of a slot if the uid still is that of the recipe it resolves to
(`FillsTruly`); it is not if the recipe was deleted, for then the target's is sent, or if the entry has
no uid.
-/
import XBloom.Cloud.Reimport
import XBloom.Recipe.Tombstones
import XBloom.Slots.Course

namespace XBloom.Slots

open XBloom.Async XBloom.Logic XBloom.Py XBloom.Ble XBloom.Recipe XBloom.Brewing XBloom.Cloud

/-! ## The property -/

/-- A slot packet was built from the recipe an entry names. -/
def BuiltFrom (x : SlotWrite) (entry : SlotEntry) : Prop :=
  slotPayload x.letter x.source.recipe = .ok x.payload ∧ entry.Names x.source.raw

/-- **The record tells the truth** after a write of `slotLetter` over `record`: it changes in that letter's
entry only, and not at all if the write fails; and when it succeeds, the last packet for each letter
with an entry was built from the recipe the entry names. -/
structure RecordTrue (slotLetter : String) (record : Dict String SlotEntry)
    (result : Except PyErr SlotResult) (σ : Tale) : Prop where
  failed : ¬ Succeeds result → σ.world.easySlots = record
  others : ∀ key, (∀ l, Letter.parse slotLetter = some l → key ≠ l.name) →
    σ.world.easySlots.get? key = record.get? key
  told : Succeeds result → ∀ l entry, σ.world.easySlotContents l = some entry →
    ∃ x, lastWrite σ l = some x ∧ BuiltFrom x entry

variable (I : Identifiers) (yaml : YamlLayer)

/-- The record tells the truth after an act. -/
def TellsTruth (w : World) : Act → Prop
  | .write slotLetter identifier replies =>
    RecordTrue slotLetter w.easySlots (w.write I yaml slotLetter identifier replies).1
      (w.write I yaml slotLetter identifier replies).2
  | _ => True

/-! ## Its condition -/

/-- The target has a uid, and every other entry of the record names the recipe that `find_recipe` finds for
it, or the target if it finds none. -/
def Filling.Truly (v : Filling) : Prop :=
  v.target.2.uid ≠ none ∧ ∀ l, l ≠ v.letter → ∀ entry ∈ v.world.easySlotContents l,
    entry.Names ((v.world.otherResolved I yaml l).getD v.target).2

instance (v : Filling) : Decidable (v.Truly I yaml) := inferInstanceAs (Decidable (_ ∧ _))

/-- When a write fills the slots in, every entry of the record names what is filled in. -/
def FillsTruly (w : World) : Act → Prop
  | .write slotLetter identifier replies =>
    ∀ v ∈ fillings (w.write I yaml slotLetter identifier replies).2, v.Truly I yaml
  | _ => True

instance (w : World) (a : Act) : Decidable (FillsTruly I yaml w a) := by
  cases a with
  | write slotLetter identifier replies =>
    exact List.decidableBAll (fun v : Filling => v.Truly I yaml) _
  | move m => exact .isTrue trivial
  | switchMode mode replies => exact .isTrue trivial

/-- An act that is not a write that fails. -/
def Completes (w : World) : Act → Prop
  | .write slotLetter identifier replies =>
    Succeeds (w.write I yaml slotLetter identifier replies).1
  | _ => True

variable {I yaml} {record : Dict String SlotEntry} {result : Except PyErr SlotResult} {σ : Tale}
  {v : Filling}

/-! ## One write -/

/-- Of a letter that was sent there is a last packet. -/
theorem lastWrite_of_sent {l : Letter} (h : Sent σ l) :
    ∃ x ∈ slotWrites σ, x.letter = l ∧ lastWrite σ l = some x := by
  obtain ⟨y, hy, hletter⟩ := h
  have hmem : y ∈ (slotWrites σ).filter fun x => decide (x.letter = l) :=
    List.mem_filter.mpr ⟨hy, decide_eq_true hletter⟩
  have hne := List.ne_nil_of_mem hmem
  have hlast := List.mem_filter.mp (List.getLast_mem hne)
  exact ⟨_, hlast.1, of_decide_eq_true hlast.2, List.getLast?_eq_some_getLast hne⟩

theorem slotTargets_self (w : World) (letter : Letter) (target : String × RecipeDict) :
    w.slotTargets I yaml letter target letter = target := if_pos rfl

theorem slotTargets_other (w : World) {letter l : Letter} (h : l ≠ letter)
    (target : String × RecipeDict) :
    w.slotTargets I yaml letter target l = (w.otherResolved I yaml l).getD target := if_neg h

/-- A write that succeeded changed the target's entry. -/
theorem Filled.easySlotContents (h : Filled I yaml record v result σ) (hsuccess : Succeeds result)
    (l : Letter) : σ.world.easySlotContents l =
      if l = v.letter then some ⟨v.target.2.uid, v.target.1⟩ else v.world.easySlotContents l := by
  obtain ⟨letter, name, uid, hresult⟩ := hsuccess
  unfold World.easySlotContents
  rw [(h.success letter name uid hresult).2, Dict.get?_insert, h.before]
  by_cases hl : l = v.letter
  · rw [if_pos hl, if_pos (congrArg Letter.name hl)]
  · rw [if_neg hl, if_neg fun hname => hl (Letter.name_injective hname)]

/-- The last packet for a letter, if all went out. -/
theorem Filled.lastWrite (h : Filled I yaml record v result σ) (hsuccess : Succeeds result)
    (l : Letter) : ∃ x, lastWrite σ l = some x ∧
      slotPayload x.letter x.source.recipe = .ok x.payload ∧
        x.source.raw = (v.world.slotTargets I yaml v.letter v.target l).2 := by
  obtain ⟨letter, name, uid, hresult⟩ := hsuccess
  obtain ⟨x, hx, hletter, hlast⟩ := lastWrite_of_sent ((h.success letter name uid hresult).1 l)
  obtain ⟨hraw, hpayload⟩ := h.sources x hx
  exact ⟨x, hlast, hpayload, hletter ▸ hraw⟩

/-- **After a write that succeeds the record is true exactly when** what was filled in was. -/
theorem Filled.told_iff (h : Filled I yaml record v result σ) (hsuccess : Succeeds result) :
    (∀ l entry, σ.world.easySlotContents l = some entry →
      ∃ x, Slots.lastWrite σ l = some x ∧ BuiltFrom x entry) ↔ v.Truly I yaml := by
  constructor
  · intro htold
    -- the last packet is that of the filled-in recipe
    have hnames : ∀ l entry, σ.world.easySlotContents l = some entry →
        entry.Names (v.world.slotTargets I yaml v.letter v.target l).2 := by
      intro l entry hentry
      obtain ⟨x, hx, _, hbuilt⟩ := htold l entry hentry
      obtain ⟨y, hy, _, hraw⟩ := h.lastWrite hsuccess l
      rw [hx] at hy
      cases hy
      exact hraw ▸ hbuilt
    refine ⟨?_, fun l hl entry hentry => ?_⟩
    · have htarget := hnames v.letter ⟨v.target.2.uid, v.target.1⟩
        (by rw [h.easySlotContents hsuccess, if_pos rfl])
      exact htarget.1
    · have hother := hnames l entry (by rw [h.easySlotContents hsuccess, if_neg hl, hentry])
      rw [slotTargets_other v.world hl] at hother
      exact hother
  · rintro ⟨htarget, hothers⟩ l entry hentry
    obtain ⟨x, hx, hpayload, hraw⟩ := h.lastWrite hsuccess l
    refine ⟨x, hx, hpayload, ?_⟩
    rw [h.easySlotContents hsuccess] at hentry
    rw [hraw]
    by_cases hl : l = v.letter
    · rw [if_pos hl] at hentry
      rw [hl, slotTargets_self, ← Option.some.inj hentry]
      exact ⟨htarget, rfl⟩
    · rw [if_neg hl] at hentry
      rw [slotTargets_other v.world hl]
      exact hothers l hl entry hentry

/-- **What is filled in is what the record names as long as the recipes are there**: a target with a uid,
and for every other entry a recipe that still has its uid. -/
theorem Filling.truly_of_kept (htarget : v.target.2.uid ≠ none)
    (hkept : ∀ l, l ≠ v.letter → ∀ entry ∈ v.world.easySlotContents l, ∃ uid name recipe,
      entry.uid = some uid ∧ strip uid = uid ∧ uid ≠ "" ∧
        (v.world.recipes yaml).get? name = some recipe ∧ recipe.uid = some uid) :
    v.Truly I yaml := by
  refine ⟨htarget, fun l hl entry hentry => ?_⟩
  obtain ⟨uid, name, recipe, huid, hstrip, hne, hget, hrecipe⟩ := hkept l hl entry hentry
  obtain ⟨e, hfind, hfound⟩ := findRecipe_has_uid I hget hrecipe hstrip hne
  have hresolved : v.world.otherResolved I yaml l = some e := by
    unfold World.otherResolved
    rw [hentry, Option.bind_some, huid]
    exact (if_neg hne).trans hfind
  rw [SlotEntry.Names, hresolved, huid]
  exact ⟨Option.some_ne_none uid, hfound⟩

/-- The record of a write that filled the slots in, whether it succeeded or not. -/
theorem Filled.others (h : Filled I yaml record v result σ) (key : String)
    (hkey : key ≠ v.letter.name) : σ.world.easySlots.get? key = record.get? key := by
  by_cases hsuccess : Succeeds result
  · obtain ⟨letter, name, uid, hresult⟩ := hsuccess
    rw [(h.success letter name uid hresult).2, Dict.get?_insert, if_neg hkey]
  · rw [h.failed hsuccess]

/-- **The record tells the truth after a write exactly when** it succeeds with what was filled in named,
or fails. -/
theorem recordTrue_iff {slotLetter : String} (h : Course I yaml slotLetter record result σ) :
    RecordTrue slotLetter record result σ ↔
      (Succeeds result → ∀ v ∈ fillings σ, v.Truly I yaml) := by
  rcases h with ⟨⟨hfillings, _, hrecord⟩, hnot⟩ | ⟨v, hparse, hfilled⟩
  · refine ⟨fun _ hsuccess => absurd hsuccess hnot, fun _ => ?_⟩
    exact ⟨fun _ => hrecord, fun key _ => by rw [hrecord], fun hsuccess => absurd hsuccess hnot⟩
  · have hothers : ∀ key, (∀ l, Letter.parse slotLetter = some l → key ≠ l.name) →
        σ.world.easySlots.get? key = record.get? key :=
      fun key hkey => hfilled.others key (hkey v.letter hparse)
    rw [hfilled.fillings]
    constructor
    · intro htrue hsuccess v' hv'
      rw [List.mem_singleton.mp hv']
      exact (hfilled.told_iff hsuccess).mp (htrue.told hsuccess)
    · intro htruly
      refine ⟨hfilled.failed, hothers, fun hsuccess => ?_⟩
      exact (hfilled.told_iff hsuccess).mpr (htruly hsuccess v (List.mem_singleton_self v))

/-- One act. -/
theorem tellsTruth_iff (w : World) (a : Act) :
    TellsTruth I yaml w a ↔ (Completes I yaml w a → FillsTruly I yaml w a) := by
  cases a with
  | write slotLetter identifier replies =>
    exact recordTrue_iff (asyncWriteEasySlot_course w slotLetter identifier replies)
  | move m => exact ⟨fun _ _ => trivial, fun _ => trivial⟩
  | switchMode mode replies => exact ⟨fun _ _ => trivial, fun _ => trivial⟩

/-! ## Runs -/

/-- **The slot record tells the truth as long as what is filled in is what the record names.**  In any
run of slot writes, mode switches and whatever else happens to the store and the connection, also while
a write waits, every write leaves a true record if each fills the slots in truly; and where every write
does, each that succeeds filled them in truly. -/
theorem slot_record_true (w : World) (acts : List Act) :
    (AllSteps (World.step I yaml) (FillsTruly I yaml) w acts →
      AllSteps (World.step I yaml) (TellsTruth I yaml) w acts) ∧
    (AllSteps (World.step I yaml) (TellsTruth I yaml) w acts →
      AllSteps (World.step I yaml) (fun w a => Completes I yaml w a → FillsTruly I yaml w a) w
        acts) := by
  constructor
  · exact AllSteps.imp fun w a h => (tellsTruth_iff w a).mpr fun _ => h
  · exact AllSteps.imp fun w a h => (tellsTruth_iff w a).mp h

/-! ## Two recipes, two slots -/

/-- One of the recipes of the examples. -/
def slotRecipe (name uid : String) : RecipeDict :=
  { onePourDict 3 with name := name, uid := some uid }

/-- A machine that is connected, two recipes, and nothing written yet. -/
def twoRecipes : World where
  coord :=
    { clients := [{ connected := true }]
      client := some 0
      store :=
        { options := (Dict.empty.insert "Morning" (some (slotRecipe "Morning" "4f1c0a9b7d21"))).insert
            "V60" (some (slotRecipe "V60" "8d3f2a104c6e"))
          selectedRecipe := none } }

/-- Everything goes well. -/
def allWell : Replies := fun _ => ⟨[], {}⟩

/-- The first recipe for slot A, the second for slot B. -/
def writeBoth (between : List Act) : List Act :=
  .write "A" (some "4f1c0a9b7d21") allWell :: (between ++ [.write "b" (some "V60") allWell])

/-- Two writes of recipes that stay. -/
theorem both_recorded :
    AllSteps (World.step plainIdentifiers noYaml) (TellsTruth plainIdentifiers noYaml) twoRecipes
      (writeBoth []) :=
  (slot_record_true twoRecipes (writeBoth [])).1 (by decide +kernel)

/-- The installation when slot A is written and its recipe deleted. -/
def firstDeleted : World :=
  (twoRecipes.write plainIdentifiers noYaml "A" (some "4f1c0a9b7d21") allWell).2.world.move
    plainIdentifiers noYaml (.store (.delete "4f1c0a9b7d21"))

/-- The write of slot B once the recipe of slot A is gone. -/
def secondWrite : Except PyErr SlotResult × Tale :=
  firstDeleted.write plainIdentifiers noYaml "b" (some "V60") allWell

/-- Slot A is sent the recipe of slot B, and its entry names the one it had. -/
theorem secondWrite_lies :
    secondWrite.2.world.easySlotContents .a = some ⟨some "4f1c0a9b7d21", "Morning"⟩ ∧
      (lastWrite secondWrite.2 .a).map (fun x => x.source.raw.uid) = some (some "8d3f2a104c6e") := by
  decide +kernel

/-- **A deleted recipe stays on the record.**  Morning is written to slot A and deleted, and V60 written to
slot B: slot A now has V60 as well, and the record says Morning. -/
theorem deleted_stays_recorded :
    ¬ AllSteps (World.step plainIdentifiers noYaml) (TellsTruth plainIdentifiers noYaml) twoRecipes
        (writeBoth [.move (.store (.delete "4f1c0a9b7d21"))]) := by
  rintro ⟨_, _, hsecond, _⟩
  have htrue : RecordTrue "b" firstDeleted.easySlots secondWrite.1 secondWrite.2 := hsecond
  obtain ⟨hentry, hsent⟩ := secondWrite_lies
  have hsuccess : Succeeds secondWrite.1 := by
    -- the record has changed, so it did not fail
    by_contra hfailed
    have hsame := congrArg (fun slots => slots.get? "B") (htrue.failed hfailed)
    exact absurd hsame (by decide +kernel)
  obtain ⟨x, hx, _, _, huid⟩ := htrue.told hsuccess .a _ hentry
  rw [hx] at hsent
  have hlied : x.source.raw.uid = some "8d3f2a104c6e" := Option.some.inj hsent
  rw [hlied] at huid
  exact absurd huid (by decide)

end XBloom.Slots
