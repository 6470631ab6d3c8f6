/-
# XBloom.Coordinator.Newest — whether a brew grinds with the newest settings

A brew reads grind size and rpm off two sliders; the recipe's own values reach them only when it is
selected.  So what a brew grinds with is what was written last, by whomever: the user at a number entity
or at the machine's knob, a selection, or a service or tool that puts its "this brew only" numbers onto
the sliders and never takes them back.  An edit of the selected recipe is not written at all.
-/
import XBloom.Coordinator.Callers
import XBloom.Coordinator.Footprints
import XBloom.Async.Solo
import XBloom.Telemetry.Mirror

namespace XBloom.Coordinator

open XBloom.Async XBloom.Py XBloom.Recipe XBloom.Brewing XBloom.Logic

/-! ## Numbers for the sliders -/

/-- A grind size and an rpm; what is missing leaves its slider alone. -/
structure Numbers where
  grindSize : Option ℤ := none
  rpm : Option ℤ := none
  deriving DecidableEq, Repr

/-- The sliders take the numbers. -/
def World.put (w : World) (n : Numbers) : World :=
  { w with grindSize := n.grindSize.getD w.grindSize, rpm := n.rpm.getD w.rpm }

/-- What a stored recipe has for the sliders; an rpm of 0 is none. -/
def storedNumbers (stored : RecipeDict) : Numbers where
  grindSize := some stored.grindSize
  rpm := if stored.rpm = 0 then none else some stored.rpm

/-- What a knob event writes: nothing off the grind page or while the grinder runs, else what is in
range. -/
def knobNumbers (s : Telemetry.DeviceStatus) (size : Option ℤ) (rpm : Option ℕ) : Numbers :=
  if s.screen ≠ some .grind ∨ s.grinder.isRunning then {}
  else
    { grindSize := size.filter fun n => 1 ≤ n ∧ n ≤ 80
      rpm := (rpm.filter fun n => 60 ≤ n ∧ n ≤ 120).map Nat.cast }

theorem applyGrinderKnob_eq (s : Telemetry.DeviceStatus) (w : World) (size : Option ℤ) (rpm : Option ℕ) :
    Telemetry.applyGrinderKnob s w size rpm = w.put (knobNumbers s size rpm) := by
  unfold Telemetry.applyGrinderKnob knobNumbers World.put
  split
  · rfl
  · cases size <;> cases rpm <;> simp [Option.filter] <;> split_ifs <;> simp_all

/-- What a caller writes over its selection: the tool writes nothing for tea. -/
def Caller.numbers (stored : RecipeDict) : Caller → Numbers
  | .service args => { grindSize := args.grindSize, rpm := args.rpm }
  | .tool args =>
    if args.isTea stored then {} else { grindSize := args.grindSize, rpm := args.rpm }

theorem Caller.select_eq (yaml : YamlLayer) (w : World) (name : String) (stored : RecipeDict)
    (caller : Caller) : caller.select yaml w name stored =
      (w.selectRecipe yaml (some name)).put (caller.numbers stored) := by
  cases caller with
  | service args => rfl
  | tool args =>
    show w.selectForTool yaml args name stored = World.put _ (if args.isTea stored then _ else _)
    unfold World.selectForTool
    split <;> rfl

/-! ## What happens to the sliders -/

/-- The user selects a recipe, writes to a slider or turns the machine's knob; a recipe is stored, edited
or deleted; a service or tool brews a recipe; the brew button is pressed. -/
inductive GrinderOp where
  | select (name : Option String)
  | slider (numbers : Numbers)
  | knob (s : Telemetry.DeviceStatus) (size : Option ℤ) (rpm : Option ℕ)
  | store (op : StoreOp)
  | brew (caller : Caller) (name : String)
  | press (args : BrewArgs)

section
variable (I : Identifiers) (yaml : YamlLayer)

/-- What it leaves. -/
def World.after (w : World) : GrinderOp → World
  | .select name => w.selectRecipe yaml name
  | .slider numbers => w.put numbers
  | .knob s size rpm => Telemetry.applyGrinderKnob s w size rpm
  | .store op => { w with store := w.store.step I yaml op }
  | .brew caller name =>
    match w.named yaml (some name) with
    | some stored => caller.select yaml w name stored
    | none => w
  | .press _ => w

/-- An operation that edits the selected recipe. -/
def World.editsSelected (w : World) : StoreOp → Bool
  | .edit identifier _ _ _ =>
    (findRecipe I (w.recipes yaml) identifier).any fun e => decide (w.store.selectedRecipe = some e.1)
  | .flowEdit editing _ => decide (w.store.selectedRecipe = some editing)
  | _ => false

/-- The selected recipe as an edit of it leaves it; a refused edit leaves none. -/
def World.edited (w : World) (op : StoreOp) : Option RecipeDict :=
  match w.editsSelected I yaml op, (w.store.apply I yaml op).2 with
  | true, .success _ _ =>
    World.named yaml { w with store := w.store.step I yaml op } (w.store.step I yaml op).selectedRecipe
  | _, _ => none

end

/-! ## What a brew leaves -/

/-- The sliders and the recipes are as they were. -/
def SameSliders (w w' : World) : Prop :=
  w'.grindSize = w.grindSize ∧ w'.rpm = w.rpm ∧ w'.store = w.store

theorem World.SameOperations.sliders {w w' : World} (h : w.SameOperations w') : SameSliders w w' :=
  ⟨h.grindSize, h.rpm, h.store⟩

/-- A coroutine that leaves the sliders alone. -/
abbrev LeavesSliders {α : Type} (x : Async α) : Prop := Within (anywhere SameSliders) x

section
variable {I : Identifiers} {yaml : YamlLayer}

/-- None of the calls below a selection writes to a slider. -/
theorem sliders_allow : AllowsCalls SameSliders where
  same _ _ h := h.sliders
  noteBrew _ _ := ⟨rfl, rfl, rfl⟩
  noteConfirm _ := ⟨rfl, rfl, rfl⟩
  dropBrew _ := ⟨rfl, rfl, rfl⟩
  disarmRecipe _ := ⟨rfl, rfl, rfl⟩
  dropConfirm _ := ⟨rfl, rfl, rfl⟩
  setArmed _ _ := ⟨rfl, rfl, rfl⟩
  noteArm _ _ _ := ⟨rfl, rfl, rfl⟩
  dropArm _ := ⟨rfl, rfl, rfl⟩
  clearOperations _ := ⟨rfl, rfl, rfl⟩

/-- Undisturbed, what leaves the sliders alone does so to its end. -/
theorem sliders_keeps (w : World) : XBloom.Async.Keeps (fun (w : World) (_ : Empty) => w)
    (anywhere SameSliders) fun σ : Story World Event Await Response Empty => SameSliders w σ.world where
  write f σ hwrite h := ⟨hwrite.1.trans h.1, hwrite.2.1.trans h.2.1, hwrite.2.2.trans h.2.2⟩
  emit e _ σ h := h
  answer l _ σ reply h := by
    have hmoves : reply.moves = [] := List.eq_nil_iff_forall_not_mem.mpr fun m => m.elim
    show SameSliders w (run _ σ.world reply.moves)
    rw [hmoves]
    exact h

/-- A selection, and what leaves the sliders alone after it. -/
theorem selecting_plays {α : Type} {f : World → World} {x : Unit → Async α} {w : World}
    (hx : ∀ u, LeavesSliders (x u)) : Plays (fun (w : World) (_ : Empty) => w) (fun σ => σ.world = w)
      (Routine.assign f >>= x) (fun _ σ => SameSliders (f w) σ.world)
      fun _ σ => SameSliders (f w) σ.world := by
  refine .bind (Q := fun _ σ => SameSliders (f w) σ.world) (.assign fun σ hσ => ?_)
    fun u => (hx u).plays (sliders_keeps _)
  show SameSliders (f w) (f σ.world)
  rw [hσ]
  exact ⟨rfl, rfl, rfl⟩

theorem after_brew {w : World} {name : String} {stored : RecipeDict} (caller : Caller)
    (hstored : w.named yaml (some name) = some stored) :
    w.after I yaml (.brew caller name) = caller.select yaml w name stored := by
  unfold World.after
  dsimp only
  rw [hstored]

/-- **A brew leaves the sliders as its selection does**: the service's. -/
theorem executeRecipeService_after {args : ServiceArgs} {w : World} {name : String}
    {stored : RecipeDict} (hname : args.name I yaml w = some name)
    (hstored : w.named yaml (some name) = some stored) (replies : ℕ → Reply Response Empty) :
    SameSliders (w.after I yaml (.brew (.service args) name))
      ((executeRecipeService I yaml args).run.play (fun w _ => w) (.start w) replies).2.world := by
  have hplays : Plays (fun (w : World) (_ : Empty) => w) (fun σ => σ.world = w)
      (executeRecipeService I yaml args)
      (fun _ σ => SameSliders (w.selectForService yaml args name) σ.world)
      fun _ σ => SameSliders (w.selectForService yaml args name) σ.world := by
    refine .world fun w' => ?_
    by_cases hw : w' = w
    · subst hw
      rw [hname]
      dsimp only
      rw [hstored]
      refine (selecting_plays fun _ => .bind (.attempt sliders_allow.asyncExecuteRecipe) fun result => ?_).pre
        fun _ hσ => hσ.1
      split
      · exact .pure _
      · exact .pure _
      · exact .lift _
    · exact fun σ hσ => absurd (hσ.2.symm.trans hσ.1) hw
  rw [after_brew _ hstored]
  exact hplays.play_story rfl replies

/-- And the tool's, when it arms. -/
theorem toolArm_after {args : ToolArgs} {w : World} {name : String} {stored : RecipeDict}
    (hstored : w.named yaml (some name) = some stored) (replies : ℕ → Reply Response Empty) :
    SameSliders (w.after I yaml (.brew (.tool args) name))
      ((toolArm I yaml args name stored).run.play (fun w _ => w) (.start w) replies).2.world := by
  have hplays : Plays (fun (w : World) (_ : Empty) => w) (fun σ => σ.world = w)
      (toolArm I yaml args name stored)
      (fun _ σ => SameSliders (w.selectForTool yaml args name stored) σ.world)
      fun _ σ => SameSliders (w.selectForTool yaml args name stored) σ.world :=
    selecting_plays fun _ => .world fun _ => .bind (.when sliders_allow.asyncCancel) fun _ =>
      sliders_allow.asyncArmRecipe
  rw [after_brew _ hstored]
  exact hplays.play_story rfl replies

end

/-! ## The ledger -/

/-- What is known of one slider: the user's last write, the newest of that and the recipe's value, and
whether the slider shows something else. -/
structure Record where
  written : ℤ
  newest : ℤ
  stale : Bool := false

namespace Record

/-- A slider whose number counts as written. -/
def start (slider : ℤ) : Record where
  written := slider
  newest := slider

/-- The user writes a number. -/
def write (r : Record) (_ : ℤ) : Option ℤ → Record
  | some n => { written := n, newest := n }
  | none => r

/-- A recipe is selected: its value is put on the slider.  A recipe that has none leaves the slider as it
is, which then may show an earlier recipe's number. -/
def select (r : Record) (slider : ℤ) : Option ℤ → Record
  | some n => { r with newest := n, stale := false }
  | none => { r with newest := r.written, stale := decide (slider ≠ r.written) }

/-- The selected recipe is edited: the slider is not told. -/
def edit (r : Record) (slider : ℤ) (value : Option ℤ) : Record :=
  { r with newest := value.getD r.written, stale := decide (slider ≠ value.getD r.written) }

/-- A brew puts its own number on the slider. -/
def override (r : Record) (_ : ℤ) : Option ℤ → Record
  | some n => { r with stale := decide (n ≠ r.newest) }
  | none => r

/-- A record tells whether its slider shows the newest number. -/
def Tracks (r : Record) (slider : ℤ) : Prop := slider = r.newest ↔ r.stale = false

variable {r : Record} {slider : ℤ}

theorem start_tracks : (start slider).Tracks slider := iff_of_true rfl rfl

theorem Tracks.write (h : r.Tracks slider) (value : Option ℤ) :
    (r.write slider value).Tracks (value.getD slider) := by
  cases value with
  | some n => exact iff_of_true rfl rfl
  | none => exact h

theorem select_tracks (value : Option ℤ) : (r.select slider value).Tracks (value.getD slider) := by
  cases value with
  | some n => exact iff_of_true rfl rfl
  | none => simp [Tracks, select]

theorem edit_tracks (value : Option ℤ) : (r.edit slider value).Tracks slider := by
  simp [Tracks, edit]

theorem Tracks.override (h : r.Tracks slider) (value : Option ℤ) :
    (r.override slider value).Tracks (value.getD slider) := by
  cases value with
  | some n => simp [Tracks, Record.override]
  | none => exact h

end Record

/-- The coordinator, and what is known of its two sliders. -/
structure Ledger where
  world : World
  grindSize : Record
  rpm : Record

namespace Ledger

/-- A ledger that begins: the sliders count as written. -/
def start (w : World) : Ledger where
  world := w
  grindSize := .start w.grindSize
  rpm := .start w.rpm

/-- The same is noted of both sliders. -/
def note (x : Ledger) (f : Record → ℤ → Option ℤ → Record) (n : Numbers) : Ledger :=
  { x with
    grindSize := f x.grindSize x.world.grindSize n.grindSize
    rpm := f x.rpm x.world.rpm n.rpm }

/-- The selection of a recipe is noted if it sets the sliders. -/
def noteSelect (x : Ledger) (stored : RecipeDict) : Ledger :=
  if Grinds stored then x.note Record.select (storedNumbers stored) else x

section
variable (I : Identifiers) (yaml : YamlLayer)

/-- What is known after an operation. -/
def noted (x : Ledger) : GrinderOp → Ledger
  | .select name =>
    match x.world.named yaml name with
    | some stored => x.noteSelect stored
    | none => x
  | .slider numbers => x.note Record.write numbers
  | .knob s size rpm => x.note Record.write (knobNumbers s size rpm)
  | .store op =>
    match x.world.edited I yaml op with
    | some stored => if Grinds stored then x.note Record.edit (storedNumbers stored) else x
    | none => x
  | .brew caller name =>
    match x.world.named yaml (some name) with
    | some stored =>
      ({ x.noteSelect stored with world := x.world.selectRecipe yaml (some name) }).note
        Record.override (caller.numbers stored)
    | none => x
  | .press _ => x

/-- One operation. -/
def step (x : Ledger) (op : GrinderOp) : Ledger :=
  { x.noted I yaml op with world := x.world.after I yaml op }

/-! ## The property and its condition -/

/-- **A brew with no numbers of its own** of a coffee recipe that grinds, and what it prepares. -/
def Brews (x : Ledger) (op : GrinderOp) (prepared : Prepared) : Prop :=
  match op with
  | .press args => ∃ stored, x.world.named yaml x.world.store.selectedRecipe = some stored ∧
      Grinds stored ∧ Grinds (laidOver stored args) ∧
      prepareRecipeExecution I yaml x.world args = .ok (some prepared)
  | .brew caller name => ∃ stored, x.world.named yaml (some name) = some stored ∧
      caller.grindSize = none ∧ caller.rpm = none ∧
      Grinds stored ∧ Grinds (laidOver stored (caller.brewArgs stored)) ∧
      prepareRecipeExecution I yaml (caller.select yaml x.world name stored)
        (caller.brewArgs stored) = .ok (some prepared)
  | _ => False

/-- **It grinds with the newest settings.** -/
def GrindsNewest (x : Ledger) (op : GrinderOp) : Prop := ∀ prepared, x.Brews I yaml op prepared →
  prepared.recipe.grindSize = (x.step I yaml op).grindSize.newest ∧
    prepared.recipe.rpm = (x.step I yaml op).rpm.newest

/-- **Nothing else has reached the sliders**: no override of an earlier brew, no edit that they were not
told of, no rpm of another recipe. -/
def Fresh (x : Ledger) (op : GrinderOp) : Prop := (∃ prepared, x.Brews I yaml op prepared) →
  (x.step I yaml op).grindSize.stale = false ∧ (x.step I yaml op).rpm.stale = false

end

/-- Both records tell. -/
structure Tracks (x : Ledger) : Prop where
  grindSize : x.grindSize.Tracks x.world.grindSize
  rpm : x.rpm.Tracks x.world.rpm

end Ledger

namespace Ledger

variable {I : Identifiers} {yaml : YamlLayer} {x : Ledger}

/-! ## One operation -/

/-- A selection puts a recipe's numbers on the sliders, if it grinds. -/
theorem noteSelect_tracks (h : x.Tracks) {name : String} {stored : RecipeDict}
    (hname : x.world.named yaml (some name) = some stored) :
    Tracks { x.noteSelect stored with world := x.world.selectRecipe yaml (some name) } := by
  obtain ⟨hgrind, hrpm⟩ := selectRecipe_sliders hname
  unfold noteSelect
  by_cases hgrinds : Grinds stored
  · rw [if_pos hgrinds]
    rw [if_pos hgrinds] at hgrind
    constructor
    · show (x.grindSize.select x.world.grindSize (some stored.grindSize)).Tracks _
      rw [hgrind]
      exact Record.select_tracks (some stored.grindSize)
    · show (x.rpm.select x.world.rpm (storedNumbers stored).rpm).Tracks _
      -- an rpm of 0 leaves the slider alone
      have hvalue : (x.world.selectRecipe yaml (some name)).rpm =
          (storedNumbers stored).rpm.getD x.world.rpm := by
        rw [hrpm]
        by_cases hzero : stored.rpm = 0
        · simp [storedNumbers, hzero]
        · simp [storedNumbers, hzero, hgrinds]
      rw [hvalue]
      exact Record.select_tracks _
  · rw [if_neg hgrinds]
    rw [if_neg hgrinds] at hgrind
    rw [if_neg fun h => hgrinds h.1] at hrpm
    constructor
    · show x.grindSize.Tracks _
      rw [hgrind]
      exact h.grindSize
    · show x.rpm.Tracks _
      rw [hrpm]
      exact h.rpm

/-- Numbers written and noted. -/
theorem write_tracks (h : x.Tracks) (n : Numbers) :
    Tracks { x.note Record.write n with world := x.world.put n } :=
  ⟨h.grindSize.write n.grindSize, h.rpm.write n.rpm⟩

/-- A selection of nothing that is stored sets no slider. -/
theorem selectRecipe_of_none {w : World} {name : Option String} (hname : w.named yaml name = none) :
    w.selectRecipe yaml name = { w with store := { w.store with selectedRecipe := name } } := by
  have hsame : World.named yaml { w with store := { w.store with selectedRecipe := name } } name =
      none := hname
  unfold World.selectRecipe
  simp only [hsame]

/-- **Every operation keeps the records.** -/
theorem step_tracks (h : x.Tracks) (op : GrinderOp) : (x.step I yaml op).Tracks := by
  cases op with
  | select name =>
    show Tracks { x.noted I yaml (.select name) with world := x.world.selectRecipe yaml name }
    unfold noted
    dsimp only
    cases hname : x.world.named yaml name with
    | none =>
      rw [selectRecipe_of_none hname]
      exact ⟨h.grindSize, h.rpm⟩
    | some stored =>
      obtain ⟨n, rfl, _⟩ := World.named_eq_some yaml hname
      exact noteSelect_tracks h hname
  | slider numbers => exact write_tracks h numbers
  -- a knob writes the sliders as the user does
  | knob s size rpm =>
    show Tracks { x.note Record.write _ with world := Telemetry.applyGrinderKnob s x.world size rpm }
    rw [applyGrinderKnob_eq]
    exact write_tracks h _
  | store op =>
    show Tracks { x.noted I yaml (.store op) with world := { x.world with store := _ } }
    unfold noted
    dsimp only
    split
    · split
      · exact ⟨Record.edit_tracks _, Record.edit_tracks _⟩
      · exact ⟨h.grindSize, h.rpm⟩
    · exact ⟨h.grindSize, h.rpm⟩
  | brew caller name =>
    show Tracks { x.noted I yaml (.brew caller name) with
      world := x.world.after I yaml (.brew caller name) }
    unfold noted World.after
    dsimp only
    cases hname : x.world.named yaml (some name) with
    | none => exact h
    | some stored =>
      -- the recipe is selected first, and the call's numbers laid over it
      have hselected := noteSelect_tracks h hname
      dsimp only
      rw [Caller.select_eq]
      exact ⟨hselected.grindSize.override _, hselected.rpm.override _⟩
  | press args => exact h

/-- **What a brew with no numbers of its own grinds with is on the sliders.** -/
theorem brews_sliders {op : GrinderOp} {prepared : Prepared} (hbrews : x.Brews I yaml op prepared) :
    prepared.recipe.grindSize = (x.step I yaml op).world.grindSize ∧
      prepared.recipe.rpm = (x.step I yaml op).world.rpm := by
  cases op with
  | press args =>
    obtain ⟨stored, hstored, _, hgrinds, hprepared⟩ := hbrews
    obtain ⟨stored', hstored', _, hprepare⟩ := prepareRecipeExecution_eq_ok hprepared
    obtain rfl : stored = stored' := Option.some.inj (hstored.symm.trans hstored')
    exact prepareStored_sliders hprepare hgrinds
  | brew caller name =>
    obtain ⟨stored, hname, _, _, _, hgrinds, hprepared⟩ := hbrews
    obtain ⟨stored', hstored', _, hprepare⟩ := prepareRecipeExecution_eq_ok hprepared
    rw [Caller.select_selected, hname] at hstored'
    obtain rfl := Option.some.inj hstored'
    show _ = (x.world.after I yaml (.brew caller name)).grindSize ∧
      _ = (x.world.after I yaml (.brew caller name)).rpm
    rw [after_brew caller hname]
    exact prepareStored_sliders hprepare hgrinds
  | select name => cases hbrews
  | slider numbers => cases hbrews
  | knob s size rpm => cases hbrews
  | store op => cases hbrews

/-- **When a brew grinds with the newest settings.**  Along every sequence of selections, writes, edits
and brews: every brew with no numbers of its own does, exactly when at each nothing else has reached the
sliders. -/
theorem newest_settings_iff (w : World) (ops : List GrinderOp) :
    AllSteps (step I yaml) (GrindsNewest I yaml) (start w) ops ↔
      AllSteps (step I yaml) (Fresh I yaml) (start w) ops := by
  have hstart : Tracks (start w) := ⟨Record.start_tracks, Record.start_tracks⟩
  refine @AllSteps.iff_of_kept _ _ _ _ _ Tracks (fun x op h => ?_) ops _ hstart
  have hafter : (x.step I yaml op).Tracks := step_tracks h op
  refine ⟨hafter, ?_⟩
  constructor
  · rintro hnewest ⟨prepared, hbrews⟩
    obtain ⟨hgrind, hrpm⟩ := brews_sliders hbrews
    obtain ⟨hgrind', hrpm'⟩ := hnewest prepared hbrews
    exact ⟨hafter.grindSize.mp (hgrind.symm.trans hgrind'), hafter.rpm.mp (hrpm.symm.trans hrpm')⟩
  · intro hfresh prepared hbrews
    obtain ⟨hgrind, hrpm⟩ := brews_sliders hbrews
    obtain ⟨hgrind', hrpm'⟩ := hfresh ⟨prepared, hbrews⟩
    exact ⟨hgrind.trans (hafter.grindSize.mpr hgrind'), hrpm.trans (hafter.rpm.mpr hrpm')⟩

/-! ## An override and an edit -/

/-- The ledger of a coffee that is stored, after some operations. -/
def ofCoffee (ops : List GrinderOp) : Ledger :=
  run (step plainIdentifiers morningYaml) (start (selecting bypassCoffee)) ops

/-- A service call that asks for grind size 30. -/
def atThirty : Caller := .service { grindSize := some 30 }

/-- An edit of the coffee that stores grind size 30. -/
def editToThirty : StoreOp := .edit "V60" [("grind_size", .int 30)] none "4f1c0a9b7d21"

/-- A press of the button that prepares another grind size than the newest. -/
theorem press_not_newest {ops : List GrinderOp} {n : ℤ}
    (hgrinds : ((ofCoffee ops).world.named morningYaml (ofCoffee ops).world.store.selectedRecipe).any
      (fun stored => decide (Grinds stored)) = true)
    (hprepared : (prepareRecipeExecution plainIdentifiers morningYaml (ofCoffee ops).world
      {}).toOption.join.map (fun p => p.recipe.grindSize) = some n)
    (hother : n ≠ (ofCoffee ops).grindSize.newest) :
    ¬ AllSteps (step plainIdentifiers morningYaml) (GrindsNewest plainIdentifiers morningYaml)
      (start (selecting bypassCoffee)) (ops ++ [.press {}]) := by
  intro hall
  have hlast := (AllSteps.append_iff.mp hall).2.1
  obtain ⟨stored, hstored, hdecide⟩ := (Option.any_eq_true _ _).mp hgrinds
  obtain ⟨prepared, hok, rfl⟩ := exists_of_prepared (fun p => p.recipe.grindSize) n hprepared
  have hg : Grinds stored := of_decide_eq_true hdecide
  exact hother (hlast prepared ⟨stored, hstored, hg, hg, hok⟩).1

/-- **Two brews with an older setting.**  A service call brews the coffee at grind size 30, and the button
then brews at 30 what is stored, selected and shown nowhere else as 30; an edit sets the selected coffee
to 30, and the button brews at 50. -/
theorem older_settings_brewed :
    ¬ AllSteps (step plainIdentifiers morningYaml) (GrindsNewest plainIdentifiers morningYaml)
        (start (selecting bypassCoffee))
        [.select (some "V60"), .brew atThirty "V60", .press {}] ∧
      ¬ AllSteps (step plainIdentifiers morningYaml) (GrindsNewest plainIdentifiers morningYaml)
        (start (selecting bypassCoffee))
        [.select (some "V60"), .store editToThirty, .press {}] := by
  constructor
  · exact @press_not_newest [.select (some "V60"), .brew atThirty "V60"] 30 (by decide +kernel)
      (by decide +kernel) (by decide +kernel)
  · exact @press_not_newest [.select (some "V60"), .store editToThirty] 50 (by decide +kernel)
      (by decide +kernel) (by decide +kernel)

end Ledger

end XBloom.Coordinator
