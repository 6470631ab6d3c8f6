/-
# XBloom.Slots.Tea — whether tea is kept out of the slots

A tea recipe in a slot would brew as coffee, so `async_write_easy_slot` refuses a target whose
`cup_type` reads `tea`.  Of the two recipes it fills in from the record it asks nothing: a recipe that
was written as coffee and has been made tea since is sent again (`tea_sent_again`).
-/
import XBloom.Slots.Record

namespace XBloom.Slots

open XBloom.Async XBloom.Logic XBloom.Py XBloom.Ble XBloom.Recipe XBloom.Brewing XBloom.Cloud

variable (I : Identifiers) (yaml : YamlLayer)

/-! ## The property -/

/-- The slot packets an act sends. -/
def Act.slotWrites (w : World) : Act → List SlotWrite
  | .move _ => []
  | .write slotLetter identifier replies =>
    Slots.slotWrites (w.write I yaml slotLetter identifier replies).2
  | .switchMode mode replies => Slots.slotWrites (w.switchMode I yaml mode replies).2

/-- **No tea**: no slot packet of an act was built from a recipe that `is_tea_recipe` takes for tea. -/
def NoTea (w : World) (a : Act) : Prop :=
  ∀ x ∈ a.slotWrites I yaml w, isTeaRecipe x.source.recipe = false

/-! ## Its condition -/

/-- What the record names for the other slots is not tea. -/
def Filling.Coffee (v : Filling) : Prop :=
  ∀ l, l ≠ v.letter → ∀ e ∈ v.world.otherResolved I yaml l, e.2.isTea = false

instance Filling.decidableCoffee (v : Filling) : Decidable (v.Coffee I yaml) :=
  inferInstanceAs (Decidable (∀ l, l ≠ v.letter → ∀ e ∈ v.world.otherResolved I yaml l,
    e.2.isTea = false))

/-- When a write fills the slots in, it does so with coffee. -/
def FillsCoffee (w : World) : Act → Prop
  | .write slotLetter identifier replies =>
    ∀ v ∈ fillings (w.write I yaml slotLetter identifier replies).2, v.Coffee I yaml
  | _ => True

instance (w : World) (a : Act) : Decidable (FillsCoffee I yaml w a) :=
  a.casesOn (fun _ => .isTrue trivial)
    (fun slotLetter identifier replies =>
      @List.decidableBAll Filling (Filling.Coffee I yaml) (Filling.decidableCoffee I yaml)
        (fillings (w.write I yaml slotLetter identifier replies).2))
    (fun _ _ => .isTrue trivial)

variable {I yaml} {record : Dict String SlotEntry} {result : Except PyErr SlotResult} {σ : Tale}
  {v : Filling}

/-! ## One write -/

/-- A packet is tea if what was filled in for its letter is. -/
theorem Filled.isTea_eq (h : Filled I yaml record v result σ) {x : SlotWrite}
    (hx : x ∈ slotWrites σ) : isTeaRecipe x.source.recipe =
      (v.world.slotTargets I yaml v.letter v.target x.letter).2.isTea := by
  rw [isTeaRecipe_of_built x.source.built, (h.sources x hx).1]

/-- The target was refused if it is tea. -/
theorem Filled.target_coffee (h : Filled I yaml record v result σ) : v.target.2.isTea = false := by
  rw [← Bool.not_eq_true, RecipeDict.isTea_iff]
  exact h.coffee

/-- **With coffee filled in no packet is tea.** -/
theorem Filled.noTea (h : Filled I yaml record v result σ) (hcoffee : v.Coffee I yaml) :
    ∀ x ∈ slotWrites σ, isTeaRecipe x.source.recipe = false := by
  intro x hx
  rw [h.isTea_eq hx]
  by_cases hl : x.letter = v.letter
  · rw [hl, slotTargets_self]
    exact h.target_coffee
  · rw [slotTargets_other v.world hl]
    cases hresolved : v.world.otherResolved I yaml x.letter with
    | none => exact h.target_coffee
    | some e => exact hcoffee x.letter hl e hresolved

/-- **What was filled in is coffee if all three packets went out** and none is tea. -/
theorem Filled.coffee_of_noTea (h : Filled I yaml record v result σ) (hsuccess : Succeeds result)
    (hnone : ∀ x ∈ slotWrites σ, isTeaRecipe x.source.recipe = false) : v.Coffee I yaml := by
  intro l hl e he
  obtain ⟨letter, name, uid, hresult⟩ := hsuccess
  obtain ⟨x, hx, hletter⟩ := (h.success letter name uid hresult).1 l
  have hraw := h.isTea_eq hx
  rw [hnone x hx, hletter, slotTargets_other v.world hl, he] at hraw
  exact hraw.symm

/-- A mode switch sends no slot packet. -/
theorem switchMode_slotWrites (w : World) (mode : Mode) (replies : Replies) :
    slotWrites (w.switchMode I yaml mode replies).2 = [] := by
  have hkeeps : Keeps (World.move I yaml) (touches fun k => k = .easyModeType mode)
      (Untold w.easySlots) := keeps_untold fun _ h => by cases h
  have hswitch : Within (touches fun k => k = .easyModeType mode) (switchModeWithRetry mode) :=
    switchAttempts_within (by rfl) 3
  have huntold : Untold w.easySlots (w.switchMode I yaml mode replies).2 :=
    (hswitch.plays hkeeps).play_story (σ := .start w) ⟨rfl, rfl, rfl⟩ replies
  exact huntold.2.1

/-- **One act**: coffee filled in is enough, and if the act completes it takes no less. -/
theorem noTea_of_fillsCoffee (w : World) (a : Act) (h : FillsCoffee I yaml w a) : NoTea I yaml w a := by
  cases a with
  | move m => exact fun x hx => absurd hx List.not_mem_nil
  | switchMode mode replies =>
    intro x hx
    have hnone : x ∈ slotWrites (w.switchMode I yaml mode replies).2 := hx
    rw [switchMode_slotWrites] at hnone
    exact absurd hnone List.not_mem_nil
  | write slotLetter identifier replies =>
    rcases asyncWriteEasySlot_course w slotLetter identifier replies with
      ⟨⟨_, hwrites, _⟩, _⟩ | ⟨v, _, hfilled⟩
    · intro x hx
      have hnone : x ∈ slotWrites (w.write I yaml slotLetter identifier replies).2 := hx
      rw [hwrites] at hnone
      exact absurd hnone List.not_mem_nil
    · refine hfilled.noTea (h v ?_)
      rw [hfilled.fillings]
      exact List.mem_singleton_self v

theorem fillsCoffee_of_noTea (w : World) (a : Act) (h : NoTea I yaml w a)
    (hcompletes : Completes I yaml w a) : FillsCoffee I yaml w a := by
  cases a with
  | move m => trivial
  | switchMode mode replies => trivial
  | write slotLetter identifier replies =>
    intro v hv
    rcases asyncWriteEasySlot_course w slotLetter identifier replies with
      ⟨_, hnot⟩ | ⟨v', _, hfilled⟩
    · exact absurd hcompletes hnot
    · rw [hfilled.fillings] at hv
      rw [List.mem_singleton.mp hv]
      exact hfilled.coffee_of_noTea hcompletes h

/-! ## Runs -/

/-- **Tea is kept out of the slots as long as the record names coffee.**  In any run no slot packet is tea
if each write fills the slots in with recipes that are not; and where no packet is, each write that
succeeds filled them in so. -/
theorem no_tea_in_slots (w : World) (acts : List Act) :
    (AllSteps (World.step I yaml) (FillsCoffee I yaml) w acts →
      AllSteps (World.step I yaml) (NoTea I yaml) w acts) ∧
    (AllSteps (World.step I yaml) (NoTea I yaml) w acts →
      AllSteps (World.step I yaml) (fun w a => Completes I yaml w a → FillsCoffee I yaml w a) w
        acts) := by
  constructor
  · exact AllSteps.imp noTea_of_fillsCoffee
  · exact AllSteps.imp fillsCoffee_of_noTea

/-- Two writes of coffee. -/
theorem both_coffee :
    AllSteps (World.step plainIdentifiers noYaml) (NoTea plainIdentifiers noYaml) twoRecipes
      (writeBoth []) :=
  (no_tea_in_slots twoRecipes (writeBoth [])).1 (by decide +kernel)

/-- The write of slot B once the recipe of slot A is tea. -/
def writeAfterTea : Tale :=
  (((twoRecipes.write plainIdentifiers noYaml "A" (some "4f1c0a9b7d21") allWell).2.world.move
    plainIdentifiers noYaml
    (.store (.edit "4f1c0a9b7d21" [("cup_type", .str "tea")] none ""))).write plainIdentifiers noYaml
      "b" (some "V60") allWell).2

theorem writeAfterTea_sends :
    ((slotWrites writeAfterTea).map fun x => isTeaRecipe x.source.recipe) = [true, false, false] := by
  decide +kernel

/-- **A recipe made tea is sent again.**  Morning is written to slot A as coffee and edited to tea, and V60
written to slot B: slot A is sent a tea recipe. -/
theorem tea_sent_again :
    ¬ AllSteps (World.step plainIdentifiers noYaml) (NoTea plainIdentifiers noYaml) twoRecipes
        (writeBoth [.move (.store (.edit "4f1c0a9b7d21" [("cup_type", .str "tea")] none ""))]) := by
  rintro ⟨_, _, hsecond, _⟩
  have hnone : ∀ x ∈ slotWrites writeAfterTea, isTeaRecipe x.source.recipe = false := hsecond
  have hall : ∀ b ∈ (slotWrites writeAfterTea).map fun x => isTeaRecipe x.source.recipe,
      b = false := by
    intro b hb
    obtain ⟨x, hx, rfl⟩ := List.mem_map.mp hb
    exact hnone x hx
  rw [writeAfterTea_sends] at hall
  exact absurd (hall true List.mem_cons_self) (by decide)

end XBloom.Slots
