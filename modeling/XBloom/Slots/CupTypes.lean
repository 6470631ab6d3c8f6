/-
# XBloom.Slots.CupTypes — the predicates that say what tea is

A recipe goes through the tea sequence if the recipe built from it is one (`is_tea_recipe`).  Four other
parts decide the same from the `cup_type` string: the firmware gate of `_prepare_recipe_execution`, the
slider sync of `select_recipe`, the refusal of `async_write_easy_slot` and the tool's checklist.  The
build, the sync and the refusal strip the string first; the gate and the tool only lower it.
-/
import XBloom.Coordinator.Callers
import XBloom.Slots.Write

namespace XBloom.Slots

open XBloom.Py XBloom.Ble XBloom.Recipe XBloom.Brewing XBloom.Coordinator

/-! ## The parts -/

/-- A part that decides whether a recipe is tea. -/
inductive TeaPart where
  | gate
  | sliders
  | slots
  | tool
  deriving DecidableEq, Repr

namespace TeaPart

variable (cupType : Option String) (stored : RecipeDict)

/-- A brew with another cup type. -/
def brewAs : BrewArgs where
  overrides := { cupType := cupType }

/-- The recipe a part is about: the gate's and the tool's has the cup type of the call laid over it, a
selection and a slot have no call. -/
def sees : TeaPart → RecipeDict
  | gate | tool => laidOver stored (brewAs cupType)
  | sliders | slots => stored

/-- What a part decides. -/
def takesForTea : TeaPart → Bool
  | gate => lower (cupType.getD stored.cupType) == "tea"
  | sliders | slots => lower (strip stored.cupType) == "tea"
  | tool => ToolArgs.isTea { recipe := stored.name, brew := brewAs cupType } stored

end TeaPart

/-! ## What they decide it for -/

section
variable {I : Identifiers} {yaml : YamlLayer} {stored : RecipeDict}

/-- **The gate**: on firmware without tea it refuses exactly what it takes for tea. -/
theorem gate_refuses {w : Coordinator.World} {args : BrewArgs}
    (hstored : w.named yaml w.store.selectedRecipe = some stored)
    (hwater : ¬ (w.waterSource = waterSourceTank ∧ w.dataWaterLevelOk = false))
    (hfirmware : firmwareAtLeast I.texts w.dataVersion minFirmwareTea = false) :
    prepareRecipeExecution I yaml w args =
      if TeaPart.gate.takesForTea args.overrides.cupType stored then .error .homeAssistantError
      else (prepareStored w args stored).map some := by
  unfold prepareRecipeExecution
  rw [if_neg hwater, hstored]
  simp only [hfirmware, and_true, TeaPart.takesForTea, beq_iff_eq]

/-- **The sliders**: a selection leaves them as they are for what it takes for tea. -/
theorem selection_keeps_sliders {w : Coordinator.World} {name : String} {cupType : Option String}
    (hstored : w.named yaml (some name) = some stored)
    (htea : TeaPart.sliders.takesForTea cupType stored = true) :
    (w.selectRecipe yaml (some name)).grindSize = w.grindSize ∧
      (w.selectRecipe yaml (some name)).rpm = w.rpm := by
  have hnot : ¬ Grinds stored := not_grinds_iff.mpr (Or.inl (beq_iff_eq.mp htea))
  obtain ⟨hgrind, hrpm⟩ := selectRecipe_sliders hstored
  rw [hgrind, hrpm, if_neg hnot, if_neg fun h => hnot h.1]
  exact ⟨rfl, rfl⟩

/-- **The slots**: a write of what it takes for tea is refused. -/
theorem slot_refused {slotLetter name : String} {cupType : Option String}
    (htea : TeaPart.slots.takesForTea cupType stored = true) :
    writeTarget I yaml slotLetter (name, stored) =
      pure (.failure (.teaNotSupportedInEasySlot name)) :=
  if_pos (beq_iff_eq.mp htea)

end

/-! ## Agreement -/

/-- **All parts agree on what tea is**: each takes for tea what is built as tea. -/
def AgreeOnTea (cupType : Option String) (stored : RecipeDict) : Prop :=
  ∀ part : TeaPart, part.takesForTea cupType stored = (part.sees cupType stored).isTea

/-- **Tea spelled plainly**: the cup type of the brew does not read `tea` only once it is stripped, and a
call does not empty the cup type of a tea. -/
structure PlainTea (cupType : Option String) (stored : RecipeDict) : Prop where
  noSpaces : lower (strip (cupType.getD stored.cupType)) = "tea" →
    lower (cupType.getD stored.cupType) = "tea"
  notEmptied : cupType = some "" → lower stored.cupType ≠ "tea"

theorem lower_strip_of_lower {s : String} (h : lower s = "tea") : lower (strip s) = "tea" := by
  rw [strip_of_lower_eq_tea h]
  exact h

theorem empty_not_tea : ¬ lower (strip "") = "tea" := by decide +kernel

variable {cupType : Option String} {stored : RecipeDict}

theorem isTea_brewAs_iff : (laidOver stored (TeaPart.brewAs cupType)).isTea = true ↔
    lower (strip (cupType.getD stored.cupType)) = "tea" := RecipeDict.isTea_iff _

/-- The tool looks at the stored cup type when the call has none, or an empty one. -/
theorem tool_takesForTea_iff : TeaPart.tool.takesForTea cupType stored = true ↔
    lower (if cupType.getD "" = "" then stored.cupType else cupType.getD stored.cupType) = "tea" := by
  show (lower (ToolArgs.cupType _ stored) == "tea") = true ↔ _
  rw [beq_iff_eq]
  unfold ToolArgs.cupType TeaPart.brewAs
  cases cupType with
  | none =>
    by_cases hempty : stored.cupType = ""
    · simp only [hempty, Option.getD_none, ne_eq, not_true_eq_false, if_false, if_true]
      exact iff_of_false (by decide +kernel) (by decide +kernel)
    · simp [hempty]
  | some s =>
    by_cases hs : s = ""
    · by_cases hempty : stored.cupType = ""
      · simp only [hs, hempty, Option.getD_some, ne_eq, not_true_eq_false, if_false, if_true]
        exact iff_of_false (by decide +kernel) (by decide +kernel)
      · simp [hs, hempty]
    · simp [hs]

/-- The agreement of the gate. -/
theorem gate_agrees_iff : TeaPart.gate.takesForTea cupType stored =
      (TeaPart.gate.sees cupType stored).isTea ↔
    (lower (strip (cupType.getD stored.cupType)) = "tea" →
      lower (cupType.getD stored.cupType) = "tea") := by
  rw [Bool.eq_iff_iff]
  show ((lower (cupType.getD stored.cupType) == "tea") = true ↔
    (laidOver stored (TeaPart.brewAs cupType)).isTea = true) ↔ _
  rw [isTea_brewAs_iff, beq_iff_eq]
  constructor
  · exact fun h => h.mpr
  · exact fun h => ⟨lower_strip_of_lower, h⟩

/-- The agreement of the tool. -/
theorem tool_agrees_of_plain (h : PlainTea cupType stored) : TeaPart.tool.takesForTea cupType stored =
    (TeaPart.tool.sees cupType stored).isTea := by
  rw [Bool.eq_iff_iff, tool_takesForTea_iff]
  show _ ↔ (laidOver stored (TeaPart.brewAs cupType)).isTea = true
  rw [isTea_brewAs_iff]
  cases hcup : cupType with
  | none =>
    have hplain := h.noSpaces
    rw [hcup] at hplain
    exact ⟨lower_strip_of_lower, hplain⟩
  | some s =>
    by_cases hs : s = ""
    · subst hs
      exact iff_of_false (h.notEmptied hcup) empty_not_tea
    · have hplain := h.noSpaces
      rw [hcup] at hplain
      simp only [Option.getD_some, hs, if_false]
      exact ⟨lower_strip_of_lower, hplain⟩

/-- **When all parts agree on what tea is**, and that no tea sequence is then prepared for firmware
without tea. -/
theorem agree_on_tea_iff (cupType : Option String) (stored : RecipeDict) :
    (AgreeOnTea cupType stored ↔ PlainTea cupType stored) ∧
      ∀ (I : Identifiers) (yaml : YamlLayer) (w : Coordinator.World) (args : BrewArgs)
        (prepared : Prepared), w.named yaml w.store.selectedRecipe = some stored →
        args.overrides.cupType = cupType → AgreeOnTea cupType stored →
        prepareRecipeExecution I yaml w args = .ok (some prepared) → prepared.isTea = true →
        firmwareAtLeast I.texts w.dataVersion minFirmwareTea = true := by
  constructor
  · constructor
    · intro h
      refine ⟨gate_agrees_iff.mp (h .gate), ?_⟩
      rintro rfl htea
      -- an empty cup type: the tool goes by the stored one, the override replaces it
      have htool : TeaPart.tool.takesForTea (some "") stored = true :=
        tool_takesForTea_iff.mpr (by simpa using htea)
      have hbuilt : (laidOver stored (TeaPart.brewAs (some ""))).isTea = true := (h .tool).symm.trans htool
      have hempty := isTea_brewAs_iff.mp hbuilt
      rw [Option.getD_some] at hempty
      exact empty_not_tea hempty
    · intro h part
      cases part with
      | gate => exact gate_agrees_iff.mpr h.noSpaces
      | sliders =>
        rw [Bool.eq_iff_iff]
        exact beq_iff_eq.trans stored.isTea_iff.symm
      | slots =>
        rw [Bool.eq_iff_iff]
        exact beq_iff_eq.trans stored.isTea_iff.symm
      | tool => exact tool_agrees_of_plain h
  · intro I yaml w args prepared hstored hcup hagree hprepared htea
    obtain ⟨stored', hstored', hgate, hprepare⟩ := prepareRecipeExecution_eq_ok hprepared
    obtain rfl := Option.some.inj (hstored.symm.trans hstored')
    obtain ⟨raw, built, pours, hraw, hbuilt, _, rfl⟩ := prepareStored_eq_ok hprepare
    obtain ⟨scaled, hlaid, _⟩ := overrideRecipe_eq_ok hraw
    have hbuiltTea : lower (strip (args.overrides.cupType.getD stored.cupType)) = "tea" := by
      have hraw' : raw.isTea = true := (isTeaRecipe_of_built hbuilt).symm.trans htea
      rw [RecipeDict.isTea_iff, hlaid] at hraw'
      exact hraw'
    -- a tea that is built without its spaces is a tea to the gate
    have hlower : lower (args.overrides.cupType.getD stored.cupType) = "tea" := by
      rw [hcup] at hbuiltTea ⊢
      exact gate_agrees_iff.mp (hagree .gate) hbuiltTea
    by_contra hold
    exact hgate ⟨hlower, by simpa using hold⟩

/-! ## A tea with a space -/

/-- A tea of one pour. -/
def plainTea : RecipeDict where
  name := "Sencha"
  grindSize := 0
  doseG := 0
  cupType := "tea"
  pours := [{ volumeMl := 150, temperatureC := 80 }]

/-- The same with a space before its cup type. -/
def spacedTea : RecipeDict := { plainTea with cupType := " tea" }

/-- A mapping that becomes it. -/
def spacedMapping : PyVal :=
  .dict
    [("name", .str "Sencha"), ("grind_size", .int 0), ("dose_g", .float 0), ("cup_type", .str " tea"),
      ("pours", .list [.dict [("volume_ml", .int 150), ("temperature_c", .int 80)]])]

/-- A machine with a recipe selected and a firmware of its own. -/
def withFirmware (version : String) (recipe : RecipeDict) : Coordinator.World :=
  { selecting recipe with dataVersion := version }

/-- The plain tea on firmware that has tea. -/
theorem plain_tea_agreed : AgreeOnTea none plainTea ∧
    firmwareAtLeast decimalTexts "V12.0D.300" minFirmwareTea = true := by
  have hagree : AgreeOnTea none plainTea :=
    (agree_on_tea_iff none plainTea).1.mpr ⟨fun _ => by decide +kernel, fun h => by cases h⟩
  obtain ⟨prepared, hprepared, htea⟩ := exists_of_prepared Prepared.isTea true
    (x := prepareRecipeExecution plainIdentifiers morningYaml (withFirmware "V12.0D.300" plainTea) {})
    (by decide +kernel)
  exact ⟨hagree, (agree_on_tea_iff none plainTea).2 plainIdentifiers morningYaml
    (withFirmware "V12.0D.300" plainTea) {} prepared (by decide +kernel) rfl hagree hprepared htea⟩

/-- **A tea that passes the gate.**  `RECIPE_SCHEMA` accepts a cup type with a space before it; the recipe
is built as tea and prepared for firmware that has none, for the gate does not take it for tea. -/
theorem spaced_tea_sent : recipeSchema decimalTexts spacedMapping = .ok spacedTea ∧
    ¬ AgreeOnTea none spacedTea ∧
    ∃ prepared, prepareRecipeExecution plainIdentifiers morningYaml
        (withFirmware "V12.0D.200" spacedTea) {} = .ok (some prepared) ∧ prepared.isTea = true ∧
      firmwareAtLeast decimalTexts "V12.0D.200" minFirmwareTea = false := by
  obtain ⟨prepared, hprepared, htea⟩ := exists_of_prepared Prepared.isTea true
    (x := prepareRecipeExecution plainIdentifiers morningYaml (withFirmware "V12.0D.200" spacedTea) {})
    (by decide +kernel)
  refine ⟨by decide +kernel, fun h => ?_, prepared, hprepared, htea, by decide +kernel⟩
  have hgate : TeaPart.gate.takesForTea none spacedTea =
      (TeaPart.gate.sees none spacedTea).isTea := h .gate
  exact absurd hgate (by decide +kernel)

end XBloom.Slots
