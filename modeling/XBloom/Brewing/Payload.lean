/-
# XBloom.Brewing.Payload — what the recipe chains put into 8102, 8104, 8001/8004 and 4513

`brewing.py` computes the payload of every step of an arm chain.  Coffee and tea share the block
layout of `build_recipe_payload` and differ in three places, each with its own function here:

* the footer — coffee carries the ratio in tenths, rounded **up** (`_build_coffee_recipe_payload`),
  tea the ratio truncated (`_build_tea_payload`), the BLE layer's own builder ten times the total;
* the timing block — coffee leaves byte 1 zero, tea writes the soak there and keeps it nonzero;
* the pours — tea caps a pour at 90 ml and forces the circular pattern.
-/
import XBloom.Ble.Commands
import XBloom.Ble.Models

namespace XBloom.Brewing

open XBloom.Py XBloom.Ble

/-! ## Tea -/

/-- `_TEA_PATTERN_BYTE`. -/
def teaPatternByte : ℤ := 1

/-- `_TEA_SIPHON_CAP`: the wire volume of a steep in ml. -/
def teaSiphonCap : ℤ := 90

/-- The sub-step loop of `_build_tea_payload`: 127 ml at a time while more than 127 ml remain, then
the rest if there is any. -/
def teaSubSteps (pour : PourStep) (remaining : ℤ) : Except PyErr (List (List UInt8)) :=
  if 127 < remaining then do
    let step ← packBBBB 127 pour.temperature teaPatternByte pour.vibration.code
    return step :: (← teaSubSteps pour (remaining - 127))
  else if 0 < remaining then do
    return [← packBBBB remaining pour.temperature teaPatternByte pour.vibration.code]
  else .ok []
termination_by remaining.toNat
decreasing_by omega

/-- The soak byte: `max(1, min(round(pausing * 0.6), 255))`. -/
def soakByte (pausing : ℤ) : Except PyErr ℤ := do
  let scaled ← ((← PyFloat.ofInt pausing).mul (.fin (3 / 5))).round
  return max 1 (min scaled 255)

/-- The timing block of a steep: `[0, soak, rpm (first pour only), flow × 10]`. -/
def teaTimingBlock (rpm : ℤ) (i : ℕ) (pour : PourStep) : Except PyErr (List UInt8) := do
  let soak ← soakByte pour.pausing
  let flow ← (pour.flowRate.mul 10).toInt
  let soak ← packB soak
  return [0, soak, if i = 0 then maskByte rpm else 0, maskByte flow]

/-- The blocks of the steeps from index `i` on. -/
def teaBlocks (rpm : ℤ) : ℕ → List PourStep → Except PyErr (List (List UInt8))
  | _, [] => .ok []
  | i, pour :: rest => do
    let steps ← teaSubSteps pour (min pour.volume teaSiphonCap)
    let timing ← teaTimingBlock rpm i pour
    return steps ++ [timing] ++ (← teaBlocks rpm (i + 1) rest)

/-- The footer's second byte for tea: the ratio in tenths, truncated and masked. -/
def teaRatioByte (recipe : XBloomRecipe) : Except PyErr UInt8 := do
  let dose ← recipe.beanWeight.toInt
  if 0 < dose then do
    let ratio ← PyFloat.divInt recipe.totalWater dose
    return maskByte (← (ratio.mul 10).toInt)
  else .ok 0

/-- `_build_tea_payload`. -/
def buildTeaPayload (recipe : XBloomRecipe) : Except PyErr (List UInt8) := do
  let body := (← teaBlocks recipe.rpm 0 recipe.pours).flatten
  let footer := [maskByte recipe.grindSize, ← teaRatioByte recipe]
  return [← packB body.length] ++ body ++ footer

/-! ## Coffee -/

/-- `sum(p.volume for p in recipe.pours)`. -/
def pourSum (recipe : XBloomRecipe) : ℤ := (recipe.pours.map PourStep.volume).sum

/-- `(total_water / dose) if dose > 0 else 0`. -/
def coffeeRatio (recipe : XBloomRecipe) : Except PyErr PyFloat :=
  if PyFloat.lt 0 recipe.beanWeight then do
    (← PyFloat.ofInt (pourSum recipe)).div recipe.beanWeight
  else .ok 0

/-- `math.ceil(ratio * 10)`, before the clamp. -/
def ratioTenths (recipe : XBloomRecipe) : Except PyErr ℤ := do
  ((← coffeeRatio recipe).mul 10).ceil

/-- `_build_coffee_recipe_payload`: the vendored blob with the footer's second byte replaced. -/
def buildCoffeeRecipePayload (recipe : XBloomRecipe) : Except PyErr (List UInt8) := do
  let vendored ← buildRecipePayload recipe
  let bodyContent := (vendored.drop 1).dropLast.dropLast
  let ratioByte ← packB (min (← ratioTenths recipe) 255)
  let footer := [maskByte recipe.grindSize, ratioByte]
  return [← packB bodyContent.length] ++ bodyContent ++ footer

/-! ## The arm chains' other steps -/

/-- `is_tea_recipe`. -/
def isTeaRecipe (recipe : XBloomRecipe) : Bool := recipe.cupType == CupType.tea.code

/-- `grinding` in `_async_arm_coffee`. -/
def grinding (recipe : XBloomRecipe) : Bool :=
  decide (0 < recipe.grindSize) && PyFloat.lt 0 recipe.beanWeight

/-- `dose` in `_async_arm_coffee`: the bean weight in whole grams. -/
def armDose (recipe : XBloomRecipe) : Except PyErr ℤ :=
  if PyFloat.lt 0 recipe.beanWeight then recipe.beanWeight.toInt else .ok 0

/-- The words of the coffee chain's 8102. -/
def coffeeBypassArgs (recipe : XBloomRecipe) (bypassVolume bypassTemperature : PyFloat) :
    Except PyErr (List Arg) := do
  bypassArgs bypassVolume bypassTemperature (← armDose recipe)

/-- The cup bounds `(max, min)` of a coffee chain's 8104, by vessel; the grind tables keep a 40 g
minimum, the no-grind ones none. -/
def coffeeCupBounds (recipe : XBloomRecipe) : PyFloat × PyFloat :=
  let cup := recipe.cupType
  if cup = 1 then (80, if grinding recipe then 40 else 0)
  else if cup = 2 ∨ cup = 3 then (90, if grinding recipe then 40 else 0)
  else (90, 40)

/-- The opcode of the coffee chain's last step. -/
def recipeCommand (recipe : XBloomRecipe) : Command :=
  if grinding recipe then .recipeSendAuto else .recipeSendManual

/-! ## The shape of a coffee payload -/

theorem dropLast_dropLast_append_pair {α : Type} (l : List α) (a b : α) :
    (l ++ [a, b]).dropLast.dropLast = l := by
  rw [show l ++ [a, b] = (l ++ [a]) ++ [b] by simp, List.dropLast_concat, List.dropLast_concat]

/-- **What the vendored builder returns**, taken apart. -/
theorem buildRecipePayload_eq_ok {recipe : XBloomRecipe} {vendored : List UInt8}
    (h : buildRecipePayload recipe = .ok vendored) :
    ∃ blocks len water, pourBlocks recipe.rpm 0 recipe.pours = .ok blocks ∧
      packB blocks.flatten.length = .ok len ∧
      vendored = len :: (blocks.flatten ++ [maskByte recipe.grindSize, water]) := by
  unfold buildRecipePayload at h
  obtain ⟨blocks, hblocks, h⟩ := bind_eq_ok.mp h
  obtain ⟨len, hlen, h⟩ := bind_eq_ok.mp h
  refine ⟨blocks, len, maskByte (recipe.totalWater * 10), hblocks, hlen, ?_⟩
  have heq := Except.ok.inj h
  rw [← heq]
  rfl

/-- **What the coffee builder returns**: the length of the body, the body the vendored builder
made, the grind size and the ratio byte. -/
theorem buildCoffeeRecipePayload_eq_ok {recipe : XBloomRecipe} {payload : List UInt8}
    (h : buildCoffeeRecipePayload recipe = .ok payload) :
    ∃ blocks len tenths ratioByte, pourBlocks recipe.rpm 0 recipe.pours = .ok blocks ∧
      packB blocks.flatten.length = .ok len ∧ ratioTenths recipe = .ok tenths ∧
      packB (min tenths 255) = .ok ratioByte ∧
      payload = len :: (blocks.flatten ++ [maskByte recipe.grindSize, ratioByte]) := by
  unfold buildCoffeeRecipePayload at h
  obtain ⟨vendored, hvendored, h⟩ := bind_eq_ok.mp h
  obtain ⟨blocks, len, water, hblocks, hlen, rfl⟩ := buildRecipePayload_eq_ok hvendored
  have hbody : ((len :: (blocks.flatten ++ [maskByte recipe.grindSize, water])).drop
      1).dropLast.dropLast = blocks.flatten := by
    rw [List.drop_succ_cons, List.drop_zero, dropLast_dropLast_append_pair]
  simp only [hbody] at h
  obtain ⟨tenths, htenths, h⟩ := bind_eq_ok.mp h
  obtain ⟨ratioByte, hratio, h⟩ := bind_eq_ok.mp h
  obtain ⟨len', hlen', h⟩ := bind_eq_ok.mp h
  rw [hlen] at hlen'
  cases hlen'
  refine ⟨blocks, len, tenths, ratioByte, hblocks, hlen, htenths, hratio, ?_⟩
  have heq := Except.ok.inj h
  rw [← heq]
  rfl

end XBloom.Brewing
