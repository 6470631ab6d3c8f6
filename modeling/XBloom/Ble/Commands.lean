/-
# XBloom.Ble.Commands — the commands the integration writes to the machine, with their arguments

A command is a 16-bit id followed by 4-byte words (`build_packet`) or a raw blob
(`build_packet_raw`).  The framing around it (header, length, CRC) is the same for all of them and
plays no part in what a command *does*, so a `Packet` here is the id with its words.

`_bypass_args` and `_cup_args` reinterpret a single-precision float's bits as such a word; the word
is kept as the float it encodes.
-/
import XBloom.Py.Number

namespace XBloom.Ble

open XBloom.Py

/-! ## Command ids -/

/-- The members of `Command` that the modelled flows send. -/
inductive Command where
  | handshake
  | grinderStart
  | grinderStop
  | brewerStart
  | brewerStop
  | brewerSetTemperature
  | waterSourceSet
  | teaRecipeMake
  | teaRecipeCode
  | recipeSendAuto
  | recipeExecute
  | recipeSendManual
  | grinderIn
  | brewerIn
  | grinderQuit
  | brewerQuit
  | brewerSetPattern
  | grinderPause
  | brewerPause
  | grinderRestart
  | brewerRestart
  | recipeStartQuit
  | backToHome
  | setBypass
  | setCup
  | recipePause
  | recipeStop
  | recipeRestart
  | calibrateGrinder
  | scaleIn
  | scaleQuit
  | scaleTare
  /-- 8005, which the source has as a number. -/
  | weightUnitSet
  /-- 8010, likewise. -/
  | tempUnitSet
  deriving DecidableEq, Repr

namespace Command

/-- The id on the wire. -/
def code : Command → ℕ
  | handshake => 8100
  | grinderStart => 3500
  | calibrateGrinder => 3502
  | grinderStop => 3505
  | brewerStart => 4506
  | brewerStop => 4507
  | waterSourceSet => 4508
  | brewerSetTemperature => 4510
  | teaRecipeMake => 4512
  | teaRecipeCode => 4513
  | recipeSendAuto => 8001
  | recipeExecute => 8002
  | scaleIn => 8003
  | recipeSendManual => 8004
  | weightUnitSet => 8005
  | grinderIn => 8006
  | brewerIn => 8007
  | tempUnitSet => 8010
  | grinderQuit => 8012
  | brewerQuit => 8013
  | scaleQuit => 8014
  | brewerSetPattern => 8016
  | recipeStartQuit => 8017
  | grinderPause => 8018
  | brewerPause => 8019
  | grinderRestart => 8020
  | brewerRestart => 8021
  | backToHome => 8022
  | setBypass => 8102
  | setCup => 8104
  | scaleTare => 8500
  | recipePause => 40518
  | recipeStop => 40519
  | recipeRestart => 40524

/-- No two commands share an id, so naming a command by its constructor loses nothing. -/
theorem code_injective : Function.Injective code := by
  intro a b h
  cases a <;> cases b <;> first | rfl | (exact absurd h (by decide))

end Command

/-! ## Packets -/

/-- One 4-byte word: an integer, or the bit pattern of a single-precision float. -/
inductive Arg where
  | int (n : ℤ)
  | f32 (x : PyFloat)
  deriving DecidableEq, Repr

/-- A command with its words, or with a raw blob in their place. -/
structure Packet where
  command : Command
  args : List Arg := []
  raw : List UInt8 := []
  deriving DecidableEq, Repr

/-- From this magnitude on `struct.pack("<f", x)` refuses a finite `x`. -/
def f32OverflowBound : ℚ := 2 ^ 128 - 2 ^ 103

/-- `struct.unpack("<I", struct.pack("<f", x))[0]`. -/
def packF32 : PyFloat → Except PyErr Arg
  | .fin q => if |q| < f32OverflowBound then .ok (.f32 (.fin q)) else .error .overflowError
  | x => .ok (.f32 x)

/-- `XBloomClient._cup_args`. -/
def cupArgs (f1 f2 : PyFloat) : Except PyErr (List Arg) := do
  let b1 ← packF32 f1
  let b2 ← packF32 f2
  return [b1, b2]

/-- `XBloomClient._bypass_args`: volume, temperature × 10, and the dose in whole grams. -/
def bypassArgs (volume temp : PyFloat) (dose : ℤ) : Except PyErr (List Arg) := do
  let volBits ← packF32 volume
  let tempBits ← packF32 (temp.mul 10)
  return [volBits, tempBits, .int dose]

/-- The third word of an 8102 is the dose it was built with. -/
theorem bypassArgs_dose {volume temp : PyFloat} {dose : ℤ} {args : List Arg}
    (h : bypassArgs volume temp dose = .ok args) : args[2]? = some (.int dose) := by
  unfold bypassArgs at h
  obtain ⟨volBits, _, h⟩ := bind_eq_ok.mp h
  obtain ⟨tempBits, _, h⟩ := bind_eq_ok.mp h
  have hargs : [volBits, tempBits, Arg.int dose] = args := Except.ok.inj h
  rw [← hargs]
  rfl

end XBloom.Ble
