/-
# XBloom.Slots.State — the Easy Mode slots, the record of them, and what happens around a slot write

The machine has three slots and cannot be asked what is in them, so the integration keeps a record of
its own: `entry.options["easy_slots"]`, a uid and a name for each letter it has written.  The record
refers to recipes that come and go; the world below keeps both, next to the connection
(`XBloom.Coordinator.State`) and what each client has heard of the machine (`XBloom.Telemetry.Status`).
-/
import XBloom.Async.Solo
import XBloom.Coordinator.Prepare
import XBloom.Telemetry.Notification

namespace XBloom.Slots

open XBloom.Async XBloom.Py XBloom.Ble XBloom.Recipe XBloom.Brewing

/-! ## Slots -/

/-- `_SLOT_INDEX_BY_LETTER`'s keys. -/
inductive Letter where
  | a
  | b
  | c
  deriving DecidableEq, Repr

namespace Letter

/-- The key of a letter. -/
def name : Letter → String
  | a => "A"
  | b => "B"
  | c => "C"

/-- `_SLOT_INDEX_BY_LETTER`. -/
def index : Letter → UInt8
  | a => 0
  | b => 1
  | c => 2

/-- `("A", "B", "C")`. -/
def all : List Letter := [a, b, c]

theorem mem_all (l : Letter) : l ∈ all := by
  cases l <;> decide

theorem name_injective : Function.Injective name := by
  intro l l' h
  cases l <;> cases l' <;> first | rfl | exact absurd h (by decide)

/-- `slot_letter.strip().upper()`, if it is a letter. -/
def parse (slotLetter : String) : Option Letter :=
  let upper := (strip slotLetter).toUpper
  all.find? fun l => l.name = upper

end Letter

/-- A property of letters is decided letter by letter. -/
instance (p : Letter → Prop) [DecidablePred p] : Decidable (∀ l, p l) :=
  @decidable_of_iff _ (∀ l ∈ Letter.all, p l)
    ⟨fun h l => h l (Letter.mem_all l), fun h l _ => h l⟩ (List.decidableBAll p Letter.all)

/-- What the record says of a slot: the recipe's uid, and the name it had. -/
structure SlotEntry where
  uid : Option String
  name : String
  deriving DecidableEq, Repr

/-- An entry names a recipe by its uid. -/
def SlotEntry.Names (entry : SlotEntry) (raw : RecipeDict) : Prop :=
  entry.uid ≠ none ∧ raw.uid = entry.uid

instance (entry : SlotEntry) (raw : RecipeDict) : Decidable (entry.Names raw) :=
  inferInstanceAs (Decidable (_ ∧ _))

/-- A recipe dict with what `_build_recipe_from_yaml` makes of it. -/
structure SlotSource where
  raw : RecipeDict
  recipe : XBloomRecipe
  built : buildRecipeFromYaml raw = .ok recipe

/-- `slot_flags`, with `scale_on`. -/
def slotFlags (grinderOn : Bool) : UInt8 := (if grinderOn then 0x02 else 0x04) ||| 0x10

/-- The payload of a slot: its index, its flags, and the blob of an auto-brew. -/
def slotPayload (letter : Letter) (recipe : XBloomRecipe) : Except PyErr (List UInt8) := do
  let recipeBlob ← buildCoffeeRecipePayload recipe
  return [letter.index, slotFlags (grinding recipe)] ++ recipeBlob

/-- `order_payload`. -/
def orderPayload : List UInt8 := 3 :: Letter.all.map Letter.index

/-! ## Modes -/

/-- The keys of `_MODE_SWITCH_HEX`. -/
inductive Mode where
  | pro
  | easy
  deriving DecidableEq, Repr

/-- `_MODE_SWITCH_HEX`, as the bytes it shows. -/
def modeSwitchHex : Mode → Bytes
  | .pro => [0x00, 0x00, 0x00, 0x00]
  | .easy => [0x91, 0x32, 0x78, 0x56]

/-- `_MACHINE_INFO_MODE_EASY_HEX`. -/
def machineInfoModeEasyHex : Bytes := [0x91, 0x32, 0x78, 0x56]

/-- `_machine_mode`: the last acknowledgement, else the mode of the connect's MachineInfo. -/
def machineMode (s : Telemetry.DeviceStatus) : String :=
  match s.modeAckHex with
  | some ack => if ack = machineInfoModeEasyHex then "easy" else "pro"
  | none =>
    match s.modeBytes with
    | some raw =>
      if 55 ≤ raw.length ∧ (raw.drop 51).take 4 = machineInfoModeEasyHex then "easy" else "pro"
    | none => "pro"

/-! ## The world -/

/-- What the coordinator reads of a client's status. -/
def observed (s : Telemetry.DeviceStatus) : Coordinator.DeviceStatus where
  rawStateLabel := s.rawStateLabel.map fun
    | .starting => .starting
    | .brewing => .brewing
    | .waterShortage => .waterShortage
    | .noBeans => .noBeans
    | .awaitingConfirm => .awaitingConfirm
    | _ => .unread
  screen := s.screen.map screenOf
  lastPage := s.lastPage.map screenOf
  grinderRunning := s.grinder.isRunning
  brewerRunning := s.brewer.isRunning
  isSleeping := s.isSleeping
where
  /-- The pages the coordinator tells apart. -/
  screenOf : Telemetry.Page → Coordinator.Screen
    | .home => .home
    | .grind => .grind
    | .pour => .pour
    | _ => .unread

/-- The coordinator, what each client has parsed, the mode of the last poll next to the preferred one,
and the slot record. -/
structure World where
  coord : Coordinator.World
  telemetry : ℕ → Telemetry.Client := fun _ => {}
  mode : String := "pro"
  dataMode : String := "pro"
  easySlots : Dict String SlotEntry := Dict.empty

namespace World

/-- The coordinator moves on; a client that is new has heard nothing. -/
def setCoord (w : World) (coord : Coordinator.World) : World :=
  { w with
    coord := coord
    telemetry := fun c => if c < w.coord.clients.length then w.telemetry c else {} }

/-- A client has parsed something. -/
def setTelemetry (w : World) (c : ℕ) (client : Telemetry.Client) : World :=
  if c < w.coord.clients.length then
    { w with
      telemetry := Function.update w.telemetry c client
      coord := w.coord.setClient c fun known => { known with status := observed client.status } }
  else w

/-- `client.status.mode_ack_hex`. -/
def modeAckHex (w : World) (c : ℕ) : Option Bytes := (w.telemetry c).status.modeAckHex

/-- `self.client.is_sleeping()`. -/
def isSleeping (w : World) (c : ℕ) : Bool := (w.coord.status c).isSleeping

/-- `_async_update_data`, which may drop the link instead: then it returns `DEFAULT_STATE`. -/
def poll (w : World) (drops : Bool) : World :=
  match w.coord.client.filter w.coord.isConnected with
  | some c =>
    let s := (w.telemetry c).status
    if drops then { w with dataMode := "pro", coord := { w.coord with dataVersion := "" } }
    else { w with
      dataMode := if s.serialNumber ≠ "" then machineMode s else w.mode
      coord := w.coord.poll s.version }
  | none => { w with dataMode := "pro", coord := w.coord.poll "" }

end World

/-! ## The surroundings -/

/-- What happens around the calls: what `_on_notification` does with a buffer and with each frame in it,
events, links that break, the connects and disconnects of other tasks, polls, and what users do. -/
inductive Move where
  | scanned (c : ℕ) (raw : Bytes)
  | frame (c : ℕ) (frame : Bytes)
  | event (e : Coordinator.BleEvent)
  | linkLost (c : ℕ)
  | unexpectedDisconnect
  /-- `async_connect` makes its client. -/
  | connecting
  | linkUp (c : ℕ)
  /-- `async_disconnect`, in idle standby or not. -/
  | disconnect (standby : Bool)
  | poll (drops : Bool)
  | select (name : Option String)
  | store (op : StoreOp)
  /-- `async_set_mode` keeps its choice. -/
  | prefer (mode : String)

/-- One frame of `_on_notification`'s loop; where it raises, the status frame has been read. -/
def receiveFrame (client : Telemetry.Client) (frame : Bytes) : Telemetry.Client :=
  match Telemetry.Received.receive { client := client } frame with
  | .ok received => received.client
  | .error _ => client.scanForStatusFrame frame

/-- A new client that is not connected yet. -/
def newClient (coord : Coordinator.World) : Coordinator.World :=
  { coord with
    manualDisconnect := false, idleDisconnected := false
    clients := coord.clients ++ [{}], client := some coord.clients.length }

variable (I : Identifiers) (yaml : YamlLayer)

/-- The world after a move. -/
def World.move (w : World) : Move → World
  | .scanned c raw => w.setTelemetry c (Telemetry.preScan (w.telemetry c) raw).client
  | .frame c frame => w.setTelemetry c (receiveFrame (w.telemetry c) frame)
  | .event e => w.setCoord (w.coord.move I yaml (.event e))
  | .linkLost c => w.setCoord (w.coord.move I yaml (.linkLost c))
  | .unexpectedDisconnect => w.setCoord (w.coord.move I yaml .unexpectedDisconnect)
  | .connecting => w.setCoord (newClient w.coord)
  | .linkUp c => w.setCoord (w.coord.setClient c fun client => { client with connected := true })
  | .disconnect standby =>
    w.setCoord { w.coord with
      client := none, manualDisconnect := true
      idleDisconnected := w.coord.idleDisconnected || standby }
  | .poll drops => w.poll drops
  | .select name => w.setCoord (w.coord.move I yaml (.select name))
  | .store op => w.setCoord (w.coord.move I yaml (.store op))
  | .prefer mode => { w with mode := mode }

/-- `self.recipes`. -/
def World.recipes (w : World) : Dict String RecipeDict := w.coord.recipes yaml

/-- `easy_slot_contents`. -/
def World.easySlotContents (w : World) (letter : Letter) : Option SlotEntry :=
  w.easySlots.get? letter.name

end XBloom.Slots
