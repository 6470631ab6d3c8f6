/-
# XBloom.Ble.Writes — concurrent sends on one client, chunk by chunk

A packet longer than one chunk is written with an `await` between its chunks, and nothing keeps
another send from writing there.  `packets_stay_whole` says when the bytes on the characteristic are
complete packets one after another: when no send writes while another one stands between two of its
chunks, and no write but a last one fails.  `sends_interleave` shows what happens otherwise.
-/
import XBloom.Async.Pools
import XBloom.Ble.Framing

namespace XBloom.Ble.Writes

open XBloom.Async XBloom.Logic XBloom.Py

/-! ## Sends -/

/-- The transport of a client. -/
structure Link where
  connected : Bool
  mtuSize : Option ℤ := none
  deriving DecidableEq, Repr

/-- `getattr(self._client, "mtu_size", None) or 23`. -/
def Link.mtu (l : Link) : ℤ :=
  match l.mtuSize with
  | some n => if n = 0 then 23 else n
  | none => 23

/-- The arguments of a send: words for `build_packet`, bytes for `build_packet_raw`. -/
inductive Payload where
  | words (data : List ℤ)
  | raw (data : Bytes)
  deriving DecidableEq, Repr

/-- `_send_command`, `_send_command_raw`, or `send_and_wait` of either. -/
structure Send where
  command : ℤ
  payload : Payload
  deviceId : ℤ := 1
  typeCode : ℤ := 1
  waits : Bool := false
  deriving DecidableEq, Repr

/-- The packet of a send. -/
def Send.packet (s : Send) : Except PyErr Bytes :=
  match s.payload with
  | .words data => buildPacket s.command data s.typeCode s.deviceId
  | .raw data => buildPacketRaw s.command data s.typeCode s.deviceId

theorem Send.isPacket {s : Send} {packet : Bytes} (h : s.packet = .ok packet) : IsPacket packet := by
  unfold Send.packet at h
  split at h
  · exact isPacket_of_buildPacket h
  · exact ⟨_, _, _, _, h⟩

/-- Where a send waits: for a chunk's `write_gatt_char`, with these chunks left, or for the echo. -/
inductive Await where
  | written (left : List Bytes)
  | acked
  deriving DecidableEq, Repr

/-- How an await ends. -/
inductive Response where
  | done
  | failed
  deriving DecidableEq, Repr

/-- The `async` functions of a client; what they emit are chunks. -/
abbrev Async (α : Type) := Routine Link Bytes Await Response PyErr α

/-- `for chunk in chunks: await self._client.write_gatt_char(...)`. -/
def writeChunks : List Bytes → Async Unit
  | [] => pure ()
  | chunk :: left => do
    Routine.emit chunk
    let r ← Routine.await (.written left)
    if r = .failed then throw .connectionError else writeChunks left

/-- `HABleakConnection.write_command`. -/
def writeCommand (data : Bytes) : Async Unit := do
  let link ← Routine.world
  if link.connected then writeChunks (splitWriteChunks data link.mtu) else throw .connectionError

/-- `_send_command` and `_send_command_raw`. -/
def sendCommand (s : Send) : Async Unit := do
  let link ← Routine.world
  if link.connected then do
    let packet ← Routine.lift s.packet
    writeCommand packet
  else throw .connectionError

/-- The echo that `send_and_wait` waits for. -/
def awaitAck : Async Unit := do
  let r ← Routine.await .acked
  if r = .failed then throw .ackTimeout else pure ()

/-- A send. -/
def Send.routine (s : Send) : Async Unit := do
  sendCommand s
  Routine.when s.waits awaitAck

/-- What happens around the sends. -/
inductive Move where
  | linked (connected : Bool)
  | negotiated (mtuSize : Option ℤ)
  deriving DecidableEq, Repr

/-- **The sends of a client**: any number of them at once. -/
def system : System Link Bytes Await Response Send Move where
  program s := s.routine.run.bind fun _ => .ret ()
  enabled _ _ := true
  move link
    | .linked connected => { link with connected := connected }
    | .negotiated mtuSize => { link with mtuSize := mtuSize }

/-- The pools, steps and turns of a client. -/
abbrev WritePool := Pool Link Bytes Await Response Send
abbrev WriteAction := Action Response Send Move
abbrev WriteTurn := Turn Link Bytes Await Response Send
abbrev WriteTask := Suspended Link Bytes Await Response Send
abbrev WriteCo := Co Link Bytes Await Response Unit

/-- The byte sequence on the characteristic. -/
def written (tr : Trace Send Bytes) : Bytes := (tr.map Entry.event).flatten

/-! ## What is left of a send -/

/-- Writing nothing more. -/
def silentFootprint : Footprint Link Bytes Await where
  awaits l := l = .acked
  emits _ := False
  writes _ _ := False

/-- A send that writes nothing more. -/
abbrev Silent (x : WriteCo) : Prop := x.Within silentFootprint

/-- A send with these chunks left: they are written one by one, and a failed write ends it. -/
def Rest : List Bytes → WriteCo → Prop
  | [], x => Silent x
  | chunk :: left, x =>
    ∃ k, x = .emit chunk (.await (.written left) k) ∧ Silent (k .failed) ∧ Rest left (k .done)

theorem awaitAck_silent (b : Bool) : Within silentFootprint (Routine.when b awaitAck) := by
  refine .when (.bind (.await rfl) fun r => ?_)
  split
  · exact .throw _
  · exact .pure _

theorem writeChunks_rest (b : Bool) (chunks : List Bytes) :
    Rest chunks ((writeChunks chunks >>= fun _ => Routine.when b awaitAck).run.bind fun _ =>
      .ret ()) := by
  induction chunks with
  | nil => exact Co.Within.bind (awaitAck_silent b) fun _ => trivial
  | cons chunk left ih => exact ⟨_, rfl, trivial, ih⟩

/-- **A send begins** by writing its first chunk, or it writes nothing at all. -/
theorem routine_segment (s : Send) (link : Link) :
    ((system.program s).segment link = (link, [], .done ())) ∨
      ∃ packet chunk left k, s.packet = .ok packet ∧ (chunk :: left).flatten = packet ∧
        (system.program s).segment link = (link, [chunk], .waits (.written left) k) ∧
        Silent (k .failed) ∧ Rest left (k .done) := by
  have hprogram : (system.program s).segment link =
      ((((if link.connected then do
            let packet ← Routine.lift s.packet
            writeCommand packet
          else throw .connectionError : Async Unit) >>= fun _ =>
        Routine.when s.waits awaitAck).run.bind fun _ => .ret () : WriteCo)).segment link := rfl
  rw [hprogram]
  cases hconnected : link.connected with
  | false => exact Or.inl rfl
  | true =>
    cases hpacket : s.packet with
    | error e => exact Or.inl rfl
    | ok packet =>
      -- the link is read once more, by `write_command`, with nothing in between
      obtain ⟨chunk, left, hchunks⟩ := List.exists_cons_of_ne_nil
        (splitWriteChunks_ne_nil (Send.isPacket hpacket).ne_nil link.mtu)
      obtain ⟨k, hk, hfailed, hrest⟩ := writeChunks_rest s.waits (chunk :: left)
      refine Or.inr ⟨packet, chunk, left, k, rfl, ?_, ?_, hfailed, hrest⟩
      · rw [← hchunks, splitWriteChunks_flatten]
      · show ((((if link.connected then writeChunks (splitWriteChunks packet link.mtu)
            else throw .connectionError : Async Unit) >>= fun _ =>
          Routine.when s.waits awaitAck).run.bind fun _ => .ret () : WriteCo)).segment link = _
        rw [if_pos hconnected, hchunks, hk]
        rfl

/-! ## Pools of sends -/

/-- The chunks a suspended send has left. -/
def left (τ : WriteTask) : List Bytes :=
  match τ.label with
  | .written chunks => chunks
  | .acked => []

/-- A suspended send goes on as `Rest` says. -/
def Continues (τ : WriteTask) : Prop :=
  match τ.label with
  | .written chunks => Silent (τ.resume .failed) ∧ Rest chunks (τ.resume .done)
  | .acked => ∀ r, Silent (τ.resume r)

/-- **The bytes so far**: complete packets of sends that were made, then part of the packet of the one
send that stands between two of its chunks, if there is one. -/
structure WholeSoFar (p : WritePool) (packets : List (Send × Bytes)) (part : Bytes) : Prop where
  built : ∀ x ∈ packets, x.1.packet = .ok x.2 ∧ ∃ e ∈ p.trace, e.call = x.1
  bytes : written p.trace = (packets.map Prod.snd).flatten ++ part
  midway : (part = [] ∧ ∀ t τ, p.tasks t = some τ → left τ = []) ∨
    ∃ t τ packet, p.tasks t = some τ ∧ left τ ≠ [] ∧ τ.call.packet = .ok packet ∧
      part ++ (left τ).flatten = packet ∧
        ∀ t' τ', t' ≠ t → p.tasks t' = some τ' → left τ' = []

/-- A turn that writes: it begins a send, or goes on with the next chunk of one. -/
def Writing (turn : WriteTurn) : Prop :=
  turn.resumed = none ∨ ∃ chunk chunks r, turn.resumed = some (.written (chunk :: chunks), r)

/-- **A step that divides no packet**: no send writes while another one stands between two of its
chunks, and no write fails before a packet's last. -/
structure Undivided (p : WritePool) (a : WriteAction) : Prop where
  alone : ∀ turn, p.turn system a = some turn → Writing turn →
    ∀ t τ, t ≠ turn.task → p.tasks t = some τ → left τ = []
  unbroken : ∀ turn chunk chunks, p.turn system a = some turn →
    turn.resumed ≠ some (.written (chunk :: chunks), .failed)

/-- What every run that divides no packet keeps. -/
structure Kept (p : WritePool) : Prop where
  numbered : Numbered p
  continues : ∀ t τ, p.tasks t = some τ → Continues τ
  whole : ∃ packets part, WholeSoFar p packets part

variable {p p' : WritePool} {t : ℕ} {packets : List (Send × Bytes)} {part : Bytes}

theorem written_append (tr tr' : Trace Send Bytes) : written (tr ++ tr') = written tr ++ written tr' := by
  simp [written]

/-- Nothing is written, by a send that has no chunks left. -/
theorem WholeSoFar.quiet (h : WholeSoFar p packets part) (htrace : p'.trace = p.trace)
    (hbefore : ∀ τ, p.tasks t = some τ → left τ = []) (hafter : ∀ τ, p'.tasks t = some τ → left τ = [])
    (hothers : ∀ t', t' ≠ t → p'.tasks t' = p.tasks t') : WholeSoFar p' packets part where
  built := by
    rw [htrace]
    exact h.built
  bytes := by
    rw [htrace]
    exact h.bytes
  midway := by
    rcases h.midway with ⟨hpart, hnone⟩ | ⟨t', τ, packet, hτ, hleft, hpacket, hsplit, hnone⟩
    · refine Or.inl ⟨hpart, fun t' τ hτ => ?_⟩
      by_cases ht : t' = t
      · exact hafter τ (ht ▸ hτ)
      · exact hnone t' τ (hothers t' ht ▸ hτ)
    · -- the send that stands midway is another one
      have ht : t' ≠ t := fun ht => hleft (hbefore τ (ht ▸ hτ))
      refine Or.inr ⟨t', τ, packet, (hothers t' ht).trans hτ, hleft, hpacket, hsplit, ?_⟩
      intro t'' τ'' hne hτ''
      by_cases ht'' : t'' = t
      · exact hafter τ'' (ht'' ▸ hτ'')
      · exact hnone t'' τ'' hne (hothers t'' ht'' ▸ hτ'')

/-- **A chunk is written** by the only send that is under way. -/
theorem WholeSoFar.writes {s : Send} {chunk packet : Bytes} {chunks : List Bytes} {τ : WriteTask}
    (h : WholeSoFar p packets part) (hpacket : s.packet = .ok packet)
    (hsplit : part ++ (chunk :: chunks).flatten = packet)
    (hnone : ∀ t' τ', t' ≠ t → p.tasks t' = some τ' → left τ' = [])
    (htrace : p'.trace = p.trace ++ [⟨t, s, chunk⟩]) (hτ : p'.tasks t = some τ)
    (hcall : τ.call = s) (hleft : left τ = chunks)
    (hothers : ∀ t', t' ≠ t → p'.tasks t' = p.tasks t') :
    ∃ packets' part', WholeSoFar p' packets' part' := by
  have hbytes : written p'.trace = (packets.map Prod.snd).flatten ++ (part ++ chunk) := by
    rw [htrace, written_append, h.bytes]
    simp [written]
  have hbuilt : ∀ x ∈ packets, x.1.packet = .ok x.2 ∧ ∃ e ∈ p'.trace, e.call = x.1 := by
    intro x hx
    obtain ⟨hx, e, he, hcall⟩ := h.built x hx
    exact ⟨hx, e, by rw [htrace]; exact List.mem_append_left _ he, hcall⟩
  have hnone' : ∀ t' τ', t' ≠ t → p'.tasks t' = some τ' → left τ' = [] :=
    fun t' τ' hne hτ' => hnone t' τ' hne (hothers t' hne ▸ hτ')
  cases chunks with
  | nil =>
    -- the last chunk completes the packet
    refine ⟨packets ++ [(s, packet)], [], ⟨fun x hx => ?_, ?_, Or.inl ⟨rfl, fun t' τ' hτ' => ?_⟩⟩⟩
    · rcases List.mem_append.mp hx with hx | hx
      · exact hbuilt x hx
      · rw [List.mem_singleton.mp hx]
        exact ⟨hpacket, ⟨t, s, chunk⟩, by rw [htrace]; simp, rfl⟩
    · rw [hbytes, ← hsplit]
      simp
    · by_cases ht : t' = t
      · rw [ht, hτ] at hτ'
        rw [← Option.some.inj hτ', hleft]
      · exact hnone' t' τ' ht hτ'
  | cons next rest =>
    refine ⟨packets, part ++ chunk, ⟨hbuilt, hbytes, Or.inr ⟨t, τ, packet, hτ, ?_, ?_, ?_, hnone'⟩⟩⟩
    · rw [hleft]
      exact List.cons_ne_nil _ _
    · rw [hcall, hpacket]
    · rw [hleft, ← hsplit]
      simp

/-! ## Steps -/

theorem silent_segment {s : Send} {x : WriteCo} (h : Silent x) (link : Link) :
    ∃ stop, x.segment link = (link, [], stop) ∧
      ∀ τ, Pool.residue s stop = some τ → left τ = [] ∧ Continues τ := by
  induction x with
  | ret a => exact ⟨_, rfl, fun τ hτ => by cases hτ⟩
  | read k ih => exact ih link (h link)
  | write f k ih => exact (h.1 link).elim
  | emit e k ih => exact h.1.elim
  | await l k ih =>
    refine ⟨_, rfl, fun τ hτ => ?_⟩
    obtain rfl : l = .acked := h.1
    cases hτ
    exact ⟨rfl, h.2⟩

/-- What a turn of a send does: it writes nothing and has no chunks left, or it writes a chunk. -/
inductive TurnKind (p : WritePool) (turn : WriteTurn) : Prop where
  | silent (hbefore : ∀ τ, p.tasks turn.task = some τ → left τ = [])
      (hsegment : ∃ stop, turn.body.segment p.world = (p.world, [], stop) ∧
        ∀ τ, Pool.residue turn.call stop = some τ → left τ = [] ∧ Continues τ)
  | writes (chunk : Bytes) (chunks : List Bytes) (k : Response → WriteCo) (hwriting : Writing turn)
      (hbefore : (p.tasks turn.task = none ∧ turn.call.packet = .ok (chunk :: chunks).flatten) ∨
        ∃ τ, p.tasks turn.task = some τ ∧ τ.call = turn.call ∧ left τ = chunk :: chunks)
      (hsegment : turn.body.segment p.world = (p.world, [chunk], .waits (.written chunks) k))
      (hfailed : Silent (k .failed)) (hdone : Rest chunks (k .done))

theorem turn_kind {a : WriteAction} {turn : WriteTurn} (h : Kept p) (ha : Undivided p a)
    (hturn : p.turn system a = some turn) : TurnKind p turn := by
  rcases Pool.turn_cases hturn with ⟨htask, hresumed, hbody, _⟩ | ⟨τ, r, hτ, hcall, hresumed, hbody, _⟩
  · -- a first turn: numbers are given once, so the task is new
    have hnew : p.tasks turn.task = none := by
      cases hτ : p.tasks turn.task with
      | none => rfl
      | some τ => exact absurd (h.numbered.tasks _ τ hτ) (by omega)
    rcases routine_segment turn.call p.world with hsegment | ⟨packet, chunk, chunks, k, hpacket,
      rfl, hsegment, hfailed, hdone⟩
    · rw [← hbody] at hsegment
      refine .silent (fun τ hτ => ?_) ⟨_, hsegment, fun τ hres => by cases hres⟩
      rw [hnew] at hτ
      cases hτ
    · rw [← hbody] at hsegment
      exact .writes chunk chunks k (Or.inl hresumed) (Or.inl ⟨hnew, hpacket⟩) hsegment hfailed hdone
  · -- a later turn goes on where its label says
    have hcontinues := h.continues _ τ hτ
    have hquiet : left τ = [] → Silent turn.body → TurnKind p turn := by
      intro hleft hsilent
      refine .silent (fun τ' hτ' => ?_) (silent_segment hsilent p.world)
      rw [hτ] at hτ'
      rw [← Option.some.inj hτ', hleft]
    unfold Continues at hcontinues
    cases hlabel : τ.label with
    | acked =>
      rw [hlabel] at hcontinues
      exact hquiet (by rw [left, hlabel]) (hbody ▸ hcontinues r)
    | written chunks =>
      rw [hlabel] at hcontinues hresumed
      obtain ⟨hfailed, hdone⟩ := hcontinues
      have hleft : left τ = chunks := by rw [left, hlabel]
      cases chunks with
      | nil =>
        refine hquiet hleft (hbody ▸ ?_)
        cases r with
        | done => exact hdone
        | failed => exact hfailed
      | cons chunk chunks =>
        cases r with
        -- a write that fails between two chunks would divide the packet
        | failed => exact absurd hresumed (ha.unbroken turn chunk chunks hturn)
        | done =>
          obtain ⟨k, hk, hfailed, hdone⟩ := hdone
          refine .writes chunk chunks k (Or.inr ⟨chunk, chunks, .done, hresumed⟩)
            (Or.inr ⟨τ, hτ, hcall.symm, hleft⟩) ?_ hfailed hdone
          rw [hbody, hk]
          rfl

/-- **A step that divides no packet** keeps the bytes whole. -/
theorem Kept.step {a : WriteAction} (h : Kept p) (ha : Undivided p a) : Kept (p.step system a) := by
  obtain ⟨packets, part, hwhole⟩ := h.whole
  cases hturn : p.turn system a with
  | none =>
    obtain ⟨htrace, htasks⟩ := Pool.step_of_no_turn hturn
    refine ⟨h.numbered.step a, fun t τ hτ => h.continues t τ (htasks ▸ hτ), packets, part, ?_⟩
    refine ⟨by rw [htrace]; exact hwhole.built, by rw [htrace]; exact hwhole.bytes, ?_⟩
    rw [htasks]
    exact hwhole.midway
  | some turn =>
    obtain ⟨_, htrace, htasks⟩ := Pool.step_of_turn hturn
    have hothers : ∀ t', t' ≠ turn.task → (p.step system a).tasks t' = p.tasks t' := by
      intro t' hne
      rw [htasks, Function.update_of_ne hne]
    have hself : (p.step system a).tasks turn.task =
        Pool.residue turn.call (turn.body.segment p.world).2.2 := by
      rw [htasks, Function.update_self]
    have hcontinues : (∀ τ, Pool.residue turn.call (turn.body.segment p.world).2.2 = some τ →
        Continues τ) → ∀ t τ, (p.step system a).tasks t = some τ → Continues τ := by
      intro hres t τ hτ
      by_cases ht : t = turn.task
      · rw [ht, hself] at hτ
        exact hres τ hτ
      · exact h.continues t τ (hothers t ht ▸ hτ)
    rcases turn_kind h ha hturn with ⟨hbefore, stop, hsegment, hstop⟩ |
      ⟨chunk, chunks, k, hwriting, hbefore, hsegment, hfailed, hdone⟩
    · rw [hsegment] at htrace hself hcontinues
      refine ⟨h.numbered.step a, hcontinues fun τ hτ => (hstop τ hτ).2, packets, part, ?_⟩
      refine hwhole.quiet (by rw [htrace]; exact List.append_nil _) hbefore (fun τ hτ => ?_) hothers
      rw [hself] at hτ
      exact (hstop τ hτ).1
    · rw [hsegment] at htrace hself hcontinues
      have hnone := ha.alone turn hturn hwriting
      refine ⟨h.numbered.step a, hcontinues fun τ hτ => ?_, ?_⟩
      · cases hτ
        exact ⟨hfailed, hdone⟩
      -- the packet under way is that of this turn
      obtain ⟨packet, hpacket, hsplit⟩ : ∃ packet, turn.call.packet = .ok packet ∧
          part ++ (chunk :: chunks).flatten = packet := by
        rcases hwhole.midway with ⟨rfl, hall⟩ | ⟨t, τ, packet, hτ, hleft, hpacket, hsplit, _⟩
        · rcases hbefore with ⟨_, hpacket⟩ | ⟨τ, hτ, _, hleft⟩
          · exact ⟨_, hpacket, rfl⟩
          · exact absurd (hleft.symm.trans (hall _ τ hτ)) (List.cons_ne_nil _ _)
        · have ht : t = turn.task := by
            by_contra hne
            exact hleft (hnone t τ hne hτ)
          rcases hbefore with ⟨hnew, _⟩ | ⟨τ', hτ', hcall, hleft'⟩
          · rw [← ht, hτ] at hnew
            cases hnew
          · rw [← ht, hτ] at hτ'
            obtain rfl : τ = τ' := Option.some.inj hτ'
            rw [hleft'] at hsplit
            exact ⟨packet, hcall ▸ hpacket, hsplit⟩
      exact hwhole.writes hpacket hsplit hnone htrace hself rfl rfl hothers

/-- **When packets stay whole.**  In every run of a client's sends whose steps divide no packet, the
bytes on the characteristic are the complete packets of some sends that were made, one after another,
and then at most the first part of one packet that is still being written; and whatever the MTU, the
chunks of a packet are of 1 to `max(20, min(100, mtu-3))` bytes and concatenate to it. -/
theorem packets_stay_whole (link : Link) (as : List WriteAction)
    (h : AllSteps (Pool.step system) Undivided (Pool.idle link) as) :
    (∃ packets part, WholeSoFar (run (Pool.step system) (Pool.idle link) as) packets part) ∧
      ∀ packet mtuSize, (splitWriteChunks packet mtuSize).flatten = packet ∧
        ∀ chunk ∈ splitWriteChunks packet mtuSize,
          1 ≤ chunk.length ∧ (chunk.length : ℤ) ≤ max 20 (min 100 (mtuSize - 3)) := by
  have hidle : Kept (Pool.idle link) := by
    refine ⟨numbered_idle link, fun t τ hτ => (by cases hτ), [], [], ?_⟩
    exact ⟨fun x hx => absurd hx List.not_mem_nil, rfl, Or.inl ⟨rfl, fun t τ hτ => (by cases hτ)⟩⟩
  refine ⟨(run_invariant (fun p a hp ha => hp.step ha) hidle h).whole, fun packet mtuSize => ?_⟩
  exact ⟨splitWriteChunks_flatten packet mtuSize, fun chunk hchunk => splitWriteChunks_length hchunk⟩

/-! ## Two sends -/

/-- A step that goes well, while every other send is between packets. -/
theorem undivided_done {a : WriteAction} (hnumbered : Numbered p)
    (ha : a = .resume t .done ∨ ∃ s, a = .spawn s ∧ t = p.spawned)
    (hall : ∀ t' < p.spawned, t' ≠ t → ((p.tasks t').map left).getD [] = []) : Undivided p a := by
  have hturns : ∀ turn, p.turn system a = some turn → turn.task = t ∧
      ∀ chunk chunks, turn.resumed ≠ some (.written (chunk :: chunks), .failed) := by
    intro turn hturn
    rcases Pool.turn_cases hturn with ⟨htask, hresumed, _, hspawn⟩ | ⟨τ, r, _, _, hresumed, _, hresume⟩
    · rcases ha with rfl | ⟨s, rfl, rfl⟩
      · cases hspawn
      · exact ⟨htask, fun _ _ => by simp [hresumed]⟩
    · rcases ha with rfl | ⟨s, rfl, _⟩
      · obtain ⟨rfl, rfl⟩ := Action.resume.inj hresume
        exact ⟨rfl, fun _ _ => by simp [hresumed]⟩
      · cases hresume
  refine ⟨fun turn hturn _ t' τ hne hτ => ?_, fun turn chunk chunks hturn => (hturns turn hturn).2 _ _⟩
  rw [(hturns turn hturn).1] at hne
  have hleft := hall t' (hnumbered.tasks t' τ hτ) hne
  rw [hτ] at hleft
  exact hleft

/-- The 8102 of a recipe chain, which waits for its echo. -/
def bypassSend : Send := { command := 8102, payload := .words [0, 0, 18], waits := true }

/-- A setpoint push. -/
def setpointSend : Send := { command := 4510, payload := .words [930] }

/-- The default MTU, until one is negotiated. -/
def freshLink : Link := { connected := true }

/-- One send after the other: the bytes are the two packets. -/
theorem sends_in_turn :
    ∃ packets part, WholeSoFar (run (Pool.step system) (Pool.idle freshLink) [.spawn bypassSend,
      .resume 0 .done, .resume 0 .done, .spawn setpointSend]) packets part := by
  have hidle : Numbered (Pool.idle freshLink : WritePool) := numbered_idle freshLink
  suffices hall : AllSteps (Pool.step system) Undivided (Pool.idle freshLink) [.spawn bypassSend,
      .resume 0 .done, .resume 0 .done, .spawn setpointSend] from (packets_stay_whole freshLink _ hall).1
  refine ⟨?_, ?_, ?_, ?_, trivial⟩
  · exact undivided_done hidle (Or.inr ⟨_, rfl, rfl⟩) fun t h => absurd h (Nat.not_lt_zero t)
  · exact undivided_done (hidle.step _) (Or.inl rfl) fun t h hne =>
      absurd (Nat.lt_one_iff.mp (h.trans_eq (by decide +kernel))) hne
  · exact undivided_done ((hidle.step _).step _) (Or.inl rfl) fun t h hne =>
      absurd (Nat.lt_one_iff.mp (h.trans_eq (by decide +kernel))) hne
  · refine undivided_done (((hidle.step _).step _).step _)
      (Or.inr ⟨_, rfl, rfl⟩) fun t h _ => ?_
    obtain rfl : t = 0 := Nat.lt_one_iff.mp (h.trans_eq (by decide +kernel))
    decide +kernel

/-- **Two sends interleave.**  The setpoint is written between the two chunks of the 8102.  Both sends
are written out and no write failed, but the bytes are not the two packets in either order, and what
the header and the length of the first packet frame is not that packet. -/
theorem sends_interleave :
    let p := run (Pool.step system) (Pool.idle freshLink)
      [.spawn bypassSend, .spawn setpointSend, .resume 1 .done, .resume 0 .done, .resume 0 .done]
    let bypass := bypassSend.packet.toOption.getD []
    let setpoint := setpointSend.packet.toOption.getD []
    p.trace.map Entry.task = [0, 1, 0] ∧ ((p.tasks 0).map left).getD [] = [] ∧
      (p.tasks 1).isNone = true ∧ bypass.length = 24 ∧ setpoint.length = 16 ∧
      written p.trace ≠ bypass ++ setpoint ∧ written p.trace ≠ setpoint ++ bypass ∧
      (takePacket (written p.trace)).1 ≠ bypass := by
  decide +kernel

end XBloom.Ble.Writes
