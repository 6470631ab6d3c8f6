/-
# XBloom.Info.Loops — how often the machine is asked again, and when

Whatever happens to the link, and in whatever order: two loops are never alive at a time, a loop re-sends
the handshake at most five times, and after the link has been given up nothing is re-sent until a connect
has created a loop of its own (`handshakes_bounded`).
-/
import XBloom.Info.Attempts

namespace XBloom.Info

open XBloom.Async XBloom.Logic

/-! ## What holds between segments -/

/-- The loop that has been created since the link was last given up. -/
def armed (tr : Trace LinkCall LinkEvent) : Option ℕ :=
  tr.foldl (fun loop e => match e.event with
    | .scheduled loop => some loop
    | .gaveUp => none
    | _ => loop) none

/-- How often a loop has re-sent the handshake. -/
def resentBy (loop : ℕ) (tr : Trace LinkCall LinkEvent) : ℕ :=
  tr.countP fun e => e.event.resentBy loop

/-- What a handshake that is re-sent finds: the loop was created since the link was last given up. -/
def FindsArmed (past : Trace LinkCall LinkEvent) (e : Entry LinkCall LinkEvent) : Prop :=
  ∀ loop client, e.event = .resent loop client → armed past = some loop

/-- **One loop at a time**: a loop that has been created, and has neither ended nor been cancelled, is the
one the coordinator knows of. -/
structure LinkWorld.Single (w : LinkWorld) : Prop where
  live : ∀ loop < w.loops, loop ∉ w.done → loop ∉ w.cancelled → w.machineInfoTask = some loop
  task : ∀ loop, w.machineInfoTask = some loop → loop < w.loops
  begun : ∀ loop ∈ w.begun, loop < w.loops
  done : ∀ loop ∈ w.done, loop ∈ w.begun

section
variable {w w' : LinkWorld}

theorem LinkWorld.Single.elsewhere (h : w.Single) (he : Elsewhere w w') : w'.Single := by
  obtain ⟨_, _, _, _, _, _, rfl⟩ := he
  exact ⟨h.live, h.task, h.begun, h.done⟩

theorem LinkWorld.Single.learns (h : w.Single) (hl : Learns w w') : w'.Single := by
  obtain ⟨_, _, rfl⟩ := hl
  exact ⟨h.live, h.task, h.begun, h.done⟩

theorem LinkWorld.Single.cancel (h : w.Single) : w.cancelLoop.Single := by
  unfold LinkWorld.cancelLoop
  split
  · rename_i task htask
    refine ⟨fun loop hloop hdone halive => ?_, nofun, h.begun, h.done⟩
    -- the one that was alive is cancelled
    have hsome := h.live loop hloop hdone fun hmem => halive (by
      split
      · exact hmem
      · exact Finset.mem_insert_of_mem hmem)
    obtain rfl : task = loop := Option.some.inj (htask.symm.trans hsome)
    rw [if_neg hdone] at halive
    exact absurd (Finset.mem_insert_self _ _) halive
  · exact h

theorem LinkWorld.Single.create (h : w.Single) (hidle : w.looping = false) : w.withLoop.Single := by
  refine ⟨fun loop hloop hdone halive => ?_, fun loop hloop => ?_, fun loop hloop => ?_, h.done⟩
  · rcases Nat.lt_succ_iff_lt_or_eq.mp hloop with hlt | rfl
    · -- none was alive
      have hsome := h.live loop hlt hdone halive
      unfold LinkWorld.looping at hidle
      rw [hsome] at hidle
      exact absurd hdone (of_decide_eq_false hidle)
    · rfl
  · rw [← Option.some.inj hloop]
    exact Nat.lt_succ_self _
  · exact Nat.lt_succ_of_lt (h.begun loop hloop)

theorem LinkWorld.Single.begin (h : w.Single) {loop : ℕ} (hloop : loop < w.loops) :
    LinkWorld.Single { w with begun := insert loop w.begun } := by
  refine ⟨h.live, h.task, fun loop' hmem => ?_,
    fun loop' hdone => Finset.mem_insert_of_mem (h.done loop' hdone)⟩
  rcases Finset.mem_insert.mp hmem with rfl | hmem
  · exact hloop
  · exact h.begun loop' hmem

theorem LinkWorld.Single.finish (h : w.Single) {loop : ℕ} (hloop : loop ∈ w.begun) :
    LinkWorld.Single { w with done := insert loop w.done } := by
  refine ⟨fun loop' hbelow hdone halive => ?_, h.task, h.begun, fun loop' hdone => ?_⟩
  · exact h.live loop' hbelow (fun hmem => hdone (Finset.mem_insert_of_mem hmem)) halive
  · rcases Finset.mem_insert.mp hdone with rfl | hdone
    · exact hloop
    · exact h.done loop' hdone

end

/-- Which tasks wait in which loop, and how many handshakes that may still re-send. -/
abbrev Waiting := ℕ → ℕ → ℕ → Prop

/-- **What holds between segments**, of the world, of the tasks that wait in a loop, and of what has been
emitted. -/
structure Loops (w : LinkWorld) (waits : Waiting) (tr : Trace LinkCall LinkEvent) : Prop where
  single : w.Single
  alone : ∀ {t t' loop left left'}, waits t loop left → waits t' loop left' → t = t'
  running : ∀ {t loop left}, waits t loop left → loop ∈ w.begun ∧ loop ∉ w.done
  left : ∀ {t loop left}, waits t loop left → resentBy loop tr + left ≤ machineInfoRetryDelays.length
  bounded : ∀ loop, resentBy loop tr ≤ machineInfoRetryDelays.length
  fresh : ∀ loop ∉ w.begun, resentBy loop tr = 0
  task : w.machineInfoTask = armed tr
  finds : EachFinds FindsArmed tr

section
variable {tr : Trace LinkCall LinkEvent} {t : ℕ} {c : LinkCall} {es : List LinkEvent}

theorem resentBy_mark (loop : ℕ) :
    resentBy loop (tr ++ mark t c es) = resentBy loop tr + es.countP (LinkEvent.resentBy loop) := by
  unfold resentBy mark
  rw [List.countP_append, List.countP_map]
  rfl

/-- Events that re-send nothing. -/
theorem resentBy_quiet (h : ∀ e ∈ es, ∀ loop, e.resentBy loop = false) (loop : ℕ) :
    resentBy loop (tr ++ mark t c es) = resentBy loop tr := by
  rw [resentBy_mark, List.countP_eq_zero.mpr fun e he => by rw [h e he loop]; exact Bool.false_ne_true]
  rfl

theorem finds_quiet (h : ∀ e ∈ es, ∀ loop, e.resentBy loop = false) (htr : EachFinds FindsArmed tr) :
    EachFinds FindsArmed (tr ++ mark t c es) := by
  refine htr.append (emits_of_mem (fun e he tr loop client heq => ?_) tr)
  have hfalse := h e he loop
  have heq : e = .resent loop client := heq
  rw [heq] at hfalse
  exact absurd (decide_eq_true rfl) (Bool.eq_false_iff.mp hfalse)

theorem armed_asks (h : ∀ e ∈ es, e = .asksSettings) : armed (tr ++ mark t c es) = armed tr := by
  unfold armed mark
  rw [List.foldl_append]
  generalize tr.foldl _ none = b
  induction es with
  | nil => rfl
  | cons e es ih =>
    rw [List.map_cons, List.foldl_cons, h e List.mem_cons_self]
    exact ih fun e he => h e (List.mem_cons_of_mem _ he)

theorem armed_gaveUp : armed (tr ++ mark t c [.gaveUp]) = none := by
  unfold armed
  rw [List.foldl_append]
  rfl

theorem armed_scheduled {loop : ℕ} (h : ∀ e ∈ es, e = .asksSettings) :
    armed (tr ++ mark t c (.scheduled loop :: es)) = some loop := by
  have happend : tr ++ mark t c (.scheduled loop :: es) =
      (tr ++ [⟨t, c, .scheduled loop⟩]) ++ mark t c es := by
    rw [List.append_assoc]
    rfl
  rw [happend, armed_asks h]
  unfold armed
  rw [List.foldl_append]
  rfl

theorem not_resent_of_asks (h : ∀ e ∈ es, e = .asksSettings) :
    ∀ e ∈ es, ∀ loop, e.resentBy loop = false := by
  intro e he loop
  rw [h e he]
  rfl

end

/-! ## Segments -/

section
variable {σ : LinkSegment} {waits waits' : Waiting} {tr : Trace LinkCall LinkEvent} {t : ℕ}
  {c : LinkCall}

/-- Where no loop takes a step, and the world is as it was for them. -/
theorem Loops.elsewhere {w w' : LinkWorld} (h : Loops w waits tr) (hw : Elsewhere w w')
    (hwaits : ∀ t loop left, waits' t loop left → waits t loop left) : Loops w' waits' tr := by
  have hsingle := h.single.elsewhere hw
  obtain ⟨_, _, _, _, _, _, rfl⟩ := hw
  exact ⟨hsingle, fun h₁ h₂ => h.alone (hwaits _ _ _ h₁) (hwaits _ _ _ h₂),
    fun h₁ => h.running (hwaits _ _ _ h₁), fun h₁ => h.left (hwaits _ _ _ h₁), h.bounded, h.fresh,
    h.task, h.finds⟩

/-- What is read of the machine does not concern the loops. -/
theorem Loops.learns {w w' : LinkWorld} (h : Loops w waits tr) (hw : Learns w w') :
    Loops w' waits tr := by
  have hsingle := h.single.learns hw
  obtain ⟨_, _, rfl⟩ := hw
  exact ⟨hsingle, h.alone, h.running, h.left, h.bounded, h.fresh, h.task, h.finds⟩

/-- What has no part in it may be emitted. -/
theorem Loops.asks {w : LinkWorld} {es : List LinkEvent} (h : Loops w waits tr)
    (hes : ∀ e ∈ es, e = .asksSettings) : Loops w waits (tr ++ mark t c es) := by
  have hcount : ∀ loop, resentBy loop (tr ++ mark t c es) = resentBy loop tr :=
    resentBy_quiet (not_resent_of_asks hes)
  refine ⟨h.single, h.alone, h.running, fun h₁ => ?_, fun loop => ?_, fun loop hloop => ?_,
    h.task.trans (armed_asks hes).symm, finds_quiet (not_resent_of_asks hes) h.finds⟩
  · rw [hcount]
    exact h.left h₁
  · rw [hcount]
    exact h.bounded loop
  · rw [hcount]
    exact h.fresh loop hloop

/-- The link is given up. -/
theorem Loops.cancel {w : LinkWorld} (h : Loops w waits tr) :
    Loops w.cancelLoop waits (tr ++ mark t c [.gaveUp]) := by
  have hquiet : ∀ e ∈ [LinkEvent.gaveUp], ∀ loop, e.resentBy loop = false := by
    intro e he loop
    rw [List.mem_singleton.mp he]
    rfl
  have hcount : ∀ loop, resentBy loop (tr ++ mark t c [.gaveUp]) = resentBy loop tr :=
    resentBy_quiet hquiet
  have hbegun : w.cancelLoop.begun = w.begun ∧ w.cancelLoop.done = w.done ∧
      w.cancelLoop.machineInfoTask = none := by
    rcases w with ⟨_, _, _, _, _, _, _, _, _ | task, _, _, _, _⟩
    · exact ⟨rfl, rfl, rfl⟩
    · exact ⟨rfl, rfl, rfl⟩
  refine ⟨h.single.cancel, h.alone, fun h₁ => ?_, fun h₁ => ?_, fun loop => ?_, fun loop hloop => ?_,
    hbegun.2.2.trans armed_gaveUp.symm, finds_quiet hquiet h.finds⟩
  · rw [hbegun.1, hbegun.2.1]
    exact h.running h₁
  · rw [hcount]
    exact h.left h₁
  · rw [hcount]
    exact h.bounded loop
  · rw [hcount]
    rw [hbegun.1] at hloop
    exact h.fresh loop hloop

/-- A loop is created. -/
theorem Loops.create {w : LinkWorld} (h : Loops w waits tr) (hidle : w.looping = false) :
    Loops w.withLoop waits (tr ++ mark t c [.scheduled w.loops]) := by
  have hquiet : ∀ e ∈ [LinkEvent.scheduled w.loops], ∀ loop', e.resentBy loop' = false := by
    intro e he loop'
    rw [List.mem_singleton.mp he]
    rfl
  have hcount : ∀ loop, resentBy loop (tr ++ mark t c [.scheduled w.loops]) = resentBy loop tr :=
    resentBy_quiet hquiet
  refine ⟨h.single.create hidle, h.alone, h.running, fun h₁ => ?_, fun loop => ?_,
    fun loop hloop => ?_, (armed_scheduled fun _ he => absurd he List.not_mem_nil).symm,
    finds_quiet hquiet h.finds⟩
  · rw [hcount]
    exact h.left h₁
  · rw [hcount]
    exact h.bounded loop
  · rw [hcount]
    exact h.fresh loop hloop

/-- **A segment of another call.** -/
theorem Loops.link (h : Loops σ.before waits tr) (heffect : LinkEffect σ)
    (hwaits : ∀ t loop left, waits' t loop left → waits t loop left) :
    Loops σ.now waits' (tr ++ mark t c σ.events) := by
  cases heffect with
  | none now events => exact (h.asks events).elsewhere now hwaits
  | gaveUp now events =>
    rw [events]
    exact h.cancel.elsewhere now hwaits
  | created idle now events =>
    obtain ⟨es, hes, hasks⟩ := events
    have hsplit : tr ++ mark t c σ.events =
        (tr ++ mark t c [.scheduled σ.before.loops]) ++ mark t c es := by
      rw [hes, List.append_assoc]
      rfl
    rw [hsplit]
    exact ((h.create idle).asks hasks).elsewhere now hwaits

theorem resentBy_other {loop loop' client : ℕ} (h : loop' ≠ loop) :
    resentBy loop' (tr ++ mark t c [.resent loop client]) = resentBy loop' tr := by
  rw [resentBy_mark, List.countP_singleton, if_neg]
  · rfl
  · exact fun heq => h (of_decide_eq_true heq).symm

theorem resentBy_self {loop client : ℕ} :
    resentBy loop (tr ++ mark t c [.resent loop client]) = resentBy loop tr + 1 := by
  rw [resentBy_mark, List.countP_singleton, if_pos]
  exact decide_eq_true rfl

/-- A loop that is alive is the one the coordinator knows of. -/
theorem Loops.armed_of_alive {w : LinkWorld} (h : Loops w waits tr) {loop left : ℕ}
    (hwaits : waits t loop left) (halive : loop ∉ w.cancelled) : armed tr = some loop := by
  obtain ⟨hbegun, hdone⟩ := h.running hwaits
  rw [← h.task]
  exact h.single.live loop (h.single.begun loop hbegun) hdone halive

/-- **A loop begins.**  It is its first segment, so it has re-sent nothing. -/
theorem Loops.begins (h : Loops σ.before waits tr) {loop : ℕ} (hbegins : Begins loop σ)
    (hwaits : ∀ t' loop' left, waits' t' loop' left →
      waits t' loop' left ∨ (t' = t ∧ loop' = loop ∧ left ≤ machineInfoRetryDelays.length)) :
    Loops σ.now waits' (tr ++ mark t c σ.events) := by
  obtain ⟨_, hcreated, honce, hnow, hevents⟩ := hbegins
  have hquiet : ∀ e ∈ [LinkEvent.started loop], ∀ loop', e.resentBy loop' = false := by
    intro e he loop'
    rw [List.mem_singleton.mp he]
    rfl
  have hcount : ∀ loop', resentBy loop' (tr ++ mark t c [.started loop]) = resentBy loop' tr :=
    resentBy_quiet hquiet
  have harmed : armed (tr ++ mark t c [.started loop]) = armed tr := by
    unfold armed
    rw [List.foldl_append]
    rfl
  have hother : ∀ {t' left}, ¬ waits t' loop left := fun hold => honce (h.running hold).1
  rw [hnow, hevents]
  refine ⟨h.single.begin hcreated, fun {t₁ t₂ loop' _ _} h₁ h₂ => ?_, fun h₁ => ?_, fun h₁ => ?_,
    fun loop' => ?_, fun loop' hloop' => ?_, h.task.trans harmed.symm, finds_quiet hquiet h.finds⟩
  · rcases hwaits _ _ _ h₁ with hold₁ | ⟨rfl, rfl, _⟩
    · rcases hwaits _ _ _ h₂ with hold₂ | ⟨rfl, rfl, _⟩
      · exact h.alone hold₁ hold₂
      · exact absurd hold₁ hother
    · rcases hwaits _ _ _ h₂ with hold₂ | ⟨rfl, _⟩
      · exact absurd hold₂ hother
      · rfl
  · rcases hwaits _ _ _ h₁ with hold | ⟨_, rfl, _⟩
    · exact ⟨Finset.mem_insert_of_mem (h.running hold).1, (h.running hold).2⟩
    · exact ⟨Finset.mem_insert_self _ _, fun hdone => honce (h.single.done _ hdone)⟩
  · rw [hcount]
    rcases hwaits _ _ _ h₁ with hold | ⟨_, rfl, hleft⟩
    · exact h.left hold
    · rw [h.fresh _ honce, Nat.zero_add]
      exact hleft
  · rw [hcount]
    exact h.bounded loop'
  · rw [hcount]
    exact h.fresh loop' fun hmem => hloop' (Finset.mem_insert_of_mem hmem)

/-- **A loop goes on**: it re-sends at most one handshake, and only while it is alive. -/
theorem Loops.goes (h : Loops σ.before waits tr) {loop left left₀ : ℕ}
    (halive : loop ∉ σ.before.cancelled) (hnow : Learns σ.before σ.now) (hat : waits t loop left₀)
    (hevents : (σ.events = [] ∧ left ≤ left₀) ∨
      ∃ client, σ.events = [.resent loop client] ∧ left < left₀)
    (hwaits : ∀ t' loop' left', waits' t' loop' left' →
      (t' ≠ t ∧ waits t' loop' left') ∨ (t' = t ∧ loop' = loop ∧ left' = left)) :
    Loops σ.now waits' (tr ++ mark t c σ.events) := by
  have hold : ∀ {t' loop' left'}, waits' t' loop' left' → ∃ left, waits t' loop' left := by
    intro t' loop' left' h'
    rcases hwaits _ _ _ h' with ⟨_, hold⟩ | ⟨rfl, rfl, _⟩
    · exact ⟨_, hold⟩
    · exact ⟨_, hat⟩
  have hcount : ∀ loop' ≠ loop, resentBy loop' (tr ++ mark t c σ.events) = resentBy loop' tr := by
    intro loop' hne
    rcases hevents with ⟨hevents, _⟩ | ⟨client, hevents, _⟩
    · rw [hevents]
      exact congrArg (resentBy loop') (List.append_nil tr)
    · rw [hevents]
      exact resentBy_other hne
  have hself : resentBy loop (tr ++ mark t c σ.events) + left ≤ resentBy loop tr + left₀ := by
    rcases hevents with ⟨hevents, hle⟩ | ⟨client, hevents, hlt⟩
    · rw [hevents]
      show resentBy loop (tr ++ []) + left ≤ _
      rw [List.append_nil]
      omega
    · rw [hevents, resentBy_self]
      omega
  have harmed : armed (tr ++ mark t c σ.events) = armed tr := by
    rcases hevents with ⟨hevents, _⟩ | ⟨client, hevents, _⟩
    · rw [hevents]
      exact congrArg armed (List.append_nil tr)
    · rw [hevents]
      unfold armed
      rw [List.foldl_append]
      rfl
  have hbound := h.left hat
  obtain ⟨serials, versions, hnow⟩ := hnow
  rw [hnow]
  refine ⟨h.single.learns ⟨serials, versions, rfl⟩, fun h₁ h₂ => ?_, fun h₁ => ?_,
    fun {t' loop' left'} h₁ => ?_, fun loop' => ?_, fun loop' hloop' => ?_, h.task.trans harmed.symm, h.finds.append ?_⟩
  · obtain ⟨_, hold₁⟩ := hold h₁
    obtain ⟨_, hold₂⟩ := hold h₂
    exact h.alone hold₁ hold₂
  · obtain ⟨_, hold₁⟩ := hold h₁
    exact h.running hold₁
  · rcases hwaits _ _ _ h₁ with ⟨hne, hold₁⟩ | ⟨rfl, rfl, rfl⟩
    · rw [hcount loop' fun heq => hne (h.alone hold₁ (heq ▸ hat))]
      exact h.left hold₁
    · exact hself.trans hbound
  · by_cases heq : loop' = loop
    · subst heq
      omega
    · rw [hcount loop' heq]
      exact h.bounded loop'
  · rw [hcount loop' fun heq => hloop' (heq ▸ (h.running hat).1)]
    exact h.fresh loop' hloop'
  · rcases hevents with ⟨hevents, _⟩ | ⟨client, hevents, _⟩
    · rw [hevents]
      trivial
    · rw [hevents]
      refine ⟨fun loop' client' heq => ?_, trivial⟩
      obtain ⟨rfl, _⟩ := LinkEvent.resent.inj heq
      exact h.armed_of_alive hat halive

/-- **A loop finishes.** -/
theorem Loops.finishes (h : Loops σ.before waits tr) {loop left : ℕ} (hfinishes : Finishes loop σ)
    (hat : waits t loop left)
    (hwaits : ∀ t' loop' left', waits' t' loop' left' → t' ≠ t ∧ waits t' loop' left') :
    Loops σ.now waits' (tr ++ mark t c σ.events) := by
  obtain ⟨_, ⟨w, ⟨serials, versions, rfl⟩, hnow⟩, hevents⟩ := hfinishes
  have hasked := h.asks (t := t) (c := c) hevents
  rw [hnow]
  refine ⟨(h.single.learns ⟨serials, versions, rfl⟩).finish (h.running hat).1,
    fun h₁ h₂ => h.alone (hwaits _ _ _ h₁).2 (hwaits _ _ _ h₂).2, fun h₁ => ?_,
    fun h₁ => hasked.left (hwaits _ _ _ h₁).2, hasked.bounded, hasked.fresh, hasked.task,
    hasked.finds⟩
  obtain ⟨hne, hold⟩ := hwaits _ _ _ h₁
  refine ⟨(h.running hold).1, fun hdone => ?_⟩
  rcases Finset.mem_insert.mp hdone with rfl | hdone
  · exact hne (h.alone hold hat)
  · exact (h.running hold).2 hdone

end

/-! ## Steps -/

/-- The tasks that wait in a loop. -/
def waitsIn (p : LinkPool) : Waiting := fun t loop left =>
  ∃ l, p.At t l ∧ l.loop = some loop ∧ l.left = left

/-- What holds of a pool between segments. -/
structure Kept (p : LinkPool) : Prop where
  segments : PoolPasses Waits Ends p
  numbered : Numbered p
  loops : Loops p.world (waitsIn p) p.trace

theorem kept_noLink : Kept (Pool.idle noLink : LinkPool) := by
  have hnone : ∀ {t loop left}, ¬ waitsIn (Pool.idle noLink) t loop left := by
    rintro t loop left ⟨l, ⟨τ, hτ, _⟩, _⟩
    cases hτ
  exact ⟨poolPasses_idle _, numbered_idle _, ⟨nofun, nofun, nofun, nofun⟩, fun h => absurd h hnone,
    fun h => absurd h hnone, fun h => absurd h hnone, fun _ => Nat.zero_le _, fun _ _ => rfl, rfl,
    eachFinds_nil⟩

section
variable {p : LinkPool} {a : LinkAction} {turn : Turn LinkWorld LinkEvent LinkPoint LinkAnswer LinkCall}

/-- The other tasks wait where they did. -/
theorem waitsIn_other (hturn : p.turn linkSystem a = some turn) {t loop left : ℕ}
    (ht : t ≠ turn.task) (hwaits : waitsIn (p.step linkSystem a) t loop left) :
    waitsIn p t loop left := by
  obtain ⟨l, ⟨τ, hτ, rfl⟩, hl⟩ := hwaits
  rw [(Pool.step_of_turn hturn).2.2, Function.update_of_ne ht] at hτ
  exact ⟨_, ⟨τ, hτ, rfl⟩, hl⟩

/-- The task whose turn it was waits where its segment ended. -/
theorem waitsIn_self {τ : Suspended LinkWorld LinkEvent LinkPoint LinkAnswer LinkCall}
    (hτ : (p.step linkSystem a).tasks turn.task = some τ) {loop left : ℕ}
    (hwaits : waitsIn (p.step linkSystem a) turn.task loop left) :
    τ.label.loop = some loop ∧ τ.label.left = left := by
  obtain ⟨l, ⟨τ', hτ', rfl⟩, hl⟩ := hwaits
  rw [Option.some.inj (hτ.symm.trans hτ')]
  exact hl

/-- A step that runs a segment of a task that then waits in no loop. -/
theorem Kept.loops_of_link (h : Kept p) (hturn : p.turn linkSystem a = some turn)
    (hdoes : LinkEffect (p.passage linkSystem a turn))
    (hout : ∀ loop left, ¬ waitsIn (p.step linkSystem a) turn.task loop left) :
    Loops (p.step linkSystem a).world (waitsIn (p.step linkSystem a)) (p.step linkSystem a).trace := by
  rw [(Pool.step_of_turn hturn).2.1, ← Pool.emitted_of_turn hturn]
  refine Loops.link (σ := p.passage linkSystem a turn) h.loops hdoes fun t loop left hwaits => ?_
  exact waitsIn_other hturn (fun ht => hout loop left (ht ▸ hwaits)) hwaits

/-- A step without a turn: the surroundings have moved, or nothing has happened. -/
theorem Kept.loops_of_no_turn (h : Kept p) (hturn : p.turn linkSystem a = none) :
    Loops (p.step linkSystem a).world (waitsIn (p.step linkSystem a)) (p.step linkSystem a).trace := by
  obtain ⟨htrace, htasks⟩ := Pool.step_of_no_turn hturn
  have hwaits : waitsIn (p.step linkSystem a) = waitsIn p := by
    unfold waitsIn Pool.At
    rw [htasks]
  rw [htrace, hwaits]
  rcases Pool.world_of_no_turn hturn with ⟨m, _, hworld⟩ | hworld
  · rw [hworld]
    cases m with
    | up client => exact h.loops.elsewhere ⟨_, _, _, _, _, _, rfl⟩ fun _ _ _ h => h
    | lost client => exact h.loops.elsewhere ⟨_, _, _, _, _, _, rfl⟩ fun _ _ _ h => h
    | bare client => exact h.loops.elsewhere ⟨_, _, _, _, _, _, rfl⟩ fun _ _ _ h => h
    | unmanned => exact h.loops.elsewhere ⟨_, _, _, _, _, _, rfl⟩ fun _ _ _ h => h
    | serial client => exact h.loops.learns ⟨_, _, rfl⟩
    | version client => exact h.loops.learns ⟨_, _, rfl⟩
  · rw [hworld]
    exact h.loops

end

/-- **A step keeps what holds between segments.** -/
theorem Kept.step {p : LinkPool} (h : Kept p) (a : LinkAction) : Kept (p.step linkSystem a) := by
  obtain ⟨hsegments, hpasses⟩ := h.segments.step program_passes a
  refine ⟨hsegments, h.numbered.step a, ?_⟩
  cases hturn : p.turn linkSystem a with
  | none => exact h.loops_of_no_turn hturn
  | some turn =>
    have htrace : (p.step linkSystem a).trace =
        p.trace ++ mark turn.task turn.call (p.passage linkSystem a turn).events := by
      show _ = p.trace ++ mark turn.task turn.call (p.emitted linkSystem a)
      rw [(Pool.step_of_turn hturn).2.1, Pool.emitted_of_turn hturn]
    cases htask : (p.step linkSystem a).tasks turn.task with
    | none =>
      have hgone : ∀ {t loop left}, waitsIn (p.step linkSystem a) t loop left → t ≠ turn.task := by
        rintro t loop left ⟨l, ⟨τ, hτ, _⟩, _⟩ rfl
        cases htask.symm.trans hτ
      rcases (hpasses turn hturn).2 htask with ⟨loop, hfinishes⟩ | ⟨heffect, _⟩
      · obtain ⟨l, r, hresumed, hl⟩ := hfinishes.resumed
        rw [htrace]
        exact Loops.finishes (σ := p.passage linkSystem a turn) h.loops hfinishes
          ⟨l, (Pool.at_of_resumed hturn hresumed).1, hl, rfl⟩
          fun t loop' left hwaits => ⟨hgone hwaits, waitsIn_other hturn (hgone hwaits) hwaits⟩
      · exact h.loops_of_link hturn heffect fun loop left hwaits => hgone hwaits rfl
    | some τ =>
      have hwaits := (hpasses turn hturn).1 τ htask
      unfold Waits at hwaits
      cases hloop : τ.label.loop with
      | none =>
        rw [hloop] at hwaits
        refine h.loops_of_link hturn hwaits.1 fun loop left hself => ?_
        exact absurd ((waitsIn_self htask hself).1.symm.trans hloop) nofun
      | some loop =>
        rw [hloop] at hwaits
        rw [htrace]
        -- whoever waits now did so before, or it is the task whose turn it was
        have hcases : ∀ t loop' left, waitsIn (p.step linkSystem a) t loop' left →
            (t ≠ turn.task ∧ waitsIn p t loop' left) ∨
              (t = turn.task ∧ loop' = loop ∧ left = τ.label.left) := by
          intro t loop' left h'
          by_cases ht : t = turn.task
          · subst ht
            obtain ⟨hself, hleft⟩ := waitsIn_self htask h'
            exact Or.inr ⟨rfl, Option.some.inj (hself.symm.trans hloop), hleft.symm⟩
          · exact Or.inl ⟨ht, waitsIn_other hturn ht h'⟩
        rcases hwaits with ⟨hbegins, hleft⟩ | hgoes
        · refine Loops.begins (σ := p.passage linkSystem a turn) h.loops hbegins fun t loop' left h' => ?_
          rcases hcases t loop' left h' with ⟨_, hold⟩ | ⟨ht, hloop', hleft'⟩
          · exact Or.inl hold
          · exact Or.inr ⟨ht, hloop', hleft' ▸ hleft⟩
        · obtain ⟨halive, hnow, l, r, hresumed, hl, hevents⟩ := hgoes
          exact Loops.goes (σ := p.passage linkSystem a turn) h.loops halive hnow
            ⟨l, (Pool.at_of_resumed hturn hresumed).1, hl, rfl⟩ hevents hcases

/-! ## Runs -/

/-- A loop that has been created, and has neither ended nor been cancelled. -/
def LinkWorld.Alive (w : LinkWorld) (loop : ℕ) : Prop :=
  loop < w.loops ∧ loop ∉ w.done ∧ loop ∉ w.cancelled

/-- **The machine is asked again, and not too often.**  Whatever happens to the link, in whatever order:
two loops are never alive at a time; no loop re-sends the handshake more often than there are delays; and
a handshake is only re-sent by the loop that was created since the link was last given up. -/
theorem handshakes_bounded (as : List LinkAction) :
    let p := run (Pool.step linkSystem) (Pool.idle noLink) as
    (∀ loop loop', p.world.Alive loop → p.world.Alive loop' → loop = loop') ∧
      (∀ loop, resentBy loop p.trace ≤ machineInfoRetryDelays.length) ∧
      EachFinds FindsArmed p.trace := by
  have hkept : Kept (run (Pool.step linkSystem) (Pool.idle noLink) as) :=
    run_preserves (fun _ _ h => h.step _) kept_noLink as
  refine ⟨?_, hkept.loops.bounded, hkept.loops.finds⟩
  rintro loop loop' ⟨hloop, hdone, halive⟩ ⟨hloop', hdone', halive'⟩
  have hsome := hkept.loops.single.live loop hloop hdone halive
  have hsome' := hkept.loops.single.live loop' hloop' hdone' halive'
  exact Option.some.inj (hsome.symm.trans hsome')

end XBloom.Info
