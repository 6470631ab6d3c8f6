/-
# XBloom.Async.Marks — marks in a story that the coroutine does not make

A statement may be about stretches of a call that its events do not delimit: the attempts of a retry, say.
The call is then told with marks among its events, and the marks are erased to get the call back:
erasing them from the coroutine and from its story comes to the same.
-/
import XBloom.Async.Solo

namespace XBloom.Async

open XBloom.Logic

variable {W E L R M ε α β : Type}

/-- An event, or a mark. -/
abbrev Marked (E : Type) := Option E

/-- A coroutine without marks, among marked ones. -/
def unmarked (W E L R : Type) : Lens W E L R W (Marked E) L R where
  part := id
  replace _ w := w
  event := some
  label := id
  response := id

/-- A mark is made. -/
def signal : Routine W (Marked E) L R ε Unit := Routine.emit none

/-- **The coroutine without its marks.** -/
def Co.erase : Co W (Marked E) L R α → Co W E L R α
  | .ret a => .ret a
  | .read k => .read fun w => (k w).erase
  | .write f k => .write f k.erase
  | .emit (some e) k => .emit e k.erase
  | .emit none k => k.erase
  | .await l k => .await l fun r => (k r).erase

/-- The routine without its marks. -/
def Routine.erase (x : Routine W (Marked E) L R ε α) : Routine W E L R ε α := ExceptT.mk x.run.erase

theorem Co.erase_bind (x : Co W (Marked E) L R α) (f : α → Co W (Marked E) L R β) :
    (x.bind f).erase = x.erase.bind fun a => (f a).erase := by
  induction x with
  | ret a => rfl
  | read k ih => exact congrArg Co.read (funext ih)
  | write g k ih => exact congrArg (Co.write g) ih
  | emit e k ih =>
    cases e with
    | some e => exact congrArg (Co.emit e) ih
    | none => exact ih
  | await l k ih => exact congrArg (Co.await l) (funext ih)

theorem Co.erase_unmarked (x : Co W E L R α) : (x.zoom (unmarked W E L R)).erase = x := by
  induction x with
  | ret a => rfl
  | read k ih => exact congrArg Co.read (funext ih)
  | write g k ih => exact congrArg (Co.write g) ih
  | emit e k ih => exact congrArg (Co.emit e) ih
  | await l k ih => exact congrArg (Co.await l) (funext ih)

namespace Routine

theorem erase_bind (x : Routine W (Marked E) L R ε α) (f : α → Routine W (Marked E) L R ε β) :
    (x >>= f).erase = x.erase >>= fun a => (f a).erase := by
  show ExceptT.mk ((x.run.bind (ExceptT.bindCont f)).erase) =
    ExceptT.mk (x.run.erase.bind (ExceptT.bindCont fun a => (f a).erase))
  rw [Co.erase_bind]
  refine congrArg ExceptT.mk (congrArg x.run.erase.bind (funext fun r => ?_))
  cases r with
  | ok a => rfl
  | error e => rfl

theorem erase_attempt (x : Routine W (Marked E) L R ε α) :
    (Routine.attempt x).erase = Routine.attempt x.erase := by
  show ExceptT.mk ((x.run.bind fun r => .ret (Except.ok r)).erase) =
    ExceptT.mk (x.run.erase.bind fun r => .ret (Except.ok r))
  rw [Co.erase_bind]
  rfl

theorem erase_unmarked (x : Routine W E L R ε α) :
    (Routine.zoom (unmarked W E L R) x).erase = x :=
  congrArg ExceptT.mk (Co.erase_unmarked x.run)

end Routine

/-! ## Stories -/

/-- A beat that is no mark. -/
def Beat.erase : Beat W (Marked E) L R M → Option (Beat W E L R M)
  | .emitted w (some e) => some (.emitted w e)
  | .emitted _ none => none
  | .moved m => some (.moved m)
  | .answered l w r => some (.answered l w r)

/-- The story without its marks. -/
def Story.erase (σ : Story W (Marked E) L R M) : Story W E L R M where
  world := σ.world
  beats := σ.beats.filterMap Beat.erase

variable {move : W → M → W}

theorem Story.erase_emit (σ : Story W (Marked E) L R M) (e : E) :
    (σ.emit (some e)).erase = σ.erase.emit e := by
  show (⟨_, _⟩ : Story W E L R M) = ⟨_, _⟩
  simp [Story.emit, Story.erase, Beat.erase]

theorem Story.erase_mark (σ : Story W (Marked E) L R M) : (σ.emit none).erase = σ.erase := by
  show (⟨_, _⟩ : Story W E L R M) = ⟨_, _⟩
  simp [Story.emit, Beat.erase]

theorem Story.erase_answer (σ : Story W (Marked E) L R M) (l : L) (reply : Reply R M) :
    (σ.answer move l reply).erase = σ.erase.answer move l reply := by
  have hmoved : ∀ ms : List M, (ms.map (Beat.moved (W := W) (E := Marked E) (L := L) (R := R))).filterMap
      Beat.erase = ms.map .moved := by
    intro ms
    induction ms with
    | nil => rfl
    | cons m rest ih => exact congrArg _ ih
  show (⟨_, _⟩ : Story W E L R M) = ⟨_, _⟩
  simp only [Story.answer, Story.erase, List.filterMap_append, hmoved]
  rfl

/-- **A call with marks is the call without them**: its result, and its story but for the marks. -/
theorem Co.play_erase (x : Co W (Marked E) L R α) (σ : Story W (Marked E) L R M)
    (replies : ℕ → Reply R M) :
    x.erase.play move σ.erase replies = ((x.play move σ replies).1, (x.play move σ replies).2.erase) := by
  induction x generalizing σ replies with
  | ret a => rfl
  | read k ih => exact ih σ.world σ replies
  | write f k ih => exact ih (σ.write f) replies
  | emit e k ih =>
    cases e with
    | some e =>
      show k.erase.play move (σ.erase.emit e) replies = _
      rw [← Story.erase_emit]
      exact ih _ replies
    | none =>
      show k.erase.play move σ.erase replies = _
      rw [← Story.erase_mark]
      exact ih _ replies
  | await l k ih =>
    show (k _).erase.play move (σ.erase.answer move l (replies 0)) _ = _
    rw [← Story.erase_answer]
    exact ih _ _ _

end XBloom.Async
