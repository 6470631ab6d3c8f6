/-
# XBloom.Codec.Groups — reading fixed-size blocks, and runs of blocks closed by a marked one

Two levels of a flat record format, each a decoder with its round trip:

* `quads` reads a list four elements at a time;
* `splitGroups` reads a list of blocks as *groups*: any number of blocks the marker does not
  recognise, closed by one that it does.

A group format carries no counts, so what makes it unambiguous is only that no item looks like a
closer (`BlockGroup.Closed`).  `splitGroups_blocks` is the round trip under that condition.
-/
import Mathlib.Data.List.Basic

namespace XBloom.Codec

/-! ## Blocks of four -/

/-- A block of four. -/
structure Quad (α : Type) where
  b0 : α
  b1 : α
  b2 : α
  b3 : α
  deriving DecidableEq, Repr

/-- The elements of a block, in order. -/
def Quad.toList {α : Type} (q : Quad α) : List α := [q.b0, q.b1, q.b2, q.b3]

/-- Read a list in blocks of four; `none` when elements are left over. -/
def quads {α : Type} : List α → Option (List (Quad α))
  | [] => some []
  | a :: b :: c :: d :: rest => (quads rest).map fun qs => ⟨a, b, c, d⟩ :: qs
  | _ => none

/-- **Blocks round trip.** -/
theorem quads_toList {α : Type} (qs : List (Quad α)) : quads (qs.flatMap Quad.toList) = some qs := by
  induction qs with
  | nil => rfl
  | cons q rest ih =>
    show (quads (rest.flatMap Quad.toList)).map _ = _
    rw [ih]
    rfl

/-! ## Groups -/

variable {β : Type} (isEnd : β → Bool)

/-- Some items and the block that closes them. -/
structure BlockGroup (β : Type) where
  items : List β
  closer : β
  deriving DecidableEq, Repr

/-- The blocks of a group, in order. -/
def BlockGroup.blocks {β : Type} (g : BlockGroup β) : List β := g.items ++ [g.closer]

/-- No item looks like a closer, and the closer does. -/
structure BlockGroup.Closed (g : BlockGroup β) : Prop where
  items : ∀ b ∈ g.items, isEnd b = false
  closer : isEnd g.closer = true

/-- Put a block in front of the first group; `none` when there is no group to put it in. -/
def consItem {β : Type} (b : β) : List (BlockGroup β) → Option (List (BlockGroup β))
  | [] => none
  | g :: gs => some ({ g with items := b :: g.items } :: gs)

/-- Read blocks as groups, each ended by a block `isEnd` recognises; `none` when the last group is
not closed. -/
def splitGroups : List β → Option (List (BlockGroup β))
  | [] => some []
  | b :: rest =>
    (splitGroups rest).bind fun gs => if isEnd b then some (⟨[], b⟩ :: gs) else consItem b gs

theorem splitGroups_cons_end {b : β} {rest : List β} (hb : isEnd b = true) :
    splitGroups isEnd (b :: rest) = (splitGroups isEnd rest).map (⟨[], b⟩ :: ·) := by
  simp only [splitGroups, hb, if_true]
  cases splitGroups isEnd rest <;> rfl

theorem splitGroups_cons_item {b : β} {rest : List β} (hb : isEnd b = false) :
    splitGroups isEnd (b :: rest) = (splitGroups isEnd rest).bind (consItem b) := by
  simp [splitGroups, hb]

/-- One closed group is read off the front. -/
theorem splitGroups_group_append {items : List β} {closer : β} {rest : List β}
    {gs : List (BlockGroup β)} (hitems : ∀ b ∈ items, isEnd b = false) (hcloser : isEnd closer = true)
    (hrest : splitGroups isEnd rest = some gs) :
    splitGroups isEnd (items ++ closer :: rest) = some (⟨items, closer⟩ :: gs) := by
  induction items with
  | nil =>
    rw [List.nil_append, splitGroups_cons_end isEnd hcloser, hrest]
    rfl
  | cons b more ih =>
    have hb : isEnd b = false := hitems b List.mem_cons_self
    have hmore : ∀ c ∈ more, isEnd c = false := fun c hc => hitems c (List.mem_cons_of_mem _ hc)
    rw [List.cons_append, splitGroups_cons_item isEnd hb, ih hmore]
    rfl

/-- **Groups round trip.** -/
theorem splitGroups_blocks {gs : List (BlockGroup β)} (h : ∀ g ∈ gs, g.Closed isEnd) :
    splitGroups isEnd (gs.flatMap BlockGroup.blocks) = some gs := by
  induction gs with
  | nil => rfl
  | cons g rest ih =>
    have hg : g.Closed isEnd := h g List.mem_cons_self
    have hrest := ih fun g' hg' => h g' (List.mem_cons_of_mem _ hg')
    have happ := splitGroups_group_append isEnd hg.items hg.closer hrest
    rw [List.flatMap_cons, BlockGroup.blocks, List.append_assoc, List.singleton_append]
    exact happ

end XBloom.Codec
