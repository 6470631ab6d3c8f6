/-
# XBloom.Codec.Scans — generators, loops over them, and scanners that resynchronise

A generator is a function from its state to the next item, if there is one.  `Yields next s l` says
that from `s` it yields `l` **and then ends**: a generator that never ends yields no list.  `Loops` is a
`for` loop over a generator whose body may raise.

A scanner walks a list.  At the head of what is left it skips an element, gives up, or takes a piece
of a length it read there.  Nothing makes that length positive, so a scanner may stand still;
`scans_of_progress` is the condition under which it ends, and `Scans.slices` says that what it took are
consecutive slices of the list.
-/
import Mathlib.Data.List.Basic

namespace XBloom.Codec

/-! ## Generators -/

section Generators

variable {σ α C ε : Type} (next : σ → Option (α × σ))

/-- From `s` the generator yields the list and then ends. -/
inductive Yields : σ → List α → Prop
  | ends {s : σ} (h : next s = none) : Yields s []
  | item {s s' : σ} {a : α} {l : List α} (h : next s = some (a, s')) (rest : Yields s' l) :
      Yields s (a :: l)

/-- A `for` loop over the generator from `s`, with its variables in `c`: it ends in a result, the
variables after the last item or what a body raised. -/
inductive Loops (body : C → α → Except ε C) : σ → C → Except ε C → Prop
  | ends {s : σ} {c : C} (h : next s = none) : Loops body s c (.ok c)
  | item {s s' : σ} {a : α} {c c' : C} {r : Except ε C} (h : next s = some (a, s'))
      (hbody : body c a = .ok c') (rest : Loops body s' c' r) : Loops body s c r
  | raises {s s' : σ} {a : α} {c : C} {e : ε} (h : next s = some (a, s'))
      (hbody : body c a = .error e) : Loops body s c (.error e)

/-- The generator comes from one state to another, yielding on the way. -/
inductive Resumes : σ → σ → Prop
  | here (s : σ) : Resumes s s
  | item {s s' t : σ} {a : α} (h : next s = some (a, s')) (rest : Resumes s' t) : Resumes s t

variable {next} {s : σ} {l : List α}

theorem Yields.of_next {s' : σ} (h : Yields next s l) (hnext : next s' = next s) : Yields next s' l := by
  cases h with
  | ends hnone => exact .ends (hnext.trans hnone)
  | item hsome hrest => exact .item (hnext.trans hsome) hrest

/-- States that go on alike yield the same. -/
theorem yields_iff_of_next {s' : σ} (hnext : next s = next s') : Yields next s l ↔ Yields next s' l :=
  ⟨fun h => h.of_next hnext.symm, fun h => h.of_next hnext⟩

/-- A generator that ends does not stand still. -/
theorem Yields.moves (h : Yields next s l) {a : α} : next s ≠ some (a, s) := by
  induction h with
  | ends hnone => exact fun hsome => absurd (hnone.symm.trans hsome) (by simp)
  | item hsome _ ih =>
    intro hself
    obtain ⟨rfl, rfl⟩ := Prod.mk.inj (Option.some.inj (hsome.symm.trans hself))
    exact ih hself

/-- **A generator whose items are made from another's** yields what is made of its list. -/
theorem Yields.of_map {β : Type} {make : α → β} {next' : σ → Option (β × σ)}
    (hmap : ∀ s, next' s = (next s).map fun found => (make found.1, found.2)) {l' : List β}
    (h : Yields next' s l') : ∃ l, Yields next s l ∧ l' = l.map make := by
  induction h with
  | @ends s hnone =>
    rw [hmap, Option.map_eq_none_iff] at hnone
    exact ⟨[], .ends hnone, rfl⟩
  | @item s s' b l' hsome _ ih =>
    rw [hmap] at hsome
    obtain ⟨⟨a, s''⟩, hnext, hmade⟩ := Option.map_eq_some_iff.mp hsome
    obtain ⟨rfl, rfl⟩ := Prod.mk.inj hmade
    obtain ⟨l, hl, rfl⟩ := ih
    exact ⟨a :: l, .item hnext hl, rfl⟩

/-- The same, from the list the other one yields. -/
theorem Yields.map {β : Type} {make : α → β} {next' : σ → Option (β × σ)}
    (hmap : ∀ s, next' s = (next s).map fun found => (make found.1, found.2))
    (h : Yields next s l) : Yields next' s (l.map make) := by
  induction h with
  | ends hnone => exact .ends (by rw [hmap, hnone, Option.map_none])
  | item hsome _ ih => exact .item (by rw [hmap, hsome, Option.map_some]) ih

variable {body : C → α → Except ε C} {c : C}

/-- **A loop over a generator that ends** folds its body over what is yielded. -/
theorem Yields.loops (h : Yields next s l) : Loops next body s c (l.foldlM body c) := by
  induction h generalizing c with
  | ends hnone => exact .ends hnone
  | @item s s' a l hsome _ ih =>
    rw [List.foldlM_cons]
    cases hbody : body c a with
    | error e => exact .raises hsome hbody
    | ok c' => exact .item hsome hbody ih

end Generators

/-! ## Scanners -/

/-- What a scanner does at the head of what is left. -/
inductive Verdict where
  | skip
  | leave
  | take (n : ℕ)
  deriving DecidableEq, Repr

variable {α : Type} (look : List α → Verdict)

/-- A scanner up to its next piece: the piece, and what is left behind it. -/
def nextPiece : List α → Option (List α × List α)
  | [] => none
  | a :: rest =>
    match look (a :: rest) with
    | .skip => nextPiece rest
    | .leave => none
    | .take n => some ((a :: rest).take n, (a :: rest).drop n)

/-- **The scanner takes these pieces off the list** and then ends. -/
abbrev Scans (l : List α) (pieces : List (List α)) : Prop := Yields (nextPiece look) l pieces

/-- The scan of a list comes to where this is left of it. -/
inductive Comes : List α → List α → Prop
  | here (l : List α) : Comes l l
  | skip {a : α} {rest l : List α} (h : look (a :: rest) = .skip) (hrest : Comes rest l) :
      Comes (a :: rest) l
  | take {a : α} {rest l : List α} {n : ℕ} (h : look (a :: rest) = .take n)
      (hrest : Comes ((a :: rest).drop n) l) : Comes (a :: rest) l

/-- The pieces are consecutive slices of a list, in order and apart. -/
inductive Slices : List (List α) → List α → Prop
  | nil (l : List α) : Slices [] l
  | cons {pieces : List (List α)} {rest : List α} (gap piece : List α) (h : Slices pieces rest) :
      Slices (piece :: pieces) (gap ++ (piece ++ rest))

variable {look} {l rest : List α} {pieces : List (List α)}

theorem nextPiece_skip {a : α} (h : look (a :: rest) = .skip) :
    nextPiece look (a :: rest) = nextPiece look rest := by
  rw [nextPiece, h]

theorem nextPiece_leave {a : α} (h : look (a :: rest) = .leave) :
    nextPiece look (a :: rest) = none := by
  rw [nextPiece, h]

theorem nextPiece_take {a : α} {n : ℕ} (h : look (a :: rest) = .take n) :
    nextPiece look (a :: rest) = some ((a :: rest).take n, (a :: rest).drop n) := by
  rw [nextPiece, h]

/-- **Where a piece comes from.** -/
theorem nextPiece_eq_some {piece l' : List α} (h : nextPiece look l = some (piece, l')) :
    ∃ gap a rest n, l = gap ++ a :: rest ∧ Comes look l (a :: rest) ∧ look (a :: rest) = .take n ∧
      piece = (a :: rest).take n ∧ l' = (a :: rest).drop n := by
  induction l with
  | nil => cases h
  | cons a rest ih =>
    cases hlook : look (a :: rest) with
    | skip =>
      rw [nextPiece_skip hlook] at h
      obtain ⟨gap, b, rest', n, hrest, hcomes, htake⟩ := ih h
      exact ⟨a :: gap, b, rest', n, congrArg (a :: ·) hrest, .skip hlook hcomes, htake⟩
    | leave =>
      rw [nextPiece_leave hlook] at h
      cases h
    | take n =>
      rw [nextPiece_take hlook] at h
      obtain ⟨rfl, rfl⟩ := Prod.mk.inj (Option.some.inj h)
      exact ⟨[], a, rest, n, rfl, .here _, hlook, rfl, rfl⟩

theorem Comes.trans {l' l'' : List α} (h : Comes look l l') (h' : Comes look l' l'') :
    Comes look l l'' := by
  induction h with
  | here => exact h'
  | skip hlook _ ih => exact .skip hlook (ih h')
  | take hlook _ ih => exact .take hlook (ih h')

/-- The scan comes to where it resumes behind a piece. -/
theorem comes_of_nextPiece {piece l' : List α} (h : nextPiece look l = some (piece, l')) :
    Comes look l l' := by
  obtain ⟨_, a, rest, n, _, hcomes, htake, _, rfl⟩ := nextPiece_eq_some h
  exact hcomes.trans (.take htake (.here _))

/-- **A scanner that never stands still ends.** -/
theorem scans_of_progress
    (h : ∀ a rest n, Comes look l (a :: rest) → look (a :: rest) = .take n → 0 < n) :
    ∃ pieces, Scans look l pieces := by
  induction hlength : l.length using Nat.strongRecOn generalizing l with
  | _ k ih =>
    cases hnext : nextPiece look l with
    | none => exact ⟨[], .ends hnext⟩
    | some found =>
      obtain ⟨piece, l'⟩ := found
      have hresume := comes_of_nextPiece hnext
      obtain ⟨gap, a, rest, n, hl, hcomes, htake, _, hl'⟩ := nextPiece_eq_some hnext
      have hpos := h a rest n hcomes htake
      have hshort : l'.length < k := by
        rw [← hlength, hl, hl', List.length_drop, List.length_append, List.length_cons]
        omega
      obtain ⟨pieces, hpieces⟩ :=
        ih l'.length hshort (fun b rest' m hb => h b rest' m (hresume.trans hb)) rfl
      exact ⟨piece :: pieces, .item hnext hpieces⟩

/-! ## Places -/

/-- What is left of a list where a scan comes to is its end. -/
theorem Comes.suffix {l' : List α} (h : Comes look l l') : l' <:+ l := by
  induction h with
  | here => exact List.suffix_rfl
  | skip _ _ ih => exact ih.trans (List.suffix_cons _ _)
  | take _ _ ih => exact ih.trans (List.drop_suffix _ _)

/-- **A scan goes one way**: of two places it comes to, it comes to one from the other. -/
theorem Comes.linear {l₁ l₂ : List α} (h₁ : Comes look l l₁) (h₂ : Comes look l l₂) :
    Comes look l₁ l₂ ∨ Comes look l₂ l₁ := by
  induction h₁ with
  | here => exact .inl h₂
  | skip hlook hrest ih =>
    cases h₂ with
    | here => exact .inr (.skip hlook hrest)
    | skip _ hrest' => exact ih hrest'
    | take hlook' _ => rw [hlook] at hlook'; cases hlook'
  | take hlook hrest ih =>
    cases h₂ with
    | here => exact .inr (.take hlook hrest)
    | skip hlook' _ => rw [hlook] at hlook'; cases hlook'
    | take hlook' hrest' =>
      rw [hlook] at hlook'
      cases hlook'
      exact ih hrest'

/-- A scan that gives up comes no further. -/
theorem Comes.eq_of_leave {l' : List α} (h : Comes look l l') (hleave : look l = .leave) : l' = l := by
  cases h with
  | here => rfl
  | skip hlook _ => rw [hleave] at hlook; cases hlook
  | take hlook _ => rw [hleave] at hlook; cases hlook

/-- A scan that stands still comes no further. -/
theorem Comes.eq_of_take_zero {l' : List α} (h : Comes look l l') (hstill : look l = .take 0) :
    l' = l := by
  induction h with
  | here => rfl
  | skip hlook _ => rw [hstill] at hlook; cases hlook
  | take hlook _ ih =>
    rw [hstill] at hlook
    cases hlook
    exact ih hstill

/-- Behind a piece a scan comes to the piece's end, or further. -/
theorem Comes.of_take {l' : List α} {n : ℕ} (h : Comes look l l') (htake : look l = .take n) :
    l' = l ∨ Comes look (l.drop n) l' := by
  cases h with
  | here => exact .inl rfl
  | skip hlook _ => rw [htake] at hlook; cases hlook
  | take hlook hrest =>
    rw [htake] at hlook
    cases hlook
    exact .inr hrest

variable (look) in
/-- **What keeps a scan from a place**: before it the scan gives up, stands still, or takes a piece that
reaches over it. -/
inductive Misses (l rest : List α) : Prop
  | leave {a : α} {gap : List α} (hcomes : Comes look l (a :: (gap ++ rest)))
      (hlook : look (a :: (gap ++ rest)) = .leave)
  | still {a : α} {gap : List α} (hcomes : Comes look l (a :: (gap ++ rest)))
      (hlook : look (a :: (gap ++ rest)) = .take 0)
  | covers {a : α} {gap : List α} {n : ℕ} (hcomes : Comes look l (a :: (gap ++ rest)))
      (hlook : look (a :: (gap ++ rest)) = .take n) (hn : gap.length + 1 < n)

theorem Misses.of_comes {l' : List α} (hcomes : Comes look l l') (h : Misses look l' rest) :
    Misses look l rest := by
  cases h with
  | leave h hlook => exact .leave (hcomes.trans h) hlook
  | still h hlook => exact .still (hcomes.trans h) hlook
  | covers h hlook hn => exact .covers (hcomes.trans h) hlook hn

/-- **A scan comes to every place or misses it.** -/
theorem comes_or_misses (gap rest : List α) :
    Comes look (gap ++ rest) rest ∨ Misses look (gap ++ rest) rest := by
  induction hlength : gap.length using Nat.strongRecOn generalizing gap with
  | _ k ih =>
    cases gap with
    | nil => exact .inl (.here rest)
    | cons a gap =>
      rw [List.length_cons] at hlength
      cases hlook : look (a :: (gap ++ rest)) with
      | skip =>
        rcases ih gap.length (by omega) gap rfl with hcomes | hmisses
        · exact .inl (.skip hlook hcomes)
        · exact .inr (hmisses.of_comes (.skip hlook (.here _)))
      | leave => exact .inr (.leave (.here _) hlook)
      | take n =>
        rcases Nat.eq_zero_or_pos n with rfl | hpos
        · exact .inr (.still (.here _) hlook)
        · by_cases hn : gap.length + 1 < n
          · exact .inr (.covers (.here _) hlook hn)
          · -- the piece ends before the place
            have hdrop : (a :: (gap ++ rest)).drop n = ((a :: gap).drop n) ++ rest := by
              rw [← List.cons_append, List.drop_append_of_le_length]
              rw [List.length_cons]
              omega
            have hshort : ((a :: gap).drop n).length < k := by
              rw [List.length_drop, List.length_cons]
              omega
            have hbehind : Comes look (a :: (gap ++ rest)) ((a :: gap).drop n ++ rest) :=
              .take hlook (hdrop ▸ .here _)
            rcases ih _ hshort _ rfl with hcomes | hmisses
            · exact .inl (hbehind.trans hcomes)
            · exact .inr (hmisses.of_comes hbehind)

/-- **A scan does not come to a place it misses.** -/
theorem Misses.not_comes (h : Misses look l rest) (hrest : rest ≠ []) : ¬ Comes look l rest := by
  -- a place before it is no place behind it
  have hlonger : ∀ {a : α} {gap : List α}, ¬ Comes look rest (a :: (gap ++ rest)) := by
    intro a gap hback
    have hle := hback.suffix.length_le
    rw [List.length_cons, List.length_append] at hle
    omega
  have hne : ∀ {a : α} {gap : List α}, rest ≠ a :: (gap ++ rest) := by
    intro a gap heq
    have hlength := congrArg List.length heq
    rw [List.length_cons, List.length_append] at hlength
    omega
  intro hcomes
  cases h with
  | leave hstop hlook =>
    rcases hstop.linear hcomes with hon | hback
    · exact hne (hon.eq_of_leave hlook)
    · exact hlonger hback
  | still hstop hlook =>
    rcases hstop.linear hcomes with hon | hback
    · exact hne (hon.eq_of_take_zero hlook)
    · exact hlonger hback
  | @covers a gap n hstop hlook hn =>
    rcases hstop.linear hcomes with hon | hback
    · rcases hon.of_take hlook with heq | hbehind
      · exact hne heq
      · have hle := hbehind.suffix.length_le
        rw [List.length_drop, List.length_cons, List.length_append] at hle
        have hpos : 0 < rest.length := List.length_pos_iff.mpr hrest
        omega
    · exact hlonger hback

/-- What a scanner takes, from the place where it takes it. -/
def TakesAt (look : List α → Verdict) (l : List α) (start : ℕ) (piece : List α) : Prop :=
  ∃ s s', Resumes (nextPiece look) l s ∧ nextPiece look s = some (piece, s') ∧
    start + piece.length + s'.length = l.length

/-- The generator stands where the scan comes to, up to what is skipped. -/
theorem Comes.resumes {l' : List α} (h : Comes look l l') :
    ∃ s, Resumes (nextPiece look) l s ∧ nextPiece look s = nextPiece look l' := by
  induction h with
  | here l => exact ⟨l, .here l, rfl⟩
  | @skip a rest l' hlook _ ih =>
    obtain ⟨s, hresumes, hnext⟩ := ih
    have hskip := nextPiece_skip hlook
    cases hresumes with
    | here => exact ⟨a :: rest, .here _, hskip.trans hnext⟩
    | item hfirst hrest => exact ⟨s, .item (hskip.trans hfirst) hrest, hnext⟩
  | take hlook _ ih =>
    obtain ⟨s, hresumes, hnext⟩ := ih
    exact ⟨s, .item (nextPiece_take hlook) hresumes, hnext⟩

theorem comes_of_resumes {s : List α} (h : Resumes (nextPiece look) l s) : Comes look l s := by
  induction h with
  | here s => exact .here s
  | item hnext _ ih => exact (comes_of_nextPiece hnext).trans ih

/-- **What is taken, and where**: the scan comes there, and takes it. -/
theorem takesAt_iff {start : ℕ} {piece : List α} :
    TakesAt look l start piece ↔ ∃ a rest n, Comes look l (a :: rest) ∧ look (a :: rest) = .take n ∧
      piece = (a :: rest).take n ∧ start + (a :: rest).length = l.length := by
  have hsplit : ∀ (m : List α) (n : ℕ), (m.take n).length + (m.drop n).length = m.length := by
    intro m n
    rw [← List.length_append, List.take_append_drop]
  constructor
  · rintro ⟨s, s', hresumes, hnext, hplace⟩
    obtain ⟨gap, a, rest, n, hs, hcomes, htake, rfl, rfl⟩ := nextPiece_eq_some hnext
    refine ⟨a, rest, n, (comes_of_resumes hresumes).trans hcomes, htake, rfl, ?_⟩
    rw [← hsplit _ n, ← Nat.add_assoc]
    exact hplace
  · rintro ⟨a, rest, n, hcomes, htake, rfl, hplace⟩
    obtain ⟨s, hresumes, hnext⟩ := hcomes.resumes
    refine ⟨s, _, hresumes, hnext.trans (nextPiece_take htake), ?_⟩
    rw [Nat.add_assoc, hsplit]
    exact hplace

/-! ## Heads: the places where pieces are taken -/

variable (look) in
/-- A scanner up to its next piece: all that is left where it takes one, and what is left behind it. -/
def nextHead : List α → Option (List α × List α)
  | [] => none
  | a :: rest =>
    match look (a :: rest) with
    | .skip => nextHead rest
    | .leave => none
    | .take n => some (a :: rest, (a :: rest).drop n)

variable (look) in
/-- The piece a scanner takes at a place. -/
def pieceAt (head : List α) : List α :=
  match look head with
  | .take n => head.take n
  | _ => []

theorem nextHead_skip {a : α} (h : look (a :: rest) = .skip) :
    nextHead look (a :: rest) = nextHead look rest := by
  rw [nextHead, h]

theorem nextHead_leave {a : α} (h : look (a :: rest) = .leave) : nextHead look (a :: rest) = none := by
  rw [nextHead, h]

theorem nextHead_take {a : α} {n : ℕ} (h : look (a :: rest) = .take n) :
    nextHead look (a :: rest) = some (a :: rest, (a :: rest).drop n) := by
  rw [nextHead, h]

/-- **Where a head comes from.** -/
theorem nextHead_eq_some {head l' : List α} (h : nextHead look l = some (head, l')) :
    ∃ a rest n, head = a :: rest ∧ Comes look l (a :: rest) ∧ look (a :: rest) = .take n ∧
      l' = (a :: rest).drop n := by
  induction l with
  | nil => cases h
  | cons a rest ih =>
    cases hlook : look (a :: rest) with
    | skip =>
      rw [nextHead_skip hlook] at h
      obtain ⟨b, rest', n, hhead, hcomes, htake⟩ := ih h
      exact ⟨b, rest', n, hhead, .skip hlook hcomes, htake⟩
    | leave =>
      rw [nextHead_leave hlook] at h
      cases h
    | take n =>
      rw [nextHead_take hlook] at h
      obtain ⟨rfl, rfl⟩ := Prod.mk.inj (Option.some.inj h)
      exact ⟨a, rest, n, rfl, .here _, hlook, rfl⟩

/-- **A piece is what is taken at its head.** -/
theorem nextPiece_eq_map (l : List α) :
    nextPiece look l = (nextHead look l).map fun found => (pieceAt look found.1, found.2) := by
  induction l with
  | nil => rfl
  | cons a rest ih =>
    cases hlook : look (a :: rest) with
    | skip => rw [nextPiece_skip hlook, nextHead_skip hlook, ih]
    | leave => rw [nextPiece_leave hlook, nextHead_leave hlook, Option.map_none]
    | take n =>
      rw [nextPiece_take hlook, nextHead_take hlook, Option.map_some]
      unfold pieceAt
      rw [hlook]

/-- **The scanner takes pieces at these places** and then ends. -/
abbrev Heads (look : List α → Verdict) (l : List α) (heads : List (List α)) : Prop :=
  Yields (nextHead look) l heads

namespace Heads

variable {heads : List (List α)} {head : List α}

/-- The pieces of a scan, from its heads. -/
theorem scans (h : Heads look l heads) : Scans look l (heads.map (pieceAt look)) :=
  h.map nextPiece_eq_map

/-- A scan that ends has its heads. -/
theorem of_scans (h : Scans look l pieces) : ∃ heads, Heads look l heads ∧ pieces = heads.map (pieceAt look) :=
  h.of_map nextPiece_eq_map

theorem skip_iff {a : α} (h : look (a :: rest) = .skip) :
    Heads look (a :: rest) heads ↔ Heads look rest heads :=
  yields_iff_of_next (nextHead_skip h)

/-- Behind the first head, the others. -/
theorem take_iff {a : α} {n : ℕ} (h : look (a :: rest) = .take n) :
    Heads look (a :: rest) heads ↔
      ∃ heads', heads = (a :: rest) :: heads' ∧ Heads look ((a :: rest).drop n) heads' := by
  have hnext := nextHead_take h
  constructor
  · intro hheads
    cases hheads with
    | ends hnone => exact absurd (hnone.symm.trans hnext) (by simp)
    | @item _ _ _ heads' hsome hrest =>
      obtain ⟨rfl, rfl⟩ := Prod.mk.inj (Option.some.inj (hsome.symm.trans hnext))
      exact ⟨heads', rfl, hrest⟩
  · rintro ⟨heads', rfl, hrest⟩
    exact .item hnext hrest

/-- **Where a scan that ends takes pieces**: wherever it comes to and takes one. -/
theorem mem_iff (h : Heads look l heads) :
    head ∈ heads ↔ head ≠ [] ∧ Comes look l head ∧ ∃ n, look head = .take n := by
  constructor
  · intro hmem
    induction h with
    | ends _ => cases hmem
    | item hsome _ ih =>
      obtain ⟨a, rest, n, rfl, hcomes, htake, rfl⟩ := nextHead_eq_some hsome
      rcases List.mem_cons.mp hmem with rfl | hmem
      · exact ⟨List.cons_ne_nil a rest, hcomes, n, htake⟩
      · obtain ⟨hne, hcomes', hlook⟩ := ih hmem
        exact ⟨hne, hcomes.trans (.take htake hcomes'), hlook⟩
  · rintro ⟨hne, hcomes, n, htake⟩
    induction hcomes generalizing heads with
    | here l =>
      obtain ⟨a, rest, rfl⟩ := List.exists_cons_of_ne_nil hne
      obtain ⟨heads', rfl, _⟩ := (take_iff htake).mp h
      exact List.mem_cons_self
    | skip hlook _ ih => exact ih ((skip_iff hlook).mp h) hne htake
    | take hlook _ ih =>
      obtain ⟨heads', rfl, hrest⟩ := (take_iff hlook).mp h
      exact List.mem_cons_of_mem _ (ih hrest hne htake)

/-- A scan that ends stands still nowhere. -/
theorem take_pos (h : Heads look l heads) {n : ℕ} (hcomes : Comes look l head) (hne : head ≠ [])
    (htake : look head = .take n) : 0 < n := by
  induction hcomes generalizing heads with
  | here =>
    obtain ⟨a, rest, rfl⟩ := List.exists_cons_of_ne_nil hne
    rcases Nat.eq_zero_or_pos n with rfl | hpos
    · exact absurd (nextHead_take htake) (h.moves)
    · exact hpos
  | skip hlook _ ih => exact ih ((skip_iff hlook).mp h) hne htake
  | take hlook _ ih =>
    obtain ⟨heads', _, hrest⟩ := (take_iff hlook).mp h
    exact ih hrest hne htake

/-- **The heads come in order**: less is left at each than at the one before. -/
theorem pairwise (h : Heads look l heads) :
    heads.Pairwise fun head head' => head'.length < head.length := by
  induction h with
  | ends _ => exact .nil
  | @item l l' head heads hsome hrest ih =>
    obtain ⟨a, rest, n, rfl, hcomes, htake, rfl⟩ := nextHead_eq_some hsome
    have hpos : 0 < n := take_pos (.item hsome hrest) hcomes (List.cons_ne_nil a rest) htake
    refine List.pairwise_cons.mpr ⟨fun head' hmem => ?_, ih⟩
    have hle := ((mem_iff hrest).mp hmem).2.1.suffix.length_le
    rw [List.length_drop, List.length_cons] at hle
    rw [List.length_cons]
    omega

end Heads

namespace Scans

/-- **What a scanner takes are slices.** -/
theorem slices (h : Scans look l pieces) : Slices pieces l := by
  induction h with
  | ends _ => exact .nil _
  | @item l l' piece pieces hnext _ ih =>
    obtain ⟨gap, a, rest, n, hl, _, _, rfl, rfl⟩ := nextPiece_eq_some hnext
    have hsplit : l = gap ++ ((a :: rest).take n ++ (a :: rest).drop n) := by
      rw [List.take_append_drop, hl]
    rw [hsplit]
    exact .cons gap _ ih

/-- Each piece was taken where the scan came to. -/
theorem mem (h : Scans look l pieces) {piece : List α} (hpiece : piece ∈ pieces) :
    ∃ a rest n, Comes look l (a :: rest) ∧ look (a :: rest) = .take n ∧
      piece = (a :: rest).take n := by
  induction h with
  | ends _ => cases hpiece
  | item hnext _ ih =>
    rcases List.mem_cons.mp hpiece with rfl | hpiece
    · obtain ⟨_, a, rest, n, _, hcomes, htake, hp, _⟩ := nextPiece_eq_some hnext
      exact ⟨a, rest, n, hcomes, htake, hp⟩
    · obtain ⟨a, rest, n, hcomes, htake⟩ := ih hpiece
      exact ⟨a, rest, n, (comes_of_nextPiece hnext).trans hcomes, htake⟩

/-- A skipped element changes nothing. -/
theorem skip_iff {a : α} (h : look (a :: rest) = .skip) :
    Scans look (a :: rest) pieces ↔ Scans look rest pieces :=
  yields_iff_of_next (nextPiece_skip h)

/-- A scan that ends does so from everywhere it comes to, with some of the same pieces. -/
theorem of_comes {l' : List α} (hcomes : Comes look l l') (h : Scans look l pieces) :
    ∃ pieces', Scans look l' pieces' ∧ pieces' ⊆ pieces := by
  induction hcomes generalizing pieces with
  | here => exact ⟨pieces, h, List.Subset.refl _⟩
  | skip hlook _ ih => exact ih ((skip_iff hlook).mp h)
  | take hlook _ ih =>
    have hnext := nextPiece_take hlook
    cases h with
    | ends hnone => exact absurd (hnone.symm.trans hnext) (by simp)
    | item hsome hrest =>
      obtain ⟨rfl, rfl⟩ := Prod.mk.inj (Option.some.inj (hsome.symm.trans hnext))
      obtain ⟨pieces', hscans, hsub⟩ := ih hrest
      exact ⟨pieces', hscans, List.subset_cons_of_subset _ hsub⟩

/-- **Noise changes nothing**: a stretch of elements that are skipped whatever follows them. -/
theorem append_gap {gap : List α} (hgap : ∀ a ∈ gap, ∀ tail, look (a :: tail) = .skip)
    (h : Scans look rest pieces) : Scans look (gap ++ rest) pieces := by
  induction gap with
  | nil => exact h
  | cons a gap ih =>
    refine (skip_iff (hgap a List.mem_cons_self _)).mpr (ih fun b hb => ?_)
    exact hgap b (List.mem_cons_of_mem a hb)

/-- **A piece is taken whole** when the scanner reads its length at its head. -/
theorem append_piece {piece : List α} (hne : piece ≠ [])
    (hlook : look (piece ++ rest) = .take piece.length) (h : Scans look rest pieces) :
    Scans look (piece ++ rest) (piece :: pieces) := by
  obtain ⟨a, tail, rfl⟩ := List.exists_cons_of_ne_nil hne
  refine .item ((nextPiece_take hlook).trans ?_) h
  show some ((a :: tail ++ rest).take (a :: tail).length,
    (a :: tail ++ rest).drop (a :: tail).length) = _
  rw [List.take_left, List.drop_left]

end Scans

end XBloom.Codec
