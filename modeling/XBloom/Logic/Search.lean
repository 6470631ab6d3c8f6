/-
# XBloom.Logic.Search — a loop that counts up to the first free candidate

`While guard body s t` is `while guard: body` from `s` to its end `t`; a loop that does not end has no such
`t`.  A search counts up from a number while its candidate is taken.  When the candidates are pairwise
different and finitely many are taken, it ends: at the least number whose candidate is free, after at most
as many passes as there are taken ones.
-/
import Mathlib.Data.Finset.Card
import Mathlib.Order.Bounds.Basic

namespace XBloom.Logic

/-! ## Loops -/

section
variable {σ : Type} (guard : σ → Prop) (body : σ → σ)

/-- `while guard: body`, from where it starts to where it ends. -/
inductive While : σ → σ → Prop
  | stops {s : σ} (h : ¬ guard s) : While s s
  | goes {s t : σ} (h : guard s) (rest : While (body s) t) : While s t

variable {guard} {body} {s t : σ}

/-- A loop ends outside its guard. -/
theorem While.ends (h : While guard body s t) : ¬ guard t := by
  induction h with
  | stops h => exact h
  | goes _ _ ih => exact ih

end

/-! ## Searches -/

section
variable {α : Type} (candidate : ℕ → α) (taken : α → Prop)

/-- `while candidate(n) in taken: n += 1`. -/
abbrev Searches (n m : ℕ) : Prop := While (fun k => taken (candidate k)) (fun k => k + 1) n m

variable {candidate} {taken} {n m : ℕ}

/-- **A search ends at the least number whose candidate is free.** -/
theorem Searches.isLeast (h : Searches candidate taken n m) :
    IsLeast {k | n ≤ k ∧ ¬ taken (candidate k)} m := by
  induction h with
  | stops h => exact ⟨⟨le_rfl, h⟩, fun k hk => hk.1⟩
  | @goes n m h _ ih =>
    obtain ⟨⟨hle, hfree⟩, hleast⟩ := ih
    refine ⟨⟨by omega, hfree⟩, fun k hk => hleast ⟨?_, hk.2⟩⟩
    -- the number it left behind is taken
    have hne : k ≠ n := by
      rintro rfl
      exact hk.2 h
    have hge := hk.1
    omega

theorem Searches.le (h : Searches candidate taken n m) : n ≤ m := h.isLeast.1.1

/-- A search ends at the latest at a free candidate. -/
theorem exists_searches_of_free (d : ℕ) (hfree : ¬ taken (candidate (n + d))) :
    ∃ m ≤ n + d, Searches candidate taken n m := by
  induction d generalizing n with
  | zero => exact ⟨n, le_rfl, .stops hfree⟩
  | succ d ih =>
    by_cases hn : taken (candidate n)
    · rw [← Nat.add_assoc, Nat.add_right_comm] at hfree
      obtain ⟨m, hle, hsearch⟩ := ih hfree
      exact ⟨m, by omega, .goes hn hsearch⟩
    · exact ⟨n, by omega, .stops hn⟩

/-- **A search among different candidates of which finitely many are taken ends**, after at most as many
passes as there are taken ones. -/
theorem exists_searches (hdifferent : Function.Injective candidate) (S : Finset α)
    (htaken : ∀ a, taken a → a ∈ S) (n : ℕ) :
    ∃ m ≤ n + S.card, Searches candidate taken n m := by
  obtain ⟨d, hd, hfree⟩ : ∃ d ≤ S.card, ¬ taken (candidate (n + d)) := by
    by_contra hnone
    simp only [not_exists, not_and, not_not] at hnone
    -- more taken candidates than there are taken ones
    have hmaps : ∀ d ∈ Finset.range (S.card + 1), candidate (n + d) ∈ S := fun d hd =>
      htaken _ (hnone d (Nat.lt_succ_iff.mp (Finset.mem_range.mp hd)))
    have hinj : Set.InjOn (fun d => candidate (n + d)) (Finset.range (S.card + 1)) :=
      fun i _ j _ h => Nat.add_left_cancel (hdifferent h)
    have hcard := Finset.card_le_card_of_injOn _ hmaps hinj
    rw [Finset.card_range] at hcard
    omega
  obtain ⟨m, hle, hsearch⟩ := exists_searches_of_free d hfree
  exact ⟨m, by omega, hsearch⟩

end

end XBloom.Logic
