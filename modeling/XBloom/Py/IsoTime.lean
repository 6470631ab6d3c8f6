/-
# XBloom.Py.IsoTime — instants, and the texts they are kept as

`datetime.isoformat()` of an instant in UTC: `2026-10-15T08:30:00+00:00`, with `.` and six digits of
microseconds before the offset unless they are zero.  Such texts are compared as texts; what makes that
the order of the instants is that every field has a fixed width and that `+` comes before `.`
(`isoformat_lt_iff`).
-/
import Mathlib.Data.Nat.Digits.Defs
import Mathlib.Data.String.Basic

namespace XBloom.Py

/-! ## Fields of a fixed width -/

/-- The last `w` decimal digits of a number, with leading zeros. -/
def padded : ℕ → ℕ → List Char
  | 0, _ => []
  | w + 1, n => Nat.digitChar (n / 10 ^ w % 10) :: padded w (n % 10 ^ w)

/-- The digits are in the order of their values. -/
theorem digitChar_lt_iff {a b : ℕ} (ha : a < 10) (hb : b < 10) :
    Nat.digitChar a < Nat.digitChar b ↔ a < b := by
  have hall : ∀ a < 10, ∀ b < 10, Nat.digitChar a < Nat.digitChar b ↔ a < b := by decide
  exact hall a ha b hb

theorem cons_lt_cons_iff {c d : Char} {s t : List Char} :
    c :: s < d :: t ↔ c < d ∨ c = d ∧ s < t := List.cons_lt_cons_iff

/-- **Texts that begin with a number** of the same width go by that number first. -/
theorem padded_append_lt_iff {w a b : ℕ} {s t : List Char} (ha : a < 10 ^ w) (hb : b < 10 ^ w) :
    padded w a ++ s < padded w b ++ t ↔ a < b ∨ a = b ∧ s < t := by
  induction w generalizing a b with
  | zero =>
    have hzero : a = b := by omega
    simp [padded, hzero]
  | succ w ih =>
    have hpow : 0 < 10 ^ w := by positivity
    have hdiv : ∀ n, n < 10 ^ (w + 1) → n / 10 ^ w < 10 := fun n hn =>
      Nat.div_lt_of_lt_mul (by rw [pow_succ] at hn; exact hn)
    rw [padded, padded, List.cons_append, List.cons_append, cons_lt_cons_iff,
      ih (Nat.mod_lt a hpow) (Nat.mod_lt b hpow), Nat.mod_eq_of_lt (hdiv a ha),
      Nat.mod_eq_of_lt (hdiv b hb), digitChar_lt_iff (hdiv a ha) (hdiv b hb)]
    have hinj : Nat.digitChar (a / 10 ^ w) = Nat.digitChar (b / 10 ^ w) ↔ a / 10 ^ w = b / 10 ^ w := by
      constructor
      · intro h
        rcases lt_trichotomy (a / 10 ^ w) (b / 10 ^ w) with hlt | heq | hgt
        · exact absurd ((digitChar_lt_iff (hdiv a ha) (hdiv b hb)).mpr hlt) (h ▸ lt_irrefl _)
        · exact heq
        · exact absurd ((digitChar_lt_iff (hdiv b hb) (hdiv a ha)).mpr hgt) (h ▸ lt_irrefl _)
      · exact fun h => by rw [h]
    rw [hinj]
    have hla := Nat.div_add_mod a (10 ^ w)
    have hlb := Nat.div_add_mod b (10 ^ w)
    have hma := Nat.mod_lt a hpow
    have hmb := Nat.mod_lt b hpow
    -- the leading digit decides, or the rest does
    rcases lt_trichotomy (a / 10 ^ w) (b / 10 ^ w) with hlt | heq | hgt
    · have hab : a < b := Nat.lt_of_div_lt_div hlt
      exact iff_of_true (Or.inl hlt) (Or.inl hab)
    · rw [heq] at hla
      have hlt : a % 10 ^ w < b % 10 ^ w ↔ a < b := by omega
      have hsame : a % 10 ^ w = b % 10 ^ w ↔ a = b := by omega
      simp [heq, hlt, hsame]
    · have hba : b < a := Nat.lt_of_div_lt_div hgt
      refine iff_of_false ?_ ?_
      · rintro (h | ⟨h, _⟩) <;> omega
      · rintro (h | ⟨h, _⟩) <;> omega

/-! ## Instants -/

/-- An instant in UTC, to the microsecond. -/
structure Stamp where
  year : ℕ
  month : ℕ
  day : ℕ
  hour : ℕ
  minute : ℕ
  second : ℕ
  microsecond : ℕ
  year_lt : year < 10 ^ 4
  month_lt : month < 10 ^ 2
  day_lt : day < 10 ^ 2
  hour_lt : hour < 10 ^ 2
  minute_lt : minute < 10 ^ 2
  second_lt : second < 10 ^ 2
  microsecond_lt : microsecond < 10 ^ 6
  deriving DecidableEq

namespace Stamp

/-- The fields as one number, in the order of the instants. -/
def rank (s : Stamp) : ℕ :=
  (((((s.year * 10 ^ 2 + s.month) * 10 ^ 2 + s.day) * 10 ^ 2 + s.hour) * 10 ^ 2 + s.minute) * 10 ^ 2 +
    s.second) * 10 ^ 6 + s.microsecond

/-- The microseconds, left out when zero, and the offset. -/
def fraction (n : ℕ) : List Char :=
  if n = 0 then "+00:00".toList else '.' :: (padded 6 n ++ "+00:00".toList)

/-- The characters of `isoformat()`. -/
def isoChars (s : Stamp) : List Char :=
  padded 4 s.year ++ '-' :: (padded 2 s.month ++ '-' :: (padded 2 s.day ++ 'T' ::
    (padded 2 s.hour ++ ':' :: (padded 2 s.minute ++ ':' :: (padded 2 s.second ++
      fraction s.microsecond)))))

/-- `isoformat()`. -/
def isoformat (s : Stamp) : String := String.ofList s.isoChars

theorem fraction_lt_iff {a b : ℕ} (ha : a < 10 ^ 6) (hb : b < 10 ^ 6) :
    fraction a < fraction b ↔ a < b := by
  unfold fraction
  have hplus : '+' < '.' := by decide
  have hoffset : "+00:00".toList = '+' :: "00:00".toList := by decide
  by_cases hza : a = 0
  · by_cases hzb : b = 0
    · rw [if_pos hza, if_pos hzb]
      exact iff_of_false (List.lt_irrefl _) (by omega)
    · rw [if_pos hza, if_neg hzb, hoffset, cons_lt_cons_iff]
      exact iff_of_true (Or.inl hplus) (by omega)
  · by_cases hzb : b = 0
    · rw [if_neg hza, if_pos hzb, hoffset, cons_lt_cons_iff]
      refine iff_of_false ?_ (by omega)
      rintro (h | ⟨h, _⟩)
      · exact lt_asymm h hplus
      · exact hplus.ne' h
    · rw [if_neg hza, if_neg hzb, cons_lt_cons_iff, padded_append_lt_iff ha hb]
      simp

/-- **The order of the texts is that of the instants.** -/
theorem isoformat_lt_iff {s t : Stamp} : s.isoformat < t.isoformat ↔ s.rank < t.rank := by
  have hchars : s.isoformat < t.isoformat ↔ s.isoChars < t.isoChars := by
    rw [String.lt_iff]
    simp [isoformat]
  have hsep : ∀ (c : Char) (x y : List Char), c :: x < c :: y ↔ x < y := fun c x y => by
    rw [cons_lt_cons_iff]
    simp
  rw [hchars, isoChars, isoChars, padded_append_lt_iff s.year_lt t.year_lt, hsep,
    padded_append_lt_iff s.month_lt t.month_lt, hsep, padded_append_lt_iff s.day_lt t.day_lt, hsep,
    padded_append_lt_iff s.hour_lt t.hour_lt, hsep, padded_append_lt_iff s.minute_lt t.minute_lt, hsep,
    padded_append_lt_iff s.second_lt t.second_lt, fraction_lt_iff s.microsecond_lt t.microsecond_lt]
  have h₁ := s.month_lt
  have h₂ := t.month_lt
  have h₃ := s.day_lt
  have h₄ := t.day_lt
  have h₅ := s.hour_lt
  have h₆ := t.hour_lt
  have h₇ := s.minute_lt
  have h₈ := t.minute_lt
  have h₉ := s.second_lt
  have h₁₀ := t.second_lt
  have h₁₁ := s.microsecond_lt
  have h₁₂ := t.microsecond_lt
  unfold rank
  omega

end Stamp

end XBloom.Py
