/-
# XBloom.Py.Url — `unquote`, `urlparse(...).query` and `parse_qs`

What `urllib.parse` does to a share reference.  `unquote` reads `%XX` as a byte and decodes the bytes as
UTF-8, with U+FFFD for every maximal run that is not; `parse_qs` splits a query at `&` and each piece at
its first `=`, leaves out blank values, and reads `+` as a space before it unquotes.

What `urlparse` refuses (unbalanced brackets in the host) is not modelled: there is no query to speak of.
-/
import Mathlib.Data.List.Infix

namespace XBloom.Py

/-! ## Percent escapes -/

/-- The value of a hexadecimal digit. -/
def hexDigit (c : Char) : Option ℕ :=
  if '0' ≤ c ∧ c ≤ '9' then some (c.toNat - 48)
  else if 'a' ≤ c ∧ c ≤ 'f' then some (c.toNat - 87)
  else if 'A' ≤ c ∧ c ≤ 'F' then some (c.toNat - 55)
  else none

/-- The byte two digits make. -/
def hexByte (a b : Char) : Option ℕ := do
  let high ← hexDigit a
  let low ← hexDigit b
  pure (16 * high + low)

/-- An escaped byte, or a character as it stands. -/
inductive UrlToken where
  | byte (n : ℕ)
  | char (c : Char)
  deriving DecidableEq, Repr

/-- The escapes of a text: `%` and two hexadecimal digits. -/
def percentTokens : List Char → List UrlToken
  | [] => []
  | [c] => [.char c]
  | [c, a] => [.char c, .char a]
  | c :: a :: b :: rest =>
    if c = '%' then
      match hexByte a b with
      | some n => .byte n :: percentTokens rest
      | none => .char c :: percentTokens (a :: b :: rest)
    else .char c :: percentTokens (a :: b :: rest)

/-! ## UTF-8 -/

/-- A UTF-8 sequence under way: the bytes still needed, the code so far, and the bounds of the next
byte. -/
structure Utf8State where
  needed : ℕ := 0
  code : ℕ := 0
  lower : ℕ := 0x80
  upper : ℕ := 0xBF

/-- U+FFFD. -/
def replacementChar : Char := Char.ofNat 0xFFFD

/-- A sequence that breaks off is one replacement character. -/
def Utf8State.flush (s : Utf8State) : List Char := if s.needed = 0 then [] else [replacementChar]

/-- The first byte of a sequence. -/
def Utf8State.lead (b : ℕ) : Utf8State × List Char :=
  if b < 0x80 then ({}, [Char.ofNat b])
  else if 0xC2 ≤ b ∧ b ≤ 0xDF then ({ needed := 1, code := b - 0xC0 }, [])
  else if 0xE0 ≤ b ∧ b ≤ 0xEF then
    ({ needed := 2, code := b - 0xE0, lower := if b = 0xE0 then 0xA0 else 0x80,
       upper := if b = 0xED then 0x9F else 0xBF }, [])
  else if 0xF0 ≤ b ∧ b ≤ 0xF4 then
    ({ needed := 3, code := b - 0xF0, lower := if b = 0xF0 then 0x90 else 0x80,
       upper := if b = 0xF4 then 0x8F else 0xBF }, [])
  else ({}, [replacementChar])

/-- One byte of `bytes.decode("utf-8", "replace")`. -/
def Utf8State.step (s : Utf8State) (b : ℕ) : Utf8State × List Char :=
  if s.needed = 0 then lead b
  else if s.lower ≤ b ∧ b ≤ s.upper then
    if s.needed = 1 then ({}, [Char.ofNat (64 * s.code + (b - 0x80))])
    else ({ needed := s.needed - 1, code := 64 * s.code + (b - 0x80) }, [])
  else ((lead b).1, replacementChar :: (lead b).2)

/-- The text of some tokens; a character ends the sequence under way. -/
def utf8Decode : Utf8State → List UrlToken → List Char
  | s, [] => s.flush
  | s, .byte n :: rest => (s.step n).2 ++ utf8Decode (s.step n).1 rest
  | s, .char c :: rest => s.flush ++ c :: utf8Decode {} rest

/-- `unquote`, on characters. -/
def unquoteChars (text : List Char) : List Char := utf8Decode {} (percentTokens text)

/-- `unquote`. -/
def unquote (text : String) : String := String.ofList (unquoteChars text.toList)

/-! ## Queries -/

/-- What comes before the first `c` (everything, if there is none). -/
def cutBefore (c : Char) (text : List Char) : List Char := text.takeWhile (· ≠ c)

/-- What comes after the first `c` (nothing, if there is none). -/
def cutAfter (c : Char) (text : List Char) : List Char := (text.dropWhile (· ≠ c)).drop 1

/-- `urlparse(url).query`: tabs and line ends are dropped, the fragment is cut off, and the query is
what comes after the first `?`. -/
def urlQuery (url : List Char) : List Char :=
  cutAfter '?' (cutBefore '#' (url.filter fun c => c ∉ ['\t', '\r', '\n']))

/-- `text.replace("+", " ")`. -/
def plusToSpace (text : List Char) : List Char := text.map fun c => if c = '+' then ' ' else c

/-- The value of a piece `name=value`, if its name is `key` and its value is not blank. -/
def fieldValue (key : List Char) (piece : List Char) : Option (List Char) :=
  if cutAfter '=' piece ≠ [] ∧ unquoteChars (plusToSpace (cutBefore '=' piece)) = key then
    some (unquoteChars (plusToSpace (cutAfter '=' piece)))
  else none

/-- `parse_qs(query).get(key)`, its first value. -/
def parseQs (query : List Char) (key : String) : Option String :=
  ((query.splitOn '&').findSome? (fieldValue key.toList)).map String.ofList

/-! ## Texts without escapes, and one escape at a time -/

theorem percentTokens_of_ne {c : Char} (h : c ≠ '%') (rest : List Char) :
    percentTokens (c :: rest) = .char c :: percentTokens rest := by
  rcases rest with _ | ⟨a, _ | ⟨b, rest⟩⟩
  · rfl
  · simp [percentTokens]
  · rw [percentTokens, if_neg h]

theorem percentTokens_of_hexByte {a b : Char} {n : ℕ} (h : hexByte a b = some n)
    (rest : List Char) : percentTokens ('%' :: a :: b :: rest) = .byte n :: percentTokens rest := by
  rw [percentTokens, if_pos rfl, h]

@[simp] theorem unquoteChars_nil : unquoteChars [] = [] := rfl

/-- A character that begins no escape stands for itself. -/
theorem unquoteChars_of_ne {c : Char} (h : c ≠ '%') (rest : List Char) :
    unquoteChars (c :: rest) = c :: unquoteChars rest := by
  rw [unquoteChars, percentTokens_of_ne h]
  rfl

/-- A text without escapes is itself. -/
theorem unquoteChars_of_no_escape {x : List Char} (h : '%' ∉ x) : unquoteChars x = x := by
  induction x with
  | nil => rfl
  | cons c x ih =>
    obtain ⟨hc, hx⟩ := not_or.mp (mt List.mem_cons.mpr h)
    rw [unquoteChars_of_ne (Ne.symm hc), ih hx]

/-- An escaped ASCII character stands for that. -/
theorem unquoteChars_of_hexByte {a b : Char} {n : ℕ} (h : hexByte a b = some n) (hn : n < 0x80)
    (rest : List Char) :
    unquoteChars ('%' :: a :: b :: rest) = Char.ofNat n :: unquoteChars rest := by
  have hstep : ({} : Utf8State).step n = ({}, [Char.ofNat n]) := by
    show Utf8State.lead n = _
    rw [Utf8State.lead, if_pos hn]
  rw [unquoteChars, percentTokens_of_hexByte h, utf8Decode, hstep]
  rfl

/-! ## Cutting a text at a character that belongs to no escape -/

/-- A character that stands in no escape: it is neither `%` nor a hexadecimal digit. -/
def separates (c : Char) : Prop := c ≠ '%' ∧ hexDigit c = none

theorem percentTokens_of_hexByte_none (c : Char) {a b : Char} (h : hexByte a b = none)
    (rest : List Char) :
    percentTokens (c :: a :: b :: rest) = .char c :: percentTokens (a :: b :: rest) := by
  rw [percentTokens, h]
  simp

theorem hexByte_left {a : Char} (h : hexDigit a = none) (b : Char) : hexByte a b = none := by
  rw [hexByte, h]
  rfl

theorem hexByte_right (a : Char) {b : Char} (h : hexDigit b = none) : hexByte a b = none := by
  rw [hexByte, h]
  cases hexDigit a <;> rfl

theorem percentTokens_before {s : Char} (hs : separates s) (c : Char) (rest : List Char) :
    percentTokens (c :: s :: rest) = .char c :: percentTokens (s :: rest) := by
  cases rest with
  | nil => rfl
  | cons b rest => exact percentTokens_of_hexByte_none c (hexByte_left hs.2 b) rest

theorem percentTokens_append {s : Char} (hs : separates s) (x y : List Char) :
    percentTokens (x ++ s :: y) = percentTokens x ++ .char s :: percentTokens y := by
  have hself : percentTokens (s :: y) = .char s :: percentTokens y := percentTokens_of_ne hs.1 y
  induction x using percentTokens.induct with
  | case1 => exact hself
  | case2 c => exact (percentTokens_before hs c y).trans (congrArg _ hself)
  | case3 c a =>
    show percentTokens (c :: a :: s :: y) = .char c :: .char a :: .char s :: percentTokens y
    rw [percentTokens_of_hexByte_none c (hexByte_right a hs.2), percentTokens_before hs, hself]
  | case4 a b rest n hbyte ih =>
    show percentTokens ('%' :: a :: b :: (rest ++ s :: y)) = _
    rw [percentTokens_of_hexByte hbyte, percentTokens_of_hexByte hbyte, ih]
    rfl
  | case5 a b rest hbyte ih =>
    show percentTokens ('%' :: a :: b :: (rest ++ s :: y)) = _
    rw [percentTokens_of_hexByte_none _ hbyte, percentTokens_of_hexByte_none _ hbyte]
    exact congrArg _ ih
  | case6 c a b rest hc ih =>
    show percentTokens (c :: a :: b :: (rest ++ s :: y)) = _
    rw [percentTokens_of_ne hc, percentTokens_of_ne hc]
    exact congrArg _ ih

theorem utf8Decode_append (x y : List UrlToken) (c : Char) (s : Utf8State) :
    utf8Decode s (x ++ .char c :: y) = utf8Decode s x ++ c :: utf8Decode {} y := by
  induction x generalizing s with
  | nil => rfl
  | cons t x ih =>
    cases t with
    | byte n =>
      show (s.step n).2 ++ utf8Decode _ (x ++ .char c :: y) = _
      rw [ih, ← List.append_assoc]
      rfl
    | char d =>
      show s.flush ++ d :: utf8Decode {} (x ++ .char c :: y) = _
      rw [ih, ← List.cons_append, ← List.append_assoc]
      rfl

/-- **`unquote` reads a text in parts**, cut at a character that stands in no escape. -/
theorem unquoteChars_append {s : Char} (hs : separates s) (x y : List Char) :
    unquoteChars (x ++ s :: y) = unquoteChars x ++ s :: unquoteChars y := by
  rw [unquoteChars, percentTokens_append hs, utf8Decode_append]
  rfl

/-- A sequence under way or a token leaves some character. -/
theorem utf8Decode_ne_nil {x : List UrlToken} {s : Utf8State} (h : s.needed ≠ 0 ∨ x ≠ []) :
    utf8Decode s x ≠ [] := by
  induction x generalizing s with
  | nil =>
    have hneeded : s.needed ≠ 0 := h.resolve_right (fun h => h rfl)
    simp [utf8Decode, Utf8State.flush, hneeded]
  | cons token rest ih =>
    cases token with
    | char c => simp [utf8Decode]
    | byte n =>
      -- a byte that gives no character leaves a sequence under way
      have hlead : (Utf8State.lead n).2 ≠ [] ∨ (Utf8State.lead n).1.needed ≠ 0 := by
        unfold Utf8State.lead
        split_ifs <;> simp
      have hstep : (s.step n).2 ≠ [] ∨ (s.step n).1.needed ≠ 0 := by
        unfold Utf8State.step
        split_ifs with hneeded hbounds hone
        · exact hlead
        · exact Or.inl (by simp)
        · refine Or.inr ?_
          show s.needed - 1 ≠ 0
          omega
        · exact Or.inl (by simp)
      show (s.step n).2 ++ utf8Decode (s.step n).1 rest ≠ []
      intro happend
      obtain ⟨hnone, hrest⟩ := List.append_eq_nil_iff.mp happend
      exact ih (Or.inl (hstep.resolve_left (fun h => h hnone))) hrest

theorem percentTokens_ne_nil {x : List Char} (h : x ≠ []) : percentTokens x ≠ [] := by
  unfold percentTokens
  split
  · exact absurd rfl h
  · simp
  · simp
  · split_ifs
    · split <;> simp
    · simp

/-- **`unquote` leaves something of every text.** -/
theorem unquote_ne_empty {text : String} (h : text ≠ "") : unquote text ≠ "" := by
  have hne : text.toList ≠ [] := fun hnil => h (String.toList_eq_nil_iff.mp hnil)
  intro hempty
  have hchars : unquoteChars text.toList = [] := by
    have := congrArg String.toList hempty
    rwa [unquote, String.toList_ofList] at this
  exact utf8Decode_ne_nil (Or.inr (percentTokens_ne_nil hne)) hchars

/-! ## `+` -/

/-- A token with its `+` read as a space. -/
def UrlToken.plusToSpace : UrlToken → UrlToken
  | .byte n => .byte n
  | .char c => .char (if c = '+' then ' ' else c)

theorem hexDigit_plus (c : Char) : hexDigit (if c = '+' then ' ' else c) = hexDigit c := by
  split
  · rename_i h
    rw [h]
    decide
  · rfl

theorem hexByte_plus (a b : Char) :
    hexByte (if a = '+' then ' ' else a) (if b = '+' then ' ' else b) = hexByte a b := by
  rw [hexByte, hexDigit_plus, hexDigit_plus, hexByte]

theorem percentTokens_plusToSpace (x : List Char) :
    percentTokens (plusToSpace x) = (percentTokens x).map UrlToken.plusToSpace := by
  have hpercent : ∀ c : Char, c ≠ '%' → (if c = '+' then ' ' else c) ≠ '%' := by
    intro c hc
    split
    · decide
    · exact hc
  induction x using percentTokens.induct with
  | case1 => rfl
  | case2 c => rfl
  | case3 c a => rfl
  | case4 a b rest n hbyte ih =>
    rw [percentTokens_of_hexByte hbyte, List.map_cons, ← ih]
    exact percentTokens_of_hexByte ((hexByte_plus a b).trans hbyte) (plusToSpace rest)
  | case5 a b rest hbyte ih =>
    rw [percentTokens_of_hexByte_none _ hbyte, List.map_cons, ← ih]
    exact percentTokens_of_hexByte_none _ ((hexByte_plus a b).trans hbyte) (plusToSpace rest)
  | case6 c a b rest hc ih =>
    rw [percentTokens_of_ne hc, List.map_cons, ← ih]
    exact percentTokens_of_ne (hpercent c hc) _

theorem length_utf8Decode_plusToSpace (x : List UrlToken) (s : Utf8State) :
    (utf8Decode s (x.map UrlToken.plusToSpace)).length = (utf8Decode s x).length := by
  induction x generalizing s with
  | nil => rfl
  | cons t x ih =>
    cases t with
    | byte n =>
      show ((s.step n).2 ++ utf8Decode _ (x.map UrlToken.plusToSpace)).length =
        ((s.step n).2 ++ utf8Decode _ x).length
      rw [List.length_append, List.length_append, ih]
    | char c =>
      show (s.flush ++ _ :: utf8Decode {} (x.map UrlToken.plusToSpace)).length =
        (s.flush ++ c :: utf8Decode {} x).length
      rw [List.length_append, List.length_append, List.length_cons, List.length_cons, ih]

/-- Reading `+` as a space changes no length. -/
theorem length_unquoteChars_plusToSpace (x : List Char) :
    (unquoteChars (plusToSpace x)).length = (unquoteChars x).length := by
  rw [unquoteChars, percentTokens_plusToSpace, length_utf8Decode_plusToSpace]
  rfl

theorem plusToSpace_of_not_mem {x : List Char} (h : '+' ∉ x) : plusToSpace x = x := by
  have hid : ∀ c ∈ x, (if c = '+' then ' ' else c) = id c := by
    intro c hc
    rw [if_neg (ne_of_mem_of_not_mem hc h)]
    rfl
  rw [plusToSpace, List.map_congr_left hid, List.map_id]

theorem mem_plusToSpace {x : List Char} {c : Char} (hc : c ≠ ' ') :
    c ∈ plusToSpace x ↔ c ∈ x ∧ c ≠ '+' := by
  unfold plusToSpace
  rw [List.mem_map]
  constructor
  · rintro ⟨d, hd, rfl⟩
    split
    · rename_i hplus
      rw [if_pos hplus] at hc
      exact absurd rfl hc
    · rename_i hplus
      exact ⟨hd, hplus⟩
  · rintro ⟨hmem, hplus⟩
    exact ⟨c, hmem, if_neg hplus⟩

/-! ## Where a query's value stands in its url -/

/-- A text has no `c`, or is cut at its first one. -/
theorem cut_first (c : Char) (x : List Char) :
    (cutBefore c x = x ∧ cutAfter c x = []) ∨ x = cutBefore c x ++ c :: cutAfter c x := by
  induction x with
  | nil => exact Or.inl ⟨rfl, rfl⟩
  | cons d x ih =>
    by_cases hd : d = c
    · right
      simp [cutBefore, cutAfter, hd]
    · have hbefore : cutBefore c (d :: x) = d :: cutBefore c x := by simp [cutBefore, hd]
      have hafter : cutAfter c (d :: x) = cutAfter c x := by simp [cutAfter, hd]
      rw [hbefore, hafter]
      rcases ih with ⟨hall, hnone⟩ | hcut
      · exact Or.inl ⟨by rw [hall], hnone⟩
      · exact Or.inr (congrArg (d :: ·) hcut)

theorem cutBefore_of_not_mem {c : Char} {x : List Char} (h : c ∉ x) : cutBefore c x = x := by
  rcases cut_first c x with ⟨hall, _⟩ | hcut
  · exact hall
  · exact absurd (hcut ▸ List.mem_append_right _ List.mem_cons_self) h

/-- A text cut at a character that is new to it. -/
theorem cut_append {c : Char} {x : List Char} (h : c ∉ x) (y : List Char) :
    cutBefore c (x ++ c :: y) = x ∧ cutAfter c (x ++ c :: y) = y := by
  induction x with
  | nil => simp [cutBefore, cutAfter]
  | cons d x ih =>
    obtain ⟨hd, hx⟩ := not_or.mp (mt List.mem_cons.mpr h)
    obtain ⟨hbefore, hafter⟩ := ih hx
    have hd' : d ≠ c := Ne.symm hd
    constructor
    · calc cutBefore c (d :: x ++ c :: y) = d :: cutBefore c (x ++ c :: y) := by
            simp [cutBefore, hd']
        _ = d :: x := by rw [hbefore]
    · calc cutAfter c (d :: x ++ c :: y) = cutAfter c (x ++ c :: y) := by simp [cutAfter, hd']
        _ = y := hafter

theorem eq_cut_first {c : Char} {x : List Char} (h : cutAfter c x ≠ []) :
    x = cutBefore c x ++ c :: cutAfter c x :=
  (cut_first c x).resolve_left fun hnone => h hnone.2

/-- The end of a text, or a character that separates. -/
def Breaks (post : List Char) : Prop := post = [] ∨ ∃ c rest, separates c ∧ post = c :: rest

theorem length_unquoteChars_breaks {post : List Char} (h : Breaks post) (x : List Char) :
    (unquoteChars x).length ≤ (unquoteChars (x ++ post)).length := by
  rcases h with rfl | ⟨c, rest, hc, rfl⟩
  · rw [List.append_nil]
  · rw [unquoteChars_append hc, List.length_append]
    omega

/-- A piece of a joined text, up to the end or the next separator. -/
theorem mem_intercalate {c : Char} {piece : List Char} {pieces : List (List Char)}
    (h : piece ∈ pieces) : ∃ pre post, [c].intercalate pieces = pre ++ (piece ++ post) ∧
      (post = [] ∨ ∃ rest, post = c :: rest) := by
  induction pieces with
  | nil => cases h
  | cons first rest ih =>
    cases rest with
    | nil =>
      rw [List.mem_singleton.mp h]
      exact ⟨[], [], by simp, Or.inl rfl⟩
    | cons second rest =>
      rw [List.intercalate_cons_cons]
      rcases List.mem_cons.mp h with rfl | h
      · exact ⟨[], c :: [c].intercalate (second :: rest), by simp, Or.inr ⟨_, rfl⟩⟩
      · obtain ⟨pre, post, heq, hpost⟩ := ih h
        exact ⟨first ++ c :: pre, post, by simp [heq], hpost⟩

/-- **What `parse_qs` returns stands in the query**, after a `=` and up to the end or a `&`. -/
theorem parseQs_eq_some {query : List Char} {key value : String}
    (h : parseQs query key = some value) : ∃ pre text post,
      query = pre ++ '=' :: (text ++ post) ∧ value.toList = unquoteChars (plusToSpace text) ∧
        Breaks post := by
  obtain ⟨chars, hfind, rfl⟩ := Option.map_eq_some_iff.mp h
  obtain ⟨piece, hpiece, hvalue⟩ := List.exists_of_findSome?_eq_some hfind
  unfold fieldValue at hvalue
  split at hvalue
  · rename_i hfield
    obtain ⟨pre, post, hquery, hpost⟩ := mem_intercalate (c := '&') hpiece
    rw [List.intercalate_splitOn] at hquery
    refine ⟨pre ++ cutBefore '=' piece, cutAfter '=' piece, post, ?_, ?_, ?_⟩
    · rw [hquery]
      conv_lhs => rw [eq_cut_first hfield.1]
      simp
    · rw [String.toList_ofList]
      exact (Option.some.inj hvalue).symm
    · rcases hpost with hpost | ⟨rest, hpost⟩
      · exact Or.inl hpost
      · exact Or.inr ⟨'&', rest, ⟨by decide, by decide⟩, hpost⟩
  · cases hvalue

/-- A query stands in its url after a `?`, up to the end or a `#`. -/
theorem urlQuery_eq {url : List Char} (hurl : ∀ c ∈ url, c ∉ ['\t', '\r', '\n'])
    (h : urlQuery url ≠ []) :
    ∃ pre post, url = pre ++ '?' :: (urlQuery url ++ post) ∧ Breaks post := by
  have hfilter : url.filter (fun c => c ∉ ['\t', '\r', '\n']) = url :=
    List.filter_eq_self.mpr fun c hc => decide_eq_true (hurl c hc)
  have hquery : urlQuery url = cutAfter '?' (cutBefore '#' url) := by rw [urlQuery, hfilter]
  rw [hquery] at h ⊢
  have hcut := eq_cut_first h
  rcases cut_first '#' url with ⟨hall, _⟩ | hfragment
  · rw [hall] at hcut ⊢
    exact ⟨cutBefore '?' url, [], by rwa [List.append_nil], Or.inl rfl⟩
  · refine ⟨cutBefore '?' (cutBefore '#' url), '#' :: cutAfter '#' url, ?_,
      Or.inr ⟨'#', _, ⟨by decide, by decide⟩, rfl⟩⟩
    conv_lhs => rw [hfragment, hcut]
    simp

/-- **A query's value is shorter than its url**, both unquoted. -/
theorem length_parseQs_lt {url : List Char} {key value : String}
    (hurl : ∀ c ∈ url, c ∉ ['\t', '\r', '\n']) (h : parseQs (urlQuery url) key = some value) :
    value.toList.length < (unquoteChars url).length := by
  obtain ⟨pre, text, post, hquery, hvalue, hpost⟩ := parseQs_eq_some h
  obtain ⟨front, back, heq, hback⟩ := urlQuery_eq hurl (by rw [hquery]; simp)
  have hmark : separates '?' := ⟨by decide, by decide⟩
  have hequals : separates '=' := ⟨by decide, by decide⟩
  have hbreaks : Breaks (post ++ back) := by
    rcases hpost with rfl | ⟨c, rest, hc, rfl⟩
    · exact hback
    · exact Or.inr ⟨c, rest ++ back, hc, rfl⟩
  have hlong : unquoteChars url = unquoteChars front ++ '?' ::
      (unquoteChars pre ++ '=' :: unquoteChars (text ++ (post ++ back))) := by
    conv_lhs => rw [heq, hquery]
    rw [unquoteChars_append hmark, List.append_assoc, List.cons_append, unquoteChars_append hequals,
      List.append_assoc]
  have hle := length_unquoteChars_breaks hbreaks text
  rw [hvalue, length_unquoteChars_plusToSpace, hlong]
  simp only [List.length_append, List.length_cons]
  omega

end XBloom.Py
