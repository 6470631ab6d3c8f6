/-
# XBloom.Link.Backoff — how long the supervisor waits after failed connects

The n-th consecutive failed connect blocks the supervisor for `min(5 * 2^(n-1), 300)` seconds.  The power
is taken before the minimum, as an `int`, and multiplied with a `float`: from 2^1024 on no double holds
it, and the product raises.  That happens in the handler of `async_connect`, before it clears the client.

`backsOff_iff` says that everything works for 1024 failures in a row, and for no more.
-/
import XBloom.Async.Solo
import XBloom.Link.Manager

namespace XBloom.Link

open XBloom.Async XBloom.Py XBloom.Ble

/-! ## The delay -/

/-- The delay after `n` failures, in seconds. -/
def backoff (n : ℕ) : ℕ := min (5 * 2 ^ (n - 1)) 300

/-- **The delay never decreases.** -/
theorem backoff_mono {n m : ℕ} (h : n ≤ m) : backoff n ≤ backoff m := by
  have hpow : 2 ^ (n - 1) ≤ 2 ^ (m - 1) := Nat.pow_le_pow_right (by decide) (by omega)
  unfold backoff
  omega

theorem backoff_le (n : ℕ) : backoff n ≤ 300 := min_le_right _ _

theorem pow_lt_overflowBound {k : ℕ} (h : k < 1024) : (2 : ℚ) ^ k < PyFloat.overflowBound := by
  have hle : (2 : ℚ) ^ k ≤ 2 ^ 1023 := pow_le_pow_right₀ (by norm_num) (by omega)
  have hsmall : (2 : ℚ) ^ 970 < 2 ^ 1023 := pow_lt_pow_right₀ (by norm_num) (by norm_num)
  have hdouble : (2 : ℚ) ^ 1024 = 2 ^ 1023 + 2 ^ 1023 := by rw [pow_succ, mul_two]
  unfold PyFloat.overflowBound
  rw [hdouble]
  exact lt_sub_iff_add_lt.mpr (add_lt_add_of_le_of_lt hle hsmall)

theorem overflowBound_le_pow {k : ℕ} (h : 1024 ≤ k) : PyFloat.overflowBound ≤ (2 : ℚ) ^ k := by
  have hle : (2 : ℚ) ^ 1024 ≤ 2 ^ k := pow_le_pow_right₀ (by norm_num) h
  have hpos : (0 : ℚ) < 2 ^ 970 := by positivity
  unfold PyFloat.overflowBound
  exact (sub_le_self _ hpos.le).trans hle

/-- The smaller of a float and 300, by the comparison `min` makes. -/
theorem min_300 {q : ℚ} (h : 0 ≤ q) :
    (if PyFloat.lt 300 (PyFloat.ofRat q) then (300 : PyFloat) else PyFloat.ofRat q) = .fin (min q 300) := by
  by_cases hsmall : |q| < PyFloat.overflowBound
  · have hcompare : PyFloat.lt 300 (.fin q) = decide ((300 : ℚ) < q) := by
      rw [PyFloat.ofNat_eq_fin, PyFloat.lt_fin]
      norm_num
    rw [PyFloat.ofRat_of_lt hsmall, hcompare]
    by_cases hlt : (300 : ℚ) < q
    · rw [if_pos (decide_eq_true hlt), min_eq_right hlt.le]
      rfl
    · rw [if_neg (fun h => hlt (of_decide_eq_true h)), min_eq_left (not_lt.mp hlt)]
  · have hinf : PyFloat.ofRat q = .inf false := by
      unfold PyFloat.ofRat
      rw [if_neg hsmall, decide_eq_false (not_lt.mpr h)]
    have hlarge : (300 : ℚ) ≤ q := by
      have hbound := PyFloat.lt_overflowBound_of_le (q := 300) (by norm_num)
      rw [abs_of_nonneg h] at hsmall
      rw [abs_of_nonneg (by norm_num)] at hbound
      linarith only [hbound, not_lt.mp hsmall]
    rw [hinf, if_pos (show PyFloat.lt 300 (.inf false) = true from rfl), min_eq_right hlarge]
    rfl

/-- **The delay after up to 1024 failures.** -/
theorem backoffDelay_of_le {n : ℕ} (h : n ≤ 1024) : backoffDelay n = .ok (.fin (backoff n)) := by
  have hpow : ((2 ^ (n - 1) : ℤ) : ℚ) = 2 ^ (n - 1) := by push_cast; rfl
  have hpos : (0 : ℚ) < 2 ^ (n - 1) := by positivity
  have hfits : |((2 ^ (n - 1) : ℤ) : ℚ)| < PyFloat.overflowBound := by
    rw [hpow, abs_of_pos hpos]
    exact pow_lt_overflowBound (by omega)
  unfold backoffDelay
  refine bind_eq_ok.mpr ⟨_, PyFloat.ofInt_of_lt hfits, ?_⟩
  have hmul : PyFloat.mul 5 (.fin ((2 ^ (n - 1) : ℤ) : ℚ)) = PyFloat.ofRat (5 * 2 ^ (n - 1)) := by
    rw [hpow]
    rfl
  rw [hmul]
  show Except.ok (if PyFloat.lt 300 (PyFloat.ofRat (5 * 2 ^ (n - 1))) then (300 : PyFloat) else
    PyFloat.ofRat (5 * 2 ^ (n - 1))) = _
  rw [min_300 (by positivity)]
  unfold backoff
  push_cast
  rfl

/-- **From 1025 failures on the delay cannot be computed.** -/
theorem backoffDelay_of_lt {n : ℕ} (h : 1024 < n) : backoffDelay n = .error .overflowError := by
  have hpow : ((2 ^ (n - 1) : ℤ) : ℚ) = 2 ^ (n - 1) := by push_cast; rfl
  have hpos : (0 : ℚ) < 2 ^ (n - 1) := by positivity
  have hlarge : ¬ |((2 ^ (n - 1) : ℤ) : ℚ)| < PyFloat.overflowBound := by
    rw [hpow, abs_of_pos hpos]
    exact not_lt.mpr (overflowBound_le_pow (by omega))
  unfold backoffDelay PyFloat.ofInt
  rw [if_neg hlarge]
  rfl

theorem milliseconds_backoff (n : ℕ) : milliseconds (.fin (backoff n)) = 1000 * backoff n := by
  have hcast : (1000 : ℚ) * (backoff n : ℚ) = ((1000 * backoff n : ℕ) : ℚ) := by push_cast; rfl
  show ⌊1000 * (backoff n : ℚ)⌋.toNat = 1000 * backoff n
  rw [hcast, Int.floor_natCast, Int.toNat_natCast]

/-! ## Failed connects -/

/-- The story of a call of the connection manager. -/
abbrev LinkStory := Story World Event Point Response Move

/-- The link did not come up, or its notifications could not be had. -/
def Refused : Beat World Event Point Response Move → Bool
  | .answered (.connecting _ .link) _ .failed => true
  | .answered (.connecting _ .notify) _ .failed => true
  | _ => false

/-- The connect of a story failed. -/
def ConnectFailed (σ : LinkStory) : Prop := σ.beats.any Refused = true

/-- A connect: the world it finds, and what it is replied. -/
structure Attempt where
  found : World
  replies : ℕ → Reply Response Move

/-- What becomes of it. -/
def Attempt.outcome (a : Attempt) : Except PyErr Bool × LinkStory :=
  asyncConnect.run.play World.move (.start a.found) a.replies

/-- **Failed connects in a row**, from a count of failures on: each finds the count the one before left,
and whatever else happened in between. -/
def InARow : ℕ → List Attempt → Prop
  | _, [] => True
  | k, a :: rest => a.found.reconnectFailures = k ∧ ConnectFailed a.outcome.2 ∧
      InARow a.outcome.2.world.reconnectFailures rest

/-- **The n-th failed connect**: `async_connect` returns `False` with no client, `n` failures are
counted, and the supervisor is blocked for the delay. -/
structure BacksOffAfter (n : ℕ) (a : Attempt) : Prop where
  returns : a.outcome.1 = .ok false
  noClient : a.outcome.2.world.client = none
  counted : a.outcome.2.world.reconnectFailures = n
  blocked : a.outcome.2.world.reconnectBlockedUntil =
    a.outcome.2.world.clock + 1000 * backoff n

/-- **The backoff works for `n` failed connects in a row**: the n-th note returns `n`, and the n-th connect
backs off. -/
structure BacksOff (n : ℕ) : Prop where
  notes : ∀ w replies, w.reconnectFailures + 1 = n →
    (noteConnectFailure.run.play World.move (.start w) replies).1 = .ok n
  connects : ∀ l a, InARow 0 (l ++ [a]) → (l ++ [a]).length = n → BacksOffAfter n a

/-! ## One connect -/

/-- So far `k` failures are counted, and no connect was refused. -/
def Counted (k : ℕ) (σ : LinkStory) : Prop :=
  σ.world.reconnectFailures = k ∧ ¬ ConnectFailed σ

theorem move_reconnectFailures (w : World) (m : Move) :
    (w.move m).reconnectFailures = w.reconnectFailures := by
  cases m with
  | dropCallback c =>
    show (if w.isConnected c then w else w.handleUnexpectedDisconnect).reconnectFailures = _
    unfold World.handleUnexpectedDisconnect
    split
    · rfl
    · split <;> rfl
  | _ => rfl

theorem answer_reconnectFailures (σ : LinkStory) (l : Point) (reply : Reply Response Move) :
    (σ.answer World.move l reply).world.reconnectFailures = σ.world.reconnectFailures := by
  have hkeeps : ∀ w m, w.reconnectFailures = σ.world.reconnectFailures →
      (World.move w m).reconnectFailures = σ.world.reconnectFailures := fun w m h =>
    (move_reconnectFailures w m).trans h
  exact @XBloom.Logic.run_preserves _ _ World.move
    (fun w => w.reconnectFailures = σ.world.reconnectFailures) hkeeps _ rfl reply.moves

/-- A beat more. -/
theorem connectFailed_answer (σ : LinkStory) (l : Point) (reply : Reply Response Move) :
    ConnectFailed (σ.answer World.move l reply) ↔ ConnectFailed σ ∨
      Refused (.answered l (XBloom.Logic.run World.move σ.world reply.moves) reply.response) = true := by
  have hmoved : (reply.moves.map (Beat.moved : Move → Beat World Event Point Response Move)).any
      Refused = false := by
    rw [List.any_map]
    exact List.any_eq_false.mpr fun m _ => by simp [Refused]
  unfold ConnectFailed Story.answer
  rw [List.any_append, List.any_append, hmoved]
  simp

variable {D : Prop}

/-- When `D` is so and every answer so far was a failure, a connect was refused. -/
def Told (D : Prop) (σ : LinkStory) : Prop := D → σ.Answers (· = .failed) → ConnectFailed σ

/-- Whatever happens, a refusal stays one, and so does an answer that was none. -/
theorem keeps_told (F : Footprint World Event Point) : Keeps World.move F (Told D) where
  write _ _ _ h := h
  emit e _ σ h hD hanswers := by
    have hbefore : σ.Answers (· = .failed) := fun l w r hmem =>
      hanswers l w r (List.mem_append_left _ hmem)
    show (σ.beats ++ [Beat.emitted σ.world e]).any Refused = true
    rw [List.any_append, h hD hbefore, Bool.true_or]
  answer l _ σ reply h hD hanswers := by
    have hbefore : σ.Answers (· = .failed) := fun l w r hmem =>
      hanswers l w r (List.mem_append_left _ hmem)
    exact (connectFailed_answer σ l reply).mpr (.inl (h hD hbefore))

/-- No footprint at all. -/
def everything : Footprint World Event Point := ⟨fun _ => True, fun _ => True, fun _ _ => True⟩

/-- What no connect is refused by, and no failure counted. -/
def quiet : Footprint World Event Point where
  awaits l := ∀ w r, Refused (.answered l w r) = false
  emits _ := True
  writes w w' := w'.reconnectFailures = w.reconnectFailures

/-- A connect that was not refused is not, whatever happens where no connect is refused. -/
theorem keeps_unrefused {F : Footprint World Event Point}
    (hF : ∀ l, F.awaits l → ∀ w r, Refused (.answered l w r) = false) :
    Keeps World.move F fun σ => ¬ ConnectFailed σ where
  write _ _ _ h := h
  emit e _ σ h := by
    intro hfailed
    have happend : (σ.beats ++ [Beat.emitted σ.world e]).any Refused = true := hfailed
    rw [List.any_append, Bool.or_eq_true] at happend
    exact h (happend.resolve_right (by simp [Refused]))
  answer l hl σ reply h := by
    intro hfailed
    rcases (connectFailed_answer σ l reply).mp hfailed with hbefore | hnow
    · exact h hbefore
    · rw [hF l hl] at hnow
      cases hnow

theorem keeps_counted (k : ℕ) : Keeps World.move quiet (Counted k) where
  write _ _ hwrites h := ⟨hwrites.trans h.1, h.2⟩
  emit e he σ h := ⟨h.1, (keeps_unrefused fun _ h => h).emit e he σ h.2⟩
  answer l hl σ reply h := ⟨(answer_reconnectFailures σ l reply).trans h.1,
    (keeps_unrefused fun _ h => h).answer l hl σ reply h.2⟩

/-- Both at once. -/
theorem keeps_counted_told (k : ℕ) : Keeps World.move quiet fun σ => Counted k σ ∧ Told D σ where
  write f σ hwrites h := ⟨(keeps_counted k).write f σ hwrites h.1, h.2⟩
  emit e he σ h := ⟨(keeps_counted k).emit e he σ h.1, (keeps_told quiet).emit e he σ h.2⟩
  answer l hl σ reply h :=
    ⟨(keeps_counted k).answer l hl σ reply h.1, (keeps_told quiet).answer l hl σ reply h.2⟩

theorem sendCommand_within {c : ℕ} {command : Command} {at_ : Point} (h : quiet.awaits at_) :
    Within quiet (sendCommand c command at_) := by
  refine Within.world fun w => ?_
  split
  · refine Within.bind (Within.emit trivial) fun _ => Within.bind (Within.await h) fun r => ?_
    split
    · exact Within.throw _
    · exact Within.pure _
  · exact Within.throw _

theorem sendHandshake_within {c : ℕ} {at_ : Point} (h : quiet.awaits at_) :
    Within quiet (sendHandshake c at_) :=
  Within.world fun _ => Within.when
    (Within.bind (Within.attempt (sendCommand_within h)) fun _ => Within.pure _)

/-- **`_reset_state` neither refuses a connect nor counts a failure.** -/
theorem resetState_within (c : ℕ) : Within quiet (resetState c) := by
  have hcleanUp : Within quiet (cleanUp c) := by
    refine Within.bind (sendCommand_within fun _ _ => rfl) fun _ => ?_
    refine Within.bind (Within.await fun _ _ => rfl) fun _ => ?_
    refine Within.bind (sendCommand_within fun _ _ => rfl) fun _ => ?_
    refine Within.bind (sendCommand_within fun _ _ => rfl) fun _ => ?_
    exact Within.bind (Within.await fun _ _ => rfl) fun _ => Within.pure _
  refine Within.bind (sendHandshake_within fun _ _ => rfl) fun _ => ?_
  refine Within.bind (Within.await fun _ _ => rfl) fun _ => ?_
  exact Within.bind (Within.attempt hcleanUp) fun _ => Within.pure _

/-- A connect that is about to be noted as failed: `k` failures are counted, or more when the note has
raised before. -/
def Failing (k : ℕ) (D : Prop) (σ : LinkStory) : Prop :=
  Told D σ ∧ k ≤ σ.world.reconnectFailures ∧ (k < 1024 → σ.world.reconnectFailures = k)

/-- A connect that got its link and was not refused. -/
def Connected (D : Prop) (σ : LinkStory) : Prop := Told D σ ∧ ¬ ConnectFailed σ

/-- **`XBloomClient.connect`**, with `k` failures counted. -/
theorem clientConnect_plays (k c : ℕ) :
    Plays World.move (Counted k) (clientConnect c)
      (fun connected σ => if connected then Connected D σ else Failing k D σ) (fun _ => Failing k D) := by
  refine Plays.bind (Q := fun linked σ => σ.world.reconnectFailures = k ∧ Told D σ ∧
    (linked = .done → ¬ ConnectFailed σ)) (Plays.await fun σ reply h => ?_) fun linked => ?_
  · refine ⟨(answer_reconnectFailures σ _ reply).trans h.1, fun _ hanswers => ?_, fun hdone => ?_⟩
    · refine (connectFailed_answer σ _ reply).mpr (.inr ?_)
      have hfailed : reply.response = .failed :=
        hanswers _ _ _ (List.mem_append_right _ (List.mem_append_right _ (List.mem_singleton.mpr rfl)))
      rw [hfailed]
      rfl
    · rw [connectFailed_answer, hdone]
      exact not_or.mpr ⟨h.2, by simp [Refused]⟩
  split
  · exact Plays.pure fun σ h => ⟨h.2.1, h.1.ge, fun _ => h.1⟩
  · rename_i hlinked
    have hdone : linked = .done := by
      cases linked with
      | done => rfl
      | failed => exact absurd rfl hlinked
    refine Plays.bind (Q := fun _ σ => Counted k σ ∧ Told D σ)
      (Plays.assign fun σ h => ⟨⟨h.1, h.2.2 hdone⟩, h.2.1⟩) fun _ => ?_
    refine Plays.bind (Q := fun notifying σ => σ.world.reconnectFailures = k ∧ Told D σ ∧
      (notifying = .done → ¬ ConnectFailed σ)) (Plays.await fun σ reply h => ?_) fun notifying => ?_
    · refine ⟨(answer_reconnectFailures σ _ reply).trans h.1.1,
        (keeps_told everything).answer _ trivial σ reply h.2, fun hdone => ?_⟩
      rw [connectFailed_answer, hdone]
      exact not_or.mpr ⟨h.1.2, by simp [Refused]⟩
    split
    · exact Plays.throw fun σ h => ⟨h.2.1, h.1.ge, fun _ => h.1⟩
    · rename_i hnotifying
      have hready : notifying = .done := by
        cases notifying with
        | done => rfl
        | failed => exact absurd rfl hnotifying
      -- from here on nothing can refuse the connect any more
      refine Plays.bind (Q := fun _ σ => Counted k σ ∧ Told D σ)
        ((Within.plays (keeps_counted_told k) (Within.await fun _ _ => rfl)).weaken
          (fun σ h => ⟨⟨h.1, h.2.2 hready⟩, h.2.1⟩) (fun _ _ h => h)
          fun _ σ h => ⟨h.2, h.1.1.ge, fun _ => h.1.1⟩) fun _ => ?_
      refine Plays.bind (Q := fun _ σ => Counted k σ ∧ Told D σ)
        ((Within.plays (keeps_counted_told k) (resetState_within c)).weaken
          (fun _ h => h) (fun _ _ h => h)
          fun _ σ h => ⟨h.2, h.1.1.ge, fun _ => h.1.1⟩) fun _ => ?_
      refine Plays.bind (Q := fun _ σ => Counted k σ ∧ Told D σ)
        ((Within.plays (keeps_counted_told k) (Within.await fun _ _ => rfl)).weaken
          (fun _ h => h) (fun _ _ h => h)
          fun _ σ h => ⟨h.2, h.1.1.ge, fun _ => h.1.1⟩) fun _ => ?_
      exact Plays.pure fun σ h => ⟨h.2, h.1.2⟩

/-- A failure that was noted on `k` counted ones. -/
def Noted (k : ℕ) (w : World) : Prop :=
  w.reconnectFailures = k + 1 ∧ w.reconnectBlockedUntil = w.clock + 1000 * backoff (k + 1)

/-- **`_note_connect_failure`.** -/
theorem noteConnectFailure_plays (k : ℕ) :
    Plays World.move (Failing k D) noteConnectFailure
      (fun n σ => n = k + 1 ∧ k < 1024 ∧ Noted k σ.world ∧ Told D σ)
      (fun _ σ => 1024 ≤ k ∧ k < σ.world.reconnectFailures ∧ Told D σ) := by
  refine Plays.bind (Q := fun _ σ => Told D σ ∧ k < σ.world.reconnectFailures ∧
    (k < 1024 → σ.world.reconnectFailures = k + 1)) (Plays.assign fun σ h => ?_) fun _ => ?_
  · exact ⟨h.1, Nat.lt_succ_of_le h.2.1, fun hk => congrArg (· + 1) (h.2.2 hk)⟩
  refine Plays.world fun w => ?_
  refine Plays.bind (Q := fun delay σ => delay = .fin (backoff (k + 1)) ∧ k < 1024 ∧
    w.reconnectFailures = k + 1 ∧ σ.world.reconnectFailures = k + 1 ∧ Told D σ)
    (Plays.lift (fun delay hdelay σ h => ?_) fun e he σ h => ?_) fun delay => ?_
  · obtain ⟨⟨htold, _, hcount⟩, rfl⟩ := h
    rcases Nat.lt_or_ge k 1024 with hk | hk
    · rw [hcount hk, backoffDelay_of_le (by omega)] at hdelay
      cases hdelay
      exact ⟨rfl, hk, hcount hk, hcount hk, htold⟩
    · rw [backoffDelay_of_lt (by omega)] at hdelay
      cases hdelay
  · obtain ⟨⟨htold, hlt, hcount⟩, rfl⟩ := h
    rcases Nat.lt_or_ge k 1024 with hk | hk
    · rw [hcount hk, backoffDelay_of_le (by omega)] at he
      cases he
    · exact ⟨hk, hlt, htold⟩
  refine Plays.bind (Q := fun _ σ => w.reconnectFailures = k + 1 ∧ k < 1024 ∧ Noted k σ.world ∧ Told D σ)
    (Plays.assign fun σ h => ?_) fun _ => Plays.pure fun σ h => h
  obtain ⟨rfl, hk, hw, hσ, htold⟩ := h
  refine ⟨hw, hk, ⟨hσ, ?_⟩, htold⟩
  show σ.world.clock + milliseconds (.fin (backoff (k + 1))) = σ.world.clock + 1000 * backoff (k + 1)
  rw [milliseconds_backoff]

/-- How a connect ends on `k` counted failures: refused, it has backed off, and it raises only when `k` is
too large. -/
def Ends (k : ℕ) (D : Prop) : Except PyErr Bool → LinkStory → Prop
  | .ok connected, σ => Told D σ ∧ (ConnectFailed σ →
      connected = false ∧ σ.world.client = none ∧ k < 1024 ∧ Noted k σ.world)
  | .error _, σ => Told D σ ∧ 1024 ≤ k ∧ k < σ.world.reconnectFailures

/-- **A failed connect is noted.** -/
theorem connectFailed_plays (k : ℕ) :
    Plays World.move (Failing k D) connectFailed (fun connected => Ends k D (.ok connected))
      (fun e => Ends k D (.error e)) := by
  refine Plays.bind ((noteConnectFailure_plays k).weaken (fun _ h => h) (fun _ _ h => h)
    fun _ σ h => ⟨h.2.2, h.1, h.2.1⟩) fun _ => ?_
  refine Plays.bind (Q := fun _ σ => σ.world.client = none ∧ k < 1024 ∧ Noted k σ.world ∧ Told D σ)
    (Plays.assign fun σ h => ⟨rfl, h.2⟩) fun _ => Plays.pure fun σ h => ?_
  exact ⟨h.2.2.2, fun _ => ⟨rfl, h.1, h.2.1, h.2.2.1⟩⟩

/-- What `async_connect` does with its client: it ends, or raises what is to be noted as a failure. -/
theorem connectClient_plays (k c : ℕ) :
    Plays World.move (Counted k) (connectClient c) (fun connected => Ends k D (.ok connected))
      (fun _ => Failing k D) := by
  refine Plays.bind (clientConnect_plays k c) fun connected => ?_
  cases connected with
  | false =>
    refine (connectFailed_plays k).weaken (fun _ h => h) (fun _ _ h => h) fun _ σ h => ?_
    exact ⟨h.1, h.2.2.le, fun hk => absurd hk (not_lt.mpr h.2.1)⟩
  | true =>
    refine Plays.bind (Q := fun _ => Connected D) (Plays.assign fun _ h => h) fun _ => ?_
    refine Plays.bind (Q := fun _ => Connected D) (Plays.await fun σ reply h => ?_) fun _ => ?_
    · refine ⟨(keeps_told everything).answer _ trivial σ reply h.1, fun hfailed => ?_⟩
      rcases (connectFailed_answer σ _ reply).mp hfailed with hbefore | hnow
      · exact h.2 hbefore
      · cases hnow
    refine Plays.bind (Q := fun _ => Connected D) (Plays.assign fun _ h => h) fun _ => ?_
    exact Plays.pure fun σ h => ⟨h.1, fun hfailed => absurd hfailed h.2⟩

/-- A connect whose refusal by an exception is still to be noted. -/
def Attempted (k : ℕ) (D : Prop) : Except PyErr Bool → LinkStory → Prop
  | .ok connected => Ends k D (.ok connected)
  | .error _ => Failing k D

/-- The body of `async_connect`; where there is no client it does connect. -/
theorem connectLocked_plays (k : ℕ) (D : Prop) :
    Plays World.move (fun σ => Counted k σ ∧ (D → σ.world.client = none)) connectLocked
      (fun connected => Ends k D (.ok connected)) (fun e => Ends k D (.error e)) := by
  refine Plays.world fun w => ?_
  split
  · rename_i hup
    refine Plays.pure fun σ h => ⟨fun hD => ?_, fun hfailed => absurd hfailed h.1.1.2⟩
    obtain ⟨⟨-, hnone⟩, rfl⟩ := h
    rw [World.linkUp, hnone hD] at hup
    cases hup
  · refine Plays.bind (Q := fun _ => Counted k)
      (Plays.emit fun σ h => (keeps_counted k).emit _ trivial σ h.1.1) fun _ => ?_
    refine Plays.bind (Q := fun _ => Counted k) (Plays.assign fun _ h => h) fun _ => ?_
    refine Plays.bind (Q := Attempted k D) (Plays.attempt (connectClient_plays k _))
      fun connected => ?_
    cases connected with
    | ok connected => exact Plays.pure fun _ h => h
    | error e => exact connectFailed_plays k

/-- **`async_connect`.** -/
theorem asyncConnect_plays (k : ℕ) (D : Prop) :
    Plays World.move
      (fun σ => Counted k σ ∧ (D → σ.world.client = none ∧ σ.world.connectLocked = false)) asyncConnect
      (fun connected => Ends k D (.ok connected)) (fun e => Ends k D (.error e)) := by
  refine Plays.world fun w => ?_
  refine Plays.bind (Q := fun _ σ => Counted k σ ∧ (D → σ.world.client = none)) ?_ fun _ => ?_
  · refine Plays.when (fun hlocked => ?_) fun _ σ h => ⟨h.1.1, fun hD => (h.1.2 hD).1⟩
    refine Plays.bind (Q := fun _ σ => Counted k σ ∧ ¬ D) (Plays.await fun σ reply h => ?_)
      fun _ => Plays.pure fun σ h => ⟨h.1, fun hD => absurd hD h.2⟩
    refine ⟨(keeps_counted k).answer _ (fun _ _ => rfl) σ reply h.1.1, fun hD => ?_⟩
    obtain ⟨⟨-, hfree⟩, rfl⟩ := h
    rw [(hfree hD).2] at hlocked
    cases hlocked
  refine Plays.bind (Q := fun _ σ => Counted k σ ∧ (D → σ.world.client = none))
    (Plays.assign fun _ h => h) fun _ => ?_
  refine Plays.bind (Plays.attempt (connectLocked_plays k D)) fun connected => ?_
  refine Plays.bind (Q := fun _ => Ends k D connected) (Plays.assign fun σ h => ?_) fun _ => ?_
  · cases connected with
    | ok connected => exact h
    | error e => exact h
  · refine Plays.lift (fun connected' h σ hends => ?_) fun e h σ hends => ?_
    · exact h ▸ hends
    · exact h ▸ hends

/-! ## Connects in a row -/

namespace Attempt

/-- How a connect ends, by the failures it finds. -/
theorem ends (a : Attempt) (D : Prop)
    (hD : D → a.found.client = none ∧ a.found.connectLocked = false) :
    Ends a.found.reconnectFailures D a.outcome.1 a.outcome.2 :=
  (asyncConnect_plays a.found.reconnectFailures D).play_result
    (P := fun r => Ends a.found.reconnectFailures D r)
    ⟨⟨rfl, fun h => Bool.noConfusion h⟩, hD⟩ a.replies

/-- What a refused connect leaves: one failure more, or several when the note raises. -/
theorem counts (a : Attempt) (h : ConnectFailed a.outcome.2) :
    a.found.reconnectFailures < a.outcome.2.world.reconnectFailures ∧
      (a.found.reconnectFailures < 1024 →
        a.outcome.2.world.reconnectFailures = a.found.reconnectFailures + 1) := by
  have hends := a.ends False False.elim
  cases hresult : a.outcome.1 with
  | ok connected =>
    rw [hresult] at hends
    have hcount := (hends.2 h).2.2.2.1
    exact ⟨by omega, fun _ => hcount⟩
  | error e =>
    rw [hresult] at hends
    exact ⟨hends.2.2, fun hk => absurd hk (not_lt.mpr hends.2.1)⟩

/-- **A refused connect that finds less than 1024 failures backs off.** -/
theorem backsOff (a : Attempt) (h : ConnectFailed a.outcome.2) (hk : a.found.reconnectFailures < 1024) :
    BacksOffAfter (a.found.reconnectFailures + 1) a := by
  have hends := a.ends False False.elim
  cases hresult : a.outcome.1 with
  | ok connected =>
    rw [hresult] at hends
    obtain ⟨rfl, hclient, -, hcount, hblocked⟩ := hends.2 h
    exact ⟨hresult, hclient, hcount, hblocked⟩
  | error e =>
    rw [hresult] at hends
    exact absurd hk (not_lt.mpr hends.2.1)

/-- **One that finds more raises.** -/
theorem raises (a : Attempt) (h : ConnectFailed a.outcome.2) (hk : 1024 ≤ a.found.reconnectFailures) :
    a.outcome.1 ≠ .ok false := by
  intro hresult
  have hends := a.ends False False.elim
  rw [hresult] at hends
  exact absurd (hends.2 h).2.2.1 (not_lt.mpr hk)

end Attempt

/-- The last of several failed connects in a row was refused, and finds those before it counted. -/
theorem InARow.last {k : ℕ} {l : List Attempt} {a : Attempt} (h : InARow k (l ++ [a])) :
    ConnectFailed a.outcome.2 ∧ k + l.length ≤ a.found.reconnectFailures ∧
      (k + l.length ≤ 1024 → a.found.reconnectFailures = k + l.length) := by
  induction l generalizing k with
  | nil => exact ⟨h.2.1, h.1.ge, fun _ => h.1⟩
  | cons b rest ih =>
    obtain ⟨hfound, hfailed, hrest⟩ := h
    obtain ⟨hlast, hle, heq⟩ := ih hrest
    obtain ⟨hmore, hone⟩ := b.counts hfailed
    rw [List.length_cons]
    refine ⟨hlast, by omega, fun hk => ?_⟩
    have hcount := hone (by omega)
    rw [heq (by omega), hcount, hfound]
    omega

/-- A connect that is refused whatever it awaits. -/
def refusedAt (k : ℕ) : Attempt := ⟨{ reconnectFailures := k }, fun _ => ⟨[], .failed⟩⟩

theorem refusedAt_failed (k : ℕ) : ConnectFailed (refusedAt k).outcome.2 := by
  have hanswers : (refusedAt k).outcome.2.Answers (· = .failed) :=
    Co.play_answers (fun _ => rfl) fun _ _ _ h => absurd h List.not_mem_nil
  have hends := (refusedAt k).ends True fun _ => ⟨rfl, rfl⟩
  cases hresult : (refusedAt k).outcome.1 with
  | ok connected =>
    rw [hresult] at hends
    exact hends.1 trivial hanswers
  | error e =>
    rw [hresult] at hends
    exact hends.1 trivial hanswers

/-- Refused connects, each on the count the one before left. -/
def refusals : ℕ → ℕ → List Attempt
  | _, 0 => []
  | k, n + 1 => refusedAt k :: refusals (refusedAt k).outcome.2.world.reconnectFailures n

theorem length_refusals (k n : ℕ) : (refusals k n).length = n := by
  induction n generalizing k with
  | zero => rfl
  | succ n ih => exact congrArg (· + 1) (ih _)

theorem refusals_inARow (k n : ℕ) : InARow k (refusals k n) := by
  induction n generalizing k with
  | zero => trivial
  | succ n ih => exact ⟨rfl, refusedAt_failed k, ih _⟩

/-- Up to 1024 failures in a row. -/
theorem backsOff_of_le {n : ℕ} (h : n ≤ 1024) : BacksOff n where
  notes w replies hw := by
    have hplays := (noteConnectFailure_plays (D := False) w.reconnectFailures).play (σ := .start w)
      ⟨False.elim, le_rfl, fun _ => rfl⟩ replies
    cases hresult : (noteConnectFailure.run.play World.move (.start w) replies).1 with
    | ok noted =>
      rw [hresult] at hplays
      rw [hplays.1, hw]
    | error e =>
      rw [hresult] at hplays
      exact absurd hplays.1 (by omega)
  connects l a hrow hlength := by
    obtain ⟨hfailed, -, hfound⟩ := hrow.last
    rw [List.length_append, List.length_singleton] at hlength
    have hn : a.found.reconnectFailures + 1 = n := by
      have := hfound (by omega)
      omega
    exact hn ▸ a.backsOff hfailed (by omega)

/-- After more, a connect that is refused raises. -/
theorem not_backsOff {n : ℕ} (h : 1024 < n) : ¬ BacksOff n := by
  intro hbacksOff
  have hne : refusals 0 n ≠ [] := by
    intro hnil
    have hlength := length_refusals 0 n
    rw [hnil, List.length_nil] at hlength
    omega
  have hsplit := List.dropLast_concat_getLast hne
  have hrow := refusals_inARow 0 n
  rw [← hsplit] at hrow
  have hlength := length_refusals 0 n
  rw [← hsplit] at hlength
  obtain ⟨hfailed, hfound, -⟩ := hrow.last
  rw [List.length_append, List.length_singleton] at hlength
  refine Attempt.raises _ hfailed (by omega) (hbacksOff.connects _ _ hrow ?_).returns
  rw [List.length_append, List.length_singleton]
  exact hlength

/-- **The 1025th failed connect in a row raises.** -/
theorem backoff_overflows : ¬ BacksOff 1025 := not_backsOff (by decide)

/-- **The backoff works for up to 1024 failed connects in a row, and for no more**; its delay never
decreases and never exceeds 300 seconds. -/
theorem backsOff_iff (n : ℕ) :
    (BacksOff n ↔ n ≤ 1024) ∧ (∀ m, n ≤ m → backoff n ≤ backoff m) ∧ backoff n ≤ 300 := by
  refine ⟨⟨fun h => ?_, backsOff_of_le⟩, fun _ => backoff_mono, backoff_le n⟩
  by_contra hn
  exact not_backsOff (not_le.mp hn) h

end XBloom.Link
