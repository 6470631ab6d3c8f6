/-
# XBloom.Link.Reconnect — what a reconnect sends to a machine that brews

The cleanup of a connect belongs to the path that every reconnect takes, and that path knows nothing of
an active operation.  So a run after a drop sends no stop or quit command exactly when no connect of it
gets as far as its cleanup with the link up.
-/
import XBloom.Link.Runs

namespace XBloom.Link

open XBloom.Async XBloom.Logic XBloom.Ble

/-- 40519, 8013, 8012, 3505 or 4507 goes out. -/
def Event.stops : Event → Bool
  | .sent _ command => decide (command ∈ stopCommands)
  | _ => false

/-- The step resumes the cleanup of a connect while its link is up. -/
def cleansUp (p : LinkPool) : LinkAction → Bool
  | .resume t r =>
    match (p.tasks t).map Suspended.label with
    | some (.connecting n stage) => stage.cleansUp r && p.world.isConnected n
    | _ => false
  | _ => false

variable {p : LinkPool} {a : LinkAction}

theorem Event.stops_iff {e : Event} :
    e.stops = true ↔ ∃ c command, e = .sent c command ∧ command ∈ stopCommands := by
  cases e with
  | sent c command => simp [Event.stops]
  | _ => simp [Event.stops]

/-- The condition on a step is that on its segment. -/
theorem cleansUp_iff :
    cleansUp p a = true ↔ ∃ turn, p.turn system a = some turn ∧ CleansUp (p.passage system a turn) := by
  constructor
  · intro h
    cases a with
    | resume t r =>
      cases hτ : p.tasks t with
      | none => simp [cleansUp, hτ] at h
      | some τ =>
        cases hl : τ.label with
        | connecting n stage =>
          have h : stage.cleansUp r = true ∧ p.world.isConnected n = true := by
            simpa [cleansUp, hτ, hl] using h
          exact ⟨⟨t, τ.call, some (τ.label, r), τ.resume r⟩, by simp [Pool.turn, hτ, hl, system],
            n, stage, r, by rw [hl]; rfl, h⟩
        | _ => simp [cleansUp, hτ, hl] at h
    | spawn c => cases h
    | move m => cases h
  · rintro ⟨turn, hturn, n, stage, r, hresumed, hclean, hup⟩
    obtain ⟨⟨τ, hτ, hl⟩, rfl⟩ := Pool.at_of_resumed hturn hresumed
    have hup : p.world.isConnected n = true := hup
    simp [cleansUp, hτ, hl, hclean, hup]

/-- **A step stops the machine exactly if it cleans up.** -/
theorem Orderly.stops_iff (h : Orderly p) (a : LinkAction) :
    (∀ e ∈ p.emitted system a, e.stops = false) ↔ cleansUp p a = false := by
  constructor
  · intro hnone
    refine Bool.eq_false_iff.mpr fun hclean => ?_
    obtain ⟨turn, hturn, hcleans⟩ := cleansUp_iff.mp hclean
    obtain ⟨c, command, hstop, he⟩ := (h.lawful a turn hturn).cleans hcleans
    have hquiet := hnone _ he
    rw [Event.stops_iff.mpr ⟨c, command, rfl, hstop⟩] at hquiet
    exact Bool.noConfusion hquiet
  · intro hclean e he
    refine Bool.eq_false_iff.mpr fun hstops => ?_
    obtain ⟨c, command, rfl, hstop⟩ := Event.stops_iff.mp hstops
    cases hturn : p.turn system a with
    | some turn =>
      have hcleans := (h.lawful a turn hturn).stops c command he hstop
      rw [cleansUp_iff.mpr ⟨turn, hturn, hcleans⟩] at hclean
      exact Bool.noConfusion hclean
    | none =>
      simp only [Pool.emitted, hturn] at he
      exact absurd he List.not_mem_nil

/-- The pool in which the link of a client has just been lost. -/
def dropped (sessionTimeout clock : ℕ) (earlier : List LinkAction) (c : ℕ) : LinkPool :=
  (run (Pool.step system) (Pool.idle (World.initial sessionTimeout clock)) earlier).step system
    (.move (.linkLost c))

/-- **What a run sends after a drop.**  None of the stop and quit commands goes out exactly if every
connect in it fails, or loses its link again, before it goes on from the handshake to the cleanup. -/
theorem reconnect_sends_no_stop_iff (sessionTimeout clock : ℕ) (earlier : List LinkAction) (c : ℕ)
    (later : List LinkAction) :
    (∀ e ∈ (run (Pool.step system) (dropped sessionTimeout clock earlier c) later).trace.drop
        (dropped sessionTimeout clock earlier c).trace.length, e.event.stops = false) ↔
      AllSteps (Pool.step system) (fun p a => cleansUp p a = false)
        (dropped sessionTimeout clock earlier c) later := by
  have horderly : Orderly (dropped sessionTimeout clock earlier c) :=
    (orderly_run sessionTimeout clock earlier).step _
  rw [run_adds_only_iff (Q := fun e : Event => e.stops = false)]
  exact AllSteps.iff_of_kept (fun p a h => ⟨h.step a, h.stops_iff a⟩) later horderly

/-- **A reconnect stops the recipe that runs.**  The switch is turned on, a recipe is started and its
link is lost; the next poll connects again, and the new client's first commands after the handshake
are 40519, 8013 and 8012. -/
theorem reconnect_stops_recipe :
    let brewing := .spawn .turnOn :: connects 0 ++ [.move (.operations (some .recipe) none false)]
    let p := dropped 60 0 brewing 0
    let later := .spawn .poll :: .resume 1 .done :: connects 1
    p.world.activeOperation = some .recipe ∧ p.world.linkUp = false ∧
      (run (Pool.step system) p later).world.linkUp = true ∧
      ((run (Pool.step system) p later).trace.drop p.trace.length).map Entry.event =
        [.connecting 1, .sent 1 .handshake, .sent 1 .recipeStop, .sent 1 .brewerQuit,
          .sent 1 .grinderQuit] := by
  decide +kernel

end XBloom.Link
