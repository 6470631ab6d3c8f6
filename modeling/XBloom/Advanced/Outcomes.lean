/-
# XBloom.Advanced.Outcomes — what a settings call has written when it answers

The phases of `XBloom.Advanced.Plan` remember what a call has said (`Phase.tells`).  So in every run of the
settings beside everything else at home: what a call has written is the front of its plan for the center the
cloud gave it; on success it is the whole plan; a refusal has written nothing; and it sends the machine home
last, once.  An 8022 before that closes the push of unit changes in the connect it began with.  Nobody else
writes settings (`settings_as_planned`).
-/
import XBloom.Advanced.Plan

namespace XBloom.Advanced

open XBloom.Async XBloom.Py XBloom.Ble XBloom.Recipe XBloom.Coordinator XBloom.Llm

/-! ## What was said -/

/-- What an event writes. -/
def SettingsEvent.write? : SettingsEvent → Option (Setting × ℤ)
  | .set _ s raw => some (s, raw)
  | _ => none

/-- What was written, in order. -/
def written (said : List SettingsEvent) : List (Setting × ℤ) := said.filterMap SettingsEvent.write?

/-- The event sends the machine home. -/
def SettingsEvent.homeward : SettingsEvent → Bool
  | .home e => callsHome e
  | _ => false

/-- The event is one of a connect. -/
def SettingsEvent.links : SettingsEvent → Bool
  | .home e => startsLink e
  | _ => false

/-- The event is a reply. -/
def SettingsEvent.isReply : SettingsEvent → Bool
  | .replied _ => true
  | _ => false

/-- The center a plan is for was named by the cloud, if the plan needs one. -/
def Named (args : SettingsArgs) (center : ℤ) (said : List SettingsEvent) : Prop :=
  args.pourRadiusLevel.isSome = true → .centered (some center) ∈ said

/-- **A call as planned.** -/
structure Planned (args : SettingsArgs) (said : List SettingsEvent) : Prop where
  front : ∃ center, written said <+: plan args center ∧
    (written said ≠ [] → Named args center said ∧ ∀ p ∈ written said, p.1.Legal center p.2)
  succeeded : .replied .success ∈ said →
    ∃ center, written said = plan args center ∧ Named args center said
  refused : ∀ reply, .replied reply ∈ said → reply ≠ .success → (∀ e, reply ≠ .writeFailed e) →
    written said = []
  homeward : ∀ past e later, said = past ++ e :: later → e.homeward = true →
    (∀ e' ∈ past, e'.links = true) ∨
      (args.displayBrightnessLevel.isSome = true ∧
        (∃ center, written past = plan args center ∧ Named args center past) ∧
        ∀ e' ∈ later, e'.isReply = true)

theorem written_append (said later : List SettingsEvent) :
    written (said ++ later) = written said ++ written later := List.filterMap_append

theorem Named.append {args : SettingsArgs} {center : ℤ} {said : List SettingsEvent}
    (h : Named args center said) (later : List SettingsEvent) : Named args center (said ++ later) :=
  fun hsome => List.mem_append_left later (h hsome)

/-- No event of some kind. -/
def Without (kind : SettingsEvent → Bool) (said : List SettingsEvent) : Prop :=
  ∀ e ∈ said, kind e = false

theorem Without.snoc {kind : SettingsEvent → Bool} {said : List SettingsEvent} (h : Without kind said)
    {e : SettingsEvent} (he : kind e = false) : Without kind (said ++ [e]) := by
  intro e' he'
  rcases List.mem_append.mp he' with h' | h'
  · exact h e' h'
  · rw [List.mem_singleton.mp h']
    exact he

/-- What comes at some place of a list with one more comes at its end, or before. -/
theorem snoc_eq_append_cons {α : Type} {l past later : List α} {x e : α}
    (h : l ++ [x] = past ++ e :: later) :
    (later = [] ∧ e = x ∧ past = l) ∨ ∃ front, later = front ++ [x] ∧ l = past ++ e :: front := by
  rcases List.eq_nil_or_concat later with rfl | ⟨front, last, rfl⟩
  · obtain ⟨hpast, hlast⟩ := List.append_inj' h rfl
    exact Or.inl ⟨rfl, (List.singleton_inj.mp hlast).symm, hpast.symm⟩
  · have hsplit : l ++ [x] = (past ++ e :: front) ++ [last] := by
      rw [h]
      simp
    obtain ⟨hl, hlast⟩ := List.append_inj' hsplit rfl
    exact Or.inr ⟨front, by rw [List.concat_eq_append, List.singleton_inj.mp hlast], hl⟩

/-- Whatever sent the machine home was a connect, with its push of unit changes. -/
def HomeByConnect (said : List SettingsEvent) : Prop :=
  ∀ past e later, said = past ++ e :: later → e.homeward = true → ∀ e' ∈ past, e'.links = true

theorem HomeByConnect.of_links {said : List SettingsEvent} (h : ∀ e ∈ said, e.links = true) :
    HomeByConnect said := by
  rintro past e later rfl _ e' he'
  exact h e' (List.mem_append_left _ he')

theorem HomeByConnect.snoc {said : List SettingsEvent} (h : HomeByConnect said) {e : SettingsEvent}
    (he : e.homeward = false) : HomeByConnect (said ++ [e]) := by
  intro past e' later heq hhome
  rcases snoc_eq_append_cons heq with ⟨_, rfl, _⟩ | ⟨front, _, hsaid⟩
  · rw [he] at hhome
    cases hhome
  · exact h past e' front hsaid hhome

/-! ## What the phases remember -/

/-- A call that has written nothing. -/
structure Untouched (said : List SettingsEvent) : Prop where
  blank : written said = []
  unanswered : Without SettingsEvent.isReply said
  away : HomeByConnect said

/-- A call that writes, with this left of its plan. -/
structure Writes (args : SettingsArgs) (rest : List (Setting × ℤ)) (said : List SettingsEvent) :
    Prop where
  planned : ∃ center, written said ++ rest = plan args center ∧ Named args center said
  inRange : args.InRange
  unanswered : Without SettingsEvent.isReply said
  away : HomeByConnect said

/-- **What a phase remembers** of what was said, before the answer. -/
def Phase.remembers (args : SettingsArgs) (said : List SettingsEvent) : Phase → Prop
  | .connecting => ∀ e ∈ said, e.links = true
  | .asked => Untouched said
  | .querying => Untouched said
  | .uncentered => Untouched said
  | .writing rest => Writes args rest said
  | .homing => args.displayBrightnessLevel.isSome = true ∧
      ∃ past e, said = past ++ [.home e] ∧ Writes args [] past
  | .finished => False

/-- What it tells, the answer included. -/
def Phase.tells (args : SettingsArgs) (said : List SettingsEvent) (phase : Phase) : Prop :=
  phase.remembers args said ∨ ∃ past reply before, said = past ++ [.replied reply] ∧
    Phase.remembers args past before ∧ before.mayReply reply = true ∧ phase = .finished

section
variable {args : SettingsArgs} {said : List SettingsEvent}

/-- A connect writes nothing and answers nothing. -/
theorem Untouched.of_links (h : ∀ e ∈ said, e.links = true) : Untouched said := by
  refine ⟨List.filterMap_eq_nil_iff.mpr fun e he => ?_, fun e he => ?_, .of_links h⟩
  · have hlinks := h e he
    cases e with
    | home e => rfl
    | _ => cases hlinks
  · have hlinks := h e he
    cases e with
    | home e => rfl
    | _ => cases hlinks

/-- Something else is said. -/
theorem Untouched.snoc (h : Untouched said) {e : SettingsEvent} (hwrite : e.write? = none)
    (hreply : e.isReply = false) (hhome : e.homeward = false) : Untouched (said ++ [e]) := by
  refine ⟨?_, h.unanswered.snoc hreply, h.away.snoc hhome⟩
  rw [written_append, h.blank, List.nil_append]
  exact List.filterMap_cons_none hwrite

/-- The next of a plan is written. -/
theorem Writes.snoc {s : Setting} {raw : ℤ} {rest : List (Setting × ℤ)} {c : ℕ}
    (h : Writes args ((s, raw) :: rest) said) : Writes args rest (said ++ [.set c s raw]) := by
  obtain ⟨center, hplan, hnamed⟩ := h.planned
  refine ⟨⟨center, ?_, hnamed.append _⟩, h.inRange, h.unanswered.snoc rfl, h.away.snoc rfl⟩
  rw [written_append, List.append_assoc]
  exact hplan

/-- A call that goes by no center starts its plan. -/
theorem Untouched.starts (h : Untouched said) (hradius : args.pourRadiusLevel = none)
    (hrange : args.inRange = true) : Writes args (plan args 0) said := by
  refine ⟨⟨0, ?_, fun hsome => ?_⟩, inRange_iff.mp hrange, h.unanswered, h.away⟩
  · rw [h.blank, List.nil_append]
  · rw [hradius] at hsome
    cases hsome

theorem writeNext_eq_some {s : Setting} {raw : ℤ} {rest : List (Setting × ℤ)} {next : Phase}
    (h : writeNext s raw rest = some next) : ∃ left, rest = (s, raw) :: left ∧ next = .writing left := by
  cases rest with
  | nil => cases h
  | cons p left =>
    have hif : (if p = (s, raw) then some (Phase.writing left) else none) = some next := h
    split at hif
    · rename_i hp
      exact ⟨left, by rw [hp], (Option.some.inj hif).symm⟩
    · cases hif

/-- What a call asks for, or starts to write, while it has written nothing. -/
theorem Untouched.asks (h : Untouched said) {e : SettingsEvent} {next : Phase}
    (hnext : asks args e = some next) : next.remembers args (said ++ [e]) := by
  cases e with
  | get c s =>
    have hif : (if s = .pourRadius ∧ args.pourRadiusLevel.isSome = true then some Phase.asked
      else none) = some next := hnext
    split at hif
    · cases hif
      exact h.snoc rfl rfl rfl
    · cases hif
  | asked serial current =>
    have hif : (if args.pourRadiusLevel.isSome = true then some Phase.querying else none) =
      some next := hnext
    split at hif
    · cases hif
      exact h.snoc rfl rfl rfl
    · cases hif
  | set c s raw =>
    have hif : (if args.pourRadiusLevel = none ∧ args.inRange = true
      then writeNext s raw (plan args 0) else none) = some next := hnext
    split at hif
    · rename_i hstart
      obtain ⟨left, hplan, rfl⟩ := writeNext_eq_some hif
      have hwrites := h.starts hstart.1 hstart.2
      rw [hplan] at hwrites
      exact hwrites.snoc
    · cases hif
  | _ => cases hnext

/-- The cloud's answer: a plan for its center is left to write, or nothing is. -/
theorem Untouched.centered (h : Untouched said) {value : Option ℤ} {next : Phase}
    (hnext : settingsTalk args .querying (.centered value) = some next) :
    next.remembers args (said ++ [.centered value]) := by
  have htouched : Untouched (said ++ [.centered value]) := h.snoc rfl rfl rfl
  cases value with
  | none =>
    cases hnext
    exact htouched
  | some center =>
    have hif : (if args.inRange = true then some (Phase.writing (plan args center)) else none) =
      some next := hnext
    split at hif
    · rename_i hrange
      cases hif
      refine ⟨⟨center, ?_, fun _ => List.mem_append_right _ List.mem_cons_self⟩,
        inRange_iff.mp hrange, htouched.unanswered, htouched.away⟩
      rw [htouched.blank, List.nil_append]
    · cases hif

/-- **What a phase tells is kept up by whatever is said next.** -/
theorem Phase.tells_step {now next : Phase} {e : SettingsEvent} (h : now.tells args said)
    (hnext : settingsTalk args now e = some next) : next.tells args (said ++ [e]) := by
  rcases h with h | ⟨_, _, _, _, _, _, rfl⟩
  · cases e with
    | replied reply =>
      rw [settingsTalk_replied] at hnext
      split at hnext
      · rename_i hreply
        exact Or.inr ⟨said, reply, now, rfl, h, hreply, (Option.some.inj hnext).symm⟩
      · cases hnext
    | home e =>
      cases now with
      | connecting =>
        have hif : (if startsLink e = true then some Phase.connecting else none) = some next := hnext
        split at hif
        · rename_i hlink
          cases hif
          refine Or.inl fun e' he' => ?_
          rcases List.mem_append.mp he' with he' | he'
          · exact h e' he'
          · rw [List.mem_singleton.mp he']
            exact hlink
        · cases hif
      | writing rest =>
        have hif : (if rest = [] ∧ args.displayBrightnessLevel.isSome = true ∧ callsHome e = true
          then some Phase.homing else none) = some next := hnext
        split at hif
        · rename_i hhome
          obtain ⟨rfl, hsome, _⟩ := hhome
          cases hif
          exact Or.inl ⟨hsome, said, e, rfl, h⟩
        · cases hif
      | _ => cases hnext
    | centered value =>
      cases now with
      | querying => exact Or.inl (Untouched.centered h hnext)
      | _ => cases hnext
    | set c s raw =>
      cases now with
      | connecting => exact Or.inl ((Untouched.of_links h).asks hnext)
      | asked => exact Or.inl (Untouched.asks h hnext)
      | writing rest =>
        obtain ⟨left, rfl, rfl⟩ := writeNext_eq_some hnext
        exact Or.inl (Writes.snoc h)
      | _ => cases hnext
    | get c s =>
      cases now with
      | connecting => exact Or.inl ((Untouched.of_links h).asks hnext)
      | asked => exact Or.inl (Untouched.asks h hnext)
      | _ => cases hnext
    | asked serial current =>
      cases now with
      | connecting => exact Or.inl ((Untouched.of_links h).asks hnext)
      | asked => exact Or.inl (Untouched.asks h hnext)
      | _ => cases hnext
  · -- nothing is said after the answer
    cases e with
    | replied reply => cases hnext
    | _ => cases hnext

/-! ## What they tell at the end -/

theorem not_replied {reply : SettingsReply} (h : Without SettingsEvent.isReply said) :
    .replied reply ∉ said := by
  intro hmem
  have hno := h _ hmem
  cases hno

/-- What is written is the front of the plan. -/
theorem Writes.front {rest : List (Setting × ℤ)} (h : Writes args rest said) :
    ∃ center, written said <+: plan args center ∧
      (written said ≠ [] → Named args center said ∧ ∀ p ∈ written said, p.1.Legal center p.2) := by
  obtain ⟨center, hplan, hnamed⟩ := h.planned
  have hfront : written said <+: plan args center := ⟨rest, hplan⟩
  exact ⟨center, hfront, fun _ => ⟨hnamed, fun p hp => plan_legal h.inRange center p (hfront.subset hp)⟩⟩

theorem Untouched.front (h : Untouched said) :
    ∃ center, written said <+: plan args center ∧
      (written said ≠ [] → Named args center said ∧ ∀ p ∈ written said, p.1.Legal center p.2) :=
  ⟨0, by rw [h.blank]; exact List.nil_prefix, fun hne => absurd h.blank hne⟩

/-- **A call that has not answered** is as planned. -/
theorem planned_of_remembers {phase : Phase} (h : phase.remembers args said) :
    Planned args said ∧ Without SettingsEvent.isReply said := by
  have huntouched : Untouched said → Planned args said ∧ Without SettingsEvent.isReply said := fun h =>
    ⟨⟨h.front, fun hmem => absurd hmem (not_replied h.unanswered), fun _ _ _ _ => h.blank,
      fun past e later heq hhome => Or.inl (h.away past e later heq hhome)⟩, h.unanswered⟩
  cases phase with
  | connecting => exact huntouched (.of_links h)
  | asked => exact huntouched h
  | querying => exact huntouched h
  | uncentered => exact huntouched h
  | writing rest =>
    have hwrites : Writes args rest said := h
    exact ⟨⟨hwrites.front, fun hmem => absurd hmem (not_replied hwrites.unanswered),
      fun _ hmem => absurd hmem (not_replied hwrites.unanswered),
      fun past e later heq hhome => Or.inl (hwrites.away past e later heq hhome)⟩, hwrites.unanswered⟩
  | homing =>
    obtain ⟨hsome, past, e, rfl, hwrites⟩ := h
    have hwritten : written (past ++ [.home e]) = written past := by
      rw [written_append]
      exact List.append_nil _
    have hunanswered : Without SettingsEvent.isReply (past ++ [.home e]) := hwrites.unanswered.snoc rfl
    obtain ⟨center, hplan, hnamed⟩ := hwrites.planned
    rw [List.append_nil] at hplan
    refine ⟨⟨?_, fun hmem => absurd hmem (not_replied hunanswered),
      fun _ hmem => absurd hmem (not_replied hunanswered), ?_⟩, hunanswered⟩
    · obtain ⟨center, hfront, hnames⟩ := hwrites.front
      rw [hwritten]
      exact ⟨center, hfront, fun hne => ⟨(hnames hne).1.append _, (hnames hne).2⟩⟩
    · intro p e' later heq hhome
      rcases snoc_eq_append_cons heq with ⟨rfl, rfl, rfl⟩ | ⟨front, _, hpast⟩
      · exact Or.inr ⟨hsome, ⟨center, hplan, hnamed⟩, fun _ hx => absurd hx List.not_mem_nil⟩
      · exact Or.inl (hwrites.away p e' front hpast hhome)
  | finished => cases h

/-- A call that may answer success has set its whole plan. -/
theorem whole_of_success {phase : Phase} (h : phase.remembers args said)
    (hreply : phase.mayReply .success = true) :
    ∃ center, written said = plan args center ∧ Named args center said := by
  cases phase with
  | writing rest =>
    obtain rfl : rest = [] := List.isEmpty_iff.mp hreply
    obtain ⟨center, hplan, hnamed⟩ := (h : Writes args [] said).planned
    exact ⟨center, (List.append_nil _).symm.trans hplan, hnamed⟩
  | homing =>
    obtain ⟨_, past, e, rfl, hwrites⟩ := h
    obtain ⟨center, hplan, hnamed⟩ := hwrites.planned
    refine ⟨center, ?_, hnamed.append _⟩
    rw [written_append, ← hplan]
    rfl
  | _ => cases hreply

/-- A call that may refuse has set nothing. -/
theorem blank_of_refusal {phase : Phase} {reply : SettingsReply} (h : phase.remembers args said)
    (hreply : phase.mayReply reply = true) (hne : reply ≠ .success)
    (hfail : ∀ e, reply ≠ .writeFailed e) : written said = [] := by
  cases phase with
  | connecting => exact (Untouched.of_links h).blank
  | asked => exact (h : Untouched said).blank
  | querying => exact (h : Untouched said).blank
  | uncentered => exact (h : Untouched said).blank
  | writing rest =>
    cases reply with
    | success => exact absurd rfl hne
    | writeFailed e => exact absurd rfl (hfail e)
    | _ => cases hreply
  | homing =>
    cases reply with
    | success => exact absurd rfl hne
    | _ => cases hreply
  | finished => cases h

/-- **A call that answers** is as planned. -/
theorem planned_of_reply {phase : Phase} {reply : SettingsReply} (h : phase.remembers args said)
    (hreply : phase.mayReply reply = true) : Planned args (said ++ [.replied reply]) := by
  obtain ⟨hplanned, hunanswered⟩ := planned_of_remembers h
  have hwritten : written (said ++ [.replied reply]) = written said := by
    rw [written_append]
    exact List.append_nil _
  have hsame : ∀ {r : SettingsReply}, .replied r ∈ said ++ [.replied reply] → r = reply := by
    intro r hmem
    rcases List.mem_append.mp hmem with hmem | hmem
    · exact absurd hmem (not_replied hunanswered)
    · cases List.mem_singleton.mp hmem
      rfl
  refine ⟨?_, ?_, ?_, ?_⟩
  · obtain ⟨center, hfront, hnames⟩ := hplanned.front
    rw [hwritten]
    exact ⟨center, hfront, fun hne => ⟨(hnames hne).1.append _, (hnames hne).2⟩⟩
  · intro hmem
    obtain rfl := hsame hmem
    obtain ⟨center, hplan, hnamed⟩ := whole_of_success h hreply
    exact ⟨center, hwritten.trans hplan, hnamed.append _⟩
  · intro r hmem hne hfail
    obtain rfl := hsame hmem
    exact hwritten.trans (blank_of_refusal h hreply hne hfail)
  · intro p e l heq hhome
    -- the way home is before the answer
    rcases snoc_eq_append_cons heq with ⟨_, rfl, _⟩ | ⟨later, rfl, hsaid⟩
    · cases hhome
    · rcases hplanned.homeward p e later hsaid hhome with hlinks | ⟨hsome, hdone, hrest⟩
      · exact Or.inl hlinks
      · refine Or.inr ⟨hsome, hdone, fun e' he' => ?_⟩
        rcases List.mem_append.mp he' with he' | he'
        · exact hrest e' he'
        · rw [List.mem_singleton.mp he']
          rfl

theorem planned_of_tells {phase : Phase} (h : phase.tells args said) : Planned args said := by
  rcases h with h | ⟨past, reply, before, rfl, hbefore, hreply, _⟩
  · exact (planned_of_remembers h).1
  · exact planned_of_reply hbefore hreply

end

/-- What has been said by a call that sets settings. -/
theorem planned_of_talk {args : SettingsArgs} {said : List SettingsEvent} {s : Phase}
    (h : (settingsTalk args).after .connecting said = some s) : Planned args said := by
  have hstart : Phase.tells args [] .connecting := Or.inl fun _ he => absurd he List.not_mem_nil
  exact planned_of_tells (Protocol.after_tells (I := fun es s => Phase.tells args es s) hstart
    (fun _ _ _ _ htells hnext => Phase.tells_step htells hnext) said h)

/-- Another call sets nothing. -/
theorem written_of_setsNothing {said : List SettingsEvent} :
    ∀ {s s' : Phase}, setsNothing.after s said = some s' → written said = [] := by
  induction said with
  | nil => exact fun _ => rfl
  | cons e rest ih =>
    intro s s' h
    obtain ⟨next, hnext, hrest⟩ := Option.bind_eq_some_iff.mp h
    have hwrite : e.write? = none := by
      cases e with
      | set c setting raw => cases hnext
      | _ => rfl
    exact (List.filterMap_cons_none hwrite).trans (ih hrest)

/-- A machine that is connected, whose radius and serial are known, and a cloud account. -/
def knownMachine : SettingsWorld where
  coordinator := connectedWorld
  data := { pourRadius := some 700, serialNumber := "J15A01B4CV030" }
  loggedIn := true

/-- A radius and a brightness are set; the cloud names 750. -/
def twoLevels : List SettingsAction :=
  [.spawn (.setAdvanced { pourRadiusLevel := some 3, displayBrightnessLevel := some 2 }),
    .resume 0 (.center (some 750)), .resume 0 (.machine .done), .resume 0 (.machine .done),
    .resume 0 (.machine .done), .resume 0 (.machine .done), .resume 0 (.machine .done),
    .resume 0 (.machine .done), .resume 0 (.machine .done)]

/-- What that call says. -/
example : saidBy 0 (settingsRun plainIdentifiers morningYaml knownMachine twoLevels).trace =
    [.asked "J15A01B4CV030" 700, .centered (some 750), .set 0 .pourRadius 830,
      .set 0 .displayBrightness 8, .home (.coordinator (.sent 0 { command := .backToHome })),
      .replied .success] := by rfl

/-- From idle standby, with a change of the water source still pending. -/
def pendingMachine : SettingsWorld where
  coordinator := { connectedWorld with
    clients := [], client := none, idleDisconnected := true, pendingUnitPushes := {.waterSource} }

/-- A brightness is set; the link, the echoes and the sleeps end well. -/
def brightnessOnly : List SettingsAction :=
  .spawn (.setAdvanced { displayBrightnessLevel := some 2 }) ::
    List.replicate 22 (.resume 0 (.machine .done))

/-- The connect pushes the source and goes home before the call sets anything. -/
example : (saidBy 0 (settingsRun plainIdentifiers morningYaml pendingMachine brightnessOnly).trace).drop 5 =
    [.home (.coordinator (.sent 0 { command := .waterSourceSet, args := [.int 0] })),
      .home (.coordinator (.sent 0 { command := .backToHome })), .set 0 .displayBrightness 8,
      .home (.coordinator (.sent 0 { command := .backToHome })), .replied .success] := by rfl

end XBloom.Advanced
