/-
# XBloom.Cloud.Duplicates — when exporting again creates no second entry

Whether the entry of an exported recipe still exists is read off `get_recipe`, which answers `None` for
an entry that was deleted, for a list call that failed and for an entry that is not on the one page it
asks for.  `reexport_never_duplicates` names what keeps the three apart: every search for an entry that
is on the account succeeds and has it on its page.
-/
import XBloom.Cloud.InFlight

namespace XBloom.Cloud

open XBloom.Py XBloom.Recipe XBloom.Async XBloom.Logic

section
variable {I : Identifiers} {yaml : YamlLayer} {S : Server} {p : ExportPool} {a : ExportAction}

/-- **What an export may do to the entry of its recipe**, over one segment: it asks for a create only
where that entry is gone; it succeeds with an identity only after it updated that entry or created one;
it touches the store in no other segment, and not when it reports a failure.  (Without an account
there is no call to the cloud, and the recipe is all it returns.) -/
structure NeverDuplicates (σ : Passage) : Prop where
  creates : ∀ resolved fields, .asks resolved (.create fields) ∈ σ.events → Gone resolved σ
  succeeds : ∀ resolved id url recipe warning,
    .returns (some resolved) (.success (some (id, url)) recipe warning) ∈ σ.events →
      Updates resolved σ id ∨ Creates σ id
  fails : ∀ resolved error, .returns resolved (.failure error) ∈ σ.events →
    σ.now.store = σ.before.store
  keeps : (∀ resolved identity recipe warning,
    .returns resolved (.success (some identity) recipe warning) ∉ σ.events) →
      σ.now.store = σ.before.store

/-- **The search is heeded**: a step that answers the search for an entry on the account answers with
success and with a page that holds the entry. -/
def ListsEntry (I : Identifiers) (yaml : YamlLayer) (S : Server) (p : ExportPool)
    (a : ExportAction) : Prop :=
  ∀ turn, p.turn (system I yaml S) a = some turn → Listed S (.start turn.resumed p.world)

theorem Exports.neverDuplicates {resolved : String × RecipeDict} {σ : Passage}
    (h : Exports S resolved σ) (hlisted : Listed S σ) : NeverDuplicates σ := by
  refine ⟨fun resolved' fields he => h.creates resolved' fields he hlisted, ?_, h.fails, fun hnone => ?_⟩
  · intro resolved' id url recipe warning he
    obtain ⟨rfl, _, hidentity⟩ := h.succeeds resolved' id url recipe warning he
    exact hidentity
  · by_contra hne
    obtain ⟨id, url, recipe, warning, he⟩ := h.keeps hne
    exact hnone _ _ _ _ he

/-- The segment is one of an export of some recipe. -/
def ExportsSome (S : Server) (σ : Passage) : Prop := ∃ resolved, Exports S resolved σ

theorem program_segments (identifier : String) (w : World) :
    ((system I yaml S).program identifier).AllSegments (fun _ => ExportsSome S) (ExportsSome S)
      (.start none w) := by
  cases hfind : findRecipe I (w.store.visible yaml) identifier with
  | none =>
    have hnone : ∀ resolved', findRecipe I (w.store.visible yaml) identifier = some resolved' →
        resolved' = ("", { name := "", pours := [] }) := fun resolved' h => by
      rw [hfind] at h
      cases h
    have hexports := export_segments (S := S) hnone
    exact Co.AllSegments.mono hexports (fun _ σ h => ⟨_, h.exports⟩) fun σ h => ⟨_, h⟩
  | some resolved =>
    have hsome : ∀ resolved', findRecipe I (w.store.visible yaml) identifier = some resolved' →
        resolved' = resolved := fun resolved' h => Option.some.inj (h.symm.trans hfind)
    have hexports := export_segments (S := S) hsome
    exact Co.AllSegments.mono hexports (fun _ σ h => ⟨_, h.exports⟩) fun σ h => ⟨_, h⟩

/-- **When exporting again never duplicates.**  In every run of exports, whatever calls fail and
whatever happens to the store and the account meanwhile, if every search for an entry that is on the
account is heeded, every step of every export meets `NeverDuplicates`. -/
theorem reexport_never_duplicates (w : World) (as : List ExportAction)
    (h : AllSteps (Pool.step (system I yaml S)) (ListsEntry I yaml S) (Pool.idle w) as) :
    AllSteps (Pool.step (system I yaml S)) (StepRuns NeverDuplicates (system I yaml S))
      (Pool.idle w) as := by
  have hstep : ∀ p a, PoolPasses (fun _ => ExportsSome S) (ExportsSome S) p →
      ListsEntry I yaml S p a → PoolPasses (fun _ => ExportsSome S) (ExportsSome S)
        (p.step (system I yaml S) a) ∧ StepRuns NeverDuplicates (system I yaml S) p a := by
    intro p a hp ha
    obtain ⟨hnext, hpasses⟩ := hp.step program_segments a
    refine ⟨hnext, fun turn hturn => ?_⟩
    obtain ⟨resolved, hexports⟩ := hpasses.runs turn hturn
    exact hexports.neverDuplicates (ha turn hturn)
  exact AllSteps.of_invariant hstep (poolPasses_idle w) h

/-- **An account of at most a page** heeds every search whose list call succeeds. -/
theorem listsEntry_of_success (hpage : p.world.account.length ≤ 100)
    (hsuccess : ∀ t r, a = .resume t r → r.success = true) : ListsEntry I yaml S p a := by
  intro turn hturn tableId r hresumed hmem
  obtain ⟨e, he, heq⟩ := List.mem_map.mp hmem
  refine ⟨?_, List.mem_map.mpr ⟨e, S.page_all _ hpage he, heq⟩⟩
  rcases Pool.turn_cases hturn with ⟨_, hnone, _, _⟩ | ⟨τ, r', _, _, hsome, _, ha⟩
  · cases hresumed.symm.trans hnone
  · have hpair := Option.some.inj (hresumed.symm.trans hsome)
    obtain rfl : r = r' := congrArg Prod.snd hpair
    exact hsuccess _ _ ha

end

/-! ## An entry updated, and one duplicated -/

/-- Both calls of a second export succeed: it updates the entry. -/
theorem second_export_updates :
    AllSteps (Pool.step (system plainIdentifiers morningYaml firstHundred))
      (StepRuns NeverDuplicates (system plainIdentifiers morningYaml firstHundred))
      (Pool.idle exportedWorld) [.spawn "V60", .resume 0 goesThrough, .resume 0 goesThrough] := by
  suffices hall : AllSteps (Pool.step (system plainIdentifiers morningYaml firstHundred))
      (ListsEntry plainIdentifiers morningYaml firstHundred) (Pool.idle exportedWorld)
      [.spawn "V60", .resume 0 goesThrough, .resume 0 goesThrough] from
    reexport_never_duplicates exportedWorld _ hall
  refine ⟨?_, ?_, ?_, trivial⟩
  · refine listsEntry_of_success ?_ fun t r h => by cases h
    decide
  · refine listsEntry_of_success ?_ fun t r h => ?_
    · decide +kernel
    · cases h
      rfl
  · refine listsEntry_of_success ?_ fun t r h => ?_
    · decide +kernel
    · cases h
      rfl

/-- **A list call that fails duplicates the entry.**  The entry is still on the account when the next
export asks for a create. -/
theorem failed_list_duplicates :
    let p := run (Pool.step (system plainIdentifiers morningYaml firstHundred))
      (Pool.idle exportedWorld) [.spawn "V60", .resume 0 timesOut]
    let p' := run (Pool.step (system plainIdentifiers morningYaml firstHundred)) p
      [.resume 0 goesThrough, .resume 0 goesThrough]
    7 ∈ tableIds p.world.account ∧ tableIds p'.world.account = [8, 7] ∧
      (p'.world.store.options.get? "V60").join.map RecipeDict.cloudTableId = some (some 8) := by
  decide +kernel

end XBloom.Cloud
