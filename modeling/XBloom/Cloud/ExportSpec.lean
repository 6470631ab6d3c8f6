/-
# XBloom.Cloud.ExportSpec — what every segment of an export does

One lemma for each function of the export, over segments (`XBloom.Async.Segments`): while an export
asks, it leaves the store alone, and it asks for a create only where it found no entry to update; when
it succeeds, it has written back the identity it reports, which an update confirmed or a create gave.
-/
import XBloom.Cloud.Export

namespace XBloom.Cloud

open XBloom.Py XBloom.Recipe XBloom.Async

/-- A segment of an export. -/
abbrev Passage := Segment World Event Point Reply

section
variable (S : Server) (resolved : String × RecipeDict) (σ : Passage)

/-! ## Assertions -/

/-- **The list call is heeded**: when the segment resumes the search for an entry that is on the
account, the call succeeded and the entry is on the page it returned. -/
def Listed : Prop :=
  ∀ tableId r, σ.resumed = some (.finding tableId, r) → tableId ∈ tableIds σ.before.account →
    r.success = true ∧ tableId ∈ tableIds (S.page σ.before.account)

/-- The stored id has no entry on the account the segment found. -/
def Gone : Prop :=
  ∀ tableId, resolved.2.cloudTableId = some tableId → tableId ∉ tableIds σ.before.account

/-- The segment resumes an update of the stored id that succeeded, and reports that id; the entry has
the new fields. -/
def Updates (id : ℤ) : Prop :=
  resolved.2.cloudTableId = some id ∧ ∃ fields r, σ.resumed = some (.updating id fields, r) ∧
    r.success = true ∧ σ.now.account = updateEntry id fields σ.before.account

/-- The segment resumes a create that gave the id, or the call that reads its link back. -/
def Creates (id : ℤ) : Prop :=
  ∃ r, (σ.resumed = some (.creating, r) ∧ r.tableId = id) ∨ σ.resumed = some (.readingBack id, r)

/-- So far the segment only asked, and for a create only where the entry is gone. -/
def OnlyAsks : Prop :=
  ∀ e ∈ σ.events, ∃ request, e = .asks resolved request ∧
    ∀ fields, request = .create fields → Listed S σ → Gone resolved σ

/-- So far the segment only asked, and left the store alone. -/
structure Quiet : Prop where
  asks : OnlyAsks S resolved σ
  store : σ.now.store = σ.before.store

/-- **What a segment of an export does.** -/
structure Exports : Prop where
  creates : ∀ resolved' fields, .asks resolved' (.create fields) ∈ σ.events → Listed S σ →
    Gone resolved' σ
  succeeds : ∀ resolved' id url recipe warning,
    .returns (some resolved') (.success (some (id, url)) recipe warning) ∈ σ.events →
      resolved' = resolved ∧ σ.now.store = keepIdentity resolved id url σ.before.store ∧
        (Updates resolved σ id ∨ Creates σ id)
  fails : ∀ resolved' error, .returns resolved' (.failure error) ∈ σ.events →
    σ.now.store = σ.before.store
  keeps : σ.now.store ≠ σ.before.store → ∃ id url recipe warning,
    .returns (some resolved) (.success (some (id, url)) recipe warning) ∈ σ.events

/-- What a result comes with. -/
def Returns : ExportResult → Prop
  | .success (some (id, url)) _ _ => OnlyAsks S resolved σ ∧
      σ.now.store = keepIdentity resolved id url σ.before.store ∧
      (Updates resolved σ id ∨ Creates σ id)
  | _ => Quiet S resolved σ

end

variable {S : Server} {resolved : String × RecipeDict} {σ : Passage}

theorem quiet_start (resumed : Option (Point × Reply)) (w : World) :
    Quiet S resolved (.start resumed w) := ⟨fun _ he => absurd he List.not_mem_nil, rfl⟩

theorem Quiet.exports (h : Quiet S resolved σ) : Exports S resolved σ := by
  refine ⟨fun resolved' fields he hlisted => ?_, fun resolved' id url recipe warning he => ?_,
    fun _ _ _ => h.store, fun hne => absurd h.store hne⟩
  · obtain ⟨request, heq, hgone⟩ := h.asks _ he
    cases heq
    exact hgone fields rfl hlisted
  · obtain ⟨request, heq, _⟩ := h.asks _ he
    cases heq

/-- One more request. -/
theorem Quiet.ask (h : Quiet S resolved σ) {request : Request}
    (hcreate : ∀ fields, request = .create fields → Listed S σ → Gone resolved σ) :
    Quiet S resolved { σ with events := σ.events ++ [.asks resolved request] } := by
  refine ⟨fun e he => ?_, h.store⟩
  rcases List.mem_append.mp he with he | he
  · exact h.asks e he
  · rw [List.mem_singleton] at he
    exact ⟨request, he, hcreate⟩

/-! ## The cloud client's calls -/

/-- Any exception leaves the segment quiet. -/
abbrev raises (S : Server) (resolved : String × RecipeDict) : PyErr → Passage → Prop :=
  fun _ => Quiet S resolved

/-- **A call to the cloud**: what is now is what the server made of the reply. -/
theorem post_passes {A : Passage → Prop} {Q : Option Reply → Passage → Prop} {at_ : Point}
    {request : Request} (hquiet : ∀ σ, A σ → Quiet S resolved σ)
    (hcreate : ∀ σ, A σ → ∀ fields, request = .create fields → Listed S σ → Gone resolved σ)
    (hreply : ∀ r w, Q (if (serve w.account r request).2 then some r else none)
      ⟨some (at_, r), w, { w with account := (serve w.account r request).1 }, []⟩) :
    Passes (fun _ => Quiet S resolved) A (post resolved at_ request) Q (raises S resolved) := by
  refine Passes.bind (Q := fun _ => Quiet S resolved) (Passes.emit fun σ hA =>
    (hquiet σ hA).ask (hcreate σ hA)) fun _ => ?_
  refine Passes.bind (Q := fun r σ => ∃ w, σ = .start (some (at_, r)) w)
    (Passes.await (fun σ h => h) fun r w => ⟨w, rfl⟩) fun r => ?_
  refine Passes.world fun w => ?_
  refine Passes.bind (Q := fun _ σ => σ = ⟨some (at_, r), w,
    { w with account := (serve w.account r request).1 }, []⟩) (Passes.assign ?_) fun _ => ?_
  · rintro σ ⟨⟨w', rfl⟩, rfl⟩
    rfl
  · refine Passes.pure fun σ hσ => ?_
    rw [hσ]
    exact hreply r w

/-- A reply to anything but a create leaves a quiet segment. -/
theorem quiet_reply (at_ : Point) (r : Reply) (w : World) (account : List CloudEntry) :
    Quiet S resolved ⟨some (at_, r), w, { w with account := account }, []⟩ :=
  ⟨fun _ he => absurd he List.not_mem_nil, rfl⟩

theorem asyncEnsureCloudLogin_passes :
    Passes (fun _ => Quiet S resolved) (Quiet S resolved) (asyncEnsureCloudLogin resolved)
      (fun ok σ => Quiet S resolved σ ∧ (ok = true → σ.now.loggedIn = true)) (raises S resolved) := by
  refine Passes.world fun w => ?_
  split
  · exact Passes.pure fun σ h => ⟨h.1, fun hok => by cases hok⟩
  · split
    · rename_i hlogged
      exact Passes.pure fun σ h => ⟨h.1, fun _ => by rw [h.2, hlogged]⟩
    · refine Passes.bind (Q := fun _ => Quiet S resolved) (post_passes (fun σ h => h.1)
        (fun σ h fields heq => by cases heq) fun r w => quiet_reply _ r w _) fun reply => ?_
      cases reply with
      | none => exact Passes.pure fun σ h => ⟨h, fun hok => by cases hok⟩
      | some r =>
        refine Passes.bind (Q := fun _ σ => Quiet S resolved σ ∧ σ.now.loggedIn = true)
          (Passes.assign fun σ h => ⟨⟨h.asks, h.store⟩, rfl⟩) fun _ => ?_
        exact Passes.pure fun σ h => ⟨h.1, fun _ => h.2⟩

/-- **A list call**: what it returns is the server's page. -/
theorem listRecipes_passes {A : Passage → Prop} {Q : Option (List CloudEntry) → Passage → Prop}
    {at_ : Point} (hquiet : ∀ σ, A σ → Quiet S resolved σ)
    (hout : ∀ σ, A σ → σ.now.loggedIn = false → Q none σ)
    (hfailed : ∀ r w, r.success = false → Q none (.start (some (at_, r)) w))
    (hpage : ∀ r w, r.success = true → Q (some (S.page w.account)) (.start (some (at_, r)) w)) :
    Passes (fun _ => Quiet S resolved) A (listRecipes S resolved at_) Q (raises S resolved) := by
  refine Passes.world fun w => ?_
  split
  · rename_i hlogged
    exact Passes.pure fun σ h => hout σ h.1 (by rw [h.2, hlogged])
  · refine Passes.bind (Q := fun reply σ => ∃ r w, σ = .start (some (at_, r)) w ∧
        (reply = none → r.success = false) ∧ (reply ≠ none → r.success = true))
      (post_passes (fun σ h => hquiet σ h.1) (fun σ h fields heq => by cases heq) fun r w => ?_)
      fun reply => ?_
    · refine ⟨r, w, rfl, ?_, ?_⟩
      · show (if r.success then some r else none) = none → r.success = false
        cases r.success <;> simp
      · show (if r.success then some r else none) ≠ none → r.success = true
        cases r.success <;> simp
    · cases reply with
      | none =>
        refine Passes.pure ?_
        rintro σ ⟨r, w, rfl, hr, _⟩
        exact hfailed r w (hr rfl)
      | some r =>
        refine Passes.world fun w => Passes.pure ?_
        rintro σ ⟨⟨r, w', rfl, _, hr⟩, rfl⟩
        exact hpage r w' (hr (by simp))

/-- `get_recipe`, given what to make of a page. -/
theorem getRecipe_passes {A : Passage → Prop} {Q : Option CloudEntry → Passage → Prop} {at_ : Point}
    {tableId : ℤ} (hquiet : ∀ σ, A σ → Quiet S resolved σ)
    (hout : ∀ σ, A σ → σ.now.loggedIn = false → Q none σ)
    (hfailed : ∀ r w, r.success = false → Q none (.start (some (at_, r)) w))
    (hfind : ∀ r w, r.success = true → Q ((S.page w.account).find? fun e => e.tableId = tableId)
      (.start (some (at_, r)) w)) :
    Passes (fun _ => Quiet S resolved) A (getRecipe S resolved at_ tableId) Q (raises S resolved) := by
  refine Passes.bind (Q := fun page σ => (page = none → Q none σ) ∧ ∀ recipes, page = some recipes →
    Q (recipes.find? fun e => e.tableId = tableId) σ) (listRecipes_passes hquiet
    (fun σ h hlogged => ⟨fun _ => hout σ h hlogged, fun _ hpage => (by cases hpage)⟩)
    (fun r w hr => ⟨fun _ => hfailed r w hr, fun _ hpage => (by cases hpage)⟩)
    fun r w hr => ⟨fun hpage => (by cases hpage), ?_⟩) fun page => ?_
  · rintro recipes ⟨⟩
    exact hfind r w hr
  cases page with
  | none => exact Passes.pure fun σ h => h.1 rfl
  | some recipes => exact Passes.pure fun σ h => h.2 recipes rfl

/-- **A search that finds nothing** says that the entry is gone, if the list call is heeded. -/
theorem findEntry_passes {tableId : ℤ} (hstored : resolved.2.cloudTableId = some tableId) :
    Passes (fun _ => Quiet S resolved) (fun σ => Quiet S resolved σ ∧ σ.now.loggedIn = true)
      (getRecipe S resolved (.finding tableId) tableId)
      (fun found σ => Quiet S resolved σ ∧ (found = none → Listed S σ → Gone resolved σ))
      (raises S resolved) := by
  -- the entry that is not on the page is not on the account
  have hgone : ∀ r w, (r.success = true → tableId ∉ tableIds (S.page w.account)) →
      Listed S (.start (some (.finding tableId, r)) w) →
        Gone resolved (.start (some (.finding tableId, r)) w : Passage) := by
    intro r w hpage hlisted tableId' hstored'
    obtain rfl : tableId = tableId' := Option.some.inj (hstored.symm.trans hstored')
    intro hmem
    obtain ⟨hsuccess, hon⟩ := hlisted tableId r rfl hmem
    exact hpage hsuccess hon
  refine getRecipe_passes (fun σ h => h.1) ?_ ?_ ?_
  · intro σ h hlogged
    exact absurd h.2 (by rw [hlogged]; decide)
  · intro r w hr
    exact ⟨quiet_start _ w, fun _ => hgone r w fun hsuccess => by rw [hr] at hsuccess; cases hsuccess⟩
  · intro r w _
    refine ⟨quiet_start _ w, fun hnone => hgone r w fun _ hmem => ?_⟩
    obtain ⟨e, he, heq⟩ := List.mem_map.mp hmem
    exact List.find?_eq_none.mp hnone e he (decide_eq_true heq)

theorem updateRecipe_passes {id : ℤ} {fields : Entries} (hstored : resolved.2.cloudTableId = some id) :
    Passes (fun _ => Quiet S resolved) (Quiet S resolved) (updateRecipe resolved id fields)
      (fun ok σ => Quiet S resolved σ ∧ (ok = true → Updates resolved σ id)) (raises S resolved) := by
  refine Passes.world fun w => ?_
  split
  · exact Passes.pure fun σ h => ⟨h.1, fun hok => by cases hok⟩
  · refine Passes.bind (Q := fun reply σ => Quiet S resolved σ ∧
        (reply.isSome = true → Updates resolved σ id))
      (post_passes (fun σ h => h.1) (fun σ h fields heq => by cases heq) fun r w => ?_)
      fun reply => Passes.pure fun σ h => h
    refine ⟨quiet_reply _ r w _, fun hreply => ⟨hstored, fields, r, rfl, ?_⟩⟩
    have hsuccess : r.success = true := by
      cases h : r.success with
      | true => rfl
      | false => simp [serve, h] at hreply
    refine ⟨hsuccess, ?_⟩
    show (if r.success || r.carriedOut then _ else _) = _
    rw [hsuccess]
    rfl

theorem createRecipe_passes {recipe : RecipeDict} :
    Passes (fun _ => Quiet S resolved)
      (fun σ => Quiet S resolved σ ∧ (Listed S σ → Gone resolved σ)) (createRecipe S resolved recipe)
      (fun out σ => Quiet S resolved σ ∧ ∀ id url, out = some (id, url) → Creates σ id)
      (raises S resolved) := by
  refine Passes.world fun w => ?_
  split
  · exact Passes.pure fun σ h => ⟨h.1.1, fun _ _ hout => by cases hout⟩
  · refine Passes.bind (Q := fun reply σ => Quiet S resolved σ ∧
        ∀ r, reply = some r → Creates σ r.tableId)
      (post_passes (fun σ h => h.1.1) (fun σ h _ _ => h.1.2) fun r w =>
        ⟨quiet_reply _ r w _, fun r' hr' => ?_⟩) fun reply => ?_
    · refine ⟨r, Or.inl ⟨rfl, ?_⟩⟩
      split at hr'
      · rw [Option.some.inj hr']
      · cases hr'
    · cases reply with
      | none => exact Passes.pure fun σ h => ⟨h.1, fun _ _ hout => by cases hout⟩
      | some r =>
        refine Passes.bind (Q := fun _ σ => Quiet S resolved σ ∧ Creates σ r.tableId)
          (getRecipe_passes (fun σ h => h.1) (fun σ h _ => ⟨h.1, h.2 r rfl⟩)
            (fun r' w _ => ⟨quiet_start _ w, r', Or.inr rfl⟩)
            fun r' w _ => ⟨quiet_start _ w, r', Or.inr rfl⟩) fun created => ?_
        refine Passes.pure fun σ h => ⟨h.1, fun id url hout => ?_⟩
        cases hout
        exact h.2

/-! ## The export -/

theorem gone_of_no_id (h : resolved.2.cloudTableId.getD 0 = 0) : Gone resolved σ := by
  intro tableId hstored hmem
  obtain ⟨e, _, heq⟩ := List.mem_map.mp hmem
  rw [hstored, Option.getD_some] at h
  exact e.issued (heq.trans h)

theorem stored_of_getD_ne {tableId : ℤ} (h : resolved.2.cloudTableId.getD 0 = tableId)
    (hne : tableId ≠ 0) : resolved.2.cloudTableId = some tableId := by
  cases hstored : resolved.2.cloudTableId with
  | none =>
    rw [hstored] at h
    exact absurd h.symm hne
  | some id =>
    rw [hstored, Option.getD_some] at h
    rw [h]

/-- **The identity obtained** is that of an entry that was updated, or of one that was created. -/
theorem exportToCloud_passes {validated : RecipeDict} :
    Passes (fun _ => Quiet S resolved) (fun σ => Quiet S resolved σ ∧ σ.now.loggedIn = true)
      (exportToCloud S resolved validated)
      (fun out σ => Quiet S resolved σ ∧
        ∀ id url, out = some (id, url) → Updates resolved σ id ∨ Creates σ id)
      (raises S resolved) := by
  -- either way a create comes only where the entry is gone
  have hcreate : Passes (fun _ => Quiet S resolved)
      (fun σ => Quiet S resolved σ ∧ (Listed S σ → Gone resolved σ))
      (createRecipe S resolved validated)
      (fun out σ => Quiet S resolved σ ∧
        ∀ id url, out = some (id, url) → Updates resolved σ id ∨ Creates σ id)
      (raises S resolved) := by
    refine createRecipe_passes.weaken (fun σ h => h) (fun out σ h => ?_) fun _ _ h => h
    exact ⟨h.1, fun id url hout => Or.inr (h.2 id url hout)⟩
  unfold exportToCloud
  dsimp only
  split
  · rename_i hnone
    exact hcreate.pre fun σ h => ⟨h.1, fun _ => gone_of_no_id hnone⟩
  · rename_i hsome
    have hstored := stored_of_getD_ne rfl hsome
    refine Passes.bind (findEntry_passes hstored) fun found => ?_
    cases found with
    | none => exact hcreate.pre fun σ h => ⟨h.1, h.2 rfl⟩
    | some current =>
      refine Passes.bind ((updateRecipe_passes hstored).pre fun σ h => h.1) fun ok => ?_
      cases ok with
      | true =>
        refine Passes.pure fun σ h => ⟨h.1, fun id url hout => Or.inl ?_⟩
        cases hout
        exact h.2 rfl
      | false => exact Passes.pure fun σ h => ⟨h.1, fun _ _ hout => by cases hout⟩

theorem exportResolved_passes (I : Identifiers) :
    Passes (fun _ => Quiet S resolved) (Quiet S resolved) (exportResolved I S resolved)
      (fun result σ => Returns S resolved σ result) (raises S resolved) := by
  refine Passes.world fun w => ?_
  split
  · exact Passes.pure fun σ h => h.1
  · split
    · exact Passes.pure fun σ h => h.1
    · refine Passes.bind (Q := fun _ => Quiet S resolved) (Passes.lift (fun _ _ σ h => h.1)
        fun _ _ σ h => h.1) fun mismatch => ?_
      split
      · exact Passes.pure fun σ h => h
      · refine Passes.bind asyncEnsureCloudLogin_passes fun ok => ?_
        split
        · exact Passes.pure fun σ h => h.1
        · rename_i hok
          refine Passes.bind (exportToCloud_passes.pre fun σ h =>
            ⟨h.1, h.2 (Bool.not_eq_false _ ▸ hok)⟩) fun out => ?_
          cases out with
          | none => exact Passes.pure fun σ h => h.1
          | some identity =>
            -- the identity is written back in the store as it is by then
            refine Passes.world fun w => Passes.bind (Q := fun _ σ =>
              OnlyAsks S resolved σ ∧
                σ.now.store = keepIdentity resolved identity.1 identity.2 σ.before.store ∧
                (Updates resolved σ identity.1 ∨ Creates σ identity.1))
              (Passes.assign fun σ h => ?_) fun _ => Passes.pure fun σ h => h
            obtain ⟨⟨hquiet, hidentity⟩, _⟩ := h
            refine ⟨hquiet.asks, ?_, hidentity identity.1 identity.2 rfl⟩
            show keepIdentity resolved identity.1 identity.2 σ.now.store = _
            rw [hquiet.store]

/-- The segment that returns. -/
theorem Returns.exports {result : ExportResult} (h : Returns S resolved σ result) :
    Exports S resolved { σ with events := σ.events ++ [.returns (some resolved) result] } := by
  have hasks : OnlyAsks S resolved σ := by
    match result, h with
    | .failure _, h => exact h.asks
    | .success none _ _, h => exact h.asks
    | .success (some _) _ _, h => exact h.1
  -- a return that is in the segment is this one
  have hreturn : ∀ resolved' result', .returns resolved' result' ∈
      σ.events ++ [.returns (some resolved) result] → resolved' = some resolved ∧ result' = result := by
    intro resolved' result' he
    rcases List.mem_append.mp he with he | he
    · obtain ⟨request, heq, _⟩ := hasks _ he
      cases heq
    · cases List.mem_singleton.mp he
      exact ⟨rfl, rfl⟩
  constructor
  · intro resolved' fields he hlisted
    rcases List.mem_append.mp he with he | he
    · obtain ⟨request, heq, hgone⟩ := hasks _ he
      cases heq
      exact hgone fields rfl hlisted
    · cases List.mem_singleton.mp he
  · intro resolved' id url recipe warning he
    obtain ⟨hresolved, rfl⟩ := hreturn _ _ he
    exact ⟨Option.some.inj hresolved, h.2.1, h.2.2⟩
  · intro resolved' error he
    obtain ⟨_, rfl⟩ := hreturn _ _ he
    exact h.store
  · intro hne
    match result, h with
    | .failure _, h => exact absurd h.store hne
    | .success none _ _, h => exact absurd h.store hne
    | .success (some (id, url)) recipe warning, _ =>
      exact ⟨id, url, recipe, warning, List.mem_append.mpr (Or.inr (List.mem_singleton.mpr rfl))⟩

/-- An export that resolves nothing only says so. -/
theorem notFound_exports (w : World) :
    Exports S resolved ⟨none, w, w, [.returns none (.failure .recipeNotFound)]⟩ := by
  refine ⟨fun _ _ he => ?_, fun _ _ _ _ _ he => ?_, fun _ _ _ => rfl, fun hne => absurd rfl hne⟩
  · cases List.mem_singleton.mp he
  · cases List.mem_singleton.mp he

variable {I : Identifiers} {yaml : YamlLayer}

/-- **Every segment of an export** whose recipe is resolved when it begins. -/
theorem export_segments {identifier : String} {w : World}
    (h : ∀ resolved', findRecipe I (w.store.visible yaml) identifier = some resolved' →
      resolved' = resolved) :
    ((system I yaml S).program identifier).AllSegments (fun _ => Quiet S resolved) (Exports S resolved)
      (.start none w) := by
  have hexport : Passes (fun _ => Quiet S resolved) (fun σ => σ = .start none w)
      (asyncExportRecipe I yaml S identifier) (fun _ => Exports S resolved) (raises S resolved) := by
    refine Passes.world fun w' => ?_
    split
    · refine Passes.emit ?_
      rintro σ ⟨rfl, _⟩
      exact notFound_exports w
    · rename_i resolved' hfind
      intro σ hσ
      obtain ⟨rfl, rfl⟩ := hσ
      obtain rfl := h resolved' hfind
      exact Passes.bind (exportResolved_passes I) (fun result => Passes.emit fun σ h => h.exports) _
        (quiet_start none w)
  exact (hexport.weaken (fun σ h => h) (fun _ σ h => h) fun _ σ h => h.exports).allSegments rfl

end XBloom.Cloud
