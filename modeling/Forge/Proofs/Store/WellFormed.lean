import Forge.Proofs.Store.Effect
import Mathlib.Data.List.Nodup

/-!
# Well-formed stores

`Store.WellFormed` is what holds of the store of a forge at all times: rows are numbered in the
order in which they were added, no two repositories share a name, every name is the clean form of
some text and has a UTF-8 form, and every stored state can be read. `Effect.wellFormed` shows that
no effect breaks it.

`Store.Evolves` relates an earlier and a later store: an old id stands for the repository, issue or
merge request that it stood for, or for nothing any more, and what is merged stays merged. Two facts
of a merge request that outlive every effect are `Store.Settled`, that it can never be open again,
and `Store.Owned`, that its id belongs to one repository for good.
-/

namespace Forge

open Transaction

/-! ## Numbered tables -/

namespace Table

variable {ρ : Type} {t : Table ρ} {p : ρ → Bool} {f : ρ → ρ} {build : Int → ρ} {r : ρ}

/-- A row that was added is the last one. -/
theorem mem_insert : r ∈ (t.insert build).rows ↔ r ∈ t.rows ∨ r = build t.nextId := by
  simp [insert]

theorem mem_modify :
    r ∈ (t.modify p f).rows ↔ ∃ r₀ ∈ t.rows, (if p r₀ then f r₀ else r₀) = r := by
  simp [modify]

/-- The rows that stay are those that were not meant. -/
theorem mem_remove : r ∈ (t.remove p).rows ↔ r ∈ t.rows ∧ p r = false := by
  simp [remove]

section Forall

variable {P : ρ → Prop} (h : ∀ r ∈ t.rows, P r)

include h

theorem forall_insert (hb : P (build t.nextId)) : ∀ r ∈ (t.insert build).rows, P r := by
  intro r hr
  rcases mem_insert.1 hr with hr | rfl
  · exact h r hr
  · exact hb

theorem forall_modify (hf : ∀ r ∈ t.rows, p r = true → P r → P (f r)) :
    ∀ r ∈ (t.modify p f).rows, P r := by
  intro r hr
  obtain ⟨r₀, hr₀, rfl⟩ := mem_modify.1 hr
  split
  · exact hf r₀ hr₀ ‹_› (h r₀ hr₀)
  · exact h r₀ hr₀

theorem forall_remove : ∀ r ∈ (t.remove p).rows, P r := by
  intro r hr
  exact h r (mem_remove.1 hr).1

end Forall

/-- The rows stand in the order of their ids, none of which is above the last one given out. -/
structure Numbered (ident : ρ → Int) (t : Table ρ) : Prop where
  ascending : t.rows.Pairwise fun a b => ident a < ident b
  le_last : ∀ r ∈ t.rows, ident r ≤ t.lastId

namespace Numbered

variable {ident : ρ → Int}

theorem empty : (Table.empty : Table ρ).Numbered ident :=
  ⟨.nil, fun _ h => nomatch h⟩

/-- A new row has the next number. -/
theorem insert (h : t.Numbered ident) (hb : ∀ id, ident (build id) = id) :
    (t.insert build).Numbered ident := by
  refine ⟨?_, fun r hr => ?_⟩
  · refine List.pairwise_append.2 ⟨h.ascending, List.pairwise_singleton _ _, fun a ha b hb' => ?_⟩
    rw [List.mem_singleton.1 hb', hb]
    have := h.le_last a ha
    simp only [nextId]
    omega
  · rcases mem_insert.1 hr with hr | rfl
    · have := h.le_last r hr
      simp only [Table.insert, nextId]
      omega
    · rw [hb]
      exact Int.le_refl _

/-- Rows that keep their numbers stay numbered. -/
theorem modify (h : t.Numbered ident) (hf : ∀ r, ident (f r) = ident r) :
    (t.modify p f).Numbered ident := by
  have hid (r : ρ) : ident (if p r then f r else r) = ident r := by
    split
    · exact hf r
    · rfl
  refine ⟨?_, fun r hr => ?_⟩
  · refine List.pairwise_map.2 (h.ascending.imp fun {a b} hab => ?_)
    rw [hid, hid]
    exact hab
  · obtain ⟨r₀, hr₀, rfl⟩ := mem_modify.1 hr
    rw [hid]
    exact h.le_last r₀ hr₀

theorem remove (h : t.Numbered ident) : (t.remove p).Numbered ident :=
  ⟨h.ascending.filter _, fun r hr => h.le_last r (mem_remove.1 hr).1⟩

/-- Two rows of one id are the same row. -/
theorem eq_of_id_eq (h : t.Numbered ident) {a b : ρ} (ha : a ∈ t.rows) (hb : b ∈ t.rows)
    (hab : ident a = ident b) : a = b := by
  have hn : (t.rows.map ident).Nodup :=
    List.pairwise_map.2 (h.ascending.imp fun hlt => Int.ne_of_lt hlt)
  exact List.inj_on_of_nodup_map hn ha hb hab

/-- A search that only one id can satisfy finds the row that satisfies it. -/
theorem find?_eq_some (h : t.Numbered ident) {a : ρ} (ha : a ∈ t.rows) (hpa : p a = true)
    (hp : ∀ b ∈ t.rows, p b = true → ident b = ident a) : t.rows.find? p = some a := by
  cases hf : t.rows.find? p with
  | none =>
    rw [List.find?_eq_none] at hf
    exact absurd hpa (hf a ha)
  | some b =>
    have hb := List.mem_of_find?_eq_some hf
    rw [h.eq_of_id_eq hb ha (hp b hb (List.find?_some hf))]

end Numbered

/-- The later table has, under ids that the earlier one had given out, only rows of the earlier
one as `rel` may have changed them. -/
structure Evolves (ident : ρ → Int) (rel : ρ → ρ → Prop) (t t' : Table ρ) : Prop where
  last_le : t.lastId ≤ t'.lastId
  old : ∀ r' ∈ t'.rows, ident r' ≤ t.lastId → ∃ r ∈ t.rows, rel r r'

namespace Evolves

variable {ident : ρ → Int} {rel : ρ → ρ → Prop} {t' : Table ρ}

/-- A table has evolved from itself. -/
theorem refl (hrel : ∀ r, rel r r) : t.Evolves ident rel t :=
  ⟨Int.le_refl _, fun r hr _ => ⟨r, hr, hrel r⟩⟩

theorem insert (hrel : ∀ r, rel r r) (hb : ∀ id, ident (build id) = id) :
    t.Evolves ident rel (t.insert build) := by
  refine ⟨by simp only [Table.insert, nextId]; omega, fun r' hr' hle => ?_⟩
  rcases mem_insert.1 hr' with hr' | rfl
  · exact ⟨r', hr', hrel r'⟩
  · rw [hb] at hle
    simp only [nextId] at hle
    omega

theorem modify (hrel : ∀ r, rel r r) (hf : ∀ r, p r = true → rel r (f r)) :
    t.Evolves ident rel (t.modify p f) := by
  refine ⟨Int.le_refl _, fun r' hr' _ => ?_⟩
  obtain ⟨r, hr, rfl⟩ := mem_modify.1 hr'
  refine ⟨r, hr, ?_⟩
  split
  · exact hf r ‹_›
  · exact hrel r

theorem remove (hrel : ∀ r, rel r r) : t.Evolves ident rel (t.remove p) :=
  ⟨Int.le_refl _, fun r' hr' _ => ⟨r', (mem_remove.1 hr').1, hrel r'⟩⟩

theorem trans {t'' : Table ρ} (hid : ∀ a b, rel a b → ident b = ident a)
    (hrel : ∀ a b c, rel a b → rel b c → rel a c) (h : t.Evolves ident rel t')
    (h' : t'.Evolves ident rel t'') : t.Evolves ident rel t'' := by
  refine ⟨Int.le_trans h.last_le h'.last_le, fun c hc hle => ?_⟩
  obtain ⟨b, hb, hbc⟩ := h'.old c hc (Int.le_trans hle h.last_le)
  rw [hid b c hbc] at hle
  obtain ⟨a, ha, hab⟩ := h.old b hb hle
  exact ⟨a, ha, hrel a b c hab hbc⟩

/-- A row under an id of the earlier table is what has become of the row of that id. -/
theorem same {r r' : ρ} (h : t.Evolves ident rel t') (hn : t.Numbered ident)
    (hid : ∀ a b, rel a b → ident b = ident a) (hr : r ∈ t.rows) (hr' : r' ∈ t'.rows)
    (heq : ident r' = ident r) : rel r r' := by
  obtain ⟨a, ha, har⟩ := h.old r' hr' (by rw [heq]; exact hn.le_last r hr)
  obtain rfl := hn.eq_of_id_eq ha hr ((hid a r' har).symm.trans heq)
  exact har

/-- An old id that no row has is one that no later row has. -/
theorem gone {id : Int} (h : t.Evolves ident rel t') (hid : ∀ a b, rel a b → ident b = ident a)
    (hle : id ≤ t.lastId) (hgone : id ∉ t.rows.map ident) : id ∉ t'.rows.map ident := by
  intro hmem
  obtain ⟨r', hr', rfl⟩ := List.mem_map.1 hmem
  obtain ⟨a, ha, har⟩ := h.old r' hr' hle
  rw [hid a r' har] at hgone
  exact hgone (List.mem_map_of_mem ha)

end Evolves

end Table

/-! ## The invariant -/

namespace Store

/-- What holds of the store of a forge at all times. -/
structure WellFormed (s : Store) : Prop where
  repos : s.repos.Numbered (·.id)
  issues : s.issues.Numbered (·.id)
  mergeRequests : s.mergeRequests.Numbered (·.id)
  dependencies : s.dependencies.Numbered (·.id)
  names : s.repos.rows.Pairwise fun a b => a.name ≠ b.name
  clean : ∀ r ∈ s.repos.rows, ∃ name, Repository.cleanName name = .ok r.name
  writable : ∀ r ∈ s.repos.rows, s.surrogates.Writable r.name
  issueStates : ∀ r ∈ s.issues.rows, r.read? ≠ none
  requestStates : ∀ r ∈ s.mergeRequests.rows, r.read? ≠ none
  present : s.withdrawn = []

/-- A new store is well formed, whatever stands for surrogates in it. -/
theorem WellFormed.empty (u : Text.Surrogates) : (Store.empty u).WellFormed where
  repos := .empty
  issues := .empty
  mergeRequests := .empty
  dependencies := .empty
  names := .nil
  clean _ h := nomatch h
  writable _ h := nomatch h
  issueStates _ h := nomatch h
  requestStates _ h := nomatch h
  present := rfl

end Store

namespace Change

variable {now : Int} {c : Change}

theorem onIssue_id (r : StoredIssue) : (c.onIssue now r).id = r.id := by
  cases c <;> rfl

theorem onMergeRequest_id (r : StoredMergeRequest) : (c.onMergeRequest now r).id = r.id := by
  cases c <;> rfl

theorem onIssue_readable {r : StoredIssue} (h : r.read? ≠ none) :
    (c.onIssue now r).read? ≠ none := by
  cases c with
  | edit title description =>
    simpa [IssueIn.read?, onIssue] using h
  | close actor => exact nofun
  | reopen => exact nofun

theorem onMergeRequest_readable {r : StoredMergeRequest} (h : r.read? ≠ none) :
    (c.onMergeRequest now r).read? ≠ none := by
  cases c with
  | edit title description =>
    simpa [MergeRequestIn.read?, onMergeRequest] using h
  | close actor => exact nofun
  | reopen => exact nofun

end Change

variable {now : Int} {s s' : Store}

/-- No effect on tickets breaks the invariant of the store. -/
theorem TicketEffect.wellFormed {repoId : Int} (h : TicketEffect now repoId s s')
    (hs : s.WellFormed) : s'.WellFormed := by
  cases h with
  | nothing => exact hs
  | issueAdded _ =>
    refine { hs with issues := ?_, issueStates := Table.forall_insert hs.issueStates nofun }
    dsimp only
    exact hs.issues.insert fun _ => rfl
  | issueChanged _ _ =>
    exact { hs with
      issues := hs.issues.modify fun r => Change.onIssue_id r
      issueStates := Table.forall_modify hs.issueStates fun _ _ _ => Change.onIssue_readable }
  | issueRemoved _ =>
    exact { hs with
      issues := hs.issues.remove
      dependencies := hs.dependencies.remove.remove
      issueStates := Table.forall_remove hs.issueStates }
  | requestAdded _ =>
    refine { hs with
      mergeRequests := ?_
      requestStates := Table.forall_insert hs.requestStates nofun }
    dsimp only
    exact hs.mergeRequests.insert fun _ => rfl
  | requestChanged _ _ =>
    exact { hs with
      mergeRequests := hs.mergeRequests.modify fun r => Change.onMergeRequest_id r
      requestStates := Table.forall_modify hs.requestStates fun _ _ _ =>
        Change.onMergeRequest_readable }
  | requestMerged _ =>
    exact { hs with
      mergeRequests := hs.mergeRequests.modify fun _ => rfl
      requestStates := Table.forall_modify hs.requestStates fun _ _ _ _ => nofun }
  | requestRemoved =>
    exact { hs with
      mergeRequests := hs.mergeRequests.remove
      requestStates := Table.forall_remove hs.requestStates }
  | dependencyAdded _ _ _ _ =>
    exact { hs with dependencies := hs.dependencies.insert fun _ => rfl }
  | dependencyRemoved _ _ =>
    exact { hs with dependencies := hs.dependencies.remove }

/-- No effect breaks the invariant of the store. -/
theorem Effect.wellFormed (h : Effect now s s') (hs : s.WellFormed) : s'.WellFormed := by
  cases h with
  | @registered name key path hk hu hn =>
    refine { hs with
      repos := ?_
      names := ?_
      clean := Table.forall_insert hs.clean ⟨name, hk⟩
      writable := Table.forall_insert hs.writable hu }
    · dsimp only
      exact hs.repos.insert fun _ => rfl
    · refine List.pairwise_append.2 ⟨hs.names, List.pairwise_singleton _ _, fun a ha b hb => ?_⟩
      rw [List.mem_singleton.1 hb]
      exact hn a ha
  | forgotten key =>
    exact
      { repos := hs.repos.remove
        issues := hs.issues.remove
        mergeRequests := hs.mergeRequests.remove
        dependencies := hs.dependencies.remove
        names := hs.names.filter _
        clean := Table.forall_remove hs.clean
        writable := Table.forall_remove hs.writable
        issueStates := Table.forall_remove hs.issueStates
        requestStates := Table.forall_remove hs.requestStates
        present := hs.present }
  | onTickets effect => exact effect.wellFormed hs

/-! ## Rows that are found -/

namespace Store

/-- A name stands for one repository. -/
theorem WellFormed.eq_of_name_eq (hs : s.WellFormed) {r r' : Repository} (hr : r ∈ s.repos.rows)
    (hr' : r' ∈ s.repos.rows) (h : r.name = r'.name) : r = r' :=
  List.inj_on_of_nodup_map (List.pairwise_map.2 hs.names) hr hr' h

/-- A repository is found by every text that its name is the clean form of. -/
theorem WellFormed.named (hs : s.WellFormed) {name : String} {r : Repository}
    (hr : r ∈ s.repos.rows) (hname : Repository.cleanName name = .ok r.name) :
    (repositoryNamed name).Returns s r s := by
  refine returns_repositoryNamed.2
    ⟨r.name, hname, ⟨by rw [hs.present]; nofun, hs.writable r hr⟩, ?_, rfl⟩
  refine hs.repos.find?_eq_some hr (beq_self_eq_true _) fun r' hr' hn => ?_
  rw [hs.eq_of_name_eq hr' hr (eq_of_beq hn)]

/-- An open merge request is got as such. -/
theorem WellFormed.got (hs : s.WellFormed) {row : StoredMergeRequest}
    (hrow : row ∈ s.mergeRequests.rows) (hopen : row.state = "open")
    (hrepo : fits row.repoId = true) (hid : fits row.id = true) :
    (Ticket.get StoredMergeRequest row.repoId row.id).Returns s
      { row with state := MergeRequestState.opened } s := by
  refine Ticket.returns_get.2 ⟨by rw [hs.present]; nofun, hrepo, hid, rfl, row, ?_, ?_⟩
  · refine hs.mergeRequests.find?_eq_some hrow (Ticket.isAt_iff.2 ⟨rfl, rfl⟩) fun r _ hr => ?_
    exact (Ticket.isAt_iff.1 hr).2
  · simp [Ticket.read?, MergeRequestIn.read?, hopen,
      show MergeRequestState.ofText? "open" = some .opened from rfl]

end Store

/-! ## What outlives every effect -/

namespace Store

/-- How an issue can have changed: it is still the one that was created. -/
structure SameIssue (r r' : StoredIssue) : Prop where
  id : r'.id = r.id
  repoId : r'.repoId = r.repoId
  authorId : r'.authorId = r.authorId
  createdAt : r'.createdAt = r.createdAt

theorem SameIssue.refl (r : StoredIssue) : SameIssue r r :=
  ⟨rfl, rfl, rfl, rfl⟩

theorem SameIssue.trans {a b c : StoredIssue} (h : SameIssue a b) (h' : SameIssue b c) :
    SameIssue a c :=
  ⟨h'.id.trans h.id, h'.repoId.trans h.repoId, h'.authorId.trans h.authorId,
    h'.createdAt.trans h.createdAt⟩

/-- How a merge request can have changed: it is still the one that was created, and if it was
merged it still is, by the same actor at the same time. -/
structure SameRequest (r r' : StoredMergeRequest) : Prop where
  id : r'.id = r.id
  repoId : r'.repoId = r.repoId
  authorId : r'.authorId = r.authorId
  createdAt : r'.createdAt = r.createdAt
  sourceBranch : r'.sourceBranch = r.sourceBranch
  targetBranch : r'.targetBranch = r.targetBranch
  merged : r.state = "merged" → r'.state = "merged" ∧ r'.mergedBy = r.mergedBy ∧
    r'.mergedAt = r.mergedAt ∧ r'.closedBy = r.closedBy ∧ r'.closedAt = r.closedAt

theorem SameRequest.refl (r : StoredMergeRequest) : SameRequest r r :=
  ⟨rfl, rfl, rfl, rfl, rfl, rfl, fun h => ⟨h, rfl, rfl, rfl, rfl⟩⟩

theorem SameRequest.trans {a b c : StoredMergeRequest} (h : SameRequest a b)
    (h' : SameRequest b c) : SameRequest a c := by
  refine ⟨h'.id.trans h.id, h'.repoId.trans h.repoId, h'.authorId.trans h.authorId,
    h'.createdAt.trans h.createdAt, h'.sourceBranch.trans h.sourceBranch,
    h'.targetBranch.trans h.targetBranch, fun hm => ?_⟩
  obtain ⟨hb, mergedBy, mergedAt, closedBy, closedAt⟩ := h.merged hm
  obtain ⟨hc, mergedBy', mergedAt', closedBy', closedAt'⟩ := h'.merged hb
  exact ⟨hc, mergedBy'.trans mergedBy, mergedAt'.trans mergedAt, closedBy'.trans closedBy,
    closedAt'.trans closedAt⟩

/-- The rows of the later store are those of the earlier one, changed as they can change, and new
ones, and both read texts alike. -/
structure Evolves (s s' : Store) : Prop where
  repos : s.repos.Evolves (·.id) Eq s'.repos
  issues : s.issues.Evolves (·.id) SameIssue s'.issues
  mergeRequests : s.mergeRequests.Evolves (·.id) SameRequest s'.mergeRequests
  dependencies : s.dependencies.Evolves (·.id) Eq s'.dependencies
  surrogates : s'.surrogates = s.surrogates

theorem Evolves.refl (s : Store) : s.Evolves s :=
  ⟨.refl fun _ => rfl, .refl SameIssue.refl, .refl SameRequest.refl, .refl fun _ => rfl, rfl⟩

/-- A store evolves in steps: what was gone after the first stays gone, as numbers are not used
again. -/
theorem Evolves.trans {s'' : Store} (h : s.Evolves s') (h' : s'.Evolves s'') : s.Evolves s'' where
  repos := h.repos.trans (fun _ _ hab => congrArg _ hab.symm) (fun _ _ _ => Eq.trans) h'.repos
  issues := h.issues.trans (fun _ _ => SameIssue.id) (fun _ _ _ => SameIssue.trans) h'.issues
  mergeRequests :=
    h.mergeRequests.trans (fun _ _ => SameRequest.id) (fun _ _ _ => SameRequest.trans)
      h'.mergeRequests
  dependencies :=
    h.dependencies.trans (fun _ _ hab => congrArg _ hab.symm) (fun _ _ _ => Eq.trans)
      h'.dependencies
  surrogates := h'.surrogates.trans h.surrogates

end Store

theorem Change.sameIssue (c : Change) (r : StoredIssue) : Store.SameIssue r (c.onIssue now r) := by
  cases c <;> exact ⟨rfl, rfl, rfl, rfl⟩

theorem Change.sameRequest {c : Change} {r : StoredMergeRequest} (h : c.startsFrom r.state = true) :
    Store.SameRequest r (c.onMergeRequest now r) := by
  -- Only edits start from a merged state, and they keep it.
  cases c with
  | edit title description =>
    exact ⟨rfl, rfl, rfl, rfl, rfl, rfl, fun hm => ⟨hm, rfl, rfl, rfl, rfl⟩⟩
  | close actor =>
    refine ⟨rfl, rfl, rfl, rfl, rfl, rfl, fun hm => ?_⟩
    rw [hm] at h
    cases h
  | reopen =>
    refine ⟨rfl, rfl, rfl, rfl, rfl, rfl, fun hm => ?_⟩
    rw [hm] at h
    cases h

/-- To mark an open merge request merged leaves it the one that it was. -/
theorem StoredMergeRequest.sameRequest_merged {r : StoredMergeRequest} {actor : String}
    (h : r.state = "open") : Store.SameRequest r (StoredMergeRequest.merged now actor r) := by
  refine ⟨rfl, rfl, rfl, rfl, rfl, rfl, fun hm => ?_⟩
  rw [hm] at h
  exact absurd h (by decide)

/-- An effect on tickets evolves the store. -/
theorem TicketEffect.evolves {repoId : Int} (h : TicketEffect now repoId s s') :
    s.Evolves s' := by
  have same := Store.Evolves.refl s
  cases h with
  | nothing => exact same
  | issueAdded _ =>
    refine { same with issues := ?_ }
    dsimp only
    exact .insert Store.SameIssue.refl fun _ => rfl
  | @issueChanged id c _ _ =>
    exact { same with issues := .modify Store.SameIssue.refl fun r _ => c.sameIssue r }
  | issueRemoved _ =>
    exact { same with
      issues := .remove Store.SameIssue.refl
      dependencies := .trans (fun _ _ hab => congrArg _ hab.symm) (fun _ _ _ => Eq.trans)
        (.remove fun _ => rfl) (.remove fun _ => rfl) }
  | requestAdded _ =>
    refine { same with mergeRequests := ?_ }
    dsimp only
    exact .insert Store.SameRequest.refl fun _ => rfl
  | requestChanged _ _ =>
    refine { same with mergeRequests := .modify Store.SameRequest.refl fun r hr => ?_ }
    exact Change.sameRequest (Bool.and_eq_true_iff.1 hr).2
  | requestMerged _ =>
    refine { same with mergeRequests := .modify Store.SameRequest.refl fun r hr => ?_ }
    exact StoredMergeRequest.sameRequest_merged (eq_of_beq (Bool.and_eq_true_iff.1 hr).2)
  | requestRemoved =>
    exact { same with mergeRequests := .remove Store.SameRequest.refl }
  | dependencyAdded _ _ _ _ =>
    refine { same with dependencies := ?_ }
    dsimp only
    exact .insert (fun _ => rfl) fun _ => rfl
  | dependencyRemoved _ _ => exact { same with dependencies := .remove fun _ => rfl }

/-- And so does every effect. -/
theorem Effect.evolves (h : Effect now s s') : s.Evolves s' := by
  cases h with
  | registered _ _ _ =>
    refine { Store.Evolves.refl s with repos := ?_ }
    dsimp only
    exact .insert (fun _ => rfl) fun _ => rfl
  | forgotten _ =>
    exact ⟨.remove fun _ => rfl, .remove Store.SameIssue.refl, .remove Store.SameRequest.refl,
      .remove fun _ => rfl, rfl⟩
  | onTickets effect => exact effect.evolves

namespace Store

/-- The merge request of this id has been merged or is gone, and no other will get the id. -/
structure Settled (id : Int) (s : Store) : Prop where
  le_last : id ≤ s.mergeRequests.lastId
  merged : ∀ r ∈ s.mergeRequests.rows, r.id = id → r.state = "merged"

/-- The merge request of this id, as long as there is one, belongs to this repository. -/
structure Owned (repoId id : Int) (s : Store) : Prop where
  le_last : id ≤ s.mergeRequests.lastId
  repo : ∀ r ∈ s.mergeRequests.rows, r.id = id → r.repoId = repoId

/-- There is an open merge request of this repository and id. -/
def OpenAt (repoId id : Int) (s : Store) : Prop :=
  ∃ r ∈ s.mergeRequests.rows, r.repoId = repoId ∧ r.id = id ∧ r.state = "open"

variable {repoId id : Int}

theorem openAt_iff_any :
    s.OpenAt repoId id ↔ s.mergeRequests.any (StoredMergeRequest.isOpenAt repoId id) = true := by
  simp [OpenAt, Table.any, StoredMergeRequest.isOpenAt, Ticket.isAt, Ticket.repoId, Ticket.id,
    and_assoc]

/-- A merge request that can no longer be merged stays so. -/
theorem Settled.evolves (h : s.Settled id) (he : s.Evolves s') : s'.Settled id := by
  refine ⟨Int.le_trans h.le_last he.mergeRequests.last_le, fun r' hr' hid => ?_⟩
  obtain ⟨r, hr, same⟩ := he.mergeRequests.old r' hr' (by rw [hid]; exact h.le_last)
  exact (same.merged (h.merged r hr (same.id.symm.trans hid))).1

theorem Owned.evolves (h : s.Owned repoId id) (he : s.Evolves s') : s'.Owned repoId id := by
  refine ⟨Int.le_trans h.le_last he.mergeRequests.last_le, fun r' hr' hid => ?_⟩
  obtain ⟨r, hr, same⟩ := he.mergeRequests.old r' hr' (by rw [hid]; exact h.le_last)
  exact same.repoId.trans (h.repo r hr (same.id.symm.trans hid))

/-- What is settled is not open. -/
theorem Settled.not_openAt (h : s.Settled id) : ¬ s.OpenAt repoId id := by
  rintro ⟨r, hr, -, hid, hopen⟩
  rw [h.merged r hr hid] at hopen
  exact absurd hopen (by decide)

/-- A merge request that is there belongs to its repository for good. -/
theorem OpenAt.owned (hs : s.WellFormed) (h : s.OpenAt repoId id) : s.Owned repoId id := by
  obtain ⟨r, hr, hrepo, hid, -⟩ := h
  refine ⟨hid ▸ hs.mergeRequests.le_last r hr, fun r' hr' hid' => ?_⟩
  rw [hs.mergeRequests.eq_of_id_eq hr' hr (hid'.trans hid.symm)]
  exact hrepo

/-- An open merge request of an id that is owned is one of the owner. -/
theorem Owned.eq_of_openAt {repoId' : Int} (h : s.Owned repoId id) (ho : s.OpenAt repoId' id) :
    repoId' = repoId := by
  obtain ⟨r, hr, hrepo, hid, -⟩ := ho
  exact hrepo.symm.trans (h.repo r hr hid)

end Store

end Forge
