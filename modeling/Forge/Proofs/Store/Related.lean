import Forge.Proofs.Reachable
import Forge.Proofs.Replay
import Forge.Proofs.Store.Confined

/-!
# Rows that refer to each other

Tickets refer to their repository and dependencies to two issues. The tables see to it that what is
referred to exists, but not that both issues of a dependency belong to one repository: that is
checked when the dependency is added and kept because no issue changes its repository. Rows are
removed in cascades, from repositories to issues to dependencies, and the dependencies of a removed
issue once more by hand; `Store.Related` is what is left intact by all this.
-/

namespace Forge

namespace Store

variable {s : Store}

/-- The two issues of a dependency are in the table, and belong to one repository. -/
def Joins (issues : Table StoredIssue) (d : StoredDependency) : Prop :=
  ∃ a ∈ issues.rows, ∃ b ∈ issues.rows,
    a.id = d.issueId ∧ b.id = d.dependsOnId ∧ a.repoId = b.repoId

/-- What rows refer to is there, and is what it should be. -/
structure Related (s : Store) : Prop where
  issues : ∀ i ∈ s.issues.rows, ∃ r ∈ s.repos.rows, r.id = i.repoId
  mergeRequests : ∀ m ∈ s.mergeRequests.rows, ∃ r ∈ s.repos.rows, r.id = m.repoId
  names : s.repos.rows.Pairwise fun a b => a.name ≠ b.name
  distinct : ∀ d ∈ s.dependencies.rows, d.issueId ≠ d.dependsOnId
  joined : ∀ d ∈ s.dependencies.rows, Joins s.issues d
  pairs : s.dependencies.rows.Pairwise fun d e =>
    ¬ (d.issueId = e.issueId ∧ d.dependsOnId = e.dependsOnId)

theorem Related.empty (u : Text.Surrogates) : (Store.empty u).Related where
  issues _ h := absurd h List.not_mem_nil
  mergeRequests _ h := absurd h List.not_mem_nil
  names := .nil
  distinct _ h := absurd h List.not_mem_nil
  joined _ h := absurd h List.not_mem_nil
  pairs := .nil

theorem hasRepository_iff {id : Int} :
    s.hasRepository id = true ↔ ∃ r ∈ s.repos.rows, r.id = id := by
  simp [hasRepository, Table.any]

/-! ## Dependencies whose issues stay -/

section Joins

variable {t : Table StoredIssue} {d : StoredDependency}

/-- A dependency still joins its issues if these are kept under their ids in their repositories. -/
theorem Joins.keep {t' : Table StoredIssue} (h : Joins t d)
    (kept : ∀ r ∈ t.rows, r.id = d.issueId ∨ r.id = d.dependsOnId →
      ∃ r' ∈ t'.rows, r'.id = r.id ∧ r'.repoId = r.repoId) : Joins t' d := by
  obtain ⟨a, ha, b, hb, hd, hd', hrepo⟩ := h
  obtain ⟨a', ha', haid, harepo⟩ := kept a ha (.inl hd)
  obtain ⟨b', hb', hbid, hbrepo⟩ := kept b hb (.inr hd')
  exact ⟨a', ha', b', hb', haid.trans hd, hbid.trans hd', by rw [harepo, hbrepo, hrepo]⟩

theorem Joins.insert {build : Int → StoredIssue} (h : Joins t d) : Joins (t.insert build) d :=
  h.keep fun r hr _ => ⟨r, Table.mem_insert.2 (.inl hr), rfl, rfl⟩

theorem Joins.modify {p : StoredIssue → Bool} {f : StoredIssue → StoredIssue} (h : Joins t d)
    (hf : ∀ r, SameIssue r (f r)) : Joins (t.modify p f) d := by
  refine h.keep fun r hr _ => ⟨_, Table.mem_modify.2 ⟨r, hr, rfl⟩, ?_⟩
  split
  · exact ⟨(hf r).id, (hf r).repoId⟩
  · exact ⟨rfl, rfl⟩

/-- A dependency that is left when issues go still joins its own. -/
theorem Joins.of_mem_dropIssues {p : StoredIssue → Bool} (h : Joins s.issues d)
    (hd : d ∈ (s.dropIssues p).dependencies.rows) : Joins (s.dropIssues p).issues d := by
  obtain ⟨-, left⟩ := mem_dropIssues.1 hd
  refine h.keep fun r hr hends => ⟨r, Table.mem_remove.2 ⟨hr, ?_⟩, rfl, rfl⟩
  by_contra hp
  obtain ⟨hissue, hdepends⟩ := left r hr (Bool.of_not_eq_false hp)
  rcases hends with h | h
  · exact hissue h
  · exact hdepends h

end Joins

/-- A cascade from issues keeps rows related. -/
theorem Related.dropIssues (h : s.Related) (p : StoredIssue → Bool) : (s.dropIssues p).Related where
  issues := Table.forall_remove h.issues
  mergeRequests := h.mergeRequests
  names := h.names
  distinct := Table.forall_remove h.distinct
  joined d hd := (h.joined d (mem_dropIssues.1 hd).1).of_mem_dropIssues hd
  pairs := h.pairs.filter _

theorem Related.removeDependencies (h : s.Related) (p : StoredDependency → Bool) :
    Related { s with dependencies := s.dependencies.remove p } :=
  { h with
    distinct := Table.forall_remove h.distinct
    joined := Table.forall_remove h.joined
    pairs := h.pairs.filter _ }

/-- A repository that is referred to from outside of what goes with the repositories that go is
one that stays. -/
theorem repository_left {p : Repository → Bool} {id : Int}
    (h : ∃ r ∈ s.repos.rows, r.id = id) (left : (s.repos.any fun r => p r && r.id == id) = false) :
    ∃ r ∈ (s.repos.remove p).rows, r.id = id := by
  obtain ⟨r, hr, hid⟩ := h
  refine ⟨r, Table.mem_remove.2 ⟨hr, ?_⟩, hid⟩
  have hp := List.any_eq_false.1 left r hr
  by_contra hpr
  exact hp (by rw [Bool.of_not_eq_false hpr, beq_iff_eq.2 hid]; rfl)

theorem Related.dropRepositories (h : s.Related) (p : Repository → Bool) :
    (s.dropRepositories p).Related where
  issues i hi := by
    obtain ⟨hi, left⟩ := Table.mem_remove.1 hi
    exact repository_left (h.issues i hi) left
  mergeRequests m hm := by
    obtain ⟨hm, left⟩ := Table.mem_remove.1 hm
    exact repository_left (h.mergeRequests m hm) left
  names := h.names.filter _
  distinct := (h.dropIssues _).distinct
  joined := (h.dropIssues _).joined
  pairs := (h.dropIssues _).pairs

end Store

/-! ## Effects -/

variable {s s' : Store} {now : Int}

theorem TicketEffect.related {repoId : Int} (h : TicketEffect now repoId s s') (hs : s.Related) :
    s'.Related := by
  cases h with
  | nothing => exact hs
  | issueAdded there =>
    exact { hs with
      issues := Table.forall_insert hs.issues (Store.hasRepository_iff.1 there)
      joined := fun d hd => (hs.joined d hd).insert }
  | @issueChanged id c _ _ =>
    refine { hs with
      issues := Table.forall_modify hs.issues fun r _ _ hr => ?_
      joined := fun d hd => (hs.joined d hd).modify fun r => c.sameIssue r }
    rw [(c.sameIssue r).repoId]
    exact hr
  | issueRemoved _ => exact (hs.dropIssues _).removeDependencies _
  | requestAdded there =>
    exact { hs with
      mergeRequests := Table.forall_insert hs.mergeRequests (Store.hasRepository_iff.1 there) }
  | requestChanged _ _ =>
    refine { hs with mergeRequests := Table.forall_modify hs.mergeRequests fun r _ hat hr => ?_ }
    rw [(Change.sameRequest (Bool.and_eq_true_iff.1 hat).2).repoId]
    exact hr
  | requestMerged _ =>
    exact { hs with mergeRequests := Table.forall_modify hs.mergeRequests fun _ _ _ hr => hr }
  | requestRemoved => exact { hs with mergeRequests := Table.forall_remove hs.mergeRequests }
  | dependencyAdded hne new there there' =>
    obtain ⟨a, ha, harepo, haid⟩ := there
    obtain ⟨b, hb, hbrepo, hbid⟩ := there'
    refine { hs with
      distinct := Table.forall_insert hs.distinct hne
      joined := Table.forall_insert hs.joined
        ⟨a, ha, b, hb, haid, hbid, harepo.trans hbrepo.symm⟩
      pairs := ?_ }
    refine List.pairwise_append.2 ⟨hs.pairs, List.pairwise_singleton _ _, fun d hd e he => ?_⟩
    rw [List.mem_singleton.1 he]
    have hnew := List.any_eq_false.1 new d hd
    simpa [Store.isEdge] using hnew
  | dependencyRemoved _ _ => exact hs.removeDependencies _

theorem Effect.related (h : Effect now s s') (hs : s.WellFormed) (hr : s.Related) :
    s'.Related := by
  cases h with
  | registered hk hu hn =>
    have later {id : Int} {build : Int → Repository} (h : ∃ r ∈ s.repos.rows, r.id = id) :
        ∃ r ∈ (s.repos.insert build).rows, r.id = id := by
      obtain ⟨r, hr, hid⟩ := h
      exact ⟨r, Table.mem_insert.2 (.inl hr), hid⟩
    exact { hr with
      issues := fun i hi => later (hr.issues i hi)
      mergeRequests := fun m hm => later (hr.mergeRequests m hm)
      names := ((Effect.registered hk hu hn).wellFormed hs).names }
  | forgotten key => exact hr.dropRepositories _
  | onTickets effect => exact effect.related hr

namespace World

variable {τ : Type} [TimeScale τ] {directory : Option String} {w : World τ}

/-- **Rows refer to what is there**, in every world that is reached from the empty store by any
calls in any interleaving. -/
theorem references_hold (h : w.Reachable directory) : w.store.Related :=
  h.store_induction .empty fun _ _ _ hs hr he => he.related hs hr

/-- A schedule in which two repositories get issues, some of which depend on others, and then an
issue and a repository are removed. -/
def cascades : List (Move Binary64) :=
  [.call (.registerRepository "one" "/one"), .serve 0 50,
    .call (.registerRepository "two" "/two"), .serve 1 50,
    .call (.createIssue "one" (some "ann") "First" (some "")), .serve 2 50,
    .call (.createIssue "one" (some "ann") "Second" (some "")), .serve 3 50,
    .call (.createIssue "one" (some "ann") "Third" (some "")), .serve 4 50,
    .call (.createIssue "two" (some "ann") "Fourth" (some "")), .serve 5 50,
    .call (.createIssue "two" (some "ann") "Fifth" (some "")), .serve 6 50,
    .call (.createMergeRequest "two" (some "ann") "Add it" "feature" "main" (some "")),
    .serve 7 50,
    .call (.addDependency "one" 1 2), .serve 8 50, .call (.addDependency "one" 2 1), .serve 9 50,
    .call (.addDependency "one" 2 3), .serve 10 50, .call (.addDependency "two" 4 5),
    .serve 11 50, .call (.addDependency "one" 1 4), .serve 12 50,
    .call (.deleteIssue "one" 3), .serve 13 50, .call (.removeRepository "two"), .serve 14 50]

/-- The world after it. -/
def cascadesWorld : World Binary64 :=
  (fresh .empty).replay cascades

/-- The law at a world in which two dependencies of four are left, and none across repositories was
added. -/
theorem references_hold_of_cascades : cascadesWorld.Reachable none ∧
    cascadesWorld.store.dependencies.lastId = 4 ∧
    (cascadesWorld.store.dependencies.rows.map fun d => (d.issueId, d.dependsOnId)) =
      [(1, 2), (2, 1)] ∧
    (cascadesWorld.store.issues.rows.map fun i => (i.id, i.repoId)) = [(1, 1), (2, 1)] ∧
    cascadesWorld.store.Related := by
  have reached : cascadesWorld.Reachable none := replay_reachable cascades
  exact ⟨reached, by decide +kernel, by decide +kernel, by decide +kernel,
    references_hold reached⟩

end World

end Forge
