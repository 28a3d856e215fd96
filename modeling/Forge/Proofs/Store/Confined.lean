import Forge.Proofs.Store.Lifecycle
import Forge.Proofs.Store.WellFormed

/-!
# What concerns one repository

An effect on the tickets of a repository is confined to that repository: the tickets of the others
and the dependencies between these stay as they are. And what an operation on the tickets of a
repository returns is read from rows of that repository.
-/

namespace Forge

open Transaction

variable {s s' : Store} {now repoId : Int}

/-! ## Effects -/

namespace Table

variable {ρ : Type} {t : Table ρ} {p q : ρ → Bool} {f : ρ → ρ} {build : Int → ρ}

/-- A new row is not among those of others. -/
theorem filter_insert (h : q (build t.nextId) = false) :
    (t.insert build).rows.filter q = t.rows.filter q := by
  simp [insert, h]

/-- Rows of others that a change does not meet are as they were. -/
theorem filter_modify (h : ∀ r, q r = true → p r = false)
    (hf : ∀ r, p r = true → q (f r) = q r) :
    (t.modify p f).rows.filter q = t.rows.filter q := by
  simp only [modify]
  induction t.rows with
  | nil => rfl
  | cons r rows ih =>
    rw [List.map_cons, List.filter_cons, List.filter_cons, ih]
    cases hp : p r with
    | false => rw [if_neg Bool.false_ne_true]
    | true =>
      have hq : q r = false := by
        refine Bool.eq_false_iff.2 fun hq => ?_
        rw [h r hq] at hp
        cases hp
      rw [if_pos rfl, hf r hp, hq]
      rfl

theorem filter_remove (h : ∀ r, q r = true → p r = false) :
    (t.remove p).rows.filter q = t.rows.filter q := by
  simp only [remove, List.filter_filter]
  refine List.filter_congr fun r _ => ?_
  cases hq : q r with
  | false => rfl
  | true => simp [h r hq]

end Table

namespace Store

/-- The dependencies that are left when issues go are those at none of them. -/
theorem mem_dropIssues {p : StoredIssue → Bool} {d : StoredDependency} :
    d ∈ (s.dropIssues p).dependencies.rows ↔ d ∈ s.dependencies.rows ∧
      ∀ r ∈ s.issues.rows, p r = true → r.id ≠ d.issueId ∧ r.id ≠ d.dependsOnId := by
  simp only [dropIssues, Table.mem_remove, Table.any, Bool.or_eq_false_iff, List.any_eq_false,
    Bool.and_eq_true, beq_iff_eq, not_and]
  refine and_congr_right fun _ => ?_
  exact ⟨fun h r hr hp => ⟨h.1 r hr hp, h.2 r hr hp⟩,
    fun h => ⟨fun r hr hp => (h r hr hp).1, fun r hr hp => (h r hr hp).2⟩⟩

/-- Nothing has changed but tickets of a repository and the dependencies at them. -/
structure ConfinedTo (repoId : Int) (s s' : Store) : Prop where
  repos : s'.repos = s.repos
  issues : s'.issues.rows.filter (fun r => r.repoId != repoId) =
    s.issues.rows.filter fun r => r.repoId != repoId
  mergeRequests : s'.mergeRequests.rows.filter (fun r => r.repoId != repoId) =
    s.mergeRequests.rows.filter fun r => r.repoId != repoId
  dependencies : ∀ d : StoredDependency,
    (∀ r ∈ s.issues.rows, r.repoId = repoId → r.id ≠ d.issueId ∧ r.id ≠ d.dependsOnId) →
      (d ∈ s'.dependencies.rows ↔ d ∈ s.dependencies.rows)

theorem ConfinedTo.refl (repoId : Int) (s : Store) : s.ConfinedTo repoId s :=
  ⟨rfl, rfl, rfl, fun _ _ => Iff.rfl⟩

end Store

/-- What is a ticket of a repository is none of another one. -/
theorem not_isAt_of_ne {ρ ε : Type} [Ticket ρ ε] {id : Int} {r : ρ}
    (h : (Ticket.repoId r != repoId) = true) : Ticket.isAt repoId id r = false := by
  rw [bne_iff_ne] at h
  simp [Ticket.isAt, h]

/-- An effect on the tickets of a repository is confined to it. -/
theorem TicketEffect.confinedTo (h : TicketEffect now repoId s s') : s.ConfinedTo repoId s' := by
  cases h with
  | nothing => exact .refl repoId s
  | issueAdded _ =>
    exact { Store.ConfinedTo.refl repoId s with issues := Table.filter_insert (by simp) }
  | @issueChanged id c _ _ =>
    refine { Store.ConfinedTo.refl repoId s with
      issues := Table.filter_modify (fun r hr => ?_) fun r _ => ?_ }
    · rw [Change.meets, not_isAt_of_ne hr, Bool.false_and]
    · cases c <;> rfl
  | @issueRemoved id there =>
    refine { Store.ConfinedTo.refl repoId s with
      issues := Table.filter_remove fun r hr => not_isAt_of_ne hr
      dependencies := fun d hd => ?_ }
    obtain ⟨r, hr, hat⟩ := List.any_eq_true.1 there
    obtain ⟨hissue, hdepends⟩ := hd r hr (Ticket.isAt_iff.1 hat).1
    obtain rfl : r.id = id := (Ticket.isAt_iff.1 hat).2
    rw [Table.mem_remove, and_iff_left (by simp [hissue.symm, hdepends.symm]),
      Store.mem_dropIssues]
    exact and_iff_left fun r' hr' hat' => hd r' hr' (Ticket.isAt_iff.1 hat').1
  | requestAdded _ =>
    exact { Store.ConfinedTo.refl repoId s with mergeRequests := Table.filter_insert (by simp) }
  | @requestChanged id c _ _ =>
    refine { Store.ConfinedTo.refl repoId s with
      mergeRequests := Table.filter_modify (fun r hr => ?_) fun r _ => ?_ }
    · rw [Change.meets, not_isAt_of_ne hr, Bool.false_and]
    · cases c <;> rfl
  | @requestMerged id actor _ =>
    refine { Store.ConfinedTo.refl repoId s with
      mergeRequests := Table.filter_modify (fun r hr => ?_) fun r _ => rfl }
    rw [StoredMergeRequest.isOpenAt, not_isAt_of_ne hr, Bool.false_and]
  | requestRemoved =>
    exact { Store.ConfinedTo.refl repoId s with
      mergeRequests := Table.filter_remove fun r hr => not_isAt_of_ne hr }
  | dependencyAdded _ _ there _ =>
    refine { Store.ConfinedTo.refl repoId s with dependencies := fun d hd => ?_ }
    obtain ⟨r, hr, hrepo, hid⟩ := there
    rw [Table.mem_insert]
    refine or_iff_left fun he => ?_
    exact (hd r hr hrepo).1 (hid.trans (congrArg (·.issueId) he).symm)
  | dependencyRemoved dependsOnId there =>
    refine { Store.ConfinedTo.refl repoId s with dependencies := fun d hd => ?_ }
    obtain ⟨r, hr, hrepo, rfl⟩ := there
    rw [Table.mem_remove]
    exact and_iff_left (by simp [Store.isEdge, (hd r hr hrepo).1.symm])

/-! ## Answers -/

namespace Ticket

section

variable (ρ : Type) {ε : Type} [Ticket ρ ε]

/-- The entity is read from a row of the repository. -/
def OfRepository (repoId : Int) (e : ε) : Prop :=
  ∃ r : ρ, Ticket.repoId r = repoId ∧ read? r = some e

variable {ρ}

/-- A ticket is of the repository that it is got from. -/
theorem ofRepository_get {id : Int} {e : ε} (h : (get ρ repoId id).Returns s e s') :
    OfRepository ρ repoId e := by
  obtain ⟨-, -, -, -, r, hr, hread⟩ := returns_get.1 h
  exact ⟨r, (isAt_iff.1 (List.find?_some hr)).1, hread⟩

/-- What is read from rows of a repository is of it. -/
theorem ofRepository_readRows {rs : List ρ} {es : List ε} (h : (readRows rs).Returns s es s')
    (hrs : ∀ r ∈ rs, Ticket.repoId r = repoId) : ∀ e ∈ es, OfRepository ρ repoId e := by
  induction rs generalizing es with
  | nil =>
    obtain ⟨rfl, -⟩ := returns_pure.1 h
    exact fun _ he => absurd he List.not_mem_nil
  | cons r rs ih =>
    simp only [readRows, returns_bind, returns_readRow, returns_pure] at h
    obtain ⟨e, _, ⟨hread, rfl⟩, es, _, hs, rfl, rfl⟩ := h
    intro e' he'
    rcases List.mem_cons.1 he' with rfl | he'
    · exact ⟨r, hrs r List.mem_cons_self, hread⟩
    · exact ih hs (fun r' hr' => hrs r' (List.mem_cons_of_mem r hr')) e' he'

/-- The rows that are listed are those that were selected, in another order. -/
theorem mem_newestFirst {rs : List ρ} {r : ρ} : r ∈ newestFirst rs ↔ r ∈ rs :=
  (List.mergeSort_perm rs _).mem_iff

theorem ofRepository_listAll {es : List ε} (h : (listAll ρ repoId).Returns s es s') :
    ∀ e ∈ es, OfRepository ρ repoId e := by
  simp only [listAll, returns_bind] at h
  obtain ⟨_, _, -, _, _, -, t, _, -, h⟩ := h
  refine ofRepository_readRows h fun r hr => ?_
  exact eq_of_beq (List.mem_filter.1 (mem_newestFirst.1 hr)).2

theorem ofRepository_listInState {text : String} {es : List ε}
    (h : (listInState ρ repoId text).Returns s es s') : ∀ e ∈ es, OfRepository ρ repoId e := by
  simp only [listInState, returns_bind] at h
  obtain ⟨_, _, -, _, _, -, t, _, -, h⟩ := h
  refine ofRepository_readRows h fun r hr => ?_
  exact eq_of_beq (Bool.and_eq_true_iff.1 (List.mem_filter.1 (mem_newestFirst.1 hr)).2).1

theorem ofRepository_apply {id : Int} {name : String} {actor : Option String} {e : ε}
    (h : (Lifecycle.apply ρ now repoId id name actor).Returns s e s') :
    OfRepository ρ repoId e := by
  unfold Lifecycle.apply at h
  split at h
  · obtain ⟨-, -, -, hg⟩ := Lifecycle.returns_follow h
    exact ofRepository_get hg
  · exact absurd h returns_fail

end

theorem OfRepository.issue {i : Issue} (h : OfRepository StoredIssue repoId i) :
    i.repoId = repoId := by
  obtain ⟨r, hr, hread⟩ := h
  obtain ⟨_, -, rfl⟩ := Option.map_eq_some_iff.1 (show r.read? = some i from hread)
  exact hr

theorem OfRepository.mergeRequest {m : MergeRequest}
    (h : OfRepository StoredMergeRequest repoId m) : m.repoId = repoId := by
  obtain ⟨r, hr, hread⟩ := h
  obtain ⟨_, -, rfl⟩ := Option.map_eq_some_iff.1 (show r.read? = some m from hread)
  exact hr

end Ticket

namespace Store

/-- Issues that dependencies lead to are looked for in the one repository. -/
theorem ofRepository_joined {p : StoredDependency → Bool} {far : StoredDependency → Int}
    {is : List Issue} {s₀ : Store}
    (h : (Ticket.readRows (Ticket.newestFirst (s₀.joined repoId p far))).Returns s is s') :
    ∀ i ∈ is, Ticket.OfRepository StoredIssue repoId i := by
  refine Ticket.ofRepository_readRows h fun r hr => ?_
  obtain ⟨d, -, hr⟩ := List.mem_flatMap.1 (Ticket.mem_newestFirst.1 hr)
  exact eq_of_beq (Bool.and_eq_true_iff.1 (List.mem_filter.1 hr).2).2

theorem ofRepository_dependenciesOf {issueId : Int} {is : List Issue}
    (h : (dependenciesOf repoId issueId).Returns s is s') :
    ∀ i ∈ is, Ticket.OfRepository StoredIssue repoId i := by
  simp only [dependenciesOf, returns_bind] at h
  obtain ⟨_, _, -, _, _, -, s₀, _, -, h⟩ := h
  exact ofRepository_joined h

theorem ofRepository_dependentsOf {issueId : Int} {is : List Issue}
    (h : (dependentsOf repoId issueId).Returns s is s') :
    ∀ i ∈ is, Ticket.OfRepository StoredIssue repoId i := by
  simp only [dependentsOf, returns_bind] at h
  obtain ⟨_, _, -, _, _, -, s₀, _, -, h⟩ := h
  exact ofRepository_joined h

end Store

end Forge
