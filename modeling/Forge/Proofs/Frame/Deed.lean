import Forge.Proofs.Lifecycle.Swap
import Forge.Proofs.Scope.Recorded
import Forge.Proofs.Store.Related

/-!
# What an operation writes

Of the transactions of an operation at most one writes. `Operation.Does` says for every operation
which rows that transaction adds, replaces or removes, and that it touches no others; operations
that only ask have no such transaction. `Deed.isolated` derives from it that the rows of all other
repositories stay what they are, in every table.
-/

namespace Forge

open Transaction Ticket

variable {τ : Type} {s s' : Store} {now repoId id : Int} {r : Repository}

/-! ## Rows of one repository -/

/-- Whether an issue stands at an end of a dependency. -/
def StoredDependency.touches (id : Int) (d : StoredDependency) : Bool :=
  d.issueId == id || d.dependsOnId == id

namespace Store

/-- The ticket of a repository and an id is replaced by what `f` makes of it. -/
def Rewrites (ρ : Type) {ε : Type} [Ticket ρ ε] (repoId id : Int) (f : ρ → ρ)
    (s s' : Store) : Prop :=
  ∃ row t, RowAt repoId id row s ∧ Table.Replaces row (f row) (table s) t ∧ s' = setTable t s

/-- The store without an issue and the dependencies at it. -/
def withoutIssue (repoId id : Int) (s : Store) : Store :=
  { s with
    issues := s.issues.remove (isAt repoId id)
    dependencies := s.dependencies.remove (StoredDependency.touches id) }

/-- Both ends of a dependency are issues of the repository. -/
def Within (r : Repository) (s : Store) (d : StoredDependency) : Prop :=
  (∃ i : StoredIssue, RowAt r.id d.issueId i s) ∧ ∃ i : StoredIssue, RowAt r.id d.dependsOnId i s

/-- Whether an issue of the repository stands at an end of a dependency. -/
def reaches (r : Repository) (s : Store) (d : StoredDependency) : Bool :=
  s.issues.any fun i => i.repoId == r.id && d.touches i.id

/-- Every row that is not of the repository is the same in both stores: the other repositories,
their tickets, and the dependencies at none of the repository's issues. -/
structure Isolated (r : Repository) (s s' : Store) : Prop where
  repos : s'.repos.rows.filter (fun r' => r'.id != r.id) =
    s.repos.rows.filter fun r' => r'.id != r.id
  issues : s'.issues.rows.filter (fun i => i.repoId != r.id) =
    s.issues.rows.filter fun i => i.repoId != r.id
  mergeRequests : s'.mergeRequests.rows.filter (fun m => m.repoId != r.id) =
    s.mergeRequests.rows.filter fun m => m.repoId != r.id
  dependencies : s'.dependencies.rows.filter (fun d => !s.reaches r d) =
    s.dependencies.rows.filter fun d => !s.reaches r d

theorem Isolated.refl (r : Repository) (s : Store) : s.Isolated r s :=
  ⟨rfl, rfl, rfl, rfl⟩

end Store

/-! ## What the writing transaction of an operation does -/

namespace Operation

/-- The text by which an operation names a repository. -/
def text? : Operation τ → Option String
  | .registerRepository name _ => some name
  | .removeRepository name => some name
  | op => op.scope?

/-- Whether the operation adds a repository. -/
def registers : Operation τ → Bool
  | .registerRepository .. => true
  | _ => false

/-- Whether an operation has a transaction that writes. -/
def writes : Operation τ → Bool
  | .repository _ | .repositories | .issue .. | .issues _ | .issuesIn .. | .hasDependency ..
  | .dependenciesOf .. | .dependentsOf .. | .mergeRequest .. | .mergeRequests _
  | .mergeRequestsIn .. => false
  | _ => true

/-- What the writing transaction of an operation on the repository `r` makes of the store. -/
def Does (now : Int) (r : Repository) (s s' : Store) : Operation τ → Prop
  | .registerRepository .. => (∀ r' ∈ s.repos.rows, r'.name ≠ r.name) ∧ r.id = s.repos.nextId ∧
    s' = { s with repos := s.repos.insert fun _ => r }
  | .removeRepository _ => s' = s.without r ∧
    ∀ d ∈ s.dependencies.rows, d ∈ s'.dependencies.rows ∨ s.Within r d
  | .createIssue .. => ∃ i : StoredIssue, i.id = s.issues.nextId ∧ i.repoId = r.id ∧
    s' = { s with issues := s.issues.insert fun _ => i }
  | .updateIssue _ id .. => ∃ title description,
    s.Rewrites StoredIssue r.id id (fun i => { i with title, description, updatedAt := now }) s'
  | .deleteIssue _ id => (∃ i : StoredIssue, RowAt r.id id i s) ∧ s' = s.withoutIssue r.id id
  | .closeIssue _ id actor => ∃ closer, cleanActor actor = .ok closer ∧
    s.Rewrites StoredIssue r.id id (Transition.closing.onIssue now (some closer)) s'
  | .reopenIssue _ id =>
    s.Rewrites StoredIssue r.id id (Transition.reopening.onIssue now none) s'
  | .addDependency _ a b => (∃ i : StoredIssue, RowAt r.id a i s) ∧
    (∃ i : StoredIssue, RowAt r.id b i s) ∧ a ≠ b ∧
    s.dependencies.any (Store.isEdge a b) = false ∧
    s' = { s with dependencies := s.dependencies.insert fun id => ⟨⟨a, b, now⟩, id⟩ }
  | .removeDependency _ a b => (∃ i : StoredIssue, RowAt r.id a i s) ∧
    s' = { s with dependencies := s.dependencies.remove (Store.isEdge a b) }
  | .createMergeRequest .. => ∃ m : StoredMergeRequest, m.id = s.mergeRequests.nextId ∧
    m.repoId = r.id ∧ s' = { s with mergeRequests := s.mergeRequests.insert fun _ => m }
  | .updateMergeRequest _ id .. => ∃ title description,
    s.Rewrites StoredMergeRequest r.id id
      (fun m => { m with title, description, updatedAt := now }) s'
  | .deleteMergeRequest _ id => (∃ m : StoredMergeRequest, RowAt r.id id m s) ∧
    s' = { s with mergeRequests := s.mergeRequests.remove (isAt r.id id) }
  | .closeMergeRequest _ id actor => ∃ closer, cleanActor actor = .ok closer ∧
    s.Rewrites StoredMergeRequest r.id id
      (Transition.closing.onMergeRequest now (some closer)) s'
  | .reopenMergeRequest _ id =>
    s.Rewrites StoredMergeRequest r.id id (Transition.reopening.onMergeRequest now none) s'
  | .merge _ id actor _ => ∃ merger, cleanActor actor = .ok merger ∧
    s.Rewrites StoredMergeRequest r.id id
      (Transition.merging.onMergeRequest now (some merger)) s'
  | _ => False

/-- The operation does this to the repository that its text names, which is in the store unless it
is the one that is added. -/
structure Deed (now : Int) (r : Repository) (s s' : Store) (op : Operation τ) : Prop where
  named : ∃ text, op.text? = some text ∧ Repository.cleanName text = .ok r.name
  known : op.registers = false → r ∈ s.repos.rows
  does : op.Does now r s s'

/-- Only operations that write do anything. -/
theorem Does.writes {op : Operation τ} (h : op.Does now r s s') : op.writes = true := by
  cases op <;> first | rfl | exact h.elim

end Operation

/-! ## Isolation -/

namespace Table

variable {ρ : Type} {t t' : Table ρ} {row row' : ρ} {q : ρ → Bool}

/-- A replacement is not seen among rows that neither the old nor the new row belongs to. -/
theorem Replaces.filter (h : Replaces row row' t t') (hrow : q row = false)
    (hrow' : q row' = false) : t'.rows.filter q = t.rows.filter q := by
  obtain ⟨before, after, hrows, rfl⟩ := h
  rw [hrows, List.filter_append, List.filter_append, List.filter_cons, List.filter_cons, hrow,
    hrow']
  rfl

end Table

theorem not_bne_of_eq {a b : Int} (h : a = b) : (a != b) = false := by
  rw [h]
  exact bne_self_eq_false b

namespace Store

theorem not_reaches_iff {d : StoredDependency} :
    (!s.reaches r d) = true ↔
      ∀ i ∈ s.issues.rows, i.repoId = r.id → d.issueId ≠ i.id ∧ d.dependsOnId ≠ i.id := by
  simp only [reaches, Table.any, Bool.not_eq_true', List.any_eq_false, Bool.and_eq_true,
    beq_iff_eq, StoredDependency.touches, Bool.or_eq_true, not_and, not_or]

/-- A dependency at an issue of the repository is none of another. -/
theorem reaches_of_row {d : StoredDependency} {i : StoredIssue} (hi : RowAt r.id id i s)
    (hd : d.touches id = true) : (!s.reaches r d) = false := by
  have reached : s.reaches r d = true := by
    refine List.any_eq_true.2 ⟨i, hi.mem, ?_⟩
    rw [show i.repoId = r.id from hi.repo, show i.id = id from hi.ident, hd, beq_self_eq_true]
    rfl
  rw [reached]
  rfl

/-- To leave out a repository with its tickets and their edges touches nobody else. -/
theorem Isolated.without (r : Repository) (s : Store) : s.Isolated r (s.without r) where
  repos := Table.filter_remove fun r' hr' => by simpa using hr'
  issues := Table.filter_remove fun i hi => by simpa using hi
  mergeRequests := Table.filter_remove fun m hm => by simpa using hm
  dependencies := by
    refine Table.filter_remove fun d hd => ?_
    have others := not_reaches_iff.1 hd
    rw [Bool.or_eq_false_iff]
    constructor
    · refine List.any_eq_false.2 fun i hi h => ?_
      obtain ⟨hrepo, hid⟩ := Bool.and_eq_true_iff.1 h
      exact (others i hi (eq_of_beq hrepo)).1 (eq_of_beq hid).symm
    · refine List.any_eq_false.2 fun i hi h => ?_
      obtain ⟨hrepo, hid⟩ := Bool.and_eq_true_iff.1 h
      exact (others i hi (eq_of_beq hrepo)).2 (eq_of_beq hid).symm

/-- An issue that is rewritten in its repository touches no other one. -/
theorem Rewrites.isolated_issue {f : StoredIssue → StoredIssue}
    (h : s.Rewrites StoredIssue r.id id f s') (hf : ∀ i, (f i).repoId = i.repoId) :
    s.Isolated r s' := by
  obtain ⟨row, t, hrow, hreplaces, rfl⟩ := h
  have repo : row.repoId = r.id := hrow.repo
  refine { Isolated.refl r s with issues := hreplaces.filter (not_bne_of_eq repo) ?_ }
  exact not_bne_of_eq ((hf row).trans repo)

theorem Rewrites.isolated_mergeRequest {f : StoredMergeRequest → StoredMergeRequest}
    (h : s.Rewrites StoredMergeRequest r.id id f s') (hf : ∀ m, (f m).repoId = m.repoId) :
    s.Isolated r s' := by
  obtain ⟨row, t, hrow, hreplaces, rfl⟩ := h
  have repo : row.repoId = r.id := hrow.repo
  refine { Isolated.refl r s with mergeRequests := hreplaces.filter (not_bne_of_eq repo) ?_ }
  exact not_bne_of_eq ((hf row).trans repo)

end Store

/-- What is not of the repository is left alone by whatever is done to it. -/
theorem Operation.Does.isolated {op : Operation τ} (h : op.Does now r s s') : s.Isolated r s' := by
  cases op with
  | registerRepository name path =>
    obtain ⟨-, -, rfl⟩ := h
    exact { Store.Isolated.refl r s with repos := Table.filter_insert (bne_self_eq_false r.id) }
  | removeRepository name =>
    obtain ⟨rfl, -⟩ := h
    exact .without r s
  | createIssue =>
    obtain ⟨i, -, repo, rfl⟩ := h
    exact { Store.Isolated.refl r s with issues := Table.filter_insert (not_bne_of_eq repo) }
  | updateIssue =>
    obtain ⟨title, description, h⟩ := h
    exact h.isolated_issue fun _ => rfl
  | deleteIssue repo id =>
    obtain ⟨⟨i, hi⟩, rfl⟩ := h
    refine { Store.Isolated.refl r s with
      issues := Table.filter_remove fun i' hi' => not_isAt_of_ne hi'
      dependencies := Table.filter_remove fun d hd => ?_ }
    by_contra touched
    rw [Store.reaches_of_row hi (Bool.of_not_eq_false touched)] at hd
    cases hd
  | closeIssue =>
    obtain ⟨closer, -, h⟩ := h
    exact h.isolated_issue fun _ => rfl
  | reopenIssue => exact Store.Rewrites.isolated_issue h fun _ => rfl
  | addDependency repo a b =>
    obtain ⟨⟨i, hi⟩, -, -, -, rfl⟩ := h
    refine { Store.Isolated.refl r s with
      dependencies := Table.filter_insert (Store.reaches_of_row hi ?_) }
    simp [StoredDependency.touches]
  | removeDependency repo a b =>
    obtain ⟨⟨i, hi⟩, rfl⟩ := h
    refine { Store.Isolated.refl r s with dependencies := Table.filter_remove fun d hd => ?_ }
    by_contra removed
    have touched : d.touches a = true :=
      Bool.or_eq_true_iff.2 (.inl (Bool.and_eq_true_iff.1 (Bool.of_not_eq_false removed)).1)
    rw [Store.reaches_of_row hi touched] at hd
    cases hd
  | createMergeRequest =>
    obtain ⟨m, -, repo, rfl⟩ := h
    exact { Store.Isolated.refl r s with
      mergeRequests := Table.filter_insert (not_bne_of_eq repo) }
  | updateMergeRequest =>
    obtain ⟨title, description, h⟩ := h
    exact h.isolated_mergeRequest fun _ => rfl
  | deleteMergeRequest repo id =>
    obtain ⟨-, rfl⟩ := h
    exact { Store.Isolated.refl r s with
      mergeRequests := Table.filter_remove fun m hm => not_isAt_of_ne hm }
  | closeMergeRequest =>
    obtain ⟨closer, -, h⟩ := h
    exact h.isolated_mergeRequest fun _ => rfl
  | reopenMergeRequest => exact Store.Rewrites.isolated_mergeRequest h fun _ => rfl
  | merge =>
    obtain ⟨merger, -, h⟩ := h
    exact h.isolated_mergeRequest fun _ => rfl
  | _ => exact h.elim

/-! ## The statements of the operations -/

namespace Store

section Rewrites

variable {ρ ε : Type} [Ticket ρ ε] [LawfulTicket ρ] {p : ρ → Bool} {f : ρ → ρ}

/-- A change of the rows that satisfy `p` changes one row if only the ticket of a repository and an
id can satisfy it. -/
theorem rewrites_modify (hs : s.WellFormed) (there : (table s).any p = true)
    (hp : ∀ row, p row = true → isAt repoId id row = true) :
    s.Rewrites ρ repoId id f (setTable ((table s).modify p f) s) := by
  obtain ⟨row, hrow, hprow⟩ := List.any_eq_true.1 there
  obtain ⟨repo, ident⟩ := isAt_iff.1 (hp row hprow)
  refine ⟨row, _, ⟨hrow, repo, ident⟩, ?_, rfl⟩
  refine (LawfulTicket.numbered hs).modify_replaces hrow hprow fun b _ hb => ?_
  exact (isAt_iff.1 (hp b hb)).2.trans ident.symm

omit [LawfulTicket ρ] in
theorem Rewrites.congr {g : ρ → ρ} (h : s.Rewrites ρ repoId id f s') (hfg : ∀ row, f row = g row) :
    s.Rewrites ρ repoId id g s' := by
  obtain ⟨row, t, hrow, hreplaces, rfl⟩ := h
  exact ⟨row, t, hrow, hfg row ▸ hreplaces, rfl⟩

end Rewrites

theorem row_of_requireIssue (h : ∃ i ∈ s.issues.rows, i.repoId = repoId ∧ i.id = id) :
    ∃ i : StoredIssue, RowAt repoId id i s := by
  obtain ⟨i, hi, repo, ident⟩ := h
  exact ⟨i, hi, repo, ident⟩

/-- An issue that is created is one row more, with the next number. -/
theorem does_createIssue {author : Option String} {title : String} {description : Option String}
    (h : (createIssue now repoId author title description).Returns s id s') :
    ∃ i : StoredIssue, i.id = s.issues.nextId ∧ i.repoId = repoId ∧
      s' = { s with issues := s.issues.insert fun _ => i } := by
  obtain ⟨-, -, title, description, author, -, -, rfl⟩ := returns_createIssue h
  exact ⟨_, rfl, rfl, rfl⟩

theorem does_createMergeRequest {author : Option String} {title : String}
    {description source target : Option String}
    (h : (createMergeRequest now repoId author title description source target).Returns s id s') :
    ∃ m : StoredMergeRequest, m.id = s.mergeRequests.nextId ∧ m.repoId = repoId ∧
      s' = { s with mergeRequests := s.mergeRequests.insert fun _ => m } := by
  obtain ⟨-, -, title, description, source, target, author, -, -, -, -, rfl⟩ :=
    returns_createMergeRequest h
  exact ⟨_, rfl, rfl, rfl⟩

/-- What is updated are the title, the description and the time, in one row. -/
theorem does_updateIssue (hs : s.WellFormed) {title : String} {description : Option String}
    {u : Unit} (h : (Ticket.update StoredIssue now repoId id title description).Returns s u s') :
    ∃ title description, s.Rewrites StoredIssue repoId id
      (fun i => { i with title, description, updatedAt := now }) s' := by
  obtain ⟨cleaned, text, -, there, rfl⟩ := description_of_update (fun _ _ => rfl) h
  exact ⟨cleaned, text, rewrites_modify hs there fun _ hrow => hrow⟩

theorem does_updateMergeRequest (hs : s.WellFormed) {title : String}
    {description : Option String} {u : Unit}
    (h : (Ticket.update StoredMergeRequest now repoId id title description).Returns s u s') :
    ∃ title description, s.Rewrites StoredMergeRequest repoId id
      (fun m => { m with title, description, updatedAt := now }) s' := by
  obtain ⟨cleaned, text, -, there, rfl⟩ := description_of_update (fun _ _ => rfl) h
  exact ⟨cleaned, text, rewrites_modify hs there fun _ hrow => hrow⟩

/-- The cascade of a removed issue takes no dependency that is not removed once more by hand. -/
theorem does_deleteIssue {u : Unit} (h : (deleteIssue repoId id).Returns s u s') :
    (∃ i : StoredIssue, RowAt repoId id i s) ∧ s' = s.withoutIssue repoId id := by
  simp only [deleteIssue, removeDependencies, returns_bind, returns_useTable, returns_useParent,
    returns_change] at h
  obtain ⟨_, _, hd, _, _, ⟨-, rfl⟩, _, _, ⟨-, rfl⟩, rfl⟩ := h
  obtain ⟨there, rfl⟩ := Ticket.returns_delete hd
  obtain ⟨i, hi, hat⟩ := List.any_eq_true.1 there
  refine ⟨⟨i, hi, (isAt_iff.1 hat).1, (isAt_iff.1 hat).2⟩, ?_⟩
  -- A dependency goes with the issue only if the issue stands at one of its ends.
  have cascade (d : StoredDependency) (hd : (!StoredDependency.touches id d) = true) (end' : Int)
      (hend : end' = d.issueId ∨ end' = d.dependsOnId) :
      (s.issues.any fun i => isAt repoId id i && i.id == end') = false := by
    refine List.any_eq_false.2 fun j _ hj => ?_
    obtain ⟨hat, hid⟩ := Bool.and_eq_true_iff.1 hj
    have ident : id = end' := (isAt_iff.1 hat).2.symm.trans (eq_of_beq hid)
    subst ident
    rcases hend with rfl | rfl <;> simp [StoredDependency.touches] at hd
  have once : (s.dropIssues (isAt repoId id)).dependencies.remove (StoredDependency.touches id) =
      s.dependencies.remove (StoredDependency.touches id) := by
    refine congrArg (Table.mk · _) (Table.filter_remove fun d hd => ?_)
    exact Bool.or_eq_false_iff.2 ⟨cascade d hd _ (.inl rfl), cascade d hd _ (.inr rfl)⟩
  exact congrArg (fun t => { s.dropIssues (isAt repoId id) with dependencies := t }) once

theorem does_deleteMergeRequest {u : Unit}
    (h : (Ticket.delete StoredMergeRequest repoId id).Returns s u s') :
    (∃ m : StoredMergeRequest, RowAt repoId id m s) ∧
      s' = { s with mergeRequests := s.mergeRequests.remove (isAt repoId id) } := by
  obtain ⟨there, rfl⟩ := Ticket.returns_delete h
  obtain ⟨m, hm, hat⟩ := List.any_eq_true.1 there
  exact ⟨⟨m, hm, (isAt_iff.1 hat).1, (isAt_iff.1 hat).2⟩, rfl⟩

/-- Both ends of a dependency that goes with a repository are issues of it. -/
theorem within_of_reaches (hs : s.WellFormed) (hr : s.Related) {d : StoredDependency}
    (hd : d ∈ s.dependencies.rows) (h : s.reaches r d = true) : s.Within r d := by
  obtain ⟨i, hi, h⟩ := List.any_eq_true.1 h
  obtain ⟨hrepo, touched⟩ := Bool.and_eq_true_iff.1 h
  obtain ⟨a, ha, b, hb, hissue, hdepends, same⟩ := hr.joined d hd
  have repo : a.repoId = r.id := by
    rcases Bool.or_eq_true_iff.1 touched with h | h
    · rw [hs.issues.eq_of_id_eq ha hi (hissue.trans (eq_of_beq h))]
      exact eq_of_beq hrepo
    · rw [same, hs.issues.eq_of_id_eq hb hi (hdepends.trans (eq_of_beq h))]
      exact eq_of_beq hrepo
  exact ⟨⟨a, ha, repo, hissue⟩, ⟨b, hb, same.symm.trans repo, hdepends⟩⟩

/-- What is deleted with a repository is all that refers to it, down to the edges. -/
theorem does_deleteRepository (hs : s.WellFormed) (hr : s.Related) {name : String} {u : Unit}
    (h : (deleteRepository name).Returns s u s') :
    ∃ r ∈ s.repos.rows, Repository.cleanName name = .ok r.name ∧ s' = s.without r ∧
      ∀ d ∈ s.dependencies.rows, d ∈ s'.dependencies.rows ∨ s.Within r d := by
  obtain ⟨_, hk, -, ⟨r, hmem, rfl⟩, rfl⟩ := returns_deleteRepository.1 h
  rw [hs.dropRepositories_eq hmem]
  refine ⟨r, hmem, hk, rfl, fun d hd => ?_⟩
  cases hreach : s.reaches r d with
  | true => exact .inr (within_of_reaches hs hr hd hreach)
  | false =>
    have kept : d ∈ s.dependencies.rows.filter fun d => !s.reaches r d :=
      List.mem_filter.2 ⟨hd, by rw [hreach]; rfl⟩
    rw [← (Isolated.without r s).dependencies] at kept
    exact .inl (List.mem_filter.1 kept).1

/-! ## Transitions -/

section Transitions

variable {t : Transition} {actor : Option String}

/-- A transition that succeeds rewrites one row, by what it sets. -/
theorem rewrites_of_apply {ρ ε : Type} [Ticket ρ ε] [LawfulTicket ρ] {e : ε} (hs : s.WellFormed)
    (ht : t ∈ Transition.ofKind (kind ρ))
    (h : (Lifecycle.apply ρ now repoId id t.name actor).Returns s e s') :
    t.Admits actor ∧ s.Rewrites ρ repoId id (setAll (t.assignments actor now)) s' := by
  unfold Lifecycle.apply at h
  rw [Transition.named?_name ht] at h
  obtain ⟨ha, there, rfl, -⟩ := Lifecycle.returns_follow h
  refine ⟨.of_hasActor ha, rewrites_modify hs there fun row hrow => ?_⟩
  exact (Bool.and_eq_true_iff.1 hrow).1

theorem does_issueTransition {e : Issue} (hs : s.WellFormed) (ht : t ∈ Transition.ofKind .issue)
    (h : (Lifecycle.apply StoredIssue now repoId id t.name actor).Returns s e s') :
    s.Rewrites StoredIssue repoId id (t.onIssue now actor) s' := by
  obtain ⟨ha, hrewrites⟩ := rewrites_of_apply hs ht h
  exact hrewrites.congr fun i => Transition.setAll_issue ht actor now i ha

theorem does_requestTransition {e : MergeRequest} (hs : s.WellFormed)
    (ht : t ∈ Transition.ofKind .mergeRequest)
    (h : (Lifecycle.apply StoredMergeRequest now repoId id t.name actor).Returns s e s') :
    s.Rewrites StoredMergeRequest repoId id (t.onMergeRequest now actor) s' := by
  obtain ⟨ha, hrewrites⟩ := rewrites_of_apply hs ht h
  exact hrewrites.congr fun m => Transition.setAll_mergeRequest ht actor now m ha

end Transitions

end Store

end Forge
