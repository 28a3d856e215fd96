import Forge.Proofs.Store.Outcome
import Forge.Proofs.Text.Trim
import Forge.Store.MergeRequests
import Forge.Store.Issues
import Forge.Branch

/-!
# Effects

Whatever an operation does, each of its transactions leaves the store as it is or makes one of a
few changes. `TicketEffect now repoId s s'` lists those of tickets and dependencies, and
`Effect now s s'` all of them, with the facts that the operation has checked before it made the
change; every invariant of the store is shown for this list alone. The lemmas
`effect_of_…` say which effect an operation on the store has.
-/

namespace Forge

open Transaction

/-- A change of one ticket that issues and merge requests have in common. -/
inductive Change where
  | edit (title description : String)
  | close (actor : String)
  | reopen
deriving DecidableEq, Repr

namespace Change

/-- Whether a ticket in a state can be changed so. -/
def startsFrom : Change → String → Bool
  | .edit .., _ => true
  | .close _, state => state == "open"
  | .reopen, state => state == "closed"

/-- Who closes a ticket has a name, without blanks around it. -/
def Signed : Change → Prop
  | .close actor => Text.Trimmed actor
  | _ => True

/-- The issue after the change. -/
def onIssue (now : Int) (r : StoredIssue) : Change → StoredIssue
  | .edit title description => { r with title, description, updatedAt := now }
  | .close actor =>
    { r with state := "closed", closedBy := some actor, closedAt := some now, updatedAt := now }
  | .reopen => { r with state := "open", closedBy := none, closedAt := none, updatedAt := now }

/-- The merge request after the change. -/
def onMergeRequest (now : Int) (r : StoredMergeRequest) : Change → StoredMergeRequest
  | .edit title description => { r with title, description, updatedAt := now }
  | .close actor =>
    { r with state := "closed", closedBy := some actor, closedAt := some now, updatedAt := now }
  | .reopen => { r with state := "open", closedBy := none, closedAt := none, updatedAt := now }

/-- Whether a row is the ticket of this repository and id, in a state that the change starts
from. -/
def meets {ρ ε : Type} [Ticket ρ ε] (c : Change) (repoId id : Int) (r : ρ) : Bool :=
  Ticket.isAt repoId id r && c.startsFrom (Ticket.state r)

end Change

/-- Whether a row is an open merge request of this repository and id. -/
def StoredMergeRequest.isOpenAt (repoId id : Int) (r : StoredMergeRequest) : Bool :=
  Ticket.isAt repoId id r && r.state == "open"

/-- The merge request once it has been marked merged. -/
def StoredMergeRequest.merged (now : Int) (actor : String) (r : StoredMergeRequest) :
    StoredMergeRequest :=
  { r with state := "merged", mergedBy := some actor, mergedAt := some now, updatedAt := now }

/-- What one transaction does to the tickets of a repository and the dependencies between them. -/
inductive TicketEffect (now repoId : Int) (s : Store) : Store → Prop
  | nothing : TicketEffect now repoId s s
  | issueAdded {title description author : String} (there : s.hasRepository repoId = true) :
      TicketEffect now repoId s { s with
        issues := s.issues.insert fun id =>
          ⟨id, repoId, title, description, "open", author, none, none, now, now⟩ }
  | issueChanged {id : Int} {c : Change} (signed : c.Signed)
      (there : s.issues.any (c.meets repoId id) = true) :
      TicketEffect now repoId s { s with
        issues := s.issues.modify (c.meets repoId id) fun r => c.onIssue now r }
  | issueRemoved {id : Int} (there : s.issues.any (Ticket.isAt repoId id) = true) :
      TicketEffect now repoId s { s.dropIssues (Ticket.isAt repoId id) with
        dependencies := (s.dropIssues (Ticket.isAt repoId id)).dependencies.remove
          fun d => d.issueId == id || d.dependsOnId == id }
  | requestAdded {title description source target author : String}
      (there : s.hasRepository repoId = true) :
      TicketEffect now repoId s { s with
        mergeRequests := s.mergeRequests.insert fun id =>
          ⟨id, repoId, title, description, source, target, "open", author, none, none, none, none,
            now, now⟩ }
  | requestChanged {id : Int} {c : Change} (signed : c.Signed)
      (there : s.mergeRequests.any (c.meets repoId id) = true) :
      TicketEffect now repoId s { s with
        mergeRequests := s.mergeRequests.modify (c.meets repoId id) fun r =>
          c.onMergeRequest now r }
  | requestMerged {id : Int} {actor : String}
      (there : s.mergeRequests.any (StoredMergeRequest.isOpenAt repoId id) = true) :
      TicketEffect now repoId s { s with
        mergeRequests := s.mergeRequests.modify (StoredMergeRequest.isOpenAt repoId id)
          (StoredMergeRequest.merged now actor) }
  | requestRemoved {id : Int} :
      TicketEffect now repoId s
        { s with mergeRequests := s.mergeRequests.remove (Ticket.isAt repoId id) }
  | dependencyAdded {issueId dependsOnId : Int} (distinct : issueId ≠ dependsOnId)
      (new : s.dependencies.any (Store.isEdge issueId dependsOnId) = false)
      (there : ∃ r ∈ s.issues.rows, r.repoId = repoId ∧ r.id = issueId)
      (there' : ∃ r ∈ s.issues.rows, r.repoId = repoId ∧ r.id = dependsOnId) :
      TicketEffect now repoId s { s with
        dependencies := s.dependencies.insert fun id => ⟨⟨issueId, dependsOnId, now⟩, id⟩ }
  | dependencyRemoved {issueId : Int} (dependsOnId : Int)
      (there : ∃ r ∈ s.issues.rows, r.repoId = repoId ∧ r.id = issueId) :
      TicketEffect now repoId s { s with
        dependencies := s.dependencies.remove (Store.isEdge issueId dependsOnId) }

/-- What one transaction of an operation does to a store. -/
inductive Effect (now : Int) (s : Store) : Store → Prop
  | registered {name key path : String} (clean : Repository.cleanName name = .ok key)
      (writable : s.surrogates.Writable key) (new : ∀ r ∈ s.repos.rows, r.name ≠ key) :
      Effect now s { s with repos := s.repos.insert fun id => ⟨id, key, path, now⟩ }
  | forgotten (key : String) : Effect now s (s.dropRepositories fun r => r.name == key)
  | onTickets {repoId : Int} {s' : Store} (effect : TicketEffect now repoId s s') : Effect now s s'

variable {s s' : Store} {now : Int}

/-- To change nothing is an effect. -/
theorem Effect.nothing : Effect now s s :=
  .onTickets (@TicketEffect.nothing now 0 s)

/-! ## Repositories -/

namespace Store

/-- A repository is added under a clean name that no other one has. -/
theorem effect_of_createRepository {name path : String} {id : Int}
    (h : (createRepository now name path).Returns s id s') : Effect now s s' := by
  obtain ⟨key, -, hk, -, ⟨hu, -⟩, hn, -, rfl⟩ := returns_createRepository.1 h
  exact .registered hk hu hn

theorem effect_of_deleteRepository {name : String} {u : Unit}
    (h : (deleteRepository name).Returns s u s') : Effect now s s' := by
  obtain ⟨key, -, -, -, rfl⟩ := returns_deleteRepository.1 h
  exact .forgotten key

/-! ## Adding and removing tickets -/

/-- A new issue belongs to a repository that is there and has the next number, a clean title and an
author. -/
theorem returns_createIssue {repoId : Int} {author : Option String} {title : String}
    {description : Option String} {id : Int}
    (h : (createIssue now repoId author title description).Returns s id s') :
    s.hasRepository repoId = true ∧ id = s.issues.nextId ∧
      ∃ cleaned description signed, cleanTitle title = .ok cleaned ∧ author = some signed ∧
        s' = { s with
          issues := s.issues.insert fun id =>
            ⟨id, repoId, cleaned, description, "open", signed, none, none, now, now⟩ } := by
  simp only [createIssue, returns_bind, returns_ofExcept, returns_useTable, returns_useParent,
    returns_bindCells, returns_required, returns_whole, returns_check, returns_change,
    returns_pure] at h
  obtain ⟨cleaned, _, ⟨hc, rfl⟩, _, _, ⟨-, rfl⟩, _, _, ⟨-, rfl⟩, _, _, ⟨-, rfl⟩, description, _,
    ⟨rfl, rfl⟩, signed, _, ⟨rfl, rfl⟩, _, _, ⟨rfl, rfl⟩, _, _, ⟨hr, rfl⟩, _, _, rfl, rfl, rfl⟩ := h
  exact ⟨hr, rfl, cleaned, description, signed, hc, rfl, rfl⟩

theorem effect_of_createIssue {repoId : Int} {author : Option String} {title : String}
    {description : Option String} {id : Int}
    (h : (createIssue now repoId author title description).Returns s id s') :
    TicketEffect now repoId s s' := by
  obtain ⟨hr, -, title, description, author, -, -, rfl⟩ := returns_createIssue h
  exact .issueAdded hr

/-- A new merge request belongs to a repository that is there and has the next number, a clean
title, both branches and an author. -/
theorem returns_createMergeRequest {repoId : Int} {author : Option String} {title : String}
    {description source target : Option String} {id : Int}
    (h : (createMergeRequest now repoId author title description source target).Returns s id s') :
    s.hasRepository repoId = true ∧ id = s.mergeRequests.nextId ∧
      ∃ cleaned description origin into signed, cleanTitle title = .ok cleaned ∧
        source = some origin ∧ target = some into ∧ author = some signed ∧ s' = { s with
          mergeRequests := s.mergeRequests.insert fun id =>
            ⟨id, repoId, cleaned, description, origin, into, "open", signed, none, none, none, none,
              now, now⟩ } := by
  simp only [createMergeRequest, returns_bind, returns_ofExcept, returns_useTable,
    returns_useParent, returns_bindCells, returns_required, returns_whole, returns_check,
    returns_change, returns_pure] at h
  obtain ⟨cleaned, _, ⟨hc, rfl⟩, _, _, ⟨-, rfl⟩, _, _, ⟨-, rfl⟩, _, _, ⟨-, rfl⟩, description, _,
    ⟨rfl, rfl⟩, origin, _, ⟨rfl, rfl⟩, into, _, ⟨rfl, rfl⟩, signed, _, ⟨rfl, rfl⟩, _, _,
    ⟨rfl, rfl⟩, _, _, ⟨hr, rfl⟩, _, _, rfl, rfl, rfl⟩ := h
  exact ⟨hr, rfl, cleaned, description, origin, into, signed, hc, rfl, rfl, rfl, rfl⟩

theorem effect_of_createMergeRequest {repoId : Int} {author : Option String} {title : String}
    {description source target : Option String} {id : Int}
    (h : (createMergeRequest now repoId author title description source target).Returns s id s') :
    TicketEffect now repoId s s' := by
  obtain ⟨hr, -, title, description, source, target, author, -, -, -, -, rfl⟩ :=
    returns_createMergeRequest h
  exact .requestAdded hr

end Store

namespace Ticket

variable {ρ ε : Type} [Ticket ρ ε] {repoIdent ident : Int}

/-- A ticket that is deleted was there, and the rows at its place are left out. -/
theorem returns_delete {u : Unit} (h : (delete ρ repoIdent ident).Returns s u s') :
    (table s).any (isAt (ρ := ρ) repoIdent ident) = true ∧
      s' = remove (isAt (ρ := ρ) repoIdent ident) s := by
  simp only [delete, returns_bind, returns_useTable, returns_useParent, returns_bindAll,
    returns_view, returns_ensure, returns_change] at h
  obtain ⟨_, _, ⟨-, rfl⟩, _, _, ⟨-, rfl⟩, _, _, ⟨-, rfl⟩, _, _, ⟨rfl, rfl⟩, _, _, ⟨ht, rfl⟩,
    rfl⟩ := h
  exact ⟨ht, rfl⟩

/-- A count that is not zero has counted something: so an update knows that its row was there. -/
theorem any_of_count_ne_zero {t : Table ρ} {p : ρ → Bool} (h : t.count p ≠ 0) :
    t.any p = true := by
  unfold Table.count at h
  unfold Table.any
  rw [List.any_eq_true]
  exact List.countP_pos_iff.1 (Nat.pos_of_ne_zero h)

/-- An update has found its ticket and has edited the rows at its place. -/
theorem returns_update {title : String} {description : Option String} {u : Unit}
    (h : (update ρ now repoIdent ident title description).Returns s u s') :
    ∃ cleaned, cleanTitle title = .ok cleaned ∧
      (table s).any (isAt (ρ := ρ) repoIdent ident) = true ∧
      s' = setTable ((table s).modify (isAt (ρ := ρ) repoIdent ident)
        (setAll [("title", .text cleaned), ("description", Cell.ofText? description),
          ("updated_at", .int now)])) s ∧
      ((table s).rows.filter (isAt (ρ := ρ) repoIdent ident)).findSome?
        (emptied? [("title", .text cleaned), ("description", Cell.ofText? description),
          ("updated_at", .int now)]) = none := by
  simp only [update, returns_bind, returns_ofExcept, returns_useTable, returns_bindCells,
    returns_updateWhere, returns_ensure] at h
  obtain ⟨cleaned, _, ⟨hc, rfl⟩, _, _, ⟨-, rfl⟩, _, _, ⟨-, rfl⟩, n, _, ⟨he, -, rfl, rfl⟩, hn,
    rfl⟩ := h
  exact ⟨cleaned, hc, any_of_count_ne_zero (by simpa using hn), rfl, he⟩

end Ticket

namespace Store

theorem effect_of_deleteIssue {repoId id : Int} {u : Unit}
    (h : (deleteIssue repoId id).Returns s u s') : TicketEffect now repoId s s' := by
  simp only [deleteIssue, removeDependencies, returns_bind, returns_useTable, returns_useParent,
    returns_change] at h
  obtain ⟨_, _, hd, _, _, ⟨-, rfl⟩, _, _, ⟨-, rfl⟩, rfl⟩ := h
  obtain ⟨ht, rfl⟩ := Ticket.returns_delete hd
  exact .issueRemoved ht

theorem effect_of_deleteMergeRequest {repoId id : Int} {u : Unit}
    (h : (Ticket.delete StoredMergeRequest repoId id).Returns s u s') :
    TicketEffect now repoId s s' := by
  obtain ⟨-, rfl⟩ := Ticket.returns_delete h
  exact .requestRemoved

/-! ## Dependencies -/

/-- An issue that is required is there, and to look for it changes nothing. -/
theorem returns_requireIssue {repoId id : Int} {u : Unit}
    (h : (requireIssue repoId id).Returns s u s') :
    s' = s ∧ ∃ r ∈ s.issues.rows, r.repoId = repoId ∧ r.id = id := by
  simp only [requireIssue, returns_bind, returns_ensure] at h
  obtain ⟨b, s₁, hb, rfl, rfl⟩ := h
  obtain ⟨rfl, ht⟩ := Ticket.isThere_reads hb
  obtain ⟨r, hr, hat⟩ := List.any_eq_true.1 ht.symm
  exact ⟨rfl, r, hr, Ticket.isAt_iff.1 hat⟩

/-- A dependency that is added joins two different issues of the repository that were not joined. -/
theorem returns_addDependency {repoId issueId dependsOnId : Int} {d : Dependency}
    (h : (addDependency now repoId issueId dependsOnId).Returns s d s') :
    (∃ r ∈ s.issues.rows, r.repoId = repoId ∧ r.id = issueId) ∧
      (∃ r ∈ s.issues.rows, r.repoId = repoId ∧ r.id = dependsOnId) ∧
      issueId ≠ dependsOnId ∧ s.dependencies.any (isEdge issueId dependsOnId) = false ∧
      d = ⟨issueId, dependsOnId, now⟩ ∧
      s' = { s with dependencies := s.dependencies.insert fun id => ⟨d, id⟩ } := by
  simp only [addDependency, insertDependency, returns_bind, returns_ensure, returns_useTable,
    returns_useParent, returns_bindAll, returns_required, returns_check, returns_whole,
    returns_change, returns_pure] at h
  obtain ⟨_, _, hr, _, _, hr', _, _, ⟨hne, rfl⟩, _, _, ⟨-, rfl⟩, _, _, ⟨-, rfl⟩, _, _, ⟨-, rfl⟩,
    _, _, ⟨hi, rfl⟩, _, _, ⟨hj, rfl⟩, _, _, ⟨-, rfl⟩, _, _, ⟨rfl, rfl⟩, _, _, ⟨hnew, rfl⟩, _, _,
    ⟨-, rfl⟩, _, _, rfl, rfl, rfl⟩ := h
  cases hi
  cases hj
  obtain ⟨rfl, hr⟩ := returns_requireIssue hr
  obtain ⟨rfl, hr'⟩ := returns_requireIssue hr'
  exact ⟨hr, hr', bne_iff_ne.1 hne, by simpa using hnew, rfl, rfl⟩

/-- Only the issue that depends has to be there for a dependency to be taken out. -/
theorem returns_removeDependency {repoId issueId dependsOnId : Int} {b : Bool}
    (h : (removeDependency repoId issueId dependsOnId).Returns s b s') :
    (∃ r ∈ s.issues.rows, r.repoId = repoId ∧ r.id = issueId) ∧
      s' = { s with dependencies := s.dependencies.remove (isEdge issueId dependsOnId) } := by
  simp only [removeDependency, removeDependencies, returns_bind, returns_useTable,
    returns_useParent, returns_bindAll, returns_view, returns_change, returns_pure] at h
  obtain ⟨_, _, hr, _, _, ⟨-, rfl⟩, _, _, ⟨-, rfl⟩, _, _, ⟨-, rfl⟩, _, _, ⟨rfl, rfl⟩, _, _, rfl,
    -, rfl⟩ := h
  obtain ⟨rfl, hr⟩ := returns_requireIssue hr
  exact ⟨hr, rfl⟩

theorem effect_of_addDependency {repoId issueId dependsOnId : Int} {d : Dependency}
    (h : (addDependency now repoId issueId dependsOnId).Returns s d s') :
    TicketEffect now repoId s s' := by
  obtain ⟨hr, hr', hne, hnew, rfl, rfl⟩ := returns_addDependency h
  exact .dependencyAdded hne hnew hr hr'

theorem effect_of_removeDependency {repoId issueId dependsOnId : Int} {b : Bool}
    (h : (removeDependency repoId issueId dependsOnId).Returns s b s') :
    TicketEffect now repoId s s' := by
  obtain ⟨hr, rfl⟩ := returns_removeDependency h
  exact .dependencyRemoved dependsOnId hr

/-- A question about dependencies changes nothing. -/
theorem hasDependency_reads {repoId issueId dependsOnId : Int} {b : Bool}
    (h : (hasDependency repoId issueId dependsOnId).Returns s b s') : s' = s := by
  simp only [hasDependency, returns_bind, returns_useTable, returns_bindAll, returns_view,
    returns_pure] at h
  obtain ⟨_, _, hr, _, _, ⟨-, rfl⟩, _, _, ⟨-, rfl⟩, _, _, ⟨rfl, rfl⟩, -, rfl⟩ := h
  exact (returns_requireIssue hr).1

theorem dependenciesOf_reads {repoId issueId : Int} {is : List Issue}
    (h : (dependenciesOf repoId issueId).Returns s is s') : s' = s := by
  simp only [dependenciesOf, returns_bind, returns_useTable, returns_whole] at h
  obtain ⟨_, _, hr, _, _, ⟨-, rfl⟩, _, _, ⟨rfl, rfl⟩, h⟩ := h
  exact (Ticket.readRows_reads h).trans (returns_requireIssue hr).1

theorem dependentsOf_reads {repoId issueId : Int} {is : List Issue}
    (h : (dependentsOf repoId issueId).Returns s is s') : s' = s := by
  simp only [dependentsOf, returns_bind, returns_useTable, returns_whole] at h
  obtain ⟨_, _, hr, _, _, ⟨-, rfl⟩, _, _, ⟨rfl, rfl⟩, h⟩ := h
  exact (Ticket.readRows_reads h).trans (returns_requireIssue hr).1

/-! ## Editing tickets -/

/-- A ticket with a required description is edited only if there is a new description. -/
theorem description_of_update {ρ ε : Type} [Ticket ρ ε] {repoId id : Int} {title : String}
    {description : Option String} {u : Unit}
    (hreq : ∀ (text : String) (r : ρ), Ticket.emptied? [("title", .text text),
      ("description", .null), ("updated_at", .int now)] r = some "description")
    (h : (Ticket.update ρ now repoId id title description).Returns s u s') :
    ∃ cleaned text, cleanTitle title = .ok cleaned ∧
      (Ticket.table s).any (Ticket.isAt (ρ := ρ) repoId id) = true ∧
      s' = Ticket.setTable ((Ticket.table s).modify (Ticket.isAt (ρ := ρ) repoId id)
        (Ticket.setAll [("title", .text cleaned), ("description", .text text),
          ("updated_at", .int now)])) s := by
  obtain ⟨cleaned, hc, ht, rfl, he⟩ := Ticket.returns_update h
  cases description with
  | none =>
    obtain ⟨r, hr, hp⟩ := List.any_eq_true.1 ht
    have hn := List.findSome?_eq_none_iff.1 he r (List.mem_filter.2 ⟨hr, hp⟩)
    rw [show Cell.ofText? none = .null from rfl, hreq] at hn
    cases hn
  | some text => exact ⟨cleaned, text, hc, ht, rfl⟩

/-- An edit meets the tickets at its place, of whichever kind they are. -/
theorem meets_edit {ρ ε : Type} [Ticket ρ ε] (title text : String) (repoId id : Int) :
    (Change.edit title text).meets repoId id = (Ticket.isAt repoId id : ρ → Bool) := by
  funext r
  simp [Change.meets, Change.startsFrom]

theorem effect_of_updateIssue {repoId id : Int} {title : String} {description : Option String}
    {u : Unit} (h : (Ticket.update StoredIssue now repoId id title description).Returns s u s') :
    TicketEffect now repoId s s' := by
  obtain ⟨cleaned, text, -, ht, rfl⟩ := description_of_update (fun _ _ => rfl) h
  rw [← meets_edit cleaned text] at ht ⊢
  exact .issueChanged trivial ht

theorem effect_of_updateMergeRequest {repoId id : Int} {title : String}
    {description : Option String} {u : Unit}
    (h : (Ticket.update StoredMergeRequest now repoId id title description).Returns s u s') :
    TicketEffect now repoId s s' := by
  obtain ⟨cleaned, text, -, ht, rfl⟩ := description_of_update (fun _ _ => rfl) h
  rw [← meets_edit cleaned text] at ht ⊢
  exact .requestChanged trivial ht

end Store

end Forge
