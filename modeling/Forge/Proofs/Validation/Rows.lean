import Forge.Proofs.Store.Lifecycle
import Forge.Proofs.Store.WellFormed
import Forge.Proofs.Text.Parts
import Forge.Workflow

/-!
# Validated rows

Titles, actors and branches are checked when an operation takes them in. What is stored is used much
later, by other operations, and not checked again: `Store.Validated` says that it need not be. Each
statement that writes keeps it, given that its arguments have been checked.
-/

namespace Forge

open Transaction Ticket

/-! ## Names of branches -/

/-- A text that git takes neither for an option nor for anything but one name: it does not start
with a dash, and holds no blank, no control and no sign of a range or of a log of references. -/
structure Branch.Harmless (name : String) : Prop where
  ne_empty : name ≠ ""
  noOption : name.toList.head? ≠ some '-'
  plain : ∀ c ∈ name.toList, 0x20 < c.toNat ∧ c.toNat ≠ 0x7f
  noRange : ¬ "..".toList <:+: name.toList
  noLog : ¬ "@\x7b".toList <:+: name.toList

/-- What passes for the name of a branch is harmless. -/
theorem Branch.harmless_of_isValid {name : String} (h : isValid name = true) : Harmless name := by
  simp only [isValid, Bool.and_eq_true, Bool.not_eq_true', Bool.or_eq_false_iff, bne_iff_ne] at h
  obtain ⟨⟨⟨⟨⟨ne_empty, -⟩, ⟨dash, -⟩, -⟩, -⟩, ⟨⟨range, -⟩, log⟩, -⟩, forbidden⟩ := h
  refine ⟨ne_empty, fun first => ?_, fun c hc => ?_, fun part => ?_, fun part => ?_⟩
  · obtain ⟨rest, hrest⟩ := List.head?_eq_some_iff.1 first
    have starts : Text.startsWith "-" name = true := by
      rw [Text.startsWith, hrest]
      rfl
    rw [starts] at dash
    cases dash
  · have allowed := List.any_eq_false.1 forbidden c hc
    simp only [isForbidden, Bool.or_eq_true, decide_eq_true_eq, beq_iff_eq, not_or] at allowed
    obtain ⟨⟨⟨⟨⟨⟨⟨⟨low, delete⟩, -⟩, -⟩, -⟩, -⟩, -⟩, -⟩, -⟩ := allowed
    exact ⟨by omega, delete⟩
  · rw [Text.hasPart_iff.2 part] at range
    cases range
  · rw [Text.hasPart_iff.2 part] at log
    cases log

/-! ## Rows -/

/-- The title and the actors of an issue are trimmed texts. -/
structure IssueIn.Validated {σ : Type} (i : IssueIn σ) : Prop where
  title : Text.Trimmed i.title
  author : Text.Trimmed i.authorId
  closer : ∀ actor, i.closedBy = some actor → Text.Trimmed actor

/-- The title and the actors of a merge request are trimmed texts, and its branches two valid
names. -/
structure MergeRequestIn.Validated {σ : Type} (m : MergeRequestIn σ) : Prop where
  title : Text.Trimmed m.title
  author : Text.Trimmed m.authorId
  closer : ∀ actor, m.closedBy = some actor → Text.Trimmed actor
  merger : ∀ actor, m.mergedBy = some actor → Text.Trimmed actor
  distinct : m.sourceBranch ≠ m.targetBranch
  source : Branch.isValid m.sourceBranch = true
  target : Branch.isValid m.targetBranch = true

/-- All tickets of the store are as they would be taken in. -/
structure Store.Validated (s : Store) : Prop where
  issues : ∀ i ∈ s.issues.rows, i.Validated
  mergeRequests : ∀ m ∈ s.mergeRequests.rows, m.Validated

/-- A store without rows has none to check. -/
theorem Store.Validated.empty (u : Text.Surrogates) : (Store.empty u).Validated :=
  ⟨fun _ h => absurd h List.not_mem_nil, fun _ h => absurd h List.not_mem_nil⟩

/-- What a change writes has been checked. -/
def Change.Checked : Change → Prop
  | .edit title _ => Text.Trimmed title
  | .close actor => Text.Trimmed actor
  | .reopen => True

section Changes

variable {now : Int} {c : Change}

/-- A change whose values have been checked leaves an issue as it would be taken in. -/
theorem Change.Checked.onIssue {r : StoredIssue} (checked : c.Checked) (h : r.Validated) :
    (c.onIssue now r).Validated := by
  cases c with
  | edit title description => exact { h with title := checked }
  | close actor =>
    refine { h with closer := ?_ }
    rintro _ ⟨⟩
    exact checked
  | reopen => exact { h with closer := nofun }

theorem Change.Checked.onMergeRequest {r : StoredMergeRequest} (checked : c.Checked)
    (h : r.Validated) : (c.onMergeRequest now r).Validated := by
  cases c with
  | edit title description => exact { h with title := checked }
  | close actor =>
    refine { h with closer := ?_ }
    rintro _ ⟨⟩
    exact checked
  | reopen => exact { h with closer := nofun }

end Changes

/-- A clean title has text in it and no blanks around it. -/
theorem trimmed_of_cleanTitle {given title : String} (h : cleanTitle given = .ok title) :
    Text.Trimmed title := by
  simp only [cleanTitle] at h
  split at h
  · cases h
  · cases h
    exact Text.trimmed_strip ‹_›

/-! ## Statements -/

namespace Store.Validated

variable {s s' : Store} {now repoId id : Int} (hs : s.Validated)

include hs

/-- A checked change may meet any issues. -/
theorem changeIssues {c : Change} (checked : c.Checked) (p : StoredIssue → Bool) :
    Validated { s with issues := s.issues.modify p fun r => c.onIssue now r } :=
  { hs with issues := Table.forall_modify hs.issues fun _ _ _ h => checked.onIssue h }

theorem changeRequests {c : Change} (checked : c.Checked) (p : StoredMergeRequest → Bool) :
    Validated { s with mergeRequests := s.mergeRequests.modify p fun r => c.onMergeRequest now r } :=
  { hs with
    mergeRequests := Table.forall_modify hs.mergeRequests fun _ _ _ h => checked.onMergeRequest h }

/-- Of issues that are left out nothing has to be checked. -/
theorem dropIssues (p : StoredIssue → Bool) : (s.dropIssues p).Validated :=
  ⟨Table.forall_remove hs.issues, hs.mergeRequests⟩

/-- To add a repository does nothing to tickets. -/
theorem createRepository {name path : String}
    (h : (Store.createRepository now name path).Returns s id s') : s'.Validated := by
  obtain ⟨key, -, -, -, -, -, -, rfl⟩ := returns_createRepository.1 h
  exact ⟨hs.issues, hs.mergeRequests⟩

theorem deleteRepository {name : String} {u : Unit}
    (h : (Store.deleteRepository name).Returns s u s') : s'.Validated := by
  obtain ⟨key, -, -, -, rfl⟩ := returns_deleteRepository.1 h
  exact ⟨Table.forall_remove hs.issues, Table.forall_remove hs.mergeRequests⟩

/-- The title of a new issue is cleaned on the way, and its author has been before. -/
theorem createIssue {author title : String} {description : Option String}
    (signed : Text.Trimmed author)
    (h : (Store.createIssue now repoId (some author) title description).Returns s id s') :
    s'.Validated := by
  obtain ⟨-, -, cleaned, text, _, hc, ⟨⟩, rfl⟩ := returns_createIssue h
  exact { hs with
    issues := Table.forall_insert hs.issues ⟨trimmed_of_cleanTitle hc, signed, nofun⟩ }

theorem deleteIssue {u : Unit} (h : (Store.deleteIssue repoId id).Returns s u s') :
    s'.Validated := by
  simp only [Store.deleteIssue, removeDependencies, returns_bind, returns_useTable,
    returns_useParent, returns_change] at h
  obtain ⟨_, _, hd, _, _, ⟨-, rfl⟩, _, _, ⟨-, rfl⟩, rfl⟩ := h
  obtain ⟨-, rfl⟩ := Ticket.returns_delete hd
  have dropped := hs.dropIssues (Ticket.isAt repoId id)
  exact ⟨dropped.issues, dropped.mergeRequests⟩

/-- The branches of a new merge request are checked before its row is added. -/
theorem createMergeRequest {author title source target : String} {description : Option String}
    (signed : Text.Trimmed author) (distinct : source ≠ target)
    (hsource : Branch.isValid source = true) (htarget : Branch.isValid target = true)
    (h : (Store.createMergeRequest now repoId (some author) title description (some source)
      (some target)).Returns s id s') : s'.Validated := by
  obtain ⟨-, -, cleaned, text, _, _, _, hc, ⟨⟩, ⟨⟩, ⟨⟩, rfl⟩ := returns_createMergeRequest h
  exact { hs with
    mergeRequests := Table.forall_insert hs.mergeRequests
      ⟨trimmed_of_cleanTitle hc, signed, nofun, nofun, distinct, hsource, htarget⟩ }

theorem deleteMergeRequest {u : Unit}
    (h : (Ticket.delete StoredMergeRequest repoId id).Returns s u s') : s'.Validated := by
  obtain ⟨-, rfl⟩ := Ticket.returns_delete h
  exact ⟨hs.issues, Table.forall_remove hs.mergeRequests⟩

theorem addDependency {issueId dependsOnId : Int} {d : Dependency}
    (h : (Store.addDependency now repoId issueId dependsOnId).Returns s d s') : s'.Validated := by
  obtain ⟨-, -, -, -, -, rfl⟩ := returns_addDependency h
  exact ⟨hs.issues, hs.mergeRequests⟩

theorem removeDependency {issueId dependsOnId : Int} {b : Bool}
    (h : (Store.removeDependency repoId issueId dependsOnId).Returns s b s') : s'.Validated := by
  obtain ⟨-, rfl⟩ := returns_removeDependency h
  exact ⟨hs.issues, hs.mergeRequests⟩

/-- An update cleans the title that it sets. -/
theorem updateIssue {title : String} {description : Option String} {u : Unit}
    (h : (Ticket.update StoredIssue now repoId id title description).Returns s u s') :
    s'.Validated := by
  obtain ⟨cleaned, text, hc, -, rfl⟩ := description_of_update (fun _ _ => rfl) h
  exact hs.changeIssues (c := .edit cleaned text) (trimmed_of_cleanTitle hc) _

theorem updateMergeRequest {title : String} {description : Option String} {u : Unit}
    (h : (Ticket.update StoredMergeRequest now repoId id title description).Returns s u s') :
    s'.Validated := by
  obtain ⟨cleaned, text, hc, -, rfl⟩ := description_of_update (fun _ _ => rfl) h
  exact hs.changeRequests (c := .edit cleaned text) (trimmed_of_cleanTitle hc) _

/-- Who closes an issue is written as cleaned. -/
theorem closeIssue {actor : String} {e : Issue} (signed : Text.Trimmed actor)
    (h : (Lifecycle.apply StoredIssue now repoId id "close" (some actor)).Returns s e s') :
    s'.Validated := by
  obtain ⟨-, -, rfl, -⟩ := Lifecycle.returns_follow h
  exact hs.changeIssues (c := .close actor) signed _

theorem reopenIssue {e : Issue}
    (h : (Lifecycle.apply StoredIssue now repoId id "reopen" none).Returns s e s') :
    s'.Validated := by
  obtain ⟨-, -, rfl, -⟩ := Lifecycle.returns_follow h
  exact hs.changeIssues (c := .reopen) trivial _

theorem closeMergeRequest {actor : String} {e : MergeRequest} (signed : Text.Trimmed actor)
    (h : (Lifecycle.apply StoredMergeRequest now repoId id "close" (some actor)).Returns s e s') :
    s'.Validated := by
  obtain ⟨-, -, rfl, -⟩ := Lifecycle.returns_follow h
  exact hs.changeRequests (c := .close actor) signed _

theorem reopenMergeRequest {e : MergeRequest}
    (h : (Lifecycle.apply StoredMergeRequest now repoId id "reopen" none).Returns s e s') :
    s'.Validated := by
  obtain ⟨-, -, rfl, -⟩ := Lifecycle.returns_follow h
  exact hs.changeRequests (c := .reopen) trivial _

/-- Who merges is written as cleaned. -/
theorem merge {actor : String} {e : MergeRequest} (signed : Text.Trimmed actor)
    (h : (Lifecycle.apply StoredMergeRequest now repoId id "merge" (some actor)).Returns s e s') :
    s'.Validated := by
  obtain ⟨-, rfl, -⟩ := Lifecycle.returns_merge h
  refine { hs with mergeRequests := Table.forall_modify hs.mergeRequests fun r _ _ hr => ?_ }
  refine { hr with merger := ?_ }
  rintro _ ⟨⟩
  exact signed

/-- A merge request that is read is as it is stored. -/
theorem got {m : MergeRequest} (h : (Ticket.get StoredMergeRequest repoId id).Returns s m s') :
    m.Validated := by
  obtain ⟨-, -, -, -, row, found, read⟩ := Ticket.returns_get.1 h
  obtain ⟨state, -, rfl⟩ := Option.map_eq_some_iff.1 (show row.read? = some m from read)
  have checked := hs.mergeRequests row (List.mem_of_find?_eq_some found)
  exact { checked with }

end Store.Validated

end Forge
