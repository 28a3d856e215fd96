import Forge.Proofs.Lifecycle.Swap
import Forge.Proofs.Merge.Exclusive
import Forge.Proofs.Noted

/-!
# What successful operations have committed

An operation that returns something it has created has committed the row, under the next id of its
table (`Store.Adds`); one that returns a merge request which it has closed, reopened or merged has
committed the change of its state (`Store.Moves`). Both are read off from the one transaction that
the operation makes for it, and then found in the log of the world.
-/

namespace Forge

open Transaction

/-! ## Ids -/

namespace Store

/-- The ids of the rows of a table. -/
def ids (s : Store) : TableName → List Int
  | .repos => s.repos.rows.map (·.id)
  | .issues => s.issues.rows.map (·.id)
  | .mergeRequests => s.mergeRequests.rows.map (·.id)
  | .dependencies => s.dependencies.rows.map (·.id)

/-- The last id that a table has given out. -/
def lastId (s : Store) : TableName → Int
  | .repos => s.repos.lastId
  | .issues => s.issues.lastId
  | .mergeRequests => s.mergeRequests.lastId
  | .dependencies => s.dependencies.lastId

/-- A change has added a row to a table, under the next id. -/
structure Adds (t : TableName) (id : Int) (s s' : Store) : Prop where
  next : id = s.lastId t + 1
  last : s'.lastId t = id
  there : id ∈ s'.ids t

/-- A change has taken a merge request from one state to another. -/
def Moves (id : Int) (s s' : Store) : Prop :=
  ∃ r ∈ s.mergeRequests.rows, ∃ r' ∈ s'.mergeRequests.rows,
    r.id = id ∧ r'.id = id ∧ r'.state ≠ r.state

variable {s s' : Store} {t : TableName} {id : Int}

theorem Evolves.lastId_le (h : s.Evolves s') (t : TableName) : s.lastId t ≤ s'.lastId t := by
  cases t with
  | repos => exact h.repos.last_le
  | issues => exact h.issues.last_le
  | mergeRequests => exact h.mergeRequests.last_le
  | dependencies => exact h.dependencies.last_le

/-- An id that was given out and is gone stays away. -/
theorem Evolves.not_mem_ids (h : s.Evolves s') (hle : id ≤ s.lastId t) (hgone : id ∉ s.ids t) :
    id ∉ s'.ids t := by
  cases t with
  | repos => exact h.repos.gone (fun _ _ hab => congrArg _ hab.symm) hle hgone
  | issues => exact h.issues.gone (fun _ _ => SameIssue.id) hle hgone
  | mergeRequests => exact h.mergeRequests.gone (fun _ _ => SameRequest.id) hle hgone
  | dependencies => exact h.dependencies.gone (fun _ _ hab => congrArg _ hab.symm) hle hgone

/-- What is settled is not moved any more. -/
theorem Settled.not_moves (h : s.Settled id) (h' : s'.Settled id) : ¬ Moves id s s' := by
  rintro ⟨r, hr, r', hr', hid, hid', hne⟩
  rw [h.merged r hr hid, h'.merged r' hr' hid'] at hne
  exact hne rfl

/-! ## Creating -/

variable {now : Int}

theorem adds_of_registered {name path : String} {repo : Repository} {s₁ : Store}
    (hc : (createRepository now name path).Returns s id s₁)
    (hn : (repositoryNamed name).Returns s₁ repo s') : s.Adds .repos repo.id s' := by
  obtain ⟨-, -, hid, rfl⟩ := returns_registered hc hn
  rw [hid]
  exact ⟨rfl, rfl, hid ▸ List.mem_map_of_mem (Table.mem_insert.2 (.inr rfl))⟩

theorem id_of_get {ρ ε : Type} [Ticket ρ ε] {repoId : Int} {e : ε}
    (h : (Ticket.get ρ repoId id).Returns s e s') :
    s' = s ∧ ∃ r : ρ, Ticket.id r = id ∧ Ticket.read? r = some e := by
  obtain ⟨-, -, -, rfl, r, hr, hread⟩ := Ticket.returns_get.1 h
  exact ⟨rfl, r, (Ticket.isAt_iff.1 (List.find?_some hr)).2, hread⟩

theorem adds_of_createIssue {repoId : Int} {author : Option String} {title : String}
    {description : Option String} {issue : Issue} {s₁ : Store}
    (hc : (createIssue now repoId author title description).Returns s id s₁)
    (hg : (Ticket.get StoredIssue repoId id).Returns s₁ issue s') :
    s.Adds .issues issue.id s' := by
  obtain ⟨-, rfl, title, description, author, -, -, rfl⟩ := returns_createIssue hc
  obtain ⟨rfl, r, hid, hread⟩ := id_of_get hg
  obtain ⟨_, -, rfl⟩ := Option.map_eq_some_iff.1 (show r.read? = some issue from hread)
  rw [show r.id = s.issues.nextId from hid]
  exact ⟨rfl, rfl, List.mem_map_of_mem (Table.mem_insert.2 (.inr rfl))⟩

theorem adds_of_createMergeRequest {repoId : Int} {author : Option String} {title : String}
    {description source target : Option String} {request : MergeRequest} {s₁ : Store}
    (hc : (createMergeRequest now repoId author title description source target).Returns s id s₁)
    (hg : (Ticket.get StoredMergeRequest repoId id).Returns s₁ request s') :
    s.Adds .mergeRequests request.id s' := by
  obtain ⟨-, rfl, title, description, source, target, author, -, -, -, -, rfl⟩ :=
    returns_createMergeRequest hc
  obtain ⟨rfl, r, hid, hread⟩ := id_of_get hg
  obtain ⟨_, -, rfl⟩ := Option.map_eq_some_iff.1 (show r.read? = some request from hread)
  rw [show r.id = s.mergeRequests.nextId from hid]
  exact ⟨rfl, rfl, List.mem_map_of_mem (Table.mem_insert.2 (.inr rfl))⟩

/-! ## Moving -/

theorem moves_of_follow {repoId : Int} {t : Transition} {actor : Option String} {m : MergeRequest}
    (ht : t ∈ Transition.ofKind .mergeRequest)
    (h : (Lifecycle.follow StoredMergeRequest t now repoId id actor).Returns s m s') :
    Moves id s s' := by
  obtain ⟨ha, hany, rfl, -⟩ := Lifecycle.returns_follow h
  obtain ⟨r, hr, hsource⟩ := List.any_eq_true.1 hany
  obtain ⟨hat, hstate⟩ := Bool.and_eq_true_iff.1 hsource
  have hid : r.id = id := (Ticket.isAt_iff.1 hat).2
  have written := Transition.setAll_mergeRequest ht actor now r (Transition.Admits.of_hasActor ha)
  refine ⟨r, hr, _, Table.mem_modify.2 ⟨r, hr, if_pos hsource⟩, hid, ?_, ?_⟩
  · rw [written]
    exact hid
  · rw [written, show r.state = t.source from eq_of_beq hstate]
    exact Transition.target_ne_source ht

theorem moves_of_apply {repoId : Int} {name : String} {actor : Option String} {m : MergeRequest}
    (h : (Lifecycle.apply StoredMergeRequest now repoId id name actor).Returns s m s') :
    Moves id s s' := by
  unfold Lifecycle.apply at h
  split at h
  · exact moves_of_follow (List.mem_of_find?_eq_some ‹_›) h
  · exact absurd h returns_fail

theorem moves_of_markMerged {repoId : Int} {actor : String} (h : s.OpenAt repoId id) :
    Moves id s (Lifecycle.markMerged now repoId id actor s) := by
  obtain ⟨r, hr, hrepo, hid, hopen⟩ := h
  have hat : StoredMergeRequest.isOpenAt repoId id r = true :=
    Bool.and_eq_true_iff.2 ⟨Ticket.isAt_iff.2 ⟨hrepo, hid⟩, beq_iff_eq.2 hopen⟩
  refine ⟨r, hr, _, Table.mem_modify.2 ⟨r, hr, if_pos hat⟩, hid, hid, ?_⟩
  rw [hopen]
  exact fun h => absurd (show "merged" = "open" from h) (by decide)

end Store

variable {τ : Type}

namespace Event

/-- The event has added a row to a table, under the next id. -/
def Adds (t : TableName) (id : Int) (e : Event τ) : Prop :=
  e.before.Adds t id e.after

/-- The event has taken a merge request from one state to another. -/
def Moves (id : Int) (e : Event τ) : Prop :=
  e.before.Moves id e.after

end Event

/-! ## Operations -/

namespace Operation

/-- The row that an operation has created if it returns this answer: its table and its id. -/
def created? : Operation τ → Answer → Option (TableName × Int)
  | .registerRepository .., .repository r => some (.repos, r.id)
  | .createIssue .., .issue i => some (.issues, i.id)
  | .createMergeRequest .., .mergeRequest m => some (.mergeRequests, m.id)
  | _, _ => none

/-- The merge request that an operation takes from one state to another. -/
def movedId? : Operation τ → Option Int
  | .closeMergeRequest _ id _ => some id
  | .reopenMergeRequest _ id => some id
  | .merge _ id _ _ => some id
  | _ => none

end Operation

namespace Workflow

open Forge.Action

variable {j : Journal} {repo : String}

theorem noted_registerRepository (name path : String) :
    (Workflow.registerRepository name path : Action τ Repository).Obeys Terms.noted
      (fun r j => j.Committed (Store.Adds .repos r.id)) (fun _ _ => True) j := by
  refine obeys_bind.2 ((noted_session (P := fun p => Store.Adds .repos p.2.id) ?_).mono ?_
    fun _ _ h => h)
  · intro now p s s' _ hr
    obtain ⟨id, s₁, hc, hr⟩ := returns_bind.1 hr
    obtain ⟨r, s₂, hn, hp⟩ := returns_bind.1 hr
    obtain ⟨rfl, rfl⟩ := returns_pure.1 hp
    exact Store.adds_of_registered hc hn
  · intro p j hp
    refine obeys_bind.2 (obeys_log.2 ⟨trivial, ?_⟩)
    rintro _ _ ⟨s, s', -, -, rfl⟩
    exact obeys_pure.2 hp

theorem noted_createIssue (actor : Option String) (title : String) (description : Option String) :
    (Workflow.createIssue repo actor title description : Action τ Issue).Obeys Terms.noted
      (fun i j => j.Committed (Store.Adds .issues i.id)) (fun _ _ => True) j := by
  refine noted_bind fun author j => noted_sessionOn fun now r i s s' _ hr => ?_
  obtain ⟨id, s₁, hc, hg⟩ := returns_bind.1 hr
  exact Store.adds_of_createIssue hc hg

theorem noted_createMergeRequest (actor : Option String) (title source target : String)
    (description : Option String) :
    (Workflow.createMergeRequest repo actor title source target description :
      Action τ MergeRequest).Obeys Terms.noted
      (fun m j => j.Committed (Store.Adds .mergeRequests m.id)) (fun _ _ => True) j := by
  refine noted_bind fun author j => noted_bind fun _ j => noted_bind fun _ j => ?_
  split
  · exact obeys_bind.2 (obeys_throw.2 trivial)
  · refine noted_bind fun r j => noted_bind fun _ j => noted_bind fun _ j => noted_bind fun _ j =>
      noted_session fun now m s s' _ hr => ?_
    obtain ⟨id, s₁, hc, hg⟩ := returns_bind.1 hr
    exact Store.adds_of_createMergeRequest hc hg

theorem noted_followTransition (id : Int) (name : String) (actor : Option String) :
    (followTransition StoredMergeRequest repo id name actor : Action τ MergeRequest).Obeys
      Terms.noted (fun _ j => j.Committed (Store.Moves id)) (fun _ _ => True) j := by
  refine noted_then (noted_sessionOn (P := fun _ => Store.Moves id) fun now r p s s' _ hr => ?_)
  obtain ⟨m, s₁, ha, hp⟩ := returns_bind.1 hr
  obtain ⟨-, rfl⟩ := returns_pure.1 hp
  exact Store.moves_of_apply ha

end Workflow

namespace Operation

open Forge.Action Workflow

variable [TimeScale τ]

/-- An operation that returns what it has created has committed its row. -/
theorem noted_created (policy : Policy τ) (op : Operation τ) :
    (op.action policy).Obeys Terms.noted
      (fun a j => ∀ t id, op.created? a = some (t, id) → j.Committed (Store.Adds t id))
      (fun _ _ => True) {} := by
  cases op with
  | registerRepository name path =>
    refine obeys_map.2 ((noted_registerRepository name path).mono ?_ fun _ _ h => h)
    intro r j hj t id h
    cases h
    exact hj
  | createIssue repo actor title description =>
    refine obeys_map.2 ((noted_createIssue actor title description).mono ?_ fun _ _ h => h)
    intro i j hj t id h
    cases h
    exact hj
  | createMergeRequest repo actor title source target description =>
    refine obeys_map.2
      ((noted_createMergeRequest actor title source target description).mono ?_ fun _ _ h => h)
    intro m j hj t id h
    cases h
    exact hj
  | _ =>
    refine (noted_any _).mono ?_ fun _ _ h => h
    intro a j _ t id h
    cases h

/-- An operation that returns after it has closed or reopened a merge request has committed the
change. -/
theorem noted_moved (policy : Policy τ) (op : Operation τ) :
    (op.action policy).Obeys Terms.noted
      (fun _ j => op.mergeId? = none → ∀ id, op.movedId? = some id → j.Committed (Store.Moves id))
      (fun _ _ => True) {} := by
  cases op with
  | closeMergeRequest repo id actor =>
    refine obeys_map.2 ((noted_bind fun closer j =>
      noted_followTransition id "close" (some closer)).mono ?_ fun _ _ h => h)
    intro m j hj _ id h
    cases h
    exact hj
  | reopenMergeRequest repo id =>
    refine obeys_map.2 ((noted_followTransition id "reopen" none).mono ?_ fun _ _ h => h)
    intro m j hj _ id h
    cases h
    exact hj
  | merge repo id actor limit =>
    refine (noted_any _).mono ?_ fun _ _ h => h
    intro a j _ h
    cases h
  | _ =>
    refine (noted_any _).mono ?_ fun _ _ h => h
    intro a j _ _ id h
    cases h

end Operation

/-! ## Merges -/

/-- A merge that has written has committed the change of its merge request. -/
theorem Merge.moved_note {directory : Option String} {β : Type} {r : Request τ β} {b : β}
    {s s' : Store} {id : Int} {j : Journal} (hm : Merge.May directory id j r)
    (hx : Exchange r b s s') (h : j.wrote = true → j.Committed (Store.Moves id))
    (hw : (j.note r b s s').wrote = true) : (j.note r b s s').Committed (Store.Moves id) := by
  rcases Merge.wrote_note hm hx hw with hwrote | ⟨repo, now, actor, -, -, hopen, rfl⟩
  · exact (h hwrote).note
  · rcases j.commits_note r b s (Lifecycle.markMerged now repo.id id actor s) with ⟨-, heq⟩ | heq
    · exact (h (heq.symm.trans hw)).note
    · refine ⟨(s, Lifecycle.markMerged now repo.id id actor s), ?_,
        Store.moves_of_markMerged hopen⟩
      rw [heq]
      exact List.mem_cons_self

namespace World

variable [TimeScale τ] {directory : Option String} {w : World τ} {i : Nat} {c : Call τ} {id : Int}

theorem Reachable.committed_of_wrote (h : w.Reachable directory) (hc : w.calls[i]? = some c)
    (hm : c.operation.mergeId? = some id) (hw : c.journal.wrote = true) :
    c.journal.Committed (Store.Moves id) := by
  obtain ⟨u, run⟩ := h
  induction run generalizing i c with
  | refl => simp [fresh] at hc
  | tail hrun hs ih =>
    rcases hs.call_cases hc with hold | ⟨policy, -, -, -, hj, -⟩ |
      ⟨c₀, β, r, next, b, hold, hr, hx, -, rfl⟩
    · exact ih hold hm hw
    · rw [hj] at hw
      cases hw
    · exact Merge.moved_note ((Reachable.sound ⟨u, hrun⟩).may hold hr hm) hx (ih hold hm) hw

/-- What a call has created was added by one of its events. -/
theorem Reachable.added (h : w.Reachable directory) (hc : w.calls[i]? = some c) {a : Answer}
    (hdone : c.rest = .done (.ok a)) {t : TableName}
    (hcreated : c.operation.created? a = some (t, id)) :
    ∃ e ∈ w.log, e.call = i ∧ e.Adds t id :=
  h.chronicle.event hc (h.noted Operation.noted_created hc hdone t id hcreated)

/-- A merge request that a call has closed, reopened or merged was moved by one of its events. -/
theorem Reachable.moved (h : w.Reachable directory) (hc : w.calls[i]? = some c) {a : Answer}
    (hdone : c.rest = .done (.ok a)) (hmoved : c.operation.movedId? = some id) :
    ∃ e ∈ w.log, e.call = i ∧ e.Moves id := by
  refine h.chronicle.event hc ?_
  cases hm : c.operation.mergeId? with
  | none => exact h.noted Operation.noted_moved hc hdone hm id hmoved
  | some id' =>
    obtain ⟨name, actor, limit, hop⟩ := Operation.eq_merge hm
    obtain rfl : id' = id := by
      rw [hop] at hmoved
      exact Option.some.inj hmoved
    exact h.committed_of_wrote hc hm (h.sound.wrote hc hm hdone)

end World

end Forge
