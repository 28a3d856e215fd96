import Forge.Proofs.Reachable
import Forge.Proofs.Replay

/-!
# The audit fields agree with the state

Who closed or merged a ticket, and when, stands in columns of its own beside the state, and nothing
in the tables ties these together: every transition writes the columns that its table entry names.
`Store.Audited` is what holds all the same: the fields of a state are there exactly while the ticket
is in it. An edit keeps all of them, closing starts from an open ticket and fills a pair that was
empty, reopening empties it, and merging fills the other pair.
-/

namespace Forge

/-! ## Rows -/

/-- The audit fields of an issue agree with its state. -/
inductive IssueIn.Audited (r : StoredIssue) : Prop
  | opened (state : r.state = "open") (closedBy : r.closedBy = none) (closedAt : r.closedAt = none)
  | closed {closer : String} (state : r.state = "closed") (closedBy : r.closedBy = some closer)
      (named : Text.allBlank closer = false) (closedAt : r.closedAt ≠ none)

/-- The audit fields of a merge request agree with its state. -/
inductive MergeRequestIn.Audited (r : StoredMergeRequest) : Prop
  | opened (state : r.state = "open") (mergedBy : r.mergedBy = none) (mergedAt : r.mergedAt = none)
      (closedBy : r.closedBy = none) (closedAt : r.closedAt = none)
  | closed (state : r.state = "closed") (closedBy : r.closedBy ≠ none)
      (closedAt : r.closedAt ≠ none) (mergedBy : r.mergedBy = none) (mergedAt : r.mergedAt = none)
  | merged (state : r.state = "merged") (mergedBy : r.mergedBy ≠ none)
      (mergedAt : r.mergedAt ≠ none) (closedBy : r.closedBy = none) (closedAt : r.closedAt = none)

/-- All tickets have audit fields that agree with their states. -/
structure Store.Audited (s : Store) : Prop where
  issues : ∀ r ∈ s.issues.rows, r.Audited
  mergeRequests : ∀ r ∈ s.mergeRequests.rows, r.Audited

theorem IssueIn.Audited.of_open {r : StoredIssue} (h : r.Audited) (hs : r.state = "open") :
    r.closedBy = none ∧ r.closedAt = none := by
  cases h with
  | opened _ closedBy closedAt => exact ⟨closedBy, closedAt⟩
  | closed state =>
    rw [hs] at state
    exact absurd state (by decide)

theorem MergeRequestIn.Audited.of_open {r : StoredMergeRequest} (h : r.Audited)
    (hs : r.state = "open") :
    r.mergedBy = none ∧ r.mergedAt = none ∧ r.closedBy = none ∧ r.closedAt = none := by
  cases h with
  | opened _ mergedBy mergedAt closedBy closedAt => exact ⟨mergedBy, mergedAt, closedBy, closedAt⟩
  | closed state =>
    rw [hs] at state
    exact absurd state (by decide)
  | merged state =>
    rw [hs] at state
    exact absurd state (by decide)

theorem MergeRequestIn.Audited.of_closed {r : StoredMergeRequest} (h : r.Audited)
    (hs : r.state = "closed") : r.mergedBy = none ∧ r.mergedAt = none := by
  cases h with
  | closed _ _ _ mergedBy mergedAt => exact ⟨mergedBy, mergedAt⟩
  | opened state =>
    rw [hs] at state
    exact absurd state (by decide)
  | merged state =>
    rw [hs] at state
    exact absurd state (by decide)

/-! ## Changes -/

variable {now : Int} {c : Change}

theorem Change.audited_onIssue {r : StoredIssue} (signed : c.Signed) (h : r.Audited) :
    (c.onIssue now r).Audited := by
  cases c with
  | edit title description =>
    cases h with
    | opened state closedBy closedAt => exact .opened state closedBy closedAt
    | closed state closedBy named closedAt => exact .closed state closedBy named closedAt
  | close actor =>
    have named : Text.allBlank actor = false := Text.Trimmed.not_allBlank signed
    exact .closed rfl rfl named nofun
  | reopen => exact .opened rfl rfl rfl

/-- Closing and reopening leave the fields of a merge alone, which are empty in the state that
either starts from. -/
theorem Change.audited_onMergeRequest {r : StoredMergeRequest} (hc : c.startsFrom r.state = true)
    (h : r.Audited) : (c.onMergeRequest now r).Audited := by
  cases c with
  | edit title description =>
    cases h with
    | opened state mergedBy mergedAt closedBy closedAt =>
      exact .opened state mergedBy mergedAt closedBy closedAt
    | closed state closedBy closedAt mergedBy mergedAt =>
      exact .closed state closedBy closedAt mergedBy mergedAt
    | merged state mergedBy mergedAt closedBy closedAt =>
      exact .merged state mergedBy mergedAt closedBy closedAt
  | close actor =>
    obtain ⟨mergedBy, mergedAt, -⟩ := h.of_open (eq_of_beq hc)
    exact .closed rfl nofun nofun mergedBy mergedAt
  | reopen =>
    obtain ⟨mergedBy, mergedAt⟩ := h.of_closed (eq_of_beq hc)
    exact .opened rfl mergedBy mergedAt rfl rfl

theorem StoredMergeRequest.audited_merged {actor : String} {r : StoredMergeRequest}
    (hs : r.state = "open") (h : r.Audited) : (StoredMergeRequest.merged now actor r).Audited := by
  obtain ⟨-, -, closedBy, closedAt⟩ := h.of_open hs
  exact .merged rfl nofun nofun closedBy closedAt

/-! ## Stores -/

variable {s s' : Store}

theorem Store.Audited.empty (u : Text.Surrogates) : (Store.empty u).Audited :=
  ⟨fun _ h => absurd h List.not_mem_nil, fun _ h => absurd h List.not_mem_nil⟩

theorem TicketEffect.audited {repoId : Int} (h : TicketEffect now repoId s s') (hs : s.Audited) :
    s'.Audited := by
  cases h with
  | nothing => exact hs
  | issueAdded _ =>
    exact { hs with issues := Table.forall_insert hs.issues (.opened rfl rfl rfl) }
  | issueChanged signed _ =>
    refine { hs with issues := Table.forall_modify hs.issues fun r _ _ hr => ?_ }
    exact Change.audited_onIssue signed hr
  | issueRemoved _ => exact { hs with issues := Table.forall_remove hs.issues }
  | requestAdded _ =>
    exact { hs with
      mergeRequests := Table.forall_insert hs.mergeRequests (.opened rfl rfl rfl rfl rfl) }
  | requestChanged _ _ =>
    refine { hs with mergeRequests := Table.forall_modify hs.mergeRequests fun r _ hat hr => ?_ }
    exact Change.audited_onMergeRequest (Bool.and_eq_true_iff.1 hat).2 hr
  | requestMerged _ =>
    refine { hs with mergeRequests := Table.forall_modify hs.mergeRequests fun r _ hat hr => ?_ }
    exact StoredMergeRequest.audited_merged (eq_of_beq (Bool.and_eq_true_iff.1 hat).2) hr
  | requestRemoved => exact { hs with mergeRequests := Table.forall_remove hs.mergeRequests }
  | dependencyAdded _ _ _ _ => exact { hs with }
  | dependencyRemoved _ _ => exact { hs with }

theorem Effect.audited (h : Effect now s s') (hs : s.Audited) : s'.Audited := by
  cases h with
  | registered _ _ _ => exact { hs with }
  | forgotten _ => exact ⟨Table.forall_remove hs.issues, Table.forall_remove hs.mergeRequests⟩
  | onTickets effect => exact effect.audited hs

namespace World

variable {τ : Type} [TimeScale τ] {directory : Option String} {w : World τ}

theorem Reachable.audited (h : w.Reachable directory) : w.store.Audited :=
  h.store_induction .empty fun _ _ _ _ hs he => he.audited hs

/-- **The audit fields always agree with the state**, in every world that is reached from the empty
store by any calls in any interleaving. -/
theorem audit_agrees_with_state (h : w.Reachable directory) : w.store.Audited :=
  h.audited

/-- A schedule in which issues are closed, reopened and closed again, a merge request is closed and
another one is merged, and an issue is closed while the merge runs. -/
def closings : List (Move Binary64) :=
  [.call (.registerRepository "one" "/one"), .serve 0 50,
    .call (.createIssue "one" (some "ann") "First" (some "")), .serve 1 50,
    .call (.createIssue "one" (some "ann") "Second" (some "")), .serve 2 50,
    .call (.createMergeRequest "one" (some "ann") "Add a feature" "feature" "main" (some "")),
    .serve 3 50,
    .call (.createMergeRequest "one" (some "ann") "Fix it" "fix" "main" (some "")), .serve 4 50,
    .call (.closeIssue "one" 1 (some " bob ")), .serve 5 50,
    .call (.reopenIssue "one" 1), .serve 6 50,
    .call (.closeMergeRequest "one" 1 (some "bob")), .serve 7 50,
    .call (.merge "one" 2 (some "eve") none), .serve 8 9,
    .call (.closeIssue "one" 2 (some "eve")), .serve 9 50,
    .serve 8 50]

/-- The world after it. -/
def closingsWorld : World Binary64 :=
  (fresh .empty).replay closings

/-- The law at a world with tickets in all states. -/
theorem audit_agrees_of_closings : closingsWorld.Reachable none ∧
    (closingsWorld.store.issues.rows.map fun r => (r.state, r.closedBy, r.closedAt)) =
      [("open", none, none), ("closed", some "eve", some 0)] ∧
    (closingsWorld.store.mergeRequests.rows.map fun r => (r.state, r.mergedBy, r.closedBy)) =
      [("closed", none, some "bob"), ("merged", some "eve", none)] ∧
    closingsWorld.store.Audited := by
  have reached : closingsWorld.Reachable none := replay_reachable closings
  exact ⟨reached, by decide +kernel, by decide +kernel, audit_agrees_with_state reached⟩

end World

end Forge
