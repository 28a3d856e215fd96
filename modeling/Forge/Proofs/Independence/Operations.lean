import Forge.Proofs.Dependency.Answers
import Forge.Proofs.Independence.Steered

/-!
# Independent operations

An operation on tickets or dependencies names the tickets that it is about, by their kind, their
repository and their id. Operations that name no ticket in common can be carried out in either
order: each ends in the same, with a value or with an error, and the tables are the same afterwards,
but for the ids of dependencies, which go by the order in which they are added
(`World.independent_commute`). That holds of deletions too, which reach dependencies at issues that
are not named.
-/

namespace Forge

open Transaction

variable {τ : Type} {s s' : Store} {now : Int} {alone : Alone τ}

/-! ## Actions in two stores -/

/-- Every transaction is run at this time of day. -/
def Alone.Steady (alone : Alone τ) (now : Int) : Prop :=
  ∀ {α : Type} (write : Bool) (limit : Option τ) (body : Int → Transaction α) (s : Store),
    alone.answer (.transact write limit body) s = (body now).commit s

namespace Action

variable {α β : Type} {x : Action τ α} {k : α → Action τ β} {reach : Reach}

/-- What an action ends in for a client that is alone, and the store that it leaves. -/
def outcome (x : Action τ α) (alone : Alone τ) (s : Store) : Except Error α × Store :=
  x.run.run alone.answer s

theorem outcome_bind : (x >>= k).outcome alone s =
    match x.outcome alone s with
    | (.ok a, s') => (k a).outcome alone s'
    | (.error e, s') => (.error e, s') := by
  unfold outcome
  rw [run_bind]
  rcases Program.run alone.answer x.run s with ⟨_ | _, s'⟩ <;> rfl

theorem outcome_log {level : Level} {part : Part} {text : String} :
    (log level part text).outcome alone s = (.ok (), s) :=
  Prod.ext rfl (alone.fair (.log ⟨level, part, text⟩) s)

theorem outcome_session {write : Bool} {body : Int → Transaction α} (steady : alone.Steady now) :
    (Workflow.session write body : Action τ α).outcome alone s =
      (((body now).commit s).1.mapError Error.classified, ((body now).commit s).2) := by
  refine outcome_bind.trans ?_
  rw [show (attempt (.transact write none body)).outcome alone s =
      (.ok ((body now).commit s).1, ((body now).commit s).2) by rw [← steady write none]; rfl]
  cases ((body now).commit s).1 <;> rfl

/-- In whatever store, the action ends in the same and leaves the store. -/
def Idle (alone : Alone τ) (x : Action τ α) : Prop :=
  ∃ e, ∀ s, x.outcome alone s = (e, s)

/-- The action ends in the same in both stores and makes the same patch of them, within the
reach. -/
def Steered (reach : Reach) (alone : Alone τ) (x : Action τ α) (s s' : Store) : Prop :=
  ∃ (e : Except Error α) (P : Patch), P.Within reach s ∧
    x.outcome alone s = (e, P.on s) ∧ x.outcome alone s' = (e, P.on s')

theorem Idle.steered (h : x.Idle alone) : x.Steered reach alone s s' := by
  obtain ⟨e, ends⟩ := h
  refine ⟨e, .idle, Patch.within_idle reach s, ?_, ?_⟩ <;> rw [ends, Patch.on_idle]

theorem Steered.bind_idle (h : x.Steered reach alone s s') (idle : ∀ a, (k a).Idle alone) :
    (x >>= k).Steered reach alone s s' := by
  obtain ⟨e, P, within, left, right⟩ := h
  cases e with
  | error e => exact ⟨.error e, P, within, by rw [outcome_bind, left], by rw [outcome_bind, right]⟩
  | ok a =>
    obtain ⟨e, ends⟩ := idle a
    refine ⟨e, P, within, ?_, ?_⟩
    · rw [outcome_bind, left]
      exact ends _
    · rw [outcome_bind, right]
      exact ends _

theorem idle_pure {a : α} : (pure a : Action τ α).Idle alone :=
  ⟨.ok a, fun _ => rfl⟩

theorem idle_throw {e : Error} : (throw e : Action τ α).Idle alone :=
  ⟨.error e, fun _ => rfl⟩

theorem idle_log {level : Level} {part : Part} {text : String} :
    (log level part text).Idle alone :=
  ⟨.ok (), fun _ => outcome_log⟩

theorem Idle.bind (h : x.Idle alone) (idle : ∀ a, (k a).Idle alone) : (x >>= k).Idle alone := by
  obtain ⟨e, ends⟩ := h
  cases e with
  | error e => exact ⟨.error e, fun s => by rw [outcome_bind, ends]⟩
  | ok a =>
    obtain ⟨e, ends'⟩ := idle a
    exact ⟨e, fun s => by rw [outcome_bind, ends]; exact ends' s⟩

theorem Steered.map {f : α → β} (h : x.Steered reach alone s s') :
    (f <$> x).Steered reach alone s s' :=
  h.bind_idle fun _ => idle_pure

theorem steered_sessionOn (steady : alone.Steady now) (same : SameTickets reach s s') {write : Bool}
    {name : String} {body : Int → Repository → Transaction α}
    (h : ∀ r ∈ s.repos.rows, Repository.cleanName name = .ok r.name →
      (body now r).Steered reach s s') :
    (Workflow.sessionOn write name body : Action τ α).Steered reach alone s s' := by
  have steered : Transaction.Steered reach (do
      let r ← Store.repositoryNamed name
      body now r) s s' := by
    refine .after (Store.alike_repositoryNamed same name)
      (fun _ _ _ hr => (Store.found_of_returns hr).2.2) fun r hr => ?_
    obtain ⟨mem, clean, -⟩ := Store.found_of_returns hr
    exact h r mem clean
  obtain ⟨e, P, within, left, right⟩ := steered.commit
  refine ⟨e.mapError Error.classified, P, within, ?_, ?_⟩
  · exact (outcome_session steady).trans (by rw [left])
  · exact (outcome_session steady).trans (by rw [right])

end Action

/-! ## Tickets and dependencies -/

section Workflow

open Forge.Action

variable {reach : Reach} (steady : alone.Steady now) {repo : String}

include steady

section Tickets

variable {ρ ε : Type} [Ticket ρ ε] [PatchedTicket ρ] {id : Int}
  (same : SameTickets reach s s')
  (near : ∀ r ∈ s.repos.rows, Repository.cleanName repo = .ok r.name →
    reach (Ticket.kind ρ) r.id id)

include same near

theorem Workflow.steered_updateTicket (title : String) (description : Option String) :
    (updateTicket ρ repo id title description : Action τ ε).Steered reach alone s s' := by
  refine steered_sessionOn steady same fun r hr clean => ?_
  refine (Ticket.steered_update same (near r hr clean) title description).before
    (fun _ _ _ _ h => (Ticket.returns_get.1 h).2.2.2.1) fun _ P within => ?_
  have moved := same.on within
  exact Ticket.alike_get moved.withdrawn (PatchedTicket.rows moved (near r hr clean))

variable [LawfulTicket ρ]

theorem Workflow.steered_followTransition (name : String) (actor : Option String) :
    (followTransition ρ repo id name actor : Action τ ε).Steered reach alone s s' := by
  refine (steered_sessionOn steady same fun r hr clean => ?_).bind_idle fun ⟨repoId, e⟩ => ?_
  · exact (Lifecycle.steered_apply same (near r hr clean) name actor).before
      (fun _ _ _ _ h => (returns_pure.1 h).2) fun _ _ _ => rfl
  · refine Idle.bind ?_ fun _ => idle_pure
    unfold Merge.logTransition
    split
    · exact idle_log
    · exact idle_pure

theorem Workflow.steered_closeTicket (actor : Option String) :
    (closeTicket ρ repo id actor : Action τ ε).Steered reach alone s s' := by
  unfold closeTicket
  cases cleanActor actor with
  | ok closer => exact steered_followTransition steady same near "close" (some closer)
  | error e => exact (idle_throw (e := e)).steered

end Tickets

theorem Workflow.steered_addDependency {a b : Int} (agree : Agree reach s s')
    (near : ∀ r ∈ s.repos.rows, Repository.cleanName repo = .ok r.name →
      reach .issue r.id a ∧ reach .issue r.id b) :
    (addDependency repo a b : Action τ Dependency).Steered reach alone s s' := by
  refine (steered_sessionOn steady agree.toSameTickets fun r hr clean => ?_).bind_idle fun d => ?_
  · obtain ⟨first, second⟩ := near r hr clean
    exact Store.steered_addDependency agree first second
  · exact idle_log.bind fun _ => idle_pure

end Workflow

/-! ## Operations -/

namespace Operation

/-- The tickets that an operation is about, by kind and id, if it changes tickets that are there or
the dependencies between them. -/
def subjects? : Operation τ → Option (List (Kind × Int))
  | .updateIssue _ id .. | .deleteIssue _ id | .closeIssue _ id _ | .reopenIssue _ id =>
    some [(.issue, id)]
  | .addDependency _ a b | .removeDependency _ a b => some [(.issue, a), (.issue, b)]
  | .updateMergeRequest _ id .. | .deleteMergeRequest _ id | .closeMergeRequest _ id _
  | .reopenMergeRequest _ id => some [(.mergeRequest, id)]
  | _ => none

/-- The same tickets, with the recorded name of the repository that the operation is called with. -/
def subjects (op : Operation τ) : List (Kind × String × Int) :=
  match op.key?, op.subjects? with
  | some key, some tickets => tickets.map fun (kind, id) => (kind, key, id)
  | _, _ => []

/-- The reach of an operation: its tickets, by the id of the repository in the store. -/
def reach (op : Operation τ) (s : Store) : Reach := fun kind repoId id =>
  ∃ r ∈ s.repos.rows, r.id = repoId ∧ (kind, r.name, id) ∈ op.subjects

/-- The operations name no ticket in common. -/
def Independent (a b : Operation τ) : Prop :=
  ∀ ticket ∈ a.subjects, ticket ∉ b.subjects

instance (a b : Operation τ) : Decidable (a.Independent b) :=
  inferInstanceAs (Decidable (∀ ticket ∈ a.subjects, ticket ∉ b.subjects))

/-- Whichever repository the operation finds, its tickets there are within the reach. -/
theorem near_subject {op : Operation τ} {text : String} {tickets : List (Kind × Int)}
    {kind : Kind} {id : Int} (named : op.text? = some text) (about : op.subjects? = some tickets)
    (mem : (kind, id) ∈ tickets) : ∀ r ∈ s.repos.rows, Repository.cleanName text = .ok r.name →
      op.reach s kind r.id id := by
  intro r there clean
  refine ⟨r, there, rfl, ?_⟩
  have key : op.key? = some r.name := by
    rw [key?, named, Option.bind_some, clean]
    rfl
  simp only [subjects, key, about]
  exact List.mem_map.2 ⟨_, mem, rfl⟩

/-- Operations that name no ticket in common have disjoint reaches: no two repositories share an
id. -/
theorem Independent.apart {a b : Operation τ} (h : a.Independent b) (hs : s.WellFormed) :
    (a.reach s).Apart (b.reach s) := by
  rintro kind repoId id ⟨r, hr, hid, mem⟩ ⟨r', hr', hid', mem'⟩
  obtain rfl := hs.repos.eq_of_id_eq hr hr' (hid.trans hid'.symm)
  exact h _ mem mem'

variable [TimeScale τ] (policy : Policy τ)

/-- **Footprint.** An operation on tickets depends on nothing but what is within its reach, and
changes nothing else. -/
theorem steered (steady : alone.Steady now) {op : Operation τ} (about : op.subjects?.isSome = true)
    (agree : Agree (op.reach s) s s') : (op.action policy).Steered (op.reach s) alone s s' := by
  have same := agree.toSameTickets
  cases op with
  | updateIssue repo id title description =>
    exact (Workflow.steered_updateTicket steady same (near_subject rfl rfl List.mem_cons_self)
      title description).map
  | closeIssue repo id actor =>
    exact (Workflow.steered_closeTicket steady same (near_subject rfl rfl List.mem_cons_self)
      actor).map
  | reopenIssue repo id =>
    exact (Workflow.steered_followTransition steady same
      (near_subject rfl rfl List.mem_cons_self) "reopen" none).map
  | deleteIssue repo id =>
    exact (Action.steered_sessionOn steady same fun r hr clean =>
      Store.steered_deleteIssue same (near_subject rfl rfl List.mem_cons_self r hr clean)).map
  | addDependency repo a b =>
    refine (Workflow.steered_addDependency steady agree fun r hr clean => ⟨?_, ?_⟩).map
    · exact near_subject rfl rfl List.mem_cons_self r hr clean
    · exact near_subject rfl rfl (List.mem_cons_of_mem _ List.mem_cons_self) r hr clean
  | removeDependency repo a b =>
    refine (Action.steered_sessionOn steady same fun r hr clean =>
      Store.steered_removeDependency agree ?_ ?_).map
    · exact near_subject rfl rfl List.mem_cons_self r hr clean
    · exact near_subject rfl rfl (List.mem_cons_of_mem _ List.mem_cons_self) r hr clean
  | updateMergeRequest repo id title description =>
    exact (Workflow.steered_updateTicket steady same (near_subject rfl rfl List.mem_cons_self)
      title description).map
  | closeMergeRequest repo id actor =>
    exact (Workflow.steered_closeTicket steady same (near_subject rfl rfl List.mem_cons_self)
      actor).map
  | reopenMergeRequest repo id =>
    exact (Workflow.steered_followTransition steady same
      (near_subject rfl rfl List.mem_cons_self) "reopen" none).map
  | deleteMergeRequest repo id =>
    exact (Action.steered_sessionOn steady same fun r hr clean =>
      Store.steered_deleteMergeRequest same
        (near_subject rfl rfl List.mem_cons_self r hr clean)).map
  | _ => cases about

/-- In either order both operations end in the same, and what is stored afterwards is the same, if
the ids of dependencies are not counted. -/
structure Commute (policy : Policy τ) (alone : Alone τ) (s : Store) (a b : Operation τ) :
    Prop where
  first : (a.outcome policy alone (b.outcome policy alone s).2).1 = (a.outcome policy alone s).1
  second : (b.outcome policy alone (a.outcome policy alone s).2).1 = (b.outcome policy alone s).1
  stores : (b.outcome policy alone (a.outcome policy alone s).2).2.SameUpToIds
    (a.outcome policy alone (b.outcome policy alone s).2).2

/-- Each operation makes the patch that it would make by itself, whether the other has come first
or not, and the patches can be made in either order. -/
theorem commute (steady : alone.Steady now) (hs : s.WellFormed) (hr : s.Related)
    {a b : Operation τ} (ha : a.subjects?.isSome = true) (hb : b.subjects?.isSome = true)
    (independent : a.Independent b) : Commute policy alone s a b := by
  have apart := independent.apart hs
  obtain ⟨x, P, within, left, -⟩ := steered policy steady ha (.refl _ s)
  obtain ⟨y, Q, within', right, right'⟩ := steered policy steady hb (within.agree hs hr apart)
  obtain ⟨x', P', within, same, left'⟩ :=
    steered policy steady ha (within'.agree hs hr apart.symm)
  -- The patch of the first operation is one and the same, with or without the second.
  obtain ⟨rfl, patched⟩ := Prod.mk.inj (left.symm.trans same)
  rw [patched] at left right'
  have left : a.outcome policy alone s = (x, P'.on s) := left
  have right : b.outcome policy alone s = (y, Q.on s) := right
  have left' : a.outcome policy alone (Q.on s) = (x, P'.on (Q.on s)) := left'
  have right' : b.outcome policy alone (P'.on s) = (y, Q.on (P'.on s)) := right'
  refine ⟨?_, ?_, ?_⟩ <;> rw [left, right]
  · rw [left']
  · rw [right']
  · rw [left', right']
    exact within'.comm hs within apart.symm

end Operation

namespace World

variable [TimeScale τ] {directory : Option String} {faults : Error → Prop} {w : World τ}

/-- **Independent operations commute**, in every world and for clients that are alone at one time
of day. -/
theorem independent_commute (h : w.Attained directory faults) (policy : Policy τ)
    (steady : alone.Steady now) {a b : Operation τ} (ha : a.subjects?.isSome = true)
    (hb : b.subjects?.isSome = true) (independent : a.Independent b) :
    Operation.Commute policy alone w.store a b :=
  Operation.commute policy steady h.orderly.wellFormed h.orderly.related ha hb independent

/-- The world of a repository with four issues, the first of which depends on the second. -/
def linkedIssues : World Binary64 :=
  (fresh .empty).replay [.call (.registerRepository "one" "/one"), .serve 0 50,
    .call (.createIssue "one" (some "ann") "First" (some "")), .serve 1 50,
    .call (.createIssue "one" (some "ann") "Second" (some "")), .serve 2 50,
    .call (.createIssue "one" (some "ann") "Third" (some "")), .serve 3 50,
    .call (.createIssue "one" (some "ann") "Fourth" (some "")), .serve 4 50,
    .call (.addDependency "one" 1 2), .serve 5 50]

/-- The ids of the dependencies, each with the issue that depends, after two operations. -/
def linksAfter (first second : Operation Binary64) (w : World Binary64) : List (Int × Int) :=
  (second.outcome ⟨none, none, none⟩ .hoped (w.ask first).2).2.dependencies.rows.map fun d =>
    (d.id, d.issueId)

/-- The law at both ends of one dependency, which goes with whichever is deleted first, and at two
new dependencies, whose ids show the order in which they were added. -/
theorem independent_commute_of_linkedIssues : linkedIssues.Reachable none ∧
    (Alone.hoped : Alone Binary64).Steady 0 ∧
    Operation.Commute (⟨none, none, none⟩ : Policy Binary64) .hoped linkedIssues.store
      (.deleteIssue "one" 1) (.deleteIssue "One.git" 2) ∧
    linkedIssues.linksAfter (.deleteIssue "one" 1) (.deleteIssue "One.git" 2) = [] ∧
    Operation.Commute (⟨none, none, none⟩ : Policy Binary64) .hoped linkedIssues.store
      (.addDependency "one" 1 3) (.addDependency "one" 2 4) ∧
    linkedIssues.linksAfter (.addDependency "one" 1 3) (.addDependency "one" 2 4) =
      [(1, 1), (2, 1), (3, 2)] ∧
    linkedIssues.linksAfter (.addDependency "one" 2 4) (.addDependency "one" 1 3) =
      [(1, 1), (2, 2), (3, 1)] := by
  have reached : linkedIssues.Reachable none := replay_reachable _
  have attained : linkedIssues.Attained none fun _ => False := reached.attained
  have steady : (Alone.hoped : Alone Binary64).Steady 0 := fun _ _ _ _ => rfl
  refine ⟨reached, steady, ?_, by decide +kernel, ?_, by decide +kernel, by decide +kernel⟩
  · exact independent_commute attained _ steady rfl rfl (by decide +kernel)
  · exact independent_commute attained _ steady rfl rfl (by decide +kernel)

end World

end Forge
