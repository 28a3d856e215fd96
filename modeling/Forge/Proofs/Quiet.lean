import Forge.Proofs.Program
import Forge.Proofs.Store.Lifecycle
import Forge.Proofs.World

/-!
# Operations that take no locks

All operations but the merge are quiet: they take no locks, and each of their transactions has an
effect of the list of effects. So whatever such an operation does between the steps of a merge is
one of these.
-/

namespace Forge

open Transaction Workflow

variable {τ : Type}

/-- What a quiet operation may ask. -/
def Request.Quiet : {β : Type} → Request τ β → Prop
  | _, .transact _ _ body => ∀ now a s s', (body now).Returns s a s' → Effect now s s'
  | _, .takeLock .. => False
  | _, .dropLock .. => False
  | _, .takeFile .. => False
  | _, .dropFile .. => False
  | _, _ => True

/-- The terms of quiet operations, under any answers. -/
def Terms.quiet : Terms τ Unit where
  may r _ := r.Quiet
  answers _ _ _ _ := True

/-- The action makes only quiet requests. -/
def Action.Quiet {α : Type} (x : Action τ α) : Prop :=
  x.Obeys Terms.quiet (fun _ _ => True) (fun _ _ => True) ()

namespace Action

variable {α β : Type}

theorem quiet_pure (a : α) : (pure a : Action τ α).Quiet :=
  obeys_pure.2 trivial

theorem quiet_throw (e : Error) : (throw e : Action τ α).Quiet :=
  obeys_throw.2 trivial

/-- Two quiet parts are quiet together. -/
theorem quiet_bind {x : Action τ α} {k : α → Action τ β} (hx : x.Quiet) (hk : ∀ a, (k a).Quiet) :
    (x >>= k).Quiet :=
  obeys_bind.2 (hx.mono (fun a _ _ => hk a) fun _ _ _ => trivial)

theorem quiet_map {x : Action τ α} {f : α → β} (hx : x.Quiet) : (f <$> x).Quiet :=
  obeys_map.2 hx

theorem quiet_ofExcept (x : Except Error α) : (ofExcept x : Action τ α).Quiet := by
  refine obeys_ofExcept.2 ?_
  cases x <;> trivial

theorem quiet_ask {r : Request τ α} (h : r.Quiet) : (ask r).Quiet :=
  obeys_ask.2 ⟨h, fun _ _ _ => trivial⟩

theorem quiet_demand {r : Request τ (Except Error α)} (h : r.Quiet) : (demand r).Quiet := by
  refine obeys_demand.2 ⟨h, fun b _ _ => ?_⟩
  cases b <;> trivial

theorem quiet_log (level : Level) (part : Part) (text : String) :
    (log level part text : Action τ Unit).Quiet :=
  quiet_ask trivial

end Action

/-! ## Transactions of operations -/

namespace Workflow

open Forge.Action

variable {α : Type}

/-- A session is quiet if its transaction has an effect whenever it returns. -/
theorem quiet_session {write : Bool} {body : Int → Transaction α}
    (h : ∀ now a s s', (body now).Returns s a s' → Effect now s s') :
    (session write body : Action τ α).Quiet := by
  refine quiet_bind (quiet_ask h) fun b => ?_
  cases b with
  | ok a => exact quiet_pure a
  | error e => exact quiet_throw _

/-- A session on a repository is quiet if its transaction has an effect on the tickets of this one.
-/
theorem quiet_sessionOn {write : Bool} {repo : String} {body : Int → Repository → Transaction α}
    (h : ∀ now r a s s', (body now r).Returns s a s' → TicketEffect now r.id s s') :
    (sessionOn write repo body : Action τ α).Quiet := by
  refine quiet_session fun now a s s' hr => ?_
  obtain ⟨r, s₁, hr₁, hr₂⟩ := returns_bind.1 hr
  obtain ⟨-, -, -, -, rfl⟩ := Store.returns_repositoryNamed.1 hr₁
  exact .onTickets (h now r a _ s' hr₂)

/-- A transaction that only reads has the effect of nothing. -/
theorem quiet_reading {write : Bool} {repo : String} {body : Int → Repository → Transaction α}
    (h : ∀ now r a s s', (body now r).Returns s a s' → s' = s) :
    (sessionOn write repo body : Action τ α).Quiet :=
  quiet_sessionOn fun now r a s s' hr => h now r a s s' hr ▸ .nothing

section

variable {ρ ε : Type} [Ticket ρ ε]

/-- A change of a ticket that reads it back has the effect of the change. -/
theorem quiet_thenGet {write : Bool} {repo : String}
    {change : Int → Repository → Transaction Int}
    (h : ∀ now r id s s', (change now r).Returns s id s' → TicketEffect now r.id s s') :
    (sessionOn write repo fun now r => do
      let id ← change now r
      Ticket.get ρ r.id id : Action τ ε).Quiet := by
  refine quiet_sessionOn fun now r a s s' hr => ?_
  obtain ⟨id, s₁, hc, hg⟩ := returns_bind.1 hr
  obtain ⟨-, -, -, rfl, -⟩ := Ticket.returns_get.1 hg
  exact h now r id s _ hc

theorem quiet_ticket (repo : String) (id : Int) : (ticket ρ repo id : Action τ ε).Quiet :=
  quiet_reading fun _ _ _ _ _ hr => (Ticket.returns_get.1 hr).2.2.2.1

theorem quiet_tickets (repo : String) : (tickets ρ repo : Action τ (List ε)).Quiet :=
  quiet_reading fun _ _ _ _ _ hr => Ticket.listAll_reads hr

theorem quiet_ticketsIn (repo state : String) :
    (ticketsIn ρ repo state : Action τ (List ε)).Quiet :=
  quiet_reading fun _ _ _ _ _ hr => Ticket.listInState_reads hr

/-- To look for the ticket again after an update adds nothing. -/
theorem quiet_updateTicket {repo title : String} {id : Int} {description : Option String}
    (h : ∀ now r u s s',
      (Ticket.update ρ now r id title description).Returns s u s' → TicketEffect now r s s') :
    (updateTicket ρ repo id title description : Action τ ε).Quiet := by
  refine quiet_sessionOn fun now r a s s' hr => ?_
  obtain ⟨u, s₁, hu, hg⟩ := returns_bind.1 hr
  obtain ⟨-, -, -, rfl, -⟩ := Ticket.returns_get.1 hg
  exact h now r.id u s _ hu

theorem quiet_logTransition (kind : Kind) (id : Int) (name : String) (repoId : Int)
    (actor : Option String) :
    (Merge.logTransition kind id name repoId actor : Action τ Unit).Quiet := by
  unfold Merge.logTransition
  split
  · exact quiet_log ..
  · exact quiet_pure ()

/-- The record of a transition in the log is no change of the store. -/
theorem quiet_followTransition {repo name : String} {id : Int} {actor : Option String}
    (h : ∀ now r a s s',
      (Lifecycle.apply ρ now r id name actor).Returns s a s' → TicketEffect now r s s') :
    (followTransition ρ repo id name actor : Action τ ε).Quiet := by
  refine quiet_bind (quiet_sessionOn fun now r p s s' hr => ?_) fun p =>
    quiet_bind (quiet_logTransition ..) fun _ => quiet_pure _
  obtain ⟨a, s₁, ha, hp⟩ := returns_bind.1 hr
  obtain ⟨-, rfl⟩ := returns_pure.1 hp
  exact h now r.id a s _ ha

/-- Who closes has a name that is trimmed before it is written. -/
theorem quiet_closeTicket {repo : String} {id : Int} {actor : Option String}
    (h : ∀ closer, Text.Trimmed closer → ∀ now r a s s',
      (Lifecycle.apply ρ now r id "close" (some closer)).Returns s a s' →
        TicketEffect now r s s') :
    (closeTicket ρ repo id actor : Action τ ε).Quiet := by
  refine obeys_bind.2 (obeys_ofExcept.2 ?_)
  cases ha : cleanActor actor with
  | error e => trivial
  | ok closer => exact quiet_followTransition (h closer (trimmed_of_cleanActor ha))

end

theorem quiet_registerRepository (name path : String) :
    (Workflow.registerRepository name path : Action τ Repository).Quiet := by
  refine quiet_bind (quiet_session fun now p s s' hr => ?_) fun p =>
    quiet_bind (quiet_log ..) fun _ => quiet_pure _
  obtain ⟨id, s₁, hc, hr⟩ := returns_bind.1 hr
  obtain ⟨r, s₂, hn, hp⟩ := returns_bind.1 hr
  obtain ⟨-, -, -, -, rfl⟩ := Store.returns_repositoryNamed.1 hn
  obtain ⟨-, rfl⟩ := returns_pure.1 hp
  exact Store.effect_of_createRepository hc

theorem quiet_repository (name : String) :
    (Workflow.repository name : Action τ Repository).Quiet := by
  refine quiet_session fun now r s s' hr => ?_
  obtain ⟨-, -, -, -, rfl⟩ := Store.returns_repositoryNamed.1 hr
  exact .nothing

theorem quiet_requireBranch (side : Side) (branch : String) :
    (requireBranch side branch : Action τ Unit).Quiet := by
  refine quiet_bind (quiet_demand trivial) fun there => ?_
  split
  · exact quiet_pure ()
  · exact quiet_throw _

/-- To ask the working tree about branches is quiet, as it changes nothing. -/
theorem quiet_createMergeRequest (repo : String) (actor : Option String)
    (title source target : String) (description : Option String) :
    (Workflow.createMergeRequest repo actor title source target description :
      Action τ MergeRequest).Quiet := by
  refine quiet_bind (quiet_ofExcept _) fun author => quiet_bind (quiet_ofExcept _) fun _ =>
    quiet_bind (quiet_ofExcept _) fun _ => ?_
  split
  · exact obeys_bind.2 (obeys_throw.2 trivial)
  · refine quiet_bind (quiet_repository repo) fun r => quiet_bind (quiet_ask trivial) fun _ =>
      quiet_bind (quiet_requireBranch ..) fun _ => quiet_bind (quiet_requireBranch ..) fun _ =>
        quiet_session fun now a s s' hr => ?_
    obtain ⟨id, s₁, hc, hg⟩ := returns_bind.1 hr
    obtain ⟨-, -, -, rfl, -⟩ := Ticket.returns_get.1 hg
    exact .onTickets (Store.effect_of_createMergeRequest hc)

end Workflow

/-! ## All operations but one -/

namespace Operation

/-- The merge request that an operation merges, if it is a merge. -/
def mergeId? : Operation τ → Option Int
  | .merge _ id _ _ => some id
  | _ => none

/-- Only merges are the merge of a merge request. -/
theorem eq_merge {op : Operation τ} {id : Int} (h : op.mergeId? = some id) :
    ∃ name actor limit, op = .merge name id actor limit := by
  cases op with
  | merge name id' actor limit =>
    obtain rfl := Option.some.inj h
    exact ⟨name, actor, limit, rfl⟩
  | _ => cases h

open Forge.Action in
/-- Every operation but a merge is quiet. -/
theorem quiet_action [TimeScale τ] (policy : Policy τ) {op : Operation τ} (h : op.mergeId? = none) :
    (op.action policy).Quiet := by
  cases op with
  | registerRepository name path => exact quiet_map (quiet_registerRepository name path)
  | repository name => exact quiet_map (quiet_repository name)
  | repositories =>
    refine quiet_map (quiet_session fun now rs s s' hr => ?_)
    obtain ⟨-, -, rfl⟩ := Store.returns_listRepositories.1 hr
    exact .nothing
  | removeRepository name =>
    exact quiet_map (quiet_session fun _ _ _ _ h => Store.effect_of_deleteRepository h)
  | createIssue repo actor title description =>
    exact quiet_map (quiet_bind (quiet_ofExcept _) fun _ =>
      quiet_thenGet fun _ _ _ _ _ h => Store.effect_of_createIssue h)
  | issue repo id => exact quiet_map (quiet_ticket repo id)
  | issues repo => exact quiet_map (quiet_tickets repo)
  | issuesIn repo state =>
    exact quiet_map (quiet_bind (quiet_ofExcept _) fun _ => quiet_ticketsIn repo _)
  | updateIssue repo id title description =>
    exact quiet_map (quiet_updateTicket fun _ _ _ _ _ h => Store.effect_of_updateIssue h)
  | deleteIssue repo id =>
    exact quiet_map (quiet_sessionOn fun _ _ _ _ _ h => Store.effect_of_deleteIssue h)
  | closeIssue repo id actor =>
    exact quiet_map (quiet_closeTicket fun _ ha _ _ _ _ _ h =>
      Lifecycle.effect_of_closeIssue ha h)
  | reopenIssue repo id =>
    exact quiet_map (quiet_followTransition fun _ _ _ _ _ h => Lifecycle.effect_of_reopenIssue h)
  | addDependency repo a b =>
    exact quiet_map (quiet_bind (quiet_sessionOn fun _ _ _ _ _ h => Store.effect_of_addDependency h)
      fun _ => quiet_bind (quiet_log ..) fun _ => quiet_pure _)
  | removeDependency repo a b =>
    exact quiet_map (quiet_sessionOn fun _ _ _ _ _ h => Store.effect_of_removeDependency h)
  | hasDependency repo a b =>
    exact quiet_map (quiet_reading fun _ _ _ _ _ h => Store.hasDependency_reads h)
  | dependenciesOf repo a =>
    exact quiet_map (quiet_reading fun _ _ _ _ _ h => Store.dependenciesOf_reads h)
  | dependentsOf repo a =>
    exact quiet_map (quiet_reading fun _ _ _ _ _ h => Store.dependentsOf_reads h)
  | createMergeRequest repo actor title source target description =>
    exact quiet_map (quiet_createMergeRequest ..)
  | mergeRequest repo id => exact quiet_map (quiet_ticket repo id)
  | mergeRequests repo => exact quiet_map (quiet_tickets repo)
  | mergeRequestsIn repo state =>
    exact quiet_map (quiet_bind (quiet_ofExcept _) fun _ => quiet_ticketsIn repo _)
  | updateMergeRequest repo id title description =>
    exact quiet_map (quiet_updateTicket fun _ _ _ _ _ h => Store.effect_of_updateMergeRequest h)
  | deleteMergeRequest repo id =>
    exact quiet_map (quiet_sessionOn fun _ _ _ _ _ h => Store.effect_of_deleteMergeRequest h)
  | closeMergeRequest repo id actor =>
    exact quiet_map (quiet_closeTicket fun _ ha _ _ _ _ _ h =>
      Lifecycle.effect_of_closeMergeRequest ha h)
  | reopenMergeRequest repo id =>
    exact quiet_map (quiet_followTransition fun _ _ _ _ _ h =>
      Lifecycle.effect_of_reopenMergeRequest h)
  | merge repo id actor limit => cases h

end Operation

end Forge
