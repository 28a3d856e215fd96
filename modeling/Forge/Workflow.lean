import Forge.Branch
import Forge.Merge
import Forge.Store.Repositories

/-!
# The operations of a forge

Every operation names its repository, cleans its other arguments, and runs in one transaction;
what the storage engine reports is put into a class of errors. Two operations take more than a
transaction: a merge request is created after the working tree has been asked about its branches,
and merging one goes through `Merge.run`.

`Operation` lists them all, with their arguments, and `Operation.action` carries one out.
-/

namespace Forge

/-- How a forge waits: where its lock files are, how long it waits for locks, and how long a merge
may take unless the caller says otherwise. -/
structure Policy (τ : Type) where
  lockDirectory : Option String
  lockLimit : Option τ
  mergeLimit : Option τ

namespace Workflow

variable {τ α : Type}

/-- One transaction, with the reports of the engine classified. -/
def session (write : Bool) (body : Int → Transaction α) : Action τ α := do
  match ← Action.attempt (.transact write none body) with
  | .ok a => pure a
  | .error e => throw e.classified

/-- One transaction on a repository. -/
def sessionOn (write : Bool) (repo : String) (body : Int → Repository → Transaction α) :
    Action τ α :=
  session write fun now => do
    let r ← Store.repositoryNamed repo
    body now r

/-! ## Repositories -/

/-- Registers the working tree at a path under a name. -/
def registerRepository (name path : String) : Action τ Repository := do
  let (id, repo) ← session true fun now => do
    let id ← Store.createRepository now name path
    let repo ← Store.repositoryNamed name
    pure (id, repo)
  Action.log .info .workflow
    ("registered repository " ++ repo.name ++ " (#" ++ toString id ++ ") at " ++ repo.path)
  pure repo

/-- The repository of a name. -/
def repository (name : String) : Action τ Repository :=
  session false fun _ => Store.repositoryNamed name

/-- All repositories, in the order of their names. -/
def repositories : Action τ (List Repository) :=
  session false fun _ => Store.listRepositories

/-- Forgets a repository with its issues and merge requests. -/
def removeRepository (name : String) : Action τ Unit :=
  session true fun _ => Store.deleteRepository name

/-! ## Tickets of either kind -/

section

variable (ρ : Type) {ε : Type} [Ticket ρ ε]

/-- A ticket of a repository. -/
def ticket (repo : String) (id : Int) : Action τ ε :=
  sessionOn false repo fun _ r => Ticket.get ρ r.id id

/-- The tickets of a repository, the newest first. -/
def tickets (repo : String) : Action τ (List ε) :=
  sessionOn false repo fun _ r => Ticket.listAll ρ r.id

/-- The tickets of a repository in a state, the newest first. -/
def ticketsIn (repo state : String) : Action τ (List ε) :=
  sessionOn false repo fun _ r => Ticket.listInState ρ r.id state

/-- Gives a ticket a title and a description. -/
def updateTicket (repo : String) (id : Int) (title : String) (description : Option String) :
    Action τ ε :=
  sessionOn true repo fun now r => do
    Ticket.update ρ now r.id id title description
    Ticket.get ρ r.id id

/-- Takes a ticket through a transition. -/
def followTransition (repo : String) (id : Int) (name : String) (actor : Option String) :
    Action τ ε := do
  let (repoId, e) ← sessionOn true repo fun now r => do
    let e ← Lifecycle.apply ρ now r.id id name actor
    pure (r.id, e)
  Merge.logTransition (Ticket.kind ρ) id name repoId actor
  pure e

/-- Closes an open ticket. -/
def closeTicket (repo : String) (id : Int) (actor : Option String) : Action τ ε := do
  let closer ← Action.ofExcept (cleanActor actor)
  followTransition ρ repo id "close" (some closer)

/-- Opens a closed ticket again. -/
def reopenTicket (repo : String) (id : Int) : Action τ ε :=
  followTransition ρ repo id "reopen" none

end

/-! ## Issues -/

/-- Adds an open issue. -/
def createIssue (repo : String) (actor : Option String) (title : String)
    (description : Option String) : Action τ Issue := do
  let author ← Action.ofExcept (cleanActor actor)
  sessionOn true repo fun now r => do
    let id ← Store.createIssue now r.id (some author) title description
    Ticket.get StoredIssue r.id id

/-- The issues of a repository in the state that a user's text means. -/
def issuesIn (repo state : String) : Action τ (List Issue) := do
  let wanted ← Action.ofExcept (IssueState.parse state)
  ticketsIn StoredIssue repo wanted.text

/-- Removes an issue and its dependencies. -/
def deleteIssue (repo : String) (id : Int) : Action τ Unit :=
  sessionOn true repo fun _ r => Store.deleteIssue r.id id

/-! ## Dependencies -/

/-- The log text of a new dependency. -/
def dependencyText (issueId dependsOnId : Int) : String :=
  "issue #" ++ toString issueId ++ " now depends on #" ++ toString dependsOnId

/-- Makes one issue depend on another. -/
def addDependency (repo : String) (issueId dependsOnId : Int) : Action τ Dependency := do
  let d ← sessionOn true repo fun now r =>
    Store.addDependency now r.id issueId dependsOnId
  Action.log .debug .dependencies (dependencyText issueId dependsOnId)
  pure d

/-- Removes the dependency of one issue on another and answers whether there was one. -/
def removeDependency (repo : String) (issueId dependsOnId : Int) : Action τ Bool :=
  sessionOn true repo fun _ r => Store.removeDependency r.id issueId dependsOnId

/-- Whether one issue depends on another. -/
def hasDependency (repo : String) (issueId dependsOnId : Int) : Action τ Bool :=
  sessionOn false repo fun _ r => Store.hasDependency r.id issueId dependsOnId

/-- The issues that an issue depends on, the newest first. -/
def dependenciesOf (repo : String) (issueId : Int) : Action τ (List Issue) :=
  sessionOn false repo fun _ r => Store.dependenciesOf r.id issueId

/-- The issues that depend on an issue, the newest first. -/
def dependentsOf (repo : String) (issueId : Int) : Action τ (List Issue) :=
  sessionOn false repo fun _ r => Store.dependentsOf r.id issueId

/-! ## Merge requests -/

/-- Fails unless a text can name a branch. -/
def checkBranchName (side : Side) (branch : String) : Except Error Unit :=
  if Branch.isValid branch then .ok ()
  else .error (.invalidArgument (.branchName side branch))

/-- Fails unless the open working tree has the branch. -/
def requireBranch (side : Side) (branch : String) : Action τ Unit := do
  let there ← Action.demand (.tree (.branchExists branch))
  if there then pure () else throw (.invalidArgument (.noSuchBranch side branch))

/-- Adds an open merge request between two branches of the working tree. -/
def createMergeRequest (repo : String) (actor : Option String) (title source target : String)
    (description : Option String) : Action τ MergeRequest := do
  let author ← Action.ofExcept (cleanActor actor)
  let source := Text.strip source
  let target := Text.strip target
  Action.ofExcept (checkBranchName .source source)
  Action.ofExcept (checkBranchName .target target)
  if source = target then throw (.invalidArgument .sameBranches)
  let r ← repository repo
  Action.ask (.openTree r)
  requireBranch .source source
  requireBranch .target target
  session true fun now => do
    let id ← Store.createMergeRequest now r.id (some author) title description (some source)
      (some target)
    Ticket.get StoredMergeRequest r.id id

/-- The merge requests of a repository in the state that a user's text means. -/
def mergeRequestsIn (repo state : String) : Action τ (List MergeRequest) := do
  let wanted ← Action.ofExcept (MergeRequestState.parse state)
  ticketsIn StoredMergeRequest repo wanted.text

/-- Removes a merge request. -/
def deleteMergeRequest (repo : String) (id : Int) : Action τ Unit :=
  sessionOn true repo fun _ r => Ticket.delete StoredMergeRequest r.id id

/-- Merges a merge request and marks it merged. -/
def merge [TimeScale τ] (policy : Policy τ) (repo : String) (id : Int) (actor : Option String)
    (limit : Option τ) : Action τ MergeRequest := do
  let merger ← Action.ofExcept (cleanActor actor)
  let r ← repository repo
  Action.ask (.openTree r)
  let outcome ← ExceptT.lift
    (Merge.run policy.lockDirectory policy.lockLimit r id merger (limit <|> policy.mergeLimit)).run
  match outcome with
  | .ok merged => pure merged
  | .error e => throw e.classified

end Workflow

/-! ## All operations -/

/-- What an operation answers. -/
inductive Answer where
  | nothing
  | flag (b : Bool)
  | number (i : Int)
  | repository (r : Repository)
  | repositories (rs : List Repository)
  | issue (i : Issue)
  | issues (is : List Issue)
  | mergeRequest (m : MergeRequest)
  | mergeRequests (ms : List MergeRequest)
  | dependency (d : Dependency)
deriving DecidableEq, Repr

/-- An operation with its arguments. -/
inductive Operation (τ : Type) where
  | registerRepository (name path : String)
  | repository (name : String)
  | repositories
  | removeRepository (name : String)
  | createIssue (repo : String) (actor : Option String) (title : String)
      (description : Option String)
  | issue (repo : String) (id : Int)
  | issues (repo : String)
  | issuesIn (repo state : String)
  | updateIssue (repo : String) (id : Int) (title : String) (description : Option String)
  | deleteIssue (repo : String) (id : Int)
  | closeIssue (repo : String) (id : Int) (actor : Option String)
  | reopenIssue (repo : String) (id : Int)
  | addDependency (repo : String) (issueId dependsOnId : Int)
  | removeDependency (repo : String) (issueId dependsOnId : Int)
  | hasDependency (repo : String) (issueId dependsOnId : Int)
  | dependenciesOf (repo : String) (issueId : Int)
  | dependentsOf (repo : String) (issueId : Int)
  | createMergeRequest (repo : String) (actor : Option String) (title source target : String)
      (description : Option String)
  | mergeRequest (repo : String) (id : Int)
  | mergeRequests (repo : String)
  | mergeRequestsIn (repo state : String)
  | updateMergeRequest (repo : String) (id : Int) (title : String) (description : Option String)
  | deleteMergeRequest (repo : String) (id : Int)
  | closeMergeRequest (repo : String) (id : Int) (actor : Option String)
  | reopenMergeRequest (repo : String) (id : Int)
  | merge (repo : String) (id : Int) (actor : Option String) (limit : Option τ)
deriving Repr

namespace Operation

open Workflow

variable {τ : Type} [TimeScale τ]

/-- Carries an operation out. -/
def action (policy : Policy τ) : Operation τ → Action τ Answer
  | .registerRepository name path => .repository <$> Workflow.registerRepository name path
  | .repository name => .repository <$> Workflow.repository name
  | .repositories => .repositories <$> Workflow.repositories
  | .removeRepository name => (fun _ => .nothing) <$> Workflow.removeRepository name
  | .createIssue repo actor title description =>
    .issue <$> Workflow.createIssue repo actor title description
  | .issue repo id => .issue <$> ticket StoredIssue repo id
  | .issues repo => .issues <$> tickets StoredIssue repo
  | .issuesIn repo state => .issues <$> Workflow.issuesIn repo state
  | .updateIssue repo id title description =>
    .issue <$> updateTicket StoredIssue repo id title description
  | .deleteIssue repo id => (fun _ => .nothing) <$> Workflow.deleteIssue repo id
  | .closeIssue repo id actor => .issue <$> closeTicket StoredIssue repo id actor
  | .reopenIssue repo id => .issue <$> reopenTicket StoredIssue repo id
  | .addDependency repo a b => .dependency <$> Workflow.addDependency repo a b
  | .removeDependency repo a b => .flag <$> Workflow.removeDependency repo a b
  | .hasDependency repo a b => .flag <$> Workflow.hasDependency repo a b
  | .dependenciesOf repo a => .issues <$> Workflow.dependenciesOf repo a
  | .dependentsOf repo a => .issues <$> Workflow.dependentsOf repo a
  | .createMergeRequest repo actor title source target description =>
    .mergeRequest <$> Workflow.createMergeRequest repo actor title source target description
  | .mergeRequest repo id => .mergeRequest <$> ticket StoredMergeRequest repo id
  | .mergeRequests repo => .mergeRequests <$> tickets StoredMergeRequest repo
  | .mergeRequestsIn repo state => .mergeRequests <$> Workflow.mergeRequestsIn repo state
  | .updateMergeRequest repo id title description =>
    .mergeRequest <$> updateTicket StoredMergeRequest repo id title description
  | .deleteMergeRequest repo id => (fun _ => .nothing) <$> Workflow.deleteMergeRequest repo id
  | .closeMergeRequest repo id actor =>
    .mergeRequest <$> closeTicket StoredMergeRequest repo id actor
  | .reopenMergeRequest repo id => .mergeRequest <$> reopenTicket StoredMergeRequest repo id
  | .merge repo id actor limit => .mergeRequest <$> Workflow.merge policy repo id actor limit

end Operation

end Forge
