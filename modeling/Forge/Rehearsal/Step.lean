import Forge.Rehearsal.Tree
import Forge.Workflow

/-!
# The steps of a rehearsal

A rehearsal is a list of steps. Most carry out an operation of the forge; others reach below it, to
single statements on the store, or arrange the surroundings: the working tree, the locks, other
users of the store. A step may be preceded by a jump of the clock, and may bring outcomes for the
commands that will be run.
-/

namespace Forge.Rehearsal

/-- Statements on the store, addressed by ids. -/
inductive StoreCall where
  | createRepository (name path : String)
  | repository (name : String)
  | repositories
  | removeRepository (name : String)
  | createIssue (repoId : Int) (author : Option String) (title : String)
      (description : Option String)
  | createMergeRequest (repoId : Int) (author : Option String) (title : String)
      (description source target : Option String)
  | find (kind : Kind) (repoId id : Int)
  | get (kind : Kind) (repoId id : Int)
  | isThere (kind : Kind) (repoId id : Int)
  | list (kind : Kind) (repoId : Int)
  | listIn (kind : Kind) (repoId : Int) (state : String)
  | update (kind : Kind) (repoId id : Int) (title : String) (description : Option String)
  | delete (kind : Kind) (repoId id : Int)
  | guardedUpdate (kind : Kind) (repoId id : Int) (expected : String)
      (values : List (String × Cell))
  | follow (kind : Kind) (repoId id : Int) (name : String) (actor : Option String)
  | addDependency (repoId issueId dependsOnId : Int)
  | removeDependency (repoId issueId dependsOnId : Int)
  | hasDependency (repoId issueId dependsOnId : Int)
  | dependenciesOf (repoId issueId : Int)
  | dependentsOf (repoId issueId : Int)
deriving Repr

namespace StoreCall

/-- The answer about an entity that may be missing. -/
def found {α : Type} (answer : α → Answer) : Option α → Answer
  | some a => answer a
  | none => .nothing

/-- The answer of a statement that has none. -/
def silent {α : Type} (_ : α) : Answer := .nothing

/-- The statements of a call. -/
def body (now : Int) : StoreCall → Transaction Answer
  | .createRepository name path => .number <$> Store.createRepository now name path
  | .repository name => .repository <$> Store.repositoryNamed name
  | .repositories => .repositories <$> Store.listRepositories
  | .removeRepository name => silent <$> Store.deleteRepository name
  | .createIssue repoId author title description =>
    .number <$> Store.createIssue now repoId author title description
  | .createMergeRequest repoId author title description source target =>
    .number <$> Store.createMergeRequest now repoId author title description source target
  | .find .issue repoId id => found .issue <$> Ticket.find? StoredIssue repoId id
  | .find .mergeRequest repoId id =>
    found .mergeRequest <$> Ticket.find? StoredMergeRequest repoId id
  | .get .issue repoId id => .issue <$> Ticket.get StoredIssue repoId id
  | .get .mergeRequest repoId id => .mergeRequest <$> Ticket.get StoredMergeRequest repoId id
  | .isThere .issue repoId id => .flag <$> Ticket.isThere StoredIssue repoId id
  | .isThere .mergeRequest repoId id => .flag <$> Ticket.isThere StoredMergeRequest repoId id
  | .list .issue repoId => .issues <$> Ticket.listAll StoredIssue repoId
  | .list .mergeRequest repoId => .mergeRequests <$> Ticket.listAll StoredMergeRequest repoId
  | .listIn .issue repoId state => .issues <$> Ticket.listInState StoredIssue repoId state
  | .listIn .mergeRequest repoId state =>
    .mergeRequests <$> Ticket.listInState StoredMergeRequest repoId state
  | .update .issue repoId id title description =>
    silent <$> Ticket.update StoredIssue now repoId id title description
  | .update .mergeRequest repoId id title description =>
    silent <$> Ticket.update StoredMergeRequest now repoId id title description
  | .delete .issue repoId id => silent <$> Store.deleteIssue repoId id
  | .delete .mergeRequest repoId id => silent <$> Ticket.delete StoredMergeRequest repoId id
  | .guardedUpdate .issue repoId id expected values =>
    (fun n : Nat => .number n) <$> Ticket.guardedUpdate StoredIssue repoId id expected values
  | .guardedUpdate .mergeRequest repoId id expected values =>
    (fun n : Nat => .number n) <$>
      Ticket.guardedUpdate StoredMergeRequest repoId id expected values
  | .follow .issue repoId id name actor =>
    .issue <$> Lifecycle.apply StoredIssue now repoId id name actor
  | .follow .mergeRequest repoId id name actor =>
    .mergeRequest <$> Lifecycle.apply StoredMergeRequest now repoId id name actor
  | .addDependency repoId a b => .dependency <$> Store.addDependency now repoId a b
  | .removeDependency repoId a b => .flag <$> Store.removeDependency repoId a b
  | .hasDependency repoId a b => .flag <$> Store.hasDependency repoId a b
  | .dependenciesOf repoId a => .issues <$> Store.dependenciesOf repoId a
  | .dependentsOf repoId a => .issues <$> Store.dependentsOf repoId a

/-- The log record of a call that has succeeded. -/
def record? : StoreCall → Option LogRecord
  | .follow kind repoId id name actor =>
    (Transition.named? kind name).map fun t =>
      ⟨.info, .lifecycle, Merge.transitionText kind id t repoId actor⟩
  | .addDependency _ a b =>
    some ⟨.debug, .dependencies, Workflow.dependencyText a b⟩
  | _ => none

end StoreCall

/-- How the next run of a command ends, and how long it takes. -/
structure ProcessTurn where
  outcome : ProcessOutcome
  time : Int
deriving Repr

mutual

/-- A step: the jump of the clock before it, the turns of commands that it brings, and what is
done. -/
inductive Step where
  | mk (tick : Int) (turns : List ProcessTurn) (deed : Deed)

/-- What a step does. -/
inductive Deed where
  /-- An operation of the forge. -/
  | operation (op : Operation Binary64)
  /-- Changes what the working tree knows and how it behaves. -/
  | arrangeTree (changes : List Change)
  /-- Answers the recorded calls on the working tree and forgets them. -/
  | treeRecords
  /-- Answers the time of day. -/
  | now
  /-- Answers the whole store. -/
  | dump
  /-- One call on the store in a transaction of its own. -/
  | storeCall (write : Bool) (call : StoreCall)
  /-- Several calls on the store in one transaction, which is kept or undone at the end. -/
  | transaction (write keep : Bool) (calls : List (Int × StoreCall))
  /-- Adds a dependency under the constraints of its table alone. -/
  | insertDependency (issueId dependsOnId : Option Int)
  /-- Takes a table away. -/
  | dropTable (name : String)
  /-- Lets another user of the store hold its write lock, or give it back. -/
  | lockStore (held : Bool)
  /-- Takes the lock of a working tree, through the locks of this workflow or as another
  process. -/
  | holdLock (repoId : Int) (own : Bool)
  /-- Gives back the lock that was taken last. -/
  | releaseLock
  /-- Takes the lock of a working tree and gives it back. -/
  | tryLock (repoId : Int) (limit : Option Binary64)

/-- A change of the working tree. -/
inductive Change where
  | branches (names : List String)
  | landed (pairs : List (String × String))
  | checkoutError (m : Option Misstep)
  | mergeError (m : Option Misstep)
  | failAfterMerge (m : Option Misstep)
  | abortError (m : Option Misstep)
  | answers (as : List (Except Misstep Bool))
  | onMerge (steps : List Step)
  | onOpen (steps : List Step)
  | commit (id : Option String)
  | checkoutTime (ms : Int)
  | containsTime (ms : Int)
  | mergeTime (ms : Int)

end

/-- The tree after a change. -/
def Change.apply (t : ScriptedTree Step) : Change → ScriptedTree Step
  | .branches names => { t with branches := names }
  | .landed pairs => { t with landed := pairs }
  | .checkoutError m => { t with checkoutError := m }
  | .mergeError m => { t with mergeError := m }
  | .failAfterMerge m => { t with failAfterMerge := m }
  | .abortError m => { t with abortError := m }
  | .answers as => { t with answers := as }
  | .onMerge steps => { t with onMerge := steps }
  | .onOpen steps => { t with onOpen := steps }
  | .commit id => { t with commit := id }
  | .checkoutTime ms => { t with checkoutTime := ms }
  | .containsTime ms => { t with containsTime := ms }
  | .mergeTime ms => { t with mergeTime := ms }

/-- What a step answers. -/
inductive Result where
  | answer (a : Answer)
  | treeRecords (records : List TreeRecord)
  | now (ms : Int)
  | store (s : Store)
  | transaction (kept : Bool) (answers : List (Except Error Answer))

/-- The outcome of a step: its answer or error, the log records that were made, the commands that
were run, and the outcomes of the steps that were carried out meanwhile. -/
inductive Outcome where
  | mk (result : Except Error Result) (records : List (Int × LogRecord))
      (runs : List (ProcessCall Binary64)) (meanwhile : List Outcome)

end Forge.Rehearsal
