import Forge.Git.Tree
import Forge.Rehearsal.Step

/-!
# The stage

The stage is the simulated surroundings of a rehearsal: a store, a clock that only moves when
something takes its time, locks, a scripted working tree, and turns for the commands that are run.
`Stage.answer` answers the requests of programs from it.
-/

namespace Forge.Rehearsal

/-- What a workflow has open: the locks that are taken within its process, and whether it has made
sure that the tables are there. -/
structure Handle where
  taken : List Int
  ready : Bool
deriving DecidableEq, Repr

/-- What a time to wait for the store, in milliseconds, keeps from being done. -/
def busyFault (busyTimeout : Int) : Option Error :=
  if (Binary64.ofInt? busyTimeout).isNone then some .waitTooLong else none

/-- The handle of a workflow that has done nothing yet. -/
def Handle.fresh : Handle := ⟨[], false⟩

/-- What stays the same in a rehearsal: the path of the store and what keeps it from being opened,
the waiting of the workflow, how git is run if it is, how the working tree is recorded to be opened,
and whether what happens during a merge goes through a workflow of its own. -/
structure Setup where
  database : String
  fault : Option Error
  policy : Policy Binary64
  git : Option Git.Checkout
  origin : Option (String × String)
  apart : Bool

/-- The state of the surroundings. Lists of what has happened have the latest first. -/
structure Stage where
  startedAt : Int
  now : Int
  store : Store
  storeHeld : Bool
  handle : Handle
  files : List Int
  held : List (Int × Bool)
  tree : ScriptedTree Step
  turns : List ProcessTurn
  treeRecords : List TreeRecord
  records : List (Int × LogRecord)
  runs : List (ProcessCall Binary64)
  meanwhile : List Outcome

namespace Stage

/-- The stage at a time, with a working tree and a store that holds nothing yet. -/
def start (surrogates : Text.Surrogates) (now : Int) (tree : ScriptedTree Step) : Stage where
  startedAt := now
  now
  store := .empty surrogates
  storeHeld := false
  handle := .fresh
  files := []
  held := []
  tree
  turns := []
  treeRecords := []
  records := []
  runs := []
  meanwhile := []

/-- The seconds of the monotonic clock after some more milliseconds. -/
def clockAfter (s : Stage) (ms : Int) : Binary64 :=
  (Binary64.ofInt (s.now + ms - s.startedAt)).divNat 1000

/-- The stage after some milliseconds. -/
def pass (s : Stage) (ms : Int) : Stage := { s with now := s.now + ms }

/-- The stage with one more log record. -/
def log (s : Stage) (r : LogRecord) : Stage := { s with records := (s.now, r) :: s.records }

/-- The stage with one more recorded call on the working tree. -/
def noteTree (s : Stage) (r : TreeRecord) : Stage := { s with treeRecords := r :: s.treeRecords }

/-! ## The store -/

/-- Makes sure that the tables are there. -/
def connect (setup : Setup) (s : Stage) : Stage :=
  if s.handle.ready then s
  else
    { s.log (schemaReady setup.database) with
      handle := { s.handle with ready := true } }

/-- One transaction. -/
def transact {α : Type} (setup : Setup) (write : Bool) (body : Int → Transaction α) (s : Stage) :
    Except Error α × Stage :=
  match setup.fault with
  | some e => (.error e, s)
  | none =>
    let s := s.connect setup
    if write && s.storeHeld then (.error (.engine .locked), s)
    else
      let (r, store) := (body s.now).commit s.store
      (r, { s with store })

/-! ## Locks -/

/-- The greatest limit, in nanoseconds, that a wait for a lock can have. -/
def longestWait : Binary64 := Binary64.ofInt Transaction.bound

/-- Takes the lock of a repository within the process. Nobody gives it back while the caller
waits. -/
def takeLock (repoId : Int) (limit : Option Binary64) (s : Stage) : Except Error Bool × Stage :=
  match limit with
  | some t =>
    if longestWait.le (t.mulNat 1000000000) then (.error .limitTooLong, s)
    else if s.handle.taken.contains repoId then (.ok false, s)
    else (.ok true, { s with handle := { s.handle with taken := repoId :: s.handle.taken } })
  | none =>
    if s.handle.taken.contains repoId then (.ok false, s)
    else (.ok true, { s with handle := { s.handle with taken := repoId :: s.handle.taken } })

/-- Gives back the lock of a repository within the process. -/
def dropLock (repoId : Int) (s : Stage) : Stage :=
  { s with handle := { s.handle with taken := s.handle.taken.erase repoId } }

/-- Takes the lock file of a repository. Nobody gives it back while the caller waits. -/
def takeFile (repoId : Int) (deadline : Option Binary64) (s : Stage) :
    Except Error Bool × Stage :=
  let free (_ : Nat) : Bool := !s.files.contains repoId
  let due (looks : Nat) : Bool :=
    (Deadline.mk deadline).expired (s.clockAfter (Polling.interval * looks))
  match Polling.wait free due Polling.mostLooks 0 with
  | .taken looks =>
    (.ok true, { s.pass (Polling.interval * looks) with files := repoId :: s.files })
  | .late looks => (.ok false, s.pass (Polling.interval * looks))
  | .unfinished => (.ok false, s.pass (Polling.interval * Polling.mostLooks))

/-- Gives back the lock file of a repository. -/
def dropFile (repoId : Int) (s : Stage) : Stage := { s with files := s.files.erase repoId }

/-! ## Working trees and commands -/

/-- Carries out steps on a stage. -/
abbrev Player := List Step → Stage → List Outcome × Stage

/-- Makes the working tree of a repository the open one; then what was to happen at that moment
happens. -/
def openTree (play : Player) (setup : Setup) (repo : Repository) (s : Stage) : Stage :=
  let s := s.noteTree (.opened repo.path setup.origin)
  let steps := s.tree.onOpen
  (play steps { s with tree := { s.tree with onOpen := [] } }).2

/-- Carries out what happens during a merge. -/
def passMerge (play : Player) (setup : Setup) (s : Stage) : Stage :=
  let handle := s.handle
  let (outcomes, s) := play s.tree.onMerge (if setup.apart then { s with handle := .fresh } else s)
  { s with
    handle := if setup.apart then handle else s.handle
    meanwhile := outcomes.reverse ++ s.meanwhile }

/-- A call on the working tree. -/
def callTree {α : Type} (play : Player) (setup : Setup) :
    TreeCall Binary64 α → Stage → Except Error α × Stage
  | .branchExists branch, s =>
    (.ok (s.tree.branches.contains branch), s.noteTree (.branchExists branch))
  | .contains branch ancestor limit, s =>
    let s := (s.noteTree (.contains branch ancestor limit)).pass s.tree.containsTime
    let (r, tree) := s.tree.contains branch ancestor
    (r, { s with tree })
  | .checkout branch limit, s =>
    let s := (s.noteTree (.checkout branch limit)).pass s.tree.checkoutTime
    let (r, tree) := s.tree.checkout branch
    (r, { s with tree })
  | .merge branch message author limit, s =>
    let s := (s.noteTree (.merge branch message author limit)).pass s.tree.mergeTime
    let s := { s with tree := { s.tree with merges := s.tree.merges + 1 } }
    let s := s.passMerge play setup
    let (r, tree) := s.tree.merge branch
    (r, { s with tree })
  | .abortMerge, s => (ScriptedTree.endingIn s.tree.abortError, s.noteTree .abort)

/-- The run of a command: the next turn, or an end with success if there is none. -/
def runProcess (call : ProcessCall Binary64) (s : Stage) : ProcessOutcome × Stage :=
  let s := { s with runs := call :: s.runs }
  match s.turns with
  | turn :: turns => (turn.outcome, { s with turns }.pass turn.time)
  | [] => (.finished 0 "" "", s)

/-! ## Requests -/

/-- Answers a request. -/
def answer (play : Player) (setup : Setup) {β : Type} :
    Request Binary64 β → Stage → β × Stage
  | .clock, s => (s.clockAfter 0, s)
  | .transact write _ body, s => s.transact setup write body
  | .openTree repo, s => ((), s.openTree play setup repo)
  | .tree call, s => s.callTree play setup call
  | .process call, s => s.runProcess call
  | .takeLock repoId limit, s => s.takeLock repoId limit
  | .dropLock repoId, s => ((), s.dropLock repoId)
  | .takeFile repoId deadline, s => s.takeFile repoId deadline
  | .dropFile repoId, s => ((), s.dropFile repoId)
  | .log r, s => ((), s.log r)

/-- Runs an action, with git for its working trees if the setup says so. -/
def perform {α : Type} (play : Player) (setup : Setup) (a : Action Binary64 α) (s : Stage) :
    Except Error α × Stage :=
  let program : Program Binary64 (Except Error α) := match setup.git with
    | some checkout => Git.carryOutAll checkout a.run
    | none => a.run
  program.run (answer play setup) s

end Stage

end Forge.Rehearsal
