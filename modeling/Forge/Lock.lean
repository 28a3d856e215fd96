import Forge.Program.Basic
import Forge.Time.Deadline

/-!
# Locks of working trees

Only one caller at a time may change the working tree of a repository. Callers in one process meet
at a lock within the process; where several processes share a directory for lock files, they meet
at the file of the repository too. `WorkingTree.hold` takes both around a body and gives them back
however the body ends.

A process that waits for a lock file looks at it at fixed intervals. `Polling` is that wait.
-/

namespace Forge

/-! ## Waiting for a lock file -/

namespace Polling

/-- The milliseconds between two looks at a lock file. -/
def interval : Nat := 50

/-- More looks than fit into the longest limit that a wait for a lock can have. -/
def mostLooks : Nat := 274877906944

/-- How a wait ends: with the file taken or with the deadline passed, after some intervals, or not
within the number of looks that were granted. -/
inductive Outcome where
  | taken (looks : Nat)
  | late (looks : Nat)
  | unfinished
deriving DecidableEq, Repr

/-- Looks at the file at most `fuel` times, the next look being the one after `looks` intervals:
takes it if it is free, gives up if the deadline has come, and waits for another interval
otherwise. -/
def wait (free due : Nat → Bool) : (fuel looks : Nat) → Outcome
  | 0, _ => .unfinished
  | fuel + 1, looks =>
    if free looks then .taken looks
    else if due looks then .late looks
    else wait free due fuel (looks + 1)

end Polling

/-! ## Holding the locks of a repository -/

namespace WorkingTree

variable {τ α : Type} [TimeScale τ]

/-- The lock file of a repository. -/
def lockFile (directory : String) (repoId : Int) : String :=
  directory ++ "/repo-" ++ toString repoId ++ ".lock"

/-- The log text of a lock file that has been taken. -/
def acquiredText (directory : String) (repoId : Int) : String :=
  "acquired " ++ lockFile directory repoId

/-- The failure to get a lock of a repository in time. -/
def lateForLock (repoId : Int) : Error :=
  .deadline (.waitingForLock repoId)

/-- Runs the body while the lock file of the repository is held, if there is a directory for lock
files. -/
def holdFile (directory : Option String) (repoId : Int) (deadline : Option τ)
    (body : Action τ α) : Action τ α :=
  match directory with
  | none => body
  | some dir => do
    let taken ← Action.demand (.takeFile repoId deadline)
    if taken then
      Action.withCleanup
        (do
          Action.log .debug .locks (acquiredText dir repoId)
          body)
        (Program.request (.dropFile repoId))
    else throw (lateForLock repoId)

/-- Runs the body while the locks of the repository are held, within the process and, if there is
a directory for lock files, among processes. -/
def hold (directory : Option String) (repoId : Int) (limit : Option τ)
    (body : Action τ α) : Action τ α := do
  let now ← Action.clock
  let deadline := limit.map fun t => TimeScale.add now t
  let taken ← Action.demand (.takeLock repoId (limit.map TimeScale.nonneg))
  if taken then
    Action.withCleanup (holdFile directory repoId deadline body)
      (Program.request (.dropLock repoId))
  else throw (lateForLock repoId)

end WorkingTree

end Forge
