import Forge.Log
import Forge.Program.Process
import Forge.Store.Transaction

/-!
# Requests to the surroundings

An operation of the forge cannot do everything by itself: it reads the clock, runs transactions on
the shared store, takes locks, calls a working tree and runs commands. Each of these is a `Request`
with a typed answer. What answers them, the surroundings, is not fixed here.
-/

namespace Forge

/-- Calls on the working tree of a repository, by the type of the answer. Limits are the time that
a call may take. -/
inductive TreeCall (τ : Type) : Type → Type where
  /-- Whether a branch exists. -/
  | branchExists (branch : String) : TreeCall τ Bool
  /-- Whether the tip of `ancestor` can be reached from `branch`. -/
  | contains (branch ancestor : String) (limit : Option τ) : TreeCall τ Bool
  /-- Makes a branch the current one. -/
  | checkout (branch : String) (limit : Option τ) : TreeCall τ Unit
  /-- Merges a branch into the current one and answers the id of the merge commit, or nothing if
  the id could not be read. -/
  | merge (branch message author : String) (limit : Option τ) : TreeCall τ String
  /-- Undoes a merge that has failed. -/
  | abortMerge : TreeCall τ Unit

/-- What an operation asks of its surroundings, by the type of the answer. -/
inductive Request (τ : Type) : Type → Type 1 where
  /-- The monotonic clock. -/
  | clock : Request τ τ
  /-- One transaction as a whole; its statements get the time of day in milliseconds. A transaction
  that will write takes the write lock of the store first. -/
  | transact {α : Type} (write : Bool) (limit : Option τ) (body : Int → Transaction α) :
      Request τ (Except Error α)
  /-- Makes the working tree of a repository the one that calls go to. -/
  | openTree (repo : Repository) : Request τ Unit
  /-- A call on the working tree. -/
  | tree {α : Type} (call : TreeCall τ α) : Request τ (Except Error α)
  /-- One run of a command. -/
  | process (call : ProcessCall τ) : Request τ ProcessOutcome
  /-- Takes the lock of a repository within the process, waiting no longer than the limit. -/
  | takeLock (repoId : Int) (limit : Option τ) : Request τ (Except Error Bool)
  /-- Gives back the lock within the process. -/
  | dropLock (repoId : Int) : Request τ Unit
  /-- Takes the lock file of a repository, waiting until the deadline. -/
  | takeFile (repoId : Int) (deadline : Option τ) : Request τ (Except Error Bool)
  /-- Gives back the lock file. -/
  | dropFile (repoId : Int) : Request τ Unit
  /-- Makes a log record. -/
  | log (record : LogRecord) : Request τ Unit

end Forge
