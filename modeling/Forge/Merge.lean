import Forge.Lifecycle
import Forge.Lock

/-!
# Merging

A merge happens in two places: the branches are merged in the working tree, and the merge request
is marked merged in the store. No transaction spans the two. The locks of the repository are held
from the look at the merge request to its marking, and a merge that has reached the working tree
but not the store ends in `Error.unrecorded`, so that it can be put right by hand.
-/

namespace Forge.Merge

variable {τ : Type} [TimeScale τ]

/-- The message of the merge commit. -/
def commitMessage (request : MergeRequest) (actor : String) : String :=
  "Merge branch '" ++ request.sourceBranch ++ "' into '" ++ request.targetBranch ++ "'\n\n" ++
    "Merge request !" ++ toString request.id ++ " merged by " ++ actor

/-- What is left of a deadline now. -/
def remaining (deadline : Deadline τ) : Action τ (Option τ) := do
  return deadline.remaining (← Action.clock)

/-- Ends with the error that a merge in the working tree has not been recorded. -/
def unrecorded {α : Type} (repo : Repository) (request : MergeRequest) (commit reason : String) :
    Action τ α := do
  let shown := if commit = "" then "(unknown)" else commit
  Action.log .error .merge
    ("merge commit " ++ shown ++ " for merge request #" ++ toString request.id ++ " in " ++
      repo.name ++ " is not recorded: " ++ reason)
  throw (.unrecorded repo.name request reason)

/-- The log text of a transition. -/
def transitionText (kind : Kind) (id : Int) (t : Transition) (repoId : Int)
    (actor : Option String) : String :=
  let actor := actor.getD ""
  kind.label ++ " #" ++ toString id ++ ": " ++ t.source ++ " -> " ++ t.target ++ " (repo=" ++
    toString repoId ++ " actor=" ++ (if actor = "" then "-" else actor) ++ ")"

/-- Makes the log record of a transition. -/
def logTransition (kind : Kind) (id : Int) (name : String) (repoId : Int)
    (actor : Option String) : Action τ Unit :=
  match Transition.named? kind name with
  | some t => Action.log .info .lifecycle (transitionText kind id t repoId actor)
  | none => pure ()

/-- Whether the source branch of a merge that was reported as failed has reached the target all
the same. An unanswered question counts as no. -/
def landed (request : MergeRequest) : Action τ Bool := do
  match ← Action.attempt (.tree (.contains request.targetBranch request.sourceBranch none)) with
  | .ok there => pure there
  | .error e =>
    if e.isExternal then
      Action.log .warning .merge
        ("could not tell whether merge request #" ++ toString request.id ++ " reached " ++
          request.targetBranch ++ ": " ++ e.message)
      pure false
    else throw e

/-- Undoes a failed merge. A refusal is only recorded. -/
def abort (request : MergeRequest) : Action τ Unit := do
  match ← Action.attempt (.tree .abortMerge) with
  | .ok _ => pure ()
  | .error e =>
    if e.isExternal then
      Action.log .warning .merge
        ("could not abort failed merge for merge request #" ++ toString request.id ++ ": " ++
          e.message)
    else throw e

/-- Merges the branches in the working tree and answers the id of the merge commit. If the merge
fails, it is undone, unless the target has gained the source all the same. -/
def mergeBranches (repo : Repository) (request : MergeRequest) (actor : String)
    (deadline : Deadline τ) : Action τ String := do
  Action.log .info .merge
    ("merging " ++ request.sourceBranch ++ " into " ++ request.targetBranch ++
      " for merge request #" ++ toString request.id)
  let limit ← remaining deadline
  Action.demand (.tree (.checkout request.targetBranch limit))
  let limit ← remaining deadline
  let upToDate ← Action.demand
    (.tree (.contains request.targetBranch request.sourceBranch limit))
  let limit ← remaining deadline
  match ← Action.attempt
      (.tree (.merge request.sourceBranch (commitMessage request actor) actor limit)) with
  | .ok commit => pure commit
  | .error e =>
    if e.isExternal then
      let there ← if upToDate then pure false else landed request
      if there then
        unrecorded repo request "" ("git reported a failure after merging: " ++ e.message)
      else
        abort request
        throw e
    else throw e

/-- Marks the merge request merged. What keeps it from being marked makes the merge unrecorded. -/
def record (repo : Repository) (request : MergeRequest) (actor commit : String)
    (deadline : Deadline τ) : Action τ MergeRequest := do
  let now ← Action.clock
  if deadline.expired now then
    unrecorded repo request commit "deadline exceeded after the merge commit was created"
  else
    let limit ← remaining deadline
    let body (now : Int) : Transaction MergeRequest :=
      Lifecycle.apply StoredMergeRequest now repo.id request.id "merge" (some actor)
    match ← Action.attempt (.transact true limit body) with
    | .ok merged =>
      logTransition .mergeRequest request.id "merge" repo.id (some actor)
      Action.log .info .merge
        ("merge request #" ++ toString request.id ++ " merged by " ++ actor ++ " at " ++
          (if commit = "" then "HEAD" else commit))
      pure merged
    | .error e =>
      match e with
      | .invalidState .. | .notFound _ => unrecorded repo request commit e.message
      | .engine report =>
        unrecorded repo request commit ("storage failure: " ++ report.message)
      | e => throw e

/-- The part of a merge that is done while the locks of the repository are held. -/
def underLock (repo : Repository) (id : Int) (actor : String) (deadline : Deadline τ) :
    Action τ MergeRequest := do
  let limit ← remaining deadline
  let request ← Action.demand
    (.transact false limit fun _ => Ticket.get StoredMergeRequest repo.id id)
  if request.state = .opened then
    let now ← Action.clock
    if deadline.expired now then throw (.deadline (.beforeMerge id))
    else
      let commit ← mergeBranches repo request actor deadline
      record repo request actor commit deadline
  else
    throw (.invalidState "merge" .mergeRequest id request.state.text
      MergeRequestState.opened.text)

/-- Merges a merge request of a repository, whose working tree is the open one. -/
def run (lockDirectory : Option String) (lockLimit : Option τ) (repo : Repository) (id : Int)
    (actor : String) (limit : Option τ) : Action τ MergeRequest := do
  let deadline := Deadline.after (← Action.clock) limit
  let lockLimit := deadline.cap (← Action.clock) lockLimit
  WorkingTree.hold lockDirectory repo.id lockLimit (underLock repo id actor deadline)

end Forge.Merge
