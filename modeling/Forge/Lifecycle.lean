import Forge.Store.Issues
import Forge.Store.MergeRequests

/-!
# The life of a ticket

A transition takes a ticket from one state to another and writes the audit fields of the change:
who made it and when. It is one guarded update, keyed on the state that the transition starts
from, so of several callers that ask for the same change one makes it and the others are told the
state that they found.
-/

namespace Forge

/-- A change of state. The audit fields of a name `p` are `p_by` and `p_at`: those in `stamps` are
written, those in `clears` emptied. -/
structure Transition where
  name : String
  source : String
  target : String
  stamps : List String
  clears : List String
deriving DecidableEq, Repr

namespace Transition

/-- The values with both audit fields of a name set. -/
def putAudit (name : String) (actor moment : Cell) (values : List (String × Cell)) :
    List (String × Cell) :=
  Named.put (name ++ "_at") moment (Named.put (name ++ "_by") actor values)

/-- The columns that the transition sets, with their values. -/
def assignments (t : Transition) (actor : Option String) (now : Int) : List (String × Cell) :=
  let values := [("state", Cell.text t.target)]
  let values := t.stamps.foldl (fun vs p => putAudit p (Cell.ofText? actor) (.int now) vs) values
  let values := t.clears.foldl (fun vs p => putAudit p .null .null vs) values
  Named.put "updated_at" (.int now) values

/-- What an issue can go through. -/
def ofIssues : List Transition :=
  let opened := IssueState.opened.text
  let closed := IssueState.closed.text
  [⟨"close", opened, closed, ["closed"], []⟩, ⟨"reopen", closed, opened, [], ["closed"]⟩]

/-- What a merge request can go through. -/
def ofMergeRequests : List Transition :=
  let opened := MergeRequestState.opened.text
  let closed := MergeRequestState.closed.text
  [⟨"close", opened, closed, ["closed"], []⟩, ⟨"reopen", closed, opened, [], ["closed"]⟩,
    ⟨"merge", opened, MergeRequestState.merged.text, ["merged"], []⟩]

/-- The transitions of a kind of tickets. -/
def ofKind : Kind → List Transition
  | .issue => ofIssues
  | .mergeRequest => ofMergeRequests

/-- The transition of a kind of tickets by its name. -/
def named? (kind : Kind) (name : String) : Option Transition :=
  (ofKind kind).find? fun t => t.name == name

end Transition

namespace Lifecycle

open Transaction

/-- Whether an actor is given and has a name. -/
def hasActor (actor : Option String) : Bool :=
  match actor with
  | some a => a != ""
  | none => false

/-- Takes a ticket through the transition `t`. -/
def follow (ρ : Type) {ε : Type} [Ticket ρ ε] (t : Transition) (now repoId id : Int)
    (actor : Option String) : Transaction ε := do
  ensure (t.stamps.isEmpty || hasActor actor) (.invalidArgument (.actorRequired t.name))
  let matched ← Ticket.guardedUpdate ρ repoId id t.source (t.assignments actor now)
  if matched = 0 then
    let current ← Ticket.get ρ repoId id
    fail (.invalidState t.name (Ticket.kind ρ) id (Ticket.stateText ρ current) t.source)
  else Ticket.get ρ repoId id

/-- Takes a ticket through the transition of a name. -/
def apply (ρ : Type) {ε : Type} [Ticket ρ ε] (now repoId id : Int) (name : String)
    (actor : Option String) : Transaction ε :=
  match Transition.named? (Ticket.kind ρ) name with
  | some t => follow ρ t now repoId id actor
  | none => fail (.unknownTransition (Ticket.kind ρ) name)

end Lifecycle

end Forge
