import Forge.Text.Blank
import Forge.Text.Case

/-!
# Entities

A forge keeps repositories, issues, merge requests and the dependencies between issues. Issues and
merge requests are tickets: both have a title, an author, a state and the audit fields of their
last closing. Times are milliseconds since the start of 1970.

A ticket is generic in its state: a stored one has the text of its state, one that has been read
has the state itself.
-/

namespace Forge

/-- The two kinds of tickets. -/
inductive Kind where
  | issue
  | mergeRequest
deriving DecidableEq, Repr

/-- What messages call a ticket of this kind. -/
def Kind.label : Kind → String
  | .issue => "issue"
  | .mergeRequest => "merge request"

/-- The state of an issue. -/
inductive IssueState where
  | opened
  | closed
deriving DecidableEq, Repr

namespace IssueState

/-- The text that stands for a state. -/
def text : IssueState → String
  | .opened => "open"
  | .closed => "closed"

/-- All states, in the order in which they are offered. -/
def all : List IssueState := [.opened, .closed]

/-- The state that a text stands for. -/
def ofText? (s : String) : Option IssueState :=
  all.find? fun t => t.text == s

end IssueState

/-- The state of a merge request. Merged is final. -/
inductive MergeRequestState where
  | opened
  | merged
  | closed
deriving DecidableEq, Repr

namespace MergeRequestState

/-- The text that stands for a state. -/
def text : MergeRequestState → String
  | .opened => "open"
  | .merged => "merged"
  | .closed => "closed"

/-- All states, in the order in which they are offered. -/
def all : List MergeRequestState := [.opened, .merged, .closed]

/-- The state that a text stands for. -/
def ofText? (s : String) : Option MergeRequestState :=
  all.find? fun t => t.text == s

end MergeRequestState

/-- The texts that stand for the states of a kind of tickets. -/
def Kind.stateTexts : Kind → List String
  | .issue => IssueState.all.map IssueState.text
  | .mergeRequest => MergeRequestState.all.map MergeRequestState.text

/-- A registered repository: the name it is found by and the path of its working tree. -/
structure Repository where
  id : Int
  name : String
  path : String
  createdAt : Int
deriving DecidableEq, Repr

/-- An issue of a repository, with a state of type `σ`. -/
structure IssueIn (σ : Type) where
  id : Int
  repoId : Int
  title : String
  description : String
  state : σ
  authorId : String
  closedBy : Option String
  closedAt : Option Int
  createdAt : Int
  updatedAt : Int
deriving DecidableEq, Repr

/-- An issue. `closedBy` and `closedAt` are there while it is closed. -/
abbrev Issue := IssueIn IssueState

/-- An issue as the store holds it. -/
abbrev StoredIssue := IssueIn String

/-- A request to merge one branch of a repository into another, with a state of type `σ`. -/
structure MergeRequestIn (σ : Type) where
  id : Int
  repoId : Int
  title : String
  description : String
  sourceBranch : String
  targetBranch : String
  state : σ
  authorId : String
  mergedBy : Option String
  mergedAt : Option Int
  closedBy : Option String
  closedAt : Option Int
  createdAt : Int
  updatedAt : Int
deriving DecidableEq, Repr

/-- A merge request. `mergedBy` and `mergedAt` are written once, when it is merged. -/
abbrev MergeRequest := MergeRequestIn MergeRequestState

/-- A merge request as the store holds it. -/
abbrev StoredMergeRequest := MergeRequestIn String

/-- The issue `issueId` waits for the issue `dependsOnId`. -/
structure Dependency where
  issueId : Int
  dependsOnId : Int
  createdAt : Int
deriving DecidableEq, Repr

/-- The issue with its state read, if the text stands for one. -/
def IssueIn.read? (row : StoredIssue) : Option Issue :=
  (IssueState.ofText? row.state).map fun state => { row with state }

/-- The merge request with its state read, if the text stands for one. -/
def MergeRequestIn.read? (row : StoredMergeRequest) : Option MergeRequest :=
  (MergeRequestState.ofText? row.state).map fun state => { row with state }

end Forge
