import Forge.Entity
import Forge.Text.Search
import Forge.Text.Surrogates
import Forge.Text.Utf8

/-!
# What can go wrong

`EngineError` is what the storage engine reports about a statement. `Error` is what an operation
answers instead of a value: the reasons to refuse a request, by class, and below them the faults
that no class covers. `EngineError.toError` says which refusal a report of the engine amounts to.
`message` gives the words of each.
-/

namespace Forge

/-- The tables of a store. -/
inductive TableName where
  | repos
  | issues
  | mergeRequests
  | dependencies
deriving DecidableEq, Repr

/-- The name of a table. -/
def TableName.text : TableName → String
  | .repos => "repos"
  | .issues => "issues"
  | .mergeRequests => "merge_requests"
  | .dependencies => "issue_dependencies"

/-- All tables. -/
def TableName.all : List TableName := [.repos, .issues, .mergeRequests, .dependencies]

/-- The table of a name. -/
def TableName.ofText? (s : String) : Option TableName :=
  TableName.all.find? fun t => t.text == s

/-- The constraints of the tables, as statements can violate them. -/
inductive Violation where
  | repositoryName
  | dependencyPair
  | selfDependency
  | missingValue (table : TableName) (column : String)
  | foreignKey
deriving DecidableEq, Repr

/-- The engine's words for a violated constraint. -/
def Violation.message : Violation → String
  | .repositoryName => "UNIQUE constraint failed: repos.name"
  | .dependencyPair =>
    "UNIQUE constraint failed: issue_dependencies.issue_id, issue_dependencies.depends_on_id"
  | .selfDependency => "CHECK constraint failed: no_self_dependency"
  | .missingValue table column => "NOT NULL constraint failed: " ++ table.text ++ "." ++ column
  | .foreignKey => "FOREIGN KEY constraint failed"

/-- A report of the storage engine: a violated constraint, or another failure. -/
inductive EngineError where
  | violated (v : Violation)
  | locked
  | noSuchTable (name : String)
  | noSuchColumn (name : String)
  | other (integrity : Bool) (text : String)
deriving DecidableEq, Repr

namespace EngineError

/-- Whether the report is about the integrity of the data. -/
def isIntegrity : EngineError → Bool
  | .violated _ => true
  | .other integrity _ => integrity
  | _ => false

/-- The engine's words. -/
def message : EngineError → String
  | .violated v => v.message
  | .locked => "database is locked"
  | .noSuchTable name => "no such table: " ++ name
  | .noSuchColumn name => "no such column: " ++ name
  | .other _ text => text

end EngineError

/-- What was looked for and is not there. -/
inductive Missing where
  | repository (name : String)
  | ticket (kind : Kind) (id : Int)
  | reference
deriving DecidableEq, Repr

/-- The words for a missing thing. -/
def Missing.message : Missing → String
  | .repository name => "repository not found: " ++ name
  | .ticket kind id => kind.label ++ " not found: #" ++ toString id
  | .reference => "referenced record does not exist"

/-- What is there already. -/
inductive Clash where
  | repository
  | dependency
  | constraint (text : String)
deriving DecidableEq, Repr

/-- The words for a clash. -/
def Clash.message : Clash → String
  | .repository => "repository already exists"
  | .dependency => "dependency already exists"
  | .constraint text => text

/-- The two branches of a merge request. -/
inductive Side where
  | source
  | target
deriving DecidableEq, Repr

/-- The name of a side. -/
def Side.text : Side → String
  | .source => "source"
  | .target => "target"

/-- What is wrong with an argument. -/
inductive Invalid where
  | emptyTitle
  | emptyRepositoryName
  | emptyRepositoryPath
  | noActor
  | actorRequired (transition : String)
  | state (kind : Kind) (text : String)
  | branchName (side : Side) (name : String)
  | sameBranches
  | noSuchBranch (side : Side) (name : String)
  | selfDependency
  | constraint (text : String)
deriving DecidableEq, Repr

/-- The words for an invalid argument. -/
def Invalid.message : Invalid → String
  | .emptyTitle => "title cannot be empty"
  | .emptyRepositoryName => "repository name cannot be empty"
  | .emptyRepositoryPath => "repository path cannot be empty"
  | .noActor => "acting user is required"
  | .actorRequired transition => transition ++ " requires an acting user"
  | .state kind text =>
    "invalid " ++ kind.label ++ " state: " ++ text ++ " (must be one of: " ++
      ", ".intercalate kind.stateTexts ++ ")"
  | .branchName side name => "invalid " ++ side.text ++ " branch name: " ++ Text.quoted name
  | .sameBranches => "source and target branches must differ"
  | .noSuchBranch side name =>
    side.text ++ " branch " ++ Text.quoted name ++ " does not exist"
  | .selfDependency => "an issue cannot depend on itself"
  | .constraint text => text

/-- Why a step with a time limit ran out of time. -/
inductive Lateness where
  | waitingForLock (repoId : Int)
  | beforeMerge (id : Int)
  | step (text : String)
deriving DecidableEq, Repr

/-- The words for a missed deadline. -/
def Lateness.message : Lateness → String
  | .waitingForLock repoId =>
    "timed out waiting for the working tree lock of repo " ++ toString repoId
  | .beforeMerge id => "deadline exceeded before merging merge request #" ++ toString id
  | .step text => text

/-- A refusal of the operating system. Most have a number and words for it, and some name the file
that they are about. -/
inductive SystemError where
  | plain (text : String)
  | numbered (number : Int) (text : String)
  | about (number : Int) (text file : String)
deriving DecidableEq, Repr

/-- The words of a refusal. -/
def SystemError.message : SystemError → String
  | .plain text => text
  | .numbered number text => "[Errno " ++ toString number ++ "] " ++ text
  | .about number text file =>
    "[Errno " ++ toString number ++ "] " ++ text ++ ": " ++ Text.quoted file

/-- Why the run of a command is not carried to its end, besides refusals of the operating system:
its time limit is none that a clock can wait for, its words cannot be handed over, or its output is
no text. -/
inductive RunFault where
  | limitTooLarge
  | limitInfinite
  | limitNotANumber
  | nullCharacter
  | unwritable (fault : Text.EncodeFault)
  | unreadable (fault : Text.Utf8.Fault)
deriving DecidableEq, Repr

/-- The words for a run that is not carried to its end. -/
def RunFault.message : RunFault → String
  | .limitTooLarge => "timeout is too large"
  | .limitInfinite => "cannot convert float infinity to integer"
  | .limitNotANumber => "cannot convert float NaN to integer"
  | .nullCharacter => "embedded null byte"
  | .unwritable fault => fault.message
  | .unreadable fault => fault.message

/-- What an operation answers instead of a value. -/
inductive Error where
  /-- Something that the request names does not exist. -/
  | notFound (what : Missing)
  /-- The transition `verb` was asked of a ticket in another state than it starts from. -/
  | invalidState (verb : String) (kind : Kind) (id : Int) (current expected : String)
  /-- Something that the request would add exists. -/
  | conflict (what : Clash)
  /-- An argument cannot be accepted. -/
  | invalidArgument (why : Invalid)
  /-- The storage engine failed. -/
  | storage (report : String)
  /-- The working tree refused a step, and nothing was recorded. -/
  | external (text : String)
  /-- A time limit passed before the working tree had finished. -/
  | deadline (why : Lateness)
  /-- The branches were merged, but the merge request could not be marked merged. -/
  | unrecorded (repo : String) (request : MergeRequest) (reason : String)
  /-- A report of the storage engine that has not been put into a class. -/
  | engine (report : EngineError)
  /-- A whole number has more than 64 bits. -/
  | integerTooWide
  /-- A text has no UTF-8 form. -/
  | unwritable (fault : Text.EncodeFault)
  /-- A stored state is no state of its kind. -/
  | unreadableState (kind : Kind) (text : String)
  /-- There is no transition of this name. -/
  | unknownTransition (kind : Kind) (name : String)
  /-- A time limit has no representation in nanoseconds. -/
  | limitTooLong
  /-- The time to wait for the store has more milliseconds than a double can count. -/
  | waitTooLong
  /-- The operating system has refused a file or a directory. -/
  | system (refusal : SystemError)
  /-- The path of a file or a directory holds a null character. -/
  | nullCharacter
  /-- The run of a command was not carried to its end. -/
  | unrunnable (fault : RunFault)
  /-- A step was said to have exceeded a limit that it was not given. -/
  | noLimit
  /-- The working tree failed in a way that it never should. -/
  | fault (text : String)
deriving DecidableEq, Repr

/-- How a state type is called in the words for an unreadable state. -/
def Kind.stateClass : Kind → String
  | .issue => "IssueState"
  | .mergeRequest => "MergeRequestState"

namespace Error

/-- The words of an error. -/
def message : Error → String
  | .notFound what => what.message
  | .invalidState verb kind id current expected =>
    "cannot " ++ verb ++ " " ++ kind.label ++ " #" ++ toString id ++ ": state is " ++ current ++
      ", expected " ++ expected
  | .conflict what => what.message
  | .invalidArgument why => why.message
  | .storage report => "storage failure: " ++ report
  | .external text => text
  | .deadline why => why.message
  | .unrecorded repo request reason =>
    "merge request !" ++ toString request.id ++ " in " ++ repo ++ ": '" ++
      request.sourceBranch ++ "' was merged into '" ++ request.targetBranch ++
      "' but the state was not recorded: " ++ reason
  | .engine report => report.message
  | .integerTooWide => "Python int too large to convert to SQLite INTEGER"
  | .unwritable f => f.message
  | .unreadableState kind text => Text.quoted text ++ " is not a valid " ++ kind.stateClass
  | .unknownTransition kind name => "unknown " ++ kind.label ++ " transition: " ++ name
  | .limitTooLong => "timestamp too large to convert to C _PyTime_t"
  | .waitTooLong => "int too large to convert to float"
  | .system refusal => refusal.message
  | .nullCharacter => "embedded null byte"
  | .unrunnable f => f.message
  | .noLimit => "unsupported format string passed to NoneType.__format__"
  | .fault text => text

/-- Whether the working tree, rather than the forge, refused. -/
def isExternal : Error → Bool
  | .external _ | .deadline _ => true
  | _ => false

/-- Whether a file or a directory could not be used. -/
def isFileFault : Error → Bool
  | .system _ | .nullCharacter => true
  | _ => false

end Error

/-- The refusal that a report of the engine amounts to: violated constraints are told by their
words, everything else is a failure of the storage. -/
def EngineError.toError (e : EngineError) : Error :=
  let text := e.message
  if e.isIntegrity && Text.startsWith "UNIQUE constraint failed" text then
    if Text.hasPart "issue_dependencies" text then .conflict .dependency
    else if Text.hasPart "repos" text then .conflict .repository
    else .conflict (.constraint text)
  else if e.isIntegrity && Text.startsWith "CHECK constraint failed" text then
    if Text.hasPart "no_self_dependency" text || Text.hasPart "issue_dependencies" text then
      .invalidArgument .selfDependency
    else .invalidArgument (.constraint text)
  else if e.isIntegrity && Text.startsWith "FOREIGN KEY constraint failed" text then
    .notFound .reference
  else if e.isIntegrity && Text.startsWith "NOT NULL constraint failed" text then
    .invalidArgument (.constraint text)
  else .storage text

/-- The error with a report of the engine put into its class. -/
def Error.classified : Error → Error
  | .engine report => report.toError
  | e => e

end Forge
