import Forge.Error

/-!
# Arguments of requests

Names, titles, actors and states come as free text. Each has one form in which it is stored or
compared, found by taking off blanks and, for names and states, by going to lower case.
-/

namespace Forge

/-- The text without one final `last`. -/
def withoutSuffix (last s : String) : String :=
  if Text.endsWith last s then String.ofList (s.toList.take (s.length - last.length)) else s

/-- The name that a repository is stored under: without blanks and slashes around it, in lower
case, and without one final `.git` and the slashes before that. -/
def Repository.cleanName (name : String) : Except Error String :=
  let value := withoutSuffix ".git" (Text.lower (Text.stripChar '/' (Text.strip name)))
  let value := Text.stripChar '/' value
  if value = "" then .error (.invalidArgument .emptyRepositoryName) else .ok value

/-- The title of a ticket, without the blanks around it. -/
def cleanTitle (title : String) : Except Error String :=
  let value := Text.strip title
  if value = "" then .error (.invalidArgument .emptyTitle) else .ok value

/-- The acting user, without the blanks around the name. -/
def cleanActor (actor : Option String) : Except Error String :=
  let value := Text.strip (actor.getD "")
  if value = "" then .error (.invalidArgument .noActor) else .ok value

/-- The form in which texts are compared with the names of states. -/
def stateKey (text : String) : String :=
  Text.lower (Text.strip text)

/-- The state of an issue that a user's text means. -/
def IssueState.parse (text : String) : Except Error IssueState :=
  match ofText? (stateKey text) with
  | some state => .ok state
  | none => .error (.invalidArgument (.state .issue text))

/-- The state of a merge request that a user's text means. -/
def MergeRequestState.parse (text : String) : Except Error MergeRequestState :=
  match ofText? (stateKey text) with
  | some state => .ok state
  | none => .error (.invalidArgument (.state .mergeRequest text))

end Forge
