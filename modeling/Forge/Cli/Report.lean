import Forge.Cli.Command
import Forge.Cli.Drawing
import Forge.Document
import Forge.Json.Companions
import Forge.Json.Printer

/-!
# Reports

What a command has to say when it has succeeded. A report can be shown in three ways: as a JSON
document, as plain lines, or, for lists and details, as drawings. None of them asks anything of the
forge any more.
-/

namespace Forge.Cli

/-- What has been done to a ticket. -/
inductive Done where
  | created
  | updated
  | closed
  | reopened
  | merged
deriving DecidableEq, Repr

/-- The word for what has been done. -/
def Done.text : Done → String
  | .created => "Created"
  | .updated => "Updated"
  | .closed => "Closed"
  | .reopened => "Reopened"
  | .merged => "Merged"

/-- What a command reports. -/
inductive Report where
  | repositoryAdded (r : Repository)
  | repositories (rs : List Repository)
  | repositoryRemoved (name : String)
  | issueDone (done : Done) (i : Issue)
  | issues (title : String) (is : List Issue)
  | issue (i : Issue) (dependencies dependents : List Issue)
  | issueDeleted (id : Int)
  | dependencyAdded (d : Dependency)
  | dependencyRemoved (id dependsOn : Int) (removed : Bool)
  | dependencyPresent (id dependsOn : Int) (present : Bool)
  | mergeRequestDone (done : Done) (m : MergeRequest)
  | mergeRequests (title : String) (ms : List MergeRequest)
  | mergeRequest (m : MergeRequest)
  | mergeRequestDeleted (id : Int)
deriving DecidableEq, Repr

/-- The number of an issue. -/
def issueNumber (id : Int) : String := "#" ++ toString id

/-- The number of a merge request. -/
def mergeRequestNumber (id : Int) : String := "!" ++ toString id

/-- The two branches of a merge request. -/
def branchesText (m : MergeRequest) : String := m.sourceBranch ++ " -> " ++ m.targetBranch

/-! ## Details -/

/-- The line for who has closed or merged a ticket, and when. -/
def auditLine (name : String) (moment : Option Int) (actor : Option String) : List String :=
  match moment with
  | some ms => [name ++ ": " ++ timeText ms ++ " by " ++ actor.getD "None"]
  | none => []

/-- The lines of an issue. -/
def issueLines (i : Issue) : List String :=
  ["state: " ++ i.state.text, "author: " ++ i.authorId, "created: " ++ timeText i.createdAt,
    "updated: " ++ timeText i.updatedAt] ++ auditLine "closed" i.closedAt i.closedBy

/-- The lines of a merge request. -/
def mergeRequestLines (m : MergeRequest) : List String :=
  ["state: " ++ m.state.text, "source: " ++ m.sourceBranch, "target: " ++ m.targetBranch,
    "author: " ++ m.authorId, "created: " ++ timeText m.createdAt,
    "updated: " ++ timeText m.updatedAt] ++
    auditLine "merged" m.mergedAt m.mergedBy ++ auditLine "closed" m.closedAt m.closedBy

/-! ## JSON documents -/

namespace Report

/-- The document of a report. -/
def document : Report → Json
  | .repositoryAdded r => r.document
  | .repositories rs => .arr (rs.map Repository.document)
  | .repositoryRemoved name => .obj [("name", .str name), ("removed", .bool true)]
  | .issueDone _ i => i.document
  | .issues _ is => .arr (is.map IssueIn.document)
  | .issue i dependencies dependents =>
    .obj (i.members i.state.text ++ [
      ("depends_on", .arr (dependencies.map IssueIn.document)),
      ("blocked_by", .arr (dependents.map IssueIn.document))])
  | .issueDeleted id => .obj [("id", .int id), ("deleted", .bool true)]
  | .dependencyAdded d => d.document
  | .dependencyRemoved id dependsOn removed =>
    .obj [("issue_id", .int id), ("depends_on_id", .int dependsOn), ("removed", .bool removed)]
  | .dependencyPresent id dependsOn present =>
    .obj [("issue_id", .int id), ("depends_on_id", .int dependsOn), ("present", .bool present)]
  | .mergeRequestDone _ m => m.document
  | .mergeRequests _ ms => .arr (ms.map MergeRequestIn.document)
  | .mergeRequest m => m.document
  | .mergeRequestDeleted id => .obj [("id", .int id), ("deleted", .bool true)]

/-! ## Plain lines -/

/-- The lines of a list, or the line that says that there is nothing. -/
def listed {α : Type} (nothing : String) (line : α → String) : List α → List String
  | [] => [nothing]
  | rows => rows.map line

/-- The lines of issues that stand at the other end of dependencies. -/
def relatedLines (title : String) : List Issue → List String
  | [] => []
  | is =>
    "" :: (title ++ ":") :: is.map fun i =>
      "  " ++ issueNumber i.id ++ " - " ++ i.title ++ " [" ++ i.state.text ++ "]"

/-- The line of an issue in a list. -/
def issueLine (i : Issue) : String :=
  issueNumber i.id ++ ": " ++ i.title ++ " [" ++ i.state.text ++ "]"

/-- The line of a merge request in a list. -/
def mergeRequestLine (m : MergeRequest) : String :=
  mergeRequestNumber m.id ++ ": " ++ m.title ++ " (" ++ branchesText m ++ ") [" ++
    m.state.text ++ "]"

/-- The plain lines of a report. -/
def lines : Report → List String
  | .repositoryAdded r => ["Registered repository " ++ r.name ++ " at " ++ r.path]
  | .repositories rs => listed "No repositories found" (fun r => r.name ++ "\t" ++ r.path) rs
  | .repositoryRemoved name => ["Removed repository " ++ name]
  | .issueDone done i => [done.text ++ " issue " ++ issueNumber i.id]
  | .issues _ is => listed "No issues found" issueLine is
  | .issue i dependencies dependents =>
    ["Issue " ++ issueNumber i.id, "Title: " ++ i.title, "Description: " ++ i.description] ++
      issueLines i ++ relatedLines "Depends on" dependencies ++
      relatedLines "Blocked by" dependents
  | .issueDeleted id => ["Deleted issue " ++ issueNumber id]
  | .dependencyAdded d =>
    ["Added dependency: issue " ++ issueNumber d.issueId ++ " now depends on issue " ++
      issueNumber d.dependsOnId]
  | .dependencyRemoved id dependsOn true =>
    ["Removed dependency: issue " ++ issueNumber id ++ " no longer depends on issue " ++
      issueNumber dependsOn]
  | .dependencyRemoved id dependsOn false =>
    ["No dependency to remove: issue " ++ issueNumber id ++ " does not depend on issue " ++
      issueNumber dependsOn]
  | .dependencyPresent _ _ present => [if present then "yes" else "no"]
  | .mergeRequestDone done m => [done.text ++ " merge request " ++ mergeRequestNumber m.id]
  | .mergeRequests _ ms => listed "No merge requests found" mergeRequestLine ms
  | .mergeRequest m =>
    ["Merge Request " ++ mergeRequestNumber m.id, "Title: " ++ m.title,
      "Description: " ++ m.description] ++ mergeRequestLines m
  | .mergeRequestDeleted id => ["Deleted merge request " ++ mergeRequestNumber id]

/-! ## Drawings -/

/-- The console of reports in the rich mode. -/
def console : Console := ⟨false, true⟩

/-- The headers of a table of issues. -/
def issueHeaders : List String := ["ID", "STATE", "AUTHOR", "UPDATED", "TITLE"]

/-- The cells of an issue, with its state as given. -/
def issueCells (state : String) (i : Issue) : List String :=
  [issueNumber i.id, state, i.authorId, timeText i.updatedAt, truncate i.title 60]

/-- The headers of a table of merge requests. -/
def mergeRequestHeaders : List String := ["ID", "STATE", "BRANCHES", "AUTHOR", "UPDATED", "TITLE"]

/-- The cells of a merge request. -/
def mergeRequestCells (m : MergeRequest) : List String :=
  [mergeRequestNumber m.id, styledState m.state.text, branchesText m, m.authorId,
    timeText m.updatedAt, truncate m.title 56]

/-- A table, or a panel that says that there is nothing. -/
def drawnList {α : Type} (title nothing : String) (headers : List String)
    (cells : α → List String) : List α → Drawing
  | [] => .block console title "" nothing
  | rows => .tableOf console title headers (rows.map cells)

/-- The panel of a description. -/
def drawnDescription (description : String) : Drawing :=
  .block console "Description" description "(no description)"

/-- The panel of the lines of a ticket. -/
def drawnDetails (title : String) (lines : List String) : Drawing :=
  .block console title ("\n".intercalate lines) Drawing.nothingThere

/-- A table of the issues at the other end of dependencies. -/
def drawnRelated (title : String) (is : List Issue) : Drawing :=
  drawnList title Drawing.nothingThere issueHeaders (fun i => issueCells i.state.text i) is

/-- The drawings of a report, if it is one that is drawn. -/
def drawings? : Report → Option (List Drawing)
  | .repositories rs =>
    some [drawnList "Repositories" "(no repositories)" ["NAME", "CREATED", "PATH"]
      (fun r => [r.name, timeText r.createdAt, r.path]) rs]
  | .issues title is =>
    some [drawnList title "(no issues)" issueHeaders
      (fun i => issueCells (styledState i.state.text) i) is]
  | .issue i dependencies dependents =>
    some [drawnDetails ("Issue " ++ issueNumber i.id ++ ": " ++ i.title) (issueLines i),
      drawnDescription i.description, drawnRelated "Depends on" dependencies,
      drawnRelated "Blocked by" dependents]
  | .mergeRequests title ms =>
    some [drawnList title "(no merge requests)" mergeRequestHeaders mergeRequestCells ms]
  | .mergeRequest m =>
    some [drawnDetails ("Merge request " ++ mergeRequestNumber m.id ++ ": " ++ m.title)
      (mergeRequestLines m), drawnDescription m.description]
  | _ => none

/-! ## The output of a report -/

/-- The text of lines. -/
def textOf (lines : List String) : String :=
  String.join (lines.map (· ++ "\n"))

/-- The text and the drawings by which a report is shown. -/
def shown (json : Bool) (mode : OutputMode) (r : Report) : String × List Drawing :=
  if json then (r.document.withStamps.render ++ "\n", [])
  else
    match mode, r.drawings? with
    | .rich, some drawings => ("", drawings)
    | _, _ => (textOf r.lines, [])

end Report

end Forge.Cli
