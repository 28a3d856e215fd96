import Forge.Cli.Report
import Forge.Settings.Load
import Forge.Workflow

/-!
# Running a command line

A command line is read, the settings are loaded, the operations of its command are carried out, and
what they answer is shown. The operations of a command depend on its arguments alone, never on how
its report will be shown.

A failure is shown as a line on the error output and ends the run with status one. A merge that has
not been recorded ends it with status three, and a command line that cannot be read with status
two. Failures of a kind that is not foreseen escape.
-/

namespace Forge.Cli

/-- The version that is told. -/
def version : String := "0.1.0"

/-- The overview of the groups. -/
def usage : String :=
  "usage: repoflow <group> <command> [ARGS]\n\ngroups:\n" ++
  "  repo    register repositories and their working trees\n" ++
  "  issue   create, transition and link issues\n" ++
  "  mr      create, merge and transition merge requests\n\n" ++
  "Run \x60repoflow <group> --help\x60 for the commands of a group.\n"

/-! ## Endings -/

/-- Why a run fails. -/
inductive Failure where
  | refused (text : String)
  | error (e : Error)
  | settings (fault : SettingsFault)
  | directory (fault : StateDirectory.Fault)
  | mode (unknown : UnknownMode)
  | account (missing : NoAccount)
deriving DecidableEq, Repr

/-- How a run ends: with a status, or with a failure that escapes. -/
inductive Exit where
  | status (code : Nat)
  | escaped (failure : Failure)
deriving DecidableEq, Repr

/-- The end of a run: its exit, and what it has shown. -/
structure Finish where
  exit : Exit
  out : String
  err : String
  drawings : List Drawing
deriving DecidableEq, Repr

namespace Failure

/-- The failure in words. -/
def message : Failure → String
  | .refused text => text
  | .error e => e.message
  | .settings fault => fault.message
  | .directory fault => fault.message
  | .mode unknown => unknown.message
  | .account missing => missing.message

/-- Whether the run of a command is rejected for what it was given or has written, rather than for
the size of its time limit. -/
def isValueFault : RunFault → Bool
  | .limitTooLarge | .limitInfinite => false
  | _ => true

/-- Whether a failure is of a kind that is foreseen. -/
def isForeseen : Failure → Bool
  | .refused _ | .mode _ => true
  | .account _ => false
  | .error (.engine _) | .error .integerTooWide | .error .limitTooLong | .error .waitTooLong
  | .error (.system _) | .error .noLimit => false
  | .error (.unrunnable fault) => isValueFault fault
  | .error _ => true
  | .settings .tooLarge | .settings .noHome => false
  | .settings _ => true
  | .directory .unusable | .directory (.blocked .unusable) => true
  | .directory _ => false

/-- The line for an error. -/
def line (text : String) : String := "error: " ++ text ++ "\n"

/-- The line after that of a merge that has not been recorded. -/
def hint : String :=
  "hint: the merge commit exists in the repository; reconcile the merge request state manually\n"

/-- The failed end with a text on the error output. -/
def shown (code : Nat) (err : String) : Finish := ⟨.status code, "", err, []⟩

/-- The end of a run that fails. -/
def finish (f : Failure) : Finish :=
  if f.isForeseen then
    match f with
    | .error (.unrecorded ..) => shown 3 (line f.message ++ hint)
    | f => shown 1 (line f.message)
  else ⟨.escaped f, "", "", []⟩

end Failure

/-- The end of a run that has not come to a command. -/
def Stop.finish : Stop → Finish
  | .help _ => ⟨.status 0, "", "", []⟩
  | .refused program text => ⟨.status 2, "", program ++ ": error: " ++ text ++ "\n", []⟩

/-! ## The operations of a command -/

/-- The confirmation that a command needs. -/
def confirm (confirmed : Bool) (deed : String) : Except Failure Unit :=
  if confirmed then .ok () else .error (.refused ("refusing to " ++ deed ++ " without --yes"))

/-- The acting user of a command. -/
def acting (host : Host) (actor : Option String) : Except Failure (Option String) :=
  match actingUser host.environment actor with
  | .ok user => .ok (some user)
  | .error missing => .error (.account missing)

/-- What a command carries out, and what it reports. -/
def Command.task (host : Host) (policy : Policy Binary64) :
    Command → Except Failure (Action Binary64 Report)
  | .addRepository name path =>
    match StateDirectory.userPath host path with
    | .error fault => .error (.directory fault)
    | .ok p => .ok (.repositoryAdded <$> Workflow.registerRepository name p.text)
  | .listRepositories => .ok (.repositories <$> Workflow.repositories)
  | .removeRepository name confirmed =>
    (confirm confirmed "remove").map fun _ =>
      (fun _ => .repositoryRemoved name) <$> Workflow.removeRepository name
  | .createIssue repo title description actor =>
    (acting host actor).map fun user =>
      .issueDone .created <$> Workflow.createIssue repo user title description
  | .listIssues repo state order =>
    let rows := match state with
      | some state => Workflow.issuesIn repo state
      | none => Workflow.tickets StoredIssue repo
    .ok ((fun is => .issues ("Issues: " ++ repo) (sortRows order (·.updatedAt) (·.id) is)) <$> rows)
  | .showIssue repo id =>
    .ok do
      let i ← Workflow.ticket StoredIssue repo id
      let dependencies ← Workflow.dependenciesOf repo id
      let dependents ← Workflow.dependentsOf repo id
      pure (.issue i dependencies dependents)
  | .updateIssue repo id title description =>
    .ok (.issueDone .updated <$> Workflow.updateTicket StoredIssue repo id title description)
  | .closeIssue repo id actor =>
    (acting host actor).map fun user =>
      .issueDone .closed <$> Workflow.closeTicket StoredIssue repo id user
  | .reopenIssue repo id =>
    .ok (.issueDone .reopened <$> Workflow.reopenTicket StoredIssue repo id)
  | .deleteIssue repo id confirmed =>
    (confirm confirmed "delete").map fun _ =>
      (fun _ => .issueDeleted id) <$> Workflow.deleteIssue repo id
  | .addDependency repo id dependsOn =>
    .ok (.dependencyAdded <$> Workflow.addDependency repo id dependsOn)
  | .removeDependency repo id dependsOn =>
    .ok (.dependencyRemoved id dependsOn <$> Workflow.removeDependency repo id dependsOn)
  | .hasDependency repo id dependsOn =>
    .ok (.dependencyPresent id dependsOn <$> Workflow.hasDependency repo id dependsOn)
  | .dependenciesOf repo id =>
    .ok (.issues ("Issue " ++ issueNumber id ++ " depends on") <$>
      Workflow.dependenciesOf repo id)
  | .dependentsOf repo id =>
    .ok (.issues ("Issue " ++ issueNumber id ++ " blocks") <$> Workflow.dependentsOf repo id)
  | .createMergeRequest repo source target title description actor =>
    (acting host actor).map fun user =>
      .mergeRequestDone .created <$>
        Workflow.createMergeRequest repo user title source target description
  | .listMergeRequests repo state order =>
    let rows := match state with
      | some state => Workflow.mergeRequestsIn repo state
      | none => Workflow.tickets StoredMergeRequest repo
    .ok ((fun ms =>
      .mergeRequests ("Merge requests: " ++ repo) (sortRows order (·.updatedAt) (·.id) ms)) <$>
        rows)
  | .showMergeRequest repo id =>
    .ok (.mergeRequest <$> Workflow.ticket StoredMergeRequest repo id)
  | .updateMergeRequest repo id title description =>
    .ok (.mergeRequestDone .updated <$>
      Workflow.updateTicket StoredMergeRequest repo id title description)
  | .merge repo id limit actor =>
    (acting host actor).map fun user =>
      .mergeRequestDone .merged <$> Workflow.merge policy repo id user limit
  | .closeMergeRequest repo id actor =>
    (acting host actor).map fun user =>
      .mergeRequestDone .closed <$> Workflow.closeTicket StoredMergeRequest repo id user
  | .reopenMergeRequest repo id =>
    .ok (.mergeRequestDone .reopened <$> Workflow.reopenTicket StoredMergeRequest repo id)
  | .deleteMergeRequest repo id confirmed =>
    (confirm confirmed "delete").map fun _ =>
      (fun _ => .mergeRequestDeleted id) <$> Workflow.deleteMergeRequest repo id

/-! ## From a command line to a session -/

/-- The waiting that settings ask for. -/
def policyOf (s : Settings) : Policy Binary64 :=
  ⟨some s.lockDirectory.text, s.lockLimit, s.mergeLimit⟩

/-- Where a command line leads: to the end at once, or to a command of a group. -/
inductive Route where
  | finished (f : Finish)
  | command (i : Invocation)
deriving DecidableEq, Repr

/-- The names of the groups in messages. -/
def groupNames : List String := ["repo", "issue", "mr"]

/-- Reads a command line. -/
def route : List String → Route
  | [] => .finished ⟨.status 2, usage, "", []⟩
  | group :: arguments =>
    if group = "-h" ∨ group = "--help" then .finished ⟨.status 0, usage, "", []⟩
    else if group = "--version" then
      .finished ⟨.status 0, "repoflow " ++ version ++ "\n", "", []⟩
    else
      match groupNamed? group with
      | some commands =>
        match Invocation.read commands arguments with
        | .ok i => .command i
        | .error stop => .finished stop.finish
      | none =>
        .finished ⟨.status 2, "", Failure.line ("unknown group " ++ Text.quoted group ++
          " (expected one of: " ++ ", ".intercalate groupNames ++ ")"), []⟩

/-- A command that is ready to be carried out: its output mode and the settings. -/
structure Session where
  invocation : Invocation
  mode : OutputMode
  settings : Settings

/-- The way to read a file of settings. -/
abbrev SettingsReader := Path → List Nat → Except SettingsFault Toml.Table

/-- Prepares a command: finds the output mode, then the state directory, which is made if it is not
there, and then the settings in it. Answers the files as they are then, too. -/
def prepare (read : SettingsReader) (host : Host) (terminal : Bool) (i : Invocation) :
    Except Failure Session × FileTree :=
  match outputMode host.environment i.output terminal with
  | .error unknown => (.error (.mode unknown), host.files)
  | .ok mode =>
    match StateDirectory.locate host host.directory with
    | .error fault => (.error (.directory fault), host.files)
    | .ok (directory, files) =>
      match Settings.loadWith read host.environment files directory with
      | .error fault => (.error (.settings fault), files)
      | .ok settings => (.ok ⟨i, mode, settings⟩, files)

namespace Session

/-- What the session carries out. -/
def task (host : Host) (s : Session) : Except Failure (Action Binary64 Report) :=
  s.invocation.command.task host (policyOf s.settings)

/-- The end of a session whose operations have answered. -/
def finish (s : Session) : Except Error Report → Finish
  | .ok report =>
    let (out, drawings) := report.shown s.invocation.json s.mode
    ⟨.status 0, out, "", drawings⟩
  | .error e => (Failure.error e).finish

/-- The line of a log record in the plain mode. -/
def recordLine (r : Int × LogRecord) : String :=
  Stamp.logText r.1 ++ " " ++ r.2.level.text ++ " " ++ r.2.part.text ++ ": " ++ r.2.text ++ "\n"

/-- The end of a session, with the log records that were made before it. -/
def withRecords (s : Session) (records : List (Int × LogRecord)) (f : Finish) : Finish :=
  let shown := LogRecord.atLeast s.settings.logLevel records
  match s.mode with
  | .plain => { f with err := String.join (shown.map recordLine) ++ f.err }
  | .rich =>
    { f with drawings := shown.map (fun r => .record r.2.level r.2.text) ++ f.drawings }

end Session

end Forge.Cli
