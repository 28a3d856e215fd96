import Forge.Cli.Run
import Forge.Rehearsal.Play

/-!
# Rehearsals of command lines

Command lines are run one after another against one stage. Each is a process of its own: it takes
no locks over from the one before, and makes sure anew that the tables are there.
-/

namespace Forge.Rehearsal

open Cli

/-- A command line with the jump of the clock and the changes of the working tree before it. -/
structure CommandStep where
  tick : Int
  changes : List Change
  arguments : List String

/-- The outcome of a command line: its end, the recorded calls on the working tree, and the outcomes
of what happened during a merge. -/
structure CommandOutcome where
  finish : Finish
  treeRecords : List TreeRecord
  meanwhile : List Outcome

/-- What keeps the store of some settings from being opened. -/
def storeFault (files : FileTree) (s : Settings) : Option Error :=
  match busyFault s.busyTimeout with
  | some e => some e
  | none =>
    if files.isDirectory s.database then
      some (.engine (.other false "unable to open database file"))
    else none

/-- The setup of a session. -/
def setupOf (files : FileTree) (s : Settings) : Setup where
  database := s.database.text
  fault := storeFault files s
  policy := policyOf s
  git := none
  origin := some (s.git, s.mailDomain)
  apart := true

/-- Carries out a session. -/
def playSession (host : Host) (session : Session) (s : Stage) : Finish × Stage :=
  match session.task host with
  | .error failure => (session.withRecords s.records.reverse failure.finish, s)
  | .ok action =>
    let setup := setupOf host.files session.settings
    let (r, s) := s.perform (play setup depth) setup action
    (session.withRecords s.records.reverse (session.finish r), s)

/-- Runs a command line. -/
def playCommand (read : SettingsReader) (host : Host) (terminal : Bool) (s : Stage)
    (step : CommandStep) : CommandOutcome × Host × Stage :=
  let s := { s.pass step.tick with
    tree := step.changes.foldl Change.apply s.tree
    handle := .fresh
    files := []
    treeRecords := []
    records := []
    meanwhile := [] }
  match route step.arguments with
  | .finished f => (⟨f, [], []⟩, host, s)
  | .command i =>
    let (r, files) := prepare read host terminal i
    let host := { host with files }
    match r with
    | .error failure => (⟨failure.finish, [], []⟩, host, s)
    | .ok session =>
      let (f, s) := playSession host session s
      (⟨f, s.treeRecords.reverse, s.meanwhile.reverse⟩, host, s)

/-- Runs command lines one after another. -/
def playCommands (read : SettingsReader) (terminal : Bool) :
    List CommandStep → Host → Stage → List CommandOutcome
  | [], _, _ => []
  | step :: steps, host, s =>
    let (o, host, s) := playCommand read host terminal s step
    o :: playCommands read terminal steps host s

end Forge.Rehearsal
