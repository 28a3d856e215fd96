import Forge.Cli.Alone
import Forge.Json.Line
import Forge.Json.Reader
import Forge.Store.Snapshot
import Std.Time.DateTime.Timestamp

/-!
# The program

Runs one command line on the machine it is started on. The store is a snapshot on one line of the
database file; it is read before the command is carried out and written after it.
-/

namespace Forge.Cli

/-- The variables that a run looks at. -/
def variableNames : List String :=
  ["HOME", StateDirectory.variableName, Settings.levelVariable, outputVariable, actorVariable] ++
    loginVariables

/-- The environment of this process. -/
def readEnvironment : IO Environment := do
  let found ← variableNames.mapM fun name => do
    return (← IO.getEnv name).map fun value => (name, value)
  return ⟨found.filterMap fun v => v, [], 0⟩

/-- The file tree with what stands at an absolute path and at the directories above it. -/
def readEntries (t : FileTree) (p : Path) : IO FileTree := do
  let here ← IO.currentDir
  p.withParents.foldrM (fun q t => do
    let file := here / q.text
    if ← file.isDir then return t.add q.names .directory
    else if ← file.pathExists then
      let bytes ← IO.FS.readBinFile file
      return t.add q.names (.file (bytes.toList.map UInt8.toNat))
    else return t) t

/-- The host: this process, and of the files those that say where the state is and how it is
set. -/
def readHost : IO Host := do
  let environment ← readEnvironment
  let directory := Path.ofText (← IO.currentDir).toString
  let mut files := FileTree.empty
  for above in directory.withParents do
    files ← readEntries files (above.child StateDirectory.directoryName)
  match StateDirectory.find ⟨environment, directory, files⟩ directory with
  | .ok found => files ← readEntries files (found.child Settings.fileName)
  | .error _ => pure ()
  return ⟨environment, directory, files⟩

/-- The store in a file; a file that is not there is a store that nothing has been written to. -/
def readStore (p : Path) : IO (Option Store) := do
  let file := (← IO.currentDir) / p.text
  if ← file.pathExists then
    return (Json.read? default (← IO.FS.readFile file)).bind (Store.ofSnapshot? default)
  else return some .empty

/-- Writes a store to a file. -/
def writeStore (p : Path) (s : Store) : IO Unit := do
  IO.FS.createDirAll p.parent.text
  IO.FS.writeFile p.text (s.snapshot.line s.surrogates ++ "\n")

/-- Shows the end of a run and answers its status. -/
def Finish.present (f : Finish) : IO UInt32 := do
  let out ← IO.getStdout
  let err ← IO.getStderr
  for drawing in f.drawings do
    match drawing with
    | .record .. => err.putStr drawing.text
    | _ => out.putStr drawing.text
  out.putStr f.out
  err.putStr f.err
  match f.exit with
  | .status code => return UInt32.ofNat code
  | .escaped failure =>
    err.putStr (Failure.line failure.message)
    return 1

/-- Carries out a session that is ready. -/
def Session.carryOut (session : Session) (host : Host) : IO UInt32 := do
  let database := session.settings.database
  match ← readStore database with
  | none =>
    let report : EngineError := .other false "file is not a database"
    (Failure.error report.toError).finish.present
  | some store =>
    let now := (← Std.Time.Timestamp.now).toMillisecondsSinceUnixEpoch.val
    let (f, store) := session.runAlone host now store
    writeStore database store
    f.present

end Forge.Cli

open Forge Forge.Cli in
/-- Runs a command line. -/
def main (arguments : List String) : IO UInt32 := do
  match route arguments with
  | .finished f => f.present
  | .command i =>
    let host ← readHost
    match (prepare Settings.readDocument host (← (← IO.getStdout).isTty) i).1 with
    | .error failure => failure.finish.present
    | .ok session => session.carryOut host
