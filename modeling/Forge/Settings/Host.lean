import Forge.FileSystem.Tree
import Forge.Named
import Forge.Text.Blank

/-!
# The host, and the directory of the state

A program is started with variables, by a user of a host whose accounts can be looked up. A forge
keeps its state in one directory. The variable `REPOFLOW_STATE_DIR` names it; without the
variable it is the nearest `.repoflow` at or above the working directory, and if there is none, a
new one in the working directory.
-/

namespace Forge

/-- An account of a host. -/
structure Account where
  number : Nat
  name : String
  home : String
deriving DecidableEq, Repr

/-- What a program finds when it is started: its variables, the accounts of the host, and the number
of the account that it runs under. -/
structure Environment where
  entries : List (String × String)
  accounts : List Account
  user : Nat
deriving DecidableEq, Repr

namespace Environment

/-- The value of a variable; a variable that is not set counts as empty. -/
def get (e : Environment) (name : String) : String :=
  (Named.get? name e.entries).getD ""

/-- The account that the program runs under. -/
def account? (e : Environment) : Option Account :=
  e.accounts.find? fun a => a.number == e.user

/-- The home directory of a user. One's own, that of the empty name, is what the variable `HOME`
says, and without it that of the account. -/
def homeOf (e : Environment) (name : String) : Option String :=
  if name = "" then
    match Named.get? "HOME" e.entries with
    | some home => some home
    | none => e.account?.map (·.home)
  else (e.accounts.find? fun a => a.name == name).map (·.home)

end Environment

/-- Where a program runs: its variables, its working directory, and the files that are there. -/
structure Host where
  environment : Environment
  directory : Path
  files : FileTree
deriving DecidableEq, Repr

namespace StateDirectory

/-- Why there is no state directory. -/
inductive Fault where
  | noHome
  | unusable
  | blocked (fault : DirectoryFault)
deriving DecidableEq, Repr

/-- The words for a home directory that is not known. -/
def noHomeMessage : String := "Could not determine home directory."

/-- The words for a fault. -/
def Fault.message : Fault → String
  | .noHome => noHomeMessage
  | .unusable => DirectoryFault.unusable.message
  | .blocked fault => fault.message

/-- The variable that names the state directory. -/
def variableName : String := "REPOFLOW_STATE_DIR"

/-- The name of a state directory that is found by its place. -/
def directoryName : String := ".repoflow"

/-- The absolute path that a user's text stands for. -/
def userPath (h : Host) (text : String) : Except Fault Path :=
  match (Path.ofText text).expandHome h.environment.homeOf with
  | .error .unknown => .error .noHome
  | .error .unusable => .error .unusable
  | .ok p => if p.isUsable then .ok (Path.resolve h.directory p) else .error .unusable

/-- The nearest state directory at or above an absolute path, or the one that could be made
there. -/
def nearest (t : FileTree) (here : Path) : Path :=
  let candidates := here.withParents.map fun p => p.child directoryName
  (candidates.find? t.isDirectory).getD (here.child directoryName)

/-- The state directory that serves a directory. -/
def find (h : Host) (start : Path) : Except Fault Path :=
  let named := Text.strip (h.environment.get variableName)
  if named = "" then
    if start.isUsable then .ok (nearest h.files (Path.resolve h.directory start))
    else .error .unusable
  else userPath h named

/-- The state directory that serves a directory, made if it is not there. -/
def locate (h : Host) (start : Path) : Except Fault (Path × FileTree) :=
  match find h start with
  | .error fault => .error fault
  | .ok found =>
    match h.files.makeDirectories found with
    | .ok files => .ok (found, files)
    | .error fault => .error (.blocked fault)

end StateDirectory

end Forge
