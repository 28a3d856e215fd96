import Forge.Log
import Forge.Settings.Host
import Forge.Text.Case
import Forge.Text.Utf8
import Forge.Toml.Document

/-!
# Settings

The state directory may hold a file of settings. It has three sections, all of which may be
missing, as may every setting in them; names that are not known are passed over. A setting that is
there must be of its type and in its range. The variable `REPOFLOW_LOG_LEVEL` stands above the
setting of the log level.
-/

namespace Forge

/-- The settings of a forge. -/
structure Settings where
  stateDirectory : Path
  database : Path
  busyTimeout : Int
  git : String
  mergeLimit : Option Binary64
  lockLimit : Option Binary64
  mailDomain : String
  logLevel : Level
deriving DecidableEq, Repr

/-- What a setting should be and is not. -/
inductive Complaint where
  | notTable
  | notText
  | notSeconds
  | notInteger
  | notPositive
  | notLevel
deriving DecidableEq, Repr

/-- The words for a complaint. -/
def Complaint.message : Complaint → String
  | .notTable => "must be a table"
  | .notText => "must be a non-empty string"
  | .notSeconds => "must be a number of seconds"
  | .notInteger => "must be an integer"
  | .notPositive => "must be positive"
  | .notLevel => "must be one of: " ++ ", ".intercalate (Level.all.map Level.text)

/-- Why there are no settings: the file is no document, a setting is refused, or what is written
cannot be taken in at all. -/
inductive SettingsFault where
  | malformed (file : Path)
  | refused (setting : String) (complaint : Complaint)
  | undecodable (fault : Text.Utf8.Fault)
  | tooManyDigits (count : Nat)
  | tooLarge
  | noHome
  | unusableName
deriving DecidableEq, Repr

namespace SettingsFault

/-- The words for a number that no double is near. -/
def tooLargeMessage : String := "int too large to convert to float"

/-- The words for a fault. -/
def message : SettingsFault → String
  | .malformed file => "invalid TOML in " ++ file.text
  | .refused setting complaint => setting ++ " " ++ complaint.message
  | .undecodable fault => fault.message
  | .tooManyDigits count => (Text.NumeralError.tooLong count).message
  | .tooLarge => tooLargeMessage
  | .noHome => StateDirectory.noHomeMessage
  | .unusableName => DirectoryFault.unusable.message

/-- The fault of a path whose home directory is not found. -/
def ofHome : HomeFault → SettingsFault
  | .unknown => .noHome
  | .unusable => .unusableName

/-- Whether the fault lies in a setting or in the form of the file. -/
def isInvalid : SettingsFault → Bool
  | .malformed _ | .refused .. => true
  | _ => false

end SettingsFault

namespace Settings

open Toml (Value)

/-- The name of the file of settings. -/
def fileName : String := "config.toml"

/-- The name of the database. -/
def databaseName : String := "repoflow.sqlite3"

/-- The variable that stands above the setting of the log level. -/
def levelVariable : String := "REPOFLOW_LOG_LEVEL"

/-- The directory of the lock files. -/
def lockDirectory (s : Settings) : Path := s.stateDirectory.child "locks"

/-- A section of a document. A missing one is empty. -/
def tableOf (document : Toml.Table) (name : String) : Except SettingsFault Toml.Table :=
  match Named.get? name document with
  | none => .ok []
  | some (.table t) => .ok t
  | some _ => .error (.refused ("[" ++ name ++ "]") .notTable)

/-- The value of a setting; a missing one has none. -/
def valueOf (part : Toml.Table) (name : String) : Value :=
  (Named.get? name part).getD .nothing

/-- The text of a setting, without the blanks around it. -/
def textOf (setting : String) : Value → Except SettingsFault (Option String)
  | .nothing => .ok none
  | .text s =>
    let text := Text.strip s
    if text = "" then .error (.refused setting .notText) else .ok (some text)
  | _ => .error (.refused setting .notText)

/-- The seconds of a setting. -/
def secondsOf (setting : String) : Value → Except SettingsFault (Option Binary64)
  | .nothing => .ok none
  | .whole i =>
    if i ≤ 0 then .error (.refused setting .notPositive)
    else
      match Binary64.ofInt? i with
      | some x => .ok (some x)
      | none => .error .tooLarge
  | .real x =>
    if x.le (Binary64.zeroOf false) then .error (.refused setting .notPositive) else .ok (some x)
  | _ => .error (.refused setting .notSeconds)

/-- The positive whole number of a setting that has a default. -/
def wholeOf (setting : String) : Value → Except SettingsFault Int
  | .whole i => if i ≤ 0 then .error (.refused setting .notPositive) else .ok i
  | _ => .error (.refused setting .notInteger)

/-- The log level of a setting. -/
def levelOf (setting : String) (v : Value) : Except SettingsFault (Option Level) := do
  match ← textOf setting v with
  | none => .ok none
  | some text =>
    match Level.ofText? (Text.upper text) with
    | some level => .ok (some level)
    | none => .error (.refused setting .notLevel)

/-- The path of the database. -/
def databaseOf (e : Environment) (stateDirectory : Path) (v : Value) :
    Except SettingsFault Path := do
  match ← textOf "[database].path" v with
  | none => .ok (stateDirectory.child databaseName)
  | some text =>
    match (Path.ofText text).expandHome e.homeOf with
    | .ok p => .ok (stateDirectory.join p)
    | .error fault => .error (.ofHome fault)

/-- The settings that a document stands for. -/
def ofDocument (e : Environment) (stateDirectory : Path) (document : Toml.Table) :
    Except SettingsFault Settings := do
  let database ← tableOf document "database"
  let merge ← tableOf document "merge"
  let log ← tableOf document "log"
  let path ← databaseOf e stateDirectory (valueOf database "path")
  let busyTimeout ← wholeOf "[database].busy_timeout_ms"
    ((Named.get? "busy_timeout_ms" database).getD (.whole 5000))
  let lockLimit ← match Named.get? "lock_timeout" merge with
    | some v => secondsOf "[merge].lock_timeout" v
    | none => .ok (some (Binary64.ofInt 30))
  let wanted := e.get levelVariable
  let named ← levelOf levelVariable (if wanted = "" then .nothing else .text wanted)
  let level ← match named with
    | some level => .ok (some level)
    | none => levelOf "[log].level" (valueOf log "level")
  let git ← textOf "[merge].git" (valueOf merge "git")
  let mergeLimit ← secondsOf "[merge].timeout" (valueOf merge "timeout")
  let mailDomain ← textOf "[merge].email_domain" (valueOf merge "email_domain")
  .ok {
    stateDirectory
    database := path
    busyTimeout
    git := git.getD "git"
    mergeLimit
    lockLimit
    mailDomain := mailDomain.getD "repoflow.local"
    logLevel := level.getD .warning }

/-- The document that the bytes of a file stand for. -/
def readDocument (file : Path) (bytes : List Nat) : Except SettingsFault Toml.Table :=
  match Text.Utf8.decode bytes with
  | .error fault => .error (.undecodable fault)
  | .ok text =>
    match Toml.read (String.ofList (Text.unifyLineEnds text.toList)) with
    | .ok document => .ok document
    | .error .malformed => .error (.malformed file)
    | .error (.tooManyDigits count) => .error (.tooManyDigits count)

/-- The settings in a state directory, `read` taking the bytes of the file to a document. -/
def loadWith (read : Path → List Nat → Except SettingsFault Toml.Table) (e : Environment)
    (t : FileTree) (stateDirectory : Path) : Except SettingsFault Settings := do
  let file := stateDirectory.child fileName
  let document ← match t.file? file with
    | some bytes => read file bytes
    | none => .ok []
  ofDocument e stateDirectory document

/-- The settings in a state directory. -/
def load (e : Environment) (t : FileTree) (stateDirectory : Path) :
    Except SettingsFault Settings :=
  loadWith readDocument e t stateDirectory

end Settings

end Forge
