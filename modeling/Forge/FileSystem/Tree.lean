import Forge.FileSystem.Path
import Forge.Program.Process

/-!
# Directories and files

A file tree says which absolute paths are directories and which are files with what bytes. The
root directory is always there. `makeDirectories` adds a directory with the directories above it;
it refuses where a file is in the way, and then changes nothing.
-/

namespace Forge

/-- What stands at a path. -/
inductive FileEntry where
  | directory
  | file (bytes : List Nat)
deriving DecidableEq, Repr

/-- The entries of a file system, by the names below the root. -/
structure FileTree where
  entries : List (List String × FileEntry)
deriving DecidableEq, Repr

/-- Why a directory cannot be made. -/
inductive DirectoryFault where
  | isFile (path : Path)
  | belowFile (path : Path)
  | unusable
deriving DecidableEq, Repr

/-- The refusal of the operating system, for the faults that it reports. -/
def DirectoryFault.message : DirectoryFault → String
  | .isFile path => (SystemError.about 17 "File exists" path.text).message
  | .belowFile path => (SystemError.about 20 "Not a directory" path.text).message
  | .unusable => "embedded null byte"

namespace FileTree

/-- The tree with nothing but its root. -/
def empty : FileTree := ⟨[]⟩

/-- What stands below the root at the given names. -/
def entryAt? (t : FileTree) (names : List String) : Option FileEntry :=
  if names = [] then some .directory
  else (t.entries.find? fun e => e.1 == names).map (·.2)

/-- Whether a path is a directory. -/
def isDirectory (t : FileTree) (p : Path) : Bool :=
  t.entryAt? p.names == some .directory

/-- The bytes of a file, if the path is one. -/
def file? (t : FileTree) (p : Path) : Option (List Nat) :=
  match t.entryAt? p.names with
  | some (.file bytes) => some bytes
  | _ => none

/-- Whether the names lead through a file. -/
def leadsThroughFile (t : FileTree) (names : List String) : Bool :=
  (List.range names.length).any fun n =>
    match t.entryAt? (names.take n) with
    | some (.file _) => true
    | _ => false

/-- The tree with an entry where there was none. -/
def add (t : FileTree) (names : List String) (e : FileEntry) : FileTree :=
  if (t.entryAt? names).isSome then t else ⟨t.entries ++ [(names, e)]⟩

/-- The tree with the directories at all starts of the names. -/
def addDirectories (t : FileTree) (names : List String) : FileTree :=
  (List.range (names.length + 1)).foldl (fun t n => t.add (names.take n) .directory) t

/-- The tree with a directory at an absolute path, and the directories above it. -/
def makeDirectories (t : FileTree) (p : Path) : Except DirectoryFault FileTree :=
  if !p.isUsable then .error .unusable
  else if t.leadsThroughFile p.names then .error (.belowFile p)
  else if (t.file? p).isSome then .error (.isFile p)
  else .ok (t.addDirectories p.names)

/-- The tree with a file at an absolute path, and the directories above it. -/
def writeFile (t : FileTree) (p : Path) (bytes : List Nat) : FileTree :=
  let t := t.addDirectories p.names.dropLast
  ⟨t.entries.filter (fun e => e.1 != p.names) ++ [(p.names, .file bytes)]⟩

end FileTree

end Forge
