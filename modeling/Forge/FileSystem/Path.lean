/-!
# Paths

A path is a root and the names below it. Empty names and the name `.` are dropped when a path is
read, the name `..` is kept: what it means depends on the directories that are there. A path that
starts with exactly two slashes keeps both.
-/

namespace Forge

/-- Where a path starts. -/
inductive PathRoot where
  | here
  | slash
  | doubleSlash
deriving DecidableEq, Repr

/-- The text of a root. -/
def PathRoot.text : PathRoot → String
  | .here => ""
  | .slash => "/"
  | .doubleSlash => "//"

/-- A path. -/
structure Path where
  root : PathRoot
  names : List String
deriving DecidableEq, Repr

/-- Why there is no home directory: none is known, or a null character keeps it from being looked
for. -/
inductive HomeFault where
  | unknown
  | unusable
deriving DecidableEq, Repr

namespace Path

/-- The root that the characters of a path begin with. -/
def rootOf : List Char → PathRoot
  | '/' :: '/' :: '/' :: _ => .slash
  | '/' :: '/' :: _ => .doubleSlash
  | '/' :: _ => .slash
  | _ => .here

/-- The pieces between slashes, `piece` being the first one so far, last character first. -/
def piecesOf (piece : List Char) : List Char → List String
  | [] => [String.ofList piece.reverse]
  | '/' :: cs => String.ofList piece.reverse :: piecesOf [] cs
  | c :: cs => piecesOf (c :: piece) cs

/-- Whether a piece names something below the path before it. -/
def isName (piece : String) : Bool :=
  piece != "" && piece != "."

/-- The path that a text stands for. -/
def ofText (s : String) : Path :=
  ⟨rootOf s.toList, (piecesOf [] s.toList).filter isName⟩

/-- The text of a path. -/
def text (p : Path) : String :=
  if p.root = .here ∧ p.names = [] then "." else p.root.text ++ "/".intercalate p.names

/-- Whether a path starts at the root directory. -/
def isAbsolute (p : Path) : Bool := p.root != .here

/-- The second path, taken from the first one if it is relative. -/
def join (p q : Path) : Path :=
  if q.isAbsolute then q else ⟨p.root, p.names ++ q.names⟩

/-- The path of a name below `p`. -/
def child (p : Path) (name : String) : Path := ⟨p.root, p.names ++ [name]⟩

/-- The path without its last name. -/
def parent (p : Path) : Path := ⟨p.root, p.names.dropLast⟩

/-- The path and its parents, up to the root. -/
def withParents (p : Path) : List Path :=
  (List.range (p.names.length + 1)).map fun n => ⟨p.root, p.names.take (p.names.length - n)⟩

/-- The names below the root of an absolute path once every `..` has taken away the name before
it. -/
def settle (done : List String) : List String → List String
  | [] => done
  | n :: ns => settle (if n = ".." then done.dropLast else done ++ [n]) ns

/-- The absolute path without `..` that a path stands for, seen from a directory. -/
def resolve (directory p : Path) : Path :=
  ⟨.slash, settle [] (directory.join p).names⟩

/-- The path with a leading `~`, which the name of a user may follow, replaced by the home directory
of that user: `homeOf` knows these directories, that of the empty name being one's own. -/
def expandHome (homeOf : String → Option String) (p : Path) : Except HomeFault Path :=
  match p.root, p.names with
  | .here, n :: ns =>
    match n.toList with
    | '~' :: user =>
      if user.any fun c => c.toNat == 0 then .error .unusable
      else
        match homeOf (String.ofList user) with
        | none => .error .unknown
        | some home =>
          let h := String.ofList (home.toList.reverse.dropWhile (· == '/')).reverse
          let h := if h = "" then "/" else h
          if h.toList.head? = some '~' then .error .unknown
          else .ok ⟨(ofText h).root, (ofText h).names ++ ns⟩
    | _ => .ok p
  | _, _ => .ok p

/-- Whether the operating system can take the path at all: no path holds a null character. -/
def isUsable (p : Path) : Bool :=
  p.names.all fun n => n.toList.all fun c => c.toNat != 0

end Path

end Forge
