import Forge.Document
import Forge.Error
import Forge.Text.Numeral

/-!
# Entities from loose rows

A row may come with columns in any form: numbers as texts, texts as numbers, columns missing. The
columns of an entity are read in the order of its fields, each brought to the type of the field,
and the first that cannot be read is the fault of the row.
-/

namespace Forge

/-- Why a row is no entity. -/
inductive RowFault where
  | missing (column : String)
  | malformed (error : Text.NumeralError)
  | wrongType (type : String)
  | infinite
  | notANumber
  | unreadable (kind : Kind) (text : String)
deriving DecidableEq, Repr

namespace RowFault

/-- The words for a fault. -/
def message : RowFault → String
  | .missing column => Text.quoted column
  | .malformed error => error.message
  | .wrongType type =>
    "int() argument must be a string, a bytes-like object or a real number, not '" ++ type ++ "'"
  | .infinite => "cannot convert float infinity to integer"
  | .notANumber => "cannot convert float NaN to integer"
  | .unreadable kind text => (Error.unreadableState kind text).message

end RowFault

namespace Json

mutual

/-- The text of a value inside another one, where texts stand in quotes. -/
def shown : Json → String
  | .null => "None"
  | .bool true => "True"
  | .bool false => "False"
  | .int i => toString i
  | .real x => x.text
  | .str s => Text.quoted s
  | .arr items => "[" ++ ", ".intercalate (shownItems items) ++ "]"
  | .obj members => "\x7b" ++ ", ".intercalate (shownMembers members) ++ "\x7d"

/-- The texts of the items of an array. -/
def shownItems : List Json → List String
  | [] => []
  | v :: vs => shown v :: shownItems vs

/-- The texts of the members of an object. -/
def shownMembers : List (String × Json) → List String
  | [] => []
  | (k, v) :: ms => (Text.quoted k ++ ": " ++ shown v) :: shownMembers ms

end

/-- The text of a value, a text itself without quotes. -/
def plainText : Json → String
  | .str s => s
  | v => shown v

/-- The whole number that a value stands for, doubles without their fraction. -/
def toWhole : Json → Except RowFault Int
  | .null => .error (.wrongType "NoneType")
  | .bool b => .ok (if b then 1 else 0)
  | .int i => .ok i
  | .real x =>
    match x.truncate? with
    | some i => .ok i
    | none => .error (if x = .nan then .notANumber else .infinite)
  | .str s =>
    match Text.readInt s with
    | .ok i => .ok i
    | .error e => .error (.malformed e)
  | .arr _ => .error (.wrongType "list")
  | .obj _ => .error (.wrongType "dict")

end Json

/-- A row: columns with their values. -/
abbrev Row := List (String × Json)

namespace Row

/-- The value of a column. -/
def column (row : Row) (name : String) : Except RowFault Json :=
  match Named.get? name row with
  | some v => .ok v
  | none => .error (.missing name)

/-- The text in a column. -/
def text (row : Row) (name : String) : Except RowFault String := do
  return (← row.column name).plainText

/-- The whole number in a column. -/
def whole (row : Row) (name : String) : Except RowFault Int := do
  (← row.column name).toWhole

/-- The text in a column that may be empty. -/
def text? (row : Row) (name : String) : Except RowFault (Option String) := do
  match ← row.column name with
  | .null => pure none
  | v => pure (some v.plainText)

/-- The whole number in a column that may be empty. -/
def whole? (row : Row) (name : String) : Except RowFault (Option Int) := do
  match ← row.column name with
  | .null => pure none
  | v => some <$> v.toWhole

/-- The state in the column of the state. -/
def state {σ : Type} (row : Row) (kind : Kind) (read? : String → Option σ) :
    Except RowFault σ := do
  let text ← row.text "state"
  match read? text with
  | some s => pure s
  | none => .error (.unreadable kind text)

/-- The repository of a row. -/
def repository (row : Row) : Except RowFault Repository := do
  let id ← row.whole "id"
  let name ← row.text "name"
  let path ← row.text "path"
  let createdAt ← row.whole "created_at"
  pure ⟨id, name, path, createdAt⟩

/-- The issue of a row, its state read by `readState`. -/
def issueWith {σ : Type} (readState : Row → Except RowFault σ) (row : Row) :
    Except RowFault (IssueIn σ) := do
  let id ← row.whole "id"
  let repoId ← row.whole "repo_id"
  let title ← row.text "title"
  let description ← row.text "description"
  let state ← readState row
  let authorId ← row.text "author_id"
  let closedBy ← row.text? "closed_by"
  let closedAt ← row.whole? "closed_at"
  let createdAt ← row.whole "created_at"
  let updatedAt ← row.whole "updated_at"
  pure ⟨id, repoId, title, description, state, authorId, closedBy, closedAt, createdAt, updatedAt⟩

/-- The issue of a row. -/
def issue (row : Row) : Except RowFault Issue :=
  row.issueWith (state · .issue IssueState.ofText?)

/-- The merge request of a row, its state read by `readState`. -/
def mergeRequestWith {σ : Type} (readState : Row → Except RowFault σ) (row : Row) :
    Except RowFault (MergeRequestIn σ) := do
  let id ← row.whole "id"
  let repoId ← row.whole "repo_id"
  let title ← row.text "title"
  let description ← row.text "description"
  let sourceBranch ← row.text "source_branch"
  let targetBranch ← row.text "target_branch"
  let state ← readState row
  let authorId ← row.text "author_id"
  let mergedBy ← row.text? "merged_by"
  let mergedAt ← row.whole? "merged_at"
  let closedBy ← row.text? "closed_by"
  let closedAt ← row.whole? "closed_at"
  let createdAt ← row.whole "created_at"
  let updatedAt ← row.whole "updated_at"
  pure ⟨id, repoId, title, description, sourceBranch, targetBranch, state, authorId, mergedBy,
    mergedAt, closedBy, closedAt, createdAt, updatedAt⟩

/-- The merge request of a row. -/
def mergeRequest (row : Row) : Except RowFault MergeRequest :=
  row.mergeRequestWith (state · .mergeRequest MergeRequestState.ofText?)

/-- The dependency of a row. -/
def dependency (row : Row) : Except RowFault Dependency := do
  let issueId ← row.whole "issue_id"
  let dependsOnId ← row.whole "depends_on_id"
  let createdAt ← row.whole "created_at"
  pure ⟨issueId, dependsOnId, createdAt⟩

end Row

end Forge
