import Forge.Argument
import Forge.Store.Field
import Forge.Store.Transaction

/-!
# Tickets in the store

Issues and merge requests are stored alike. `Ticket` names what the two have in common, and the
statements here serve both: a ticket is found by its repository and its id, lists show the newest
first, and `guardedUpdate` sets columns only while the ticket is in an expected state.
-/

namespace Forge

/-- Rows `ρ` of a table of tickets, which are read as entities `ε`. -/
class Ticket (ρ : Type) (ε : outParam Type) where
  kind : Kind
  tableName : TableName
  table : Store → Table ρ
  setTable : Table ρ → Store → Store
  id : ρ → Int
  repoId : ρ → Int
  createdAt : ρ → Int
  state : ρ → String
  fields : List (String × Field ρ)
  read? : ρ → Option ε
  stateText : ε → String
  remove : (ρ → Bool) → Store → Store

/-- The column that refers to the repository of a ticket. -/
def repoColumn : String := "repo_id"

/-- The columns of issues that a statement may set. -/
def issueFields : List (String × Field StoredIssue) := [
  (repoColumn, .int (·.repoId) fun v r => { r with repoId := v }),
  ("title", .text (·.title) fun v r => { r with title := v }),
  ("description", .text (·.description) fun v r => { r with description := v }),
  ("state", .text (·.state) fun v r => { r with state := v }),
  ("author_id", .text (·.authorId) fun v r => { r with authorId := v }),
  ("closed_by", .optionalText (·.closedBy) fun v r => { r with closedBy := v }),
  ("closed_at", .optionalInt (·.closedAt) fun v r => { r with closedAt := v }),
  ("created_at", .int (·.createdAt) fun v r => { r with createdAt := v }),
  ("updated_at", .int (·.updatedAt) fun v r => { r with updatedAt := v })]

/-- The columns of merge requests that a statement may set. -/
def mergeRequestFields : List (String × Field StoredMergeRequest) := [
  (repoColumn, .int (·.repoId) fun v r => { r with repoId := v }),
  ("title", .text (·.title) fun v r => { r with title := v }),
  ("description", .text (·.description) fun v r => { r with description := v }),
  ("source_branch", .text (·.sourceBranch) fun v r => { r with sourceBranch := v }),
  ("target_branch", .text (·.targetBranch) fun v r => { r with targetBranch := v }),
  ("state", .text (·.state) fun v r => { r with state := v }),
  ("author_id", .text (·.authorId) fun v r => { r with authorId := v }),
  ("merged_by", .optionalText (·.mergedBy) fun v r => { r with mergedBy := v }),
  ("merged_at", .optionalInt (·.mergedAt) fun v r => { r with mergedAt := v }),
  ("closed_by", .optionalText (·.closedBy) fun v r => { r with closedBy := v }),
  ("closed_at", .optionalInt (·.closedAt) fun v r => { r with closedAt := v }),
  ("created_at", .int (·.createdAt) fun v r => { r with createdAt := v }),
  ("updated_at", .int (·.updatedAt) fun v r => { r with updatedAt := v })]

instance : Ticket StoredIssue Issue where
  kind := .issue
  tableName := .issues
  table := Store.issues
  setTable t s := { s with issues := t }
  id := (·.id)
  repoId := (·.repoId)
  createdAt := (·.createdAt)
  state := (·.state)
  fields := issueFields
  read? := IssueIn.read?
  stateText e := e.state.text
  remove p s := s.dropIssues p

instance : Ticket StoredMergeRequest MergeRequest where
  kind := .mergeRequest
  tableName := .mergeRequests
  table := Store.mergeRequests
  setTable t s := { s with mergeRequests := t }
  id := (·.id)
  repoId := (·.repoId)
  createdAt := (·.createdAt)
  state := (·.state)
  fields := mergeRequestFields
  read? := MergeRequestIn.read?
  stateText e := e.state.text
  remove p s := { s with mergeRequests := s.mergeRequests.remove p }

namespace Ticket

open Transaction

section

variable (ρ : Type) {ε : Type} [Ticket ρ ε]

/-- Whether a row is the ticket of this repository and id. -/
def isAt {ρ ε : Type} [Ticket ρ ε] (repoIdent ident : Int) (r : ρ) : Bool :=
  repoId r == repoIdent && id r == ident

/-- The entity of a row, or the fault that its state cannot be read. -/
def readRow {ρ ε : Type} [Ticket ρ ε] (r : ρ) : Transaction ε :=
  match read? r with
  | some e => pure e
  | none => fail (.unreadableState (kind ρ) (state r))

/-- The entities of rows, or the fault of the first that cannot be read. -/
def readRows {ρ ε : Type} [Ticket ρ ε] : List ρ → Transaction (List ε)
  | [] => pure []
  | r :: rs => do
    let e ← readRow r
    let es ← readRows rs
    pure (e :: es)

/-- The later of two rows first; of rows of one time, the one with the greater id. -/
def newestFirst {ρ ε : Type} [Ticket ρ ε] (rs : List ρ) : List ρ :=
  rs.mergeSort fun a b =>
    decide (createdAt b < createdAt a) || (createdAt a == createdAt b && decide (id b ≤ id a))

/-- The ticket of a repository and an id, if there is one. -/
def find? (repoIdent ident : Int) : Transaction (Option ε) := do
  useTable (tableName ρ)
  bindAll [repoIdent, ident]
  match (← view (table (ρ := ρ))).rows.find? (isAt repoIdent ident) with
  | some r => some <$> readRow r
  | none => pure none

/-- The ticket of a repository and an id. -/
def get (repoIdent ident : Int) : Transaction ε := do
  match ← find? ρ repoIdent ident with
  | some e => pure e
  | none => fail (.notFound (.ticket (kind ρ) ident))

/-- Whether there is a ticket of a repository and an id. -/
def isThere (repoIdent ident : Int) : Transaction Bool := do
  useTable (tableName ρ)
  bindAll [repoIdent, ident]
  return (← view (table (ρ := ρ))).any (isAt repoIdent ident)

/-- The tickets of a repository, the newest first. -/
def listAll (repoIdent : Int) : Transaction (List ε) := do
  useTable (tableName ρ)
  bindAll [repoIdent]
  let t ← view (table (ρ := ρ))
  readRows (newestFirst (t.rows.filter fun r => repoId r == repoIdent))

/-- The tickets of a repository in a state, the newest first. -/
def listInState (repoIdent : Int) (text : String) : Transaction (List ε) := do
  useTable (tableName ρ)
  bindCells [.int repoIdent, .text text]
  let t ← view (table (ρ := ρ))
  readRows (newestFirst (t.rows.filter fun r => repoId r == repoIdent && state r == text))

/-- The column of a name, under the name that the table has for it. -/
def column? (name : String) : Option (String × Field ρ) :=
  (fields (ρ := ρ)).find? fun f => Column.same f.1 name

/-- Whether a value is given under the name of no column. -/
def isUnknown : String × Cell → Bool
  | (name, _) => (column? ρ name).isNone

/-- The row with a named column set. A name that is no column is passed over, and so is a value that
its column cannot hold. -/
def setOne {ρ ε : Type} [Ticket ρ ε] (r : ρ) : String × Cell → ρ
  | (name, c) =>
    match column? ρ name with
    | some f => (f.2.write? c r).getD r
    | none => r

/-- The row with the named columns set, in order. -/
def setAll {ρ ε : Type} [Ticket ρ ε] (values : List (String × Cell)) (r : ρ) : ρ :=
  values.foldl setOne r

/-- The first required column of the table that the values would leave without a value. -/
def emptied? {ρ ε : Type} [Ticket ρ ε] (values : List (String × Cell)) (r : ρ) : Option String :=
  ((fields (ρ := ρ)).find? fun f =>
    match Column.given? f.1 values with
    | some c => (f.2.write? c r).isNone
    | none => false).map (·.1)

/-- Sets the named columns of the rows that satisfy `p` and answers how many these are. Required
columns must keep a value, and the repositories that the rows refer to must exist. -/
def updateWhere {ρ ε : Type} [Ticket ρ ε] (p : ρ → Bool) (values : List (String × Cell)) :
    Transaction Nat := do
  let s ← whole
  let t := table (ρ := ρ) s
  let matched := t.rows.filter p
  match matched.findSome? (emptied? values) with
  | some column => refuse (.violated (.missingValue (tableName ρ) column))
  | none =>
    check (matched.all fun r =>
      let repoIdent := repoId (setAll values r)
      repoIdent == repoId r || s.hasRepository repoIdent) .foreignKey
    change (setTable (t.modify p (setAll values)))
    pure (t.count p)

/-- The parameters of a guarded update, in their order. -/
def guardedParameters (repoIdent ident : Int) (expected : String) (values : List (String × Cell)) :
    List Cell :=
  values.map (·.2) ++ [.int repoIdent, .int ident, .text expected]

/-- Sets the named columns of a ticket while it is in the expected state, and answers how many
tickets matched: one, or none if it is not there or in another state. -/
def guardedUpdate (repoIdent ident : Int) (expected : String) (values : List (String × Cell)) :
    Transaction Nat := do
  ensure (!values.isEmpty) (.engine (.other false "near \"WHERE\": syntax error"))
  useTable (tableName ρ)
  match values.find? (isUnknown ρ) with
  | some v => refuse (.noSuchColumn v.1)
  | none =>
    if (Column.given? repoColumn values).isSome then useParent .repos
    bindCells (guardedParameters repoIdent ident expected values)
    updateWhere (ρ := ρ) (fun r => isAt repoIdent ident r && state r == expected) values

/-- Sets title and description of a ticket. -/
def update (now repoIdent ident : Int) (title : String) (description : Option String) :
    Transaction Unit := do
  let title ← ofExcept (cleanTitle title)
  useTable (tableName ρ)
  bindCells [.text title, Cell.ofText? description, .int now, .int repoIdent, .int ident]
  let matched ← updateWhere (ρ := ρ) (isAt repoIdent ident)
    [("title", .text title), ("description", Cell.ofText? description), ("updated_at", .int now)]
  ensure (matched != 0) (.notFound (.ticket (kind ρ) ident))

/-- Removes a ticket. -/
def delete (repoIdent ident : Int) : Transaction Unit := do
  useTable (tableName ρ)
  useParent .repos
  bindAll [repoIdent, ident]
  let t ← view (table (ρ := ρ))
  ensure (t.any (isAt repoIdent ident)) (.notFound (.ticket (kind ρ) ident))
  change (remove (ρ := ρ) (isAt repoIdent ident))

end

end Ticket

end Forge
