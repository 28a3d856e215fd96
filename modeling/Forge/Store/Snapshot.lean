import Forge.Row
import Forge.Store.Basic

/-!
# Snapshots

A store can be kept as a JSON value: for each table the last id that it has given out and its rows,
every row an object with a member for each column. `Store.ofSnapshot?` reads what `Store.snapshot`
writes.
-/

namespace Forge.Store

/-- The member that holds the last id of a table. -/
def lastKey : String := "last_id"

/-- The member that holds the rows of a table. -/
def rowsKey : String := "rows"

/-- The member that names the tables that have been taken away. -/
def withdrawnKey : String := "withdrawn"

/-- The value of a table. -/
def tableSnapshot {ρ : Type} (write : ρ → Json) (t : Table ρ) : Json :=
  .obj [(lastKey, .int t.lastId), (rowsKey, .arr (t.rows.map write))]

/-- The value of a stored dependency. -/
def dependencySnapshot (d : StoredDependency) : Json :=
  .obj [("id", .int d.id), ("issue_id", .int d.issueId), ("depends_on_id", .int d.dependsOnId),
    ("created_at", .int d.createdAt)]

/-- The value of a store. -/
def snapshot (s : Store) : Json :=
  .obj [
    (TableName.repos.text, tableSnapshot Repository.document s.repos),
    (TableName.issues.text, tableSnapshot (fun r => .obj (r.members r.state)) s.issues),
    (TableName.mergeRequests.text,
      tableSnapshot (fun r => .obj (r.members r.state)) s.mergeRequests),
    (TableName.dependencies.text, tableSnapshot dependencySnapshot s.dependencies),
    (withdrawnKey, .arr (s.withdrawn.map fun name => .str name.text))]

/-- A value read as a row. -/
def rowOf? {ρ : Type} (read : Row → Except RowFault ρ) : Json → Option ρ
  | .obj row => (read row).toOption
  | _ => none

/-- The table of a name in the members of a snapshot. -/
def tableOf? {ρ : Type} (read : Row → Except RowFault ρ) (name : TableName) (s : Row) :
    Option (Table ρ) := do
  match Named.get? name.text s with
  | some (.obj t) =>
    match Named.get? rowsKey t with
    | some (.arr rows) =>
      let rows ← rows.mapM (rowOf? read)
      let last ← (Row.whole t lastKey).toOption
      some ⟨rows, last⟩
    | _ => none
  | _ => none

/-- The stored dependency of a row. -/
def dependencyOf (row : Row) : Except RowFault StoredDependency := do
  let id ← row.whole "id"
  let d ← row.dependency
  pure ⟨d, id⟩

/-- The tables that a snapshot says have been taken away. -/
def withdrawnOf? (s : Row) : Option (List TableName) :=
  match Named.get? withdrawnKey s with
  | some (.arr names) => names.mapM fun v => TableName.ofText? v.plainText
  | _ => none

/-- The store of a snapshot, with the characters that cannot be stored. -/
def ofSnapshot? (surrogates : Text.Surrogates) : Json → Option Store
  | .obj s => do
    let repos ← tableOf? Row.repository .repos s
    let issues ← tableOf? (Row.issueWith (Row.text · "state")) .issues s
    let mergeRequests ← tableOf? (Row.mergeRequestWith (Row.text · "state")) .mergeRequests s
    let dependencies ← tableOf? dependencyOf .dependencies s
    let withdrawn ← withdrawnOf? s
    some ⟨repos, issues, mergeRequests, dependencies, withdrawn, surrogates⟩
  | _ => none

end Forge.Store
