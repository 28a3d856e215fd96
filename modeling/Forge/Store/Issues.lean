import Forge.Store.Ticket

/-!
# Issues in the store

Adding issues, removing them, and the dependencies between the issues of one repository. Cycles of
dependencies are kept as they are; only an issue that would depend on itself is refused.
-/

namespace Forge.Store

open Transaction

/-- Adds an open issue and answers its id. -/
def createIssue (now repoId : Int) (author : Option String) (title : String)
    (description : Option String) : Transaction Int := do
  let title ← ofExcept (cleanTitle title)
  useTable .issues
  useParent .repos
  bindCells [.int repoId, .text title, Cell.ofText? description, Cell.ofText? author, .int now]
  let description ← required .issues "description" description
  let author ← required .issues "author_id" author
  let s ← whole
  check (s.hasRepository repoId) .foreignKey
  let build (id : Int) : StoredIssue :=
    ⟨id, repoId, title, description, IssueState.opened.text, author, none, none, now, now⟩
  change fun s => { s with issues := s.issues.insert build }
  pure s.issues.nextId

/-- Removes the dependencies that satisfy `p`. -/
def removeDependencies (p : StoredDependency → Bool) : Transaction Unit :=
  change fun s => { s with dependencies := s.dependencies.remove p }

/-- Removes an issue and the dependencies at either end of which it stands. -/
def deleteIssue (repoId id : Int) : Transaction Unit := do
  Ticket.delete StoredIssue repoId id
  useTable .dependencies
  useParent .issues
  removeDependencies fun d => d.issueId == id || d.dependsOnId == id

/-- Fails unless the repository has an issue of this id. -/
def requireIssue (repoId id : Int) : Transaction Unit := do
  let there ← Ticket.isThere StoredIssue repoId id
  ensure there (.notFound (.ticket .issue id))

/-- Whether a row is the dependency of one issue on another. -/
def isEdge (issueId dependsOnId : Int) (d : StoredDependency) : Bool :=
  d.issueId == issueId && d.dependsOnId == dependsOnId

/-- Adds a dependency row under the constraints of its table alone. -/
def insertDependency (now : Int) (issueId dependsOnId : Option Int) : Transaction Dependency := do
  useTable .dependencies
  useParent .issues
  bindAll (now :: issueId.toList ++ dependsOnId.toList)
  let issueId ← required .dependencies "issue_id" issueId
  let dependsOnId ← required .dependencies "depends_on_id" dependsOnId
  check (issueId != dependsOnId) .selfDependency
  let s ← whole
  check (!s.dependencies.any (isEdge issueId dependsOnId)) .dependencyPair
  check (s.hasIssue issueId && s.hasIssue dependsOnId) .foreignKey
  let d : Dependency := ⟨issueId, dependsOnId, now⟩
  change fun s => { s with dependencies := s.dependencies.insert fun id => ⟨d, id⟩ }
  pure d

/-- Makes one issue of a repository depend on another. -/
def addDependency (now repoId issueId dependsOnId : Int) : Transaction Dependency := do
  requireIssue repoId issueId
  requireIssue repoId dependsOnId
  ensure (issueId != dependsOnId) (.invalidArgument .selfDependency)
  insertDependency now (some issueId) (some dependsOnId)

/-- Removes the dependency of one issue on another and answers whether there was one. -/
def removeDependency (repoId issueId dependsOnId : Int) : Transaction Bool := do
  requireIssue repoId issueId
  useTable .dependencies
  useParent .issues
  bindAll [issueId, dependsOnId]
  let there := (← view Store.dependencies).any (isEdge issueId dependsOnId)
  removeDependencies (isEdge issueId dependsOnId)
  pure there

/-- Whether one issue depends on another. -/
def hasDependency (repoId issueId dependsOnId : Int) : Transaction Bool := do
  requireIssue repoId issueId
  useTable .dependencies
  bindAll [issueId, dependsOnId]
  return (← view Store.dependencies).any (isEdge issueId dependsOnId)

/-- The issues of a repository that stand at one end of dependencies, with multiplicity: `far`
reads the id at that end from the dependencies that satisfy `p`. -/
def joined (s : Store) (repoId : Int) (p : StoredDependency → Bool)
    (far : StoredDependency → Int) : List StoredIssue :=
  (s.dependencies.rows.filter p).flatMap fun d =>
    s.issues.rows.filter fun r => r.id == far d && r.repoId == repoId

/-- The issues that an issue depends on, the newest first. -/
def dependenciesOf (repoId issueId : Int) : Transaction (List Issue) := do
  requireIssue repoId issueId
  useTable .dependencies
  let s ← whole
  Ticket.readRows (Ticket.newestFirst
    (s.joined repoId (fun d => d.issueId == issueId) (·.dependsOnId)))

/-- The issues that depend on an issue, the newest first. -/
def dependentsOf (repoId issueId : Int) : Transaction (List Issue) := do
  requireIssue repoId issueId
  useTable .dependencies
  let s ← whole
  Ticket.readRows (Ticket.newestFirst
    (s.joined repoId (fun d => d.dependsOnId == issueId) (·.issueId)))

end Forge.Store
