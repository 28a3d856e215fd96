import Forge.Error
import Forge.Store.Table

/-!
# The store

A store has four tables: repositories, issues, merge requests, and the dependencies between
issues. Issues and merge requests refer to their repository, dependencies to two issues; when a
row is removed, the rows that refer to it go with it (`dropIssues`, `dropRepositories`).
-/

namespace Forge

/-- A dependency as the store holds it, with the id of its row. -/
structure StoredDependency extends Dependency where
  id : Int
deriving DecidableEq, Repr

/-- The tables, the names of those that have been taken away, and the characters that stand for
code points which cannot be stored. -/
structure Store where
  repos : Table Repository
  issues : Table StoredIssue
  mergeRequests : Table StoredMergeRequest
  dependencies : Table StoredDependency
  withdrawn : List TableName
  surrogates : Text.Surrogates
deriving Repr, DecidableEq

namespace Store

/-- The store that nothing has been written to. -/
def empty (surrogates : Text.Surrogates := default) : Store :=
  ⟨Table.empty, Table.empty, Table.empty, Table.empty, [], surrogates⟩

/-- Whether an issue of this id exists, in whatever repository. -/
def hasIssue (s : Store) (id : Int) : Bool :=
  s.issues.any fun r => r.id == id

/-- Whether a repository of this id exists. -/
def hasRepository (s : Store) (id : Int) : Bool :=
  s.repos.any fun r => r.id == id

/-- The store without the issues that satisfy `p` and the dependencies at either end of which one
of them stands. -/
def dropIssues (s : Store) (p : StoredIssue → Bool) : Store :=
  let gone (id : Int) : Bool := s.issues.any fun r => p r && r.id == id
  { s with
    issues := s.issues.remove p
    dependencies := s.dependencies.remove fun d => gone d.issueId || gone d.dependsOnId }

/-- The store without the repositories that satisfy `p` and everything that belongs to them. -/
def dropRepositories (s : Store) (p : Repository → Bool) : Store :=
  let gone (id : Int) : Bool := s.repos.any fun r => p r && r.id == id
  let s' := s.dropIssues fun r => gone r.repoId
  { s' with
    repos := s.repos.remove p
    mergeRequests := s.mergeRequests.remove fun r => gone r.repoId }

/-- The store without one of its tables: its rows go first, with all that refers to them. -/
def withdraw (s : Store) (name : TableName) : Store :=
  let s' : Store := match name with
    | .repos => { s.dropRepositories fun _ => true with repos := Table.empty }
    | .issues => { s.dropIssues fun _ => true with issues := Table.empty }
    | .mergeRequests => { s with mergeRequests := Table.empty }
    | .dependencies => { s with dependencies := Table.empty }
  { s' with withdrawn := name :: s'.withdrawn }

end Store

end Forge
