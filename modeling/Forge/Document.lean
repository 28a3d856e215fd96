import Forge.Entity
import Forge.Json.Value

/-!
# Entities as documents

An entity is shown as an object with a member for each of its fields, states by their texts.
-/

namespace Forge

/-- The document of a repository. -/
def Repository.document (r : Repository) : Json :=
  .obj [("id", .int r.id), ("name", .str r.name), ("path", .str r.path),
    ("created_at", .int r.createdAt)]

/-- The members of the document of an issue. -/
def IssueIn.members (state : String) {σ : Type} (i : IssueIn σ) : List (String × Json) :=
  [("id", .int i.id), ("repo_id", .int i.repoId), ("title", .str i.title),
    ("description", .str i.description), ("state", .str state), ("author_id", .str i.authorId),
    ("closed_by", Json.ofText? i.closedBy), ("closed_at", Json.ofInt? i.closedAt),
    ("created_at", .int i.createdAt), ("updated_at", .int i.updatedAt)]

/-- The document of an issue. -/
def IssueIn.document (i : Issue) : Json :=
  .obj (i.members i.state.text)

/-- The members of the document of a merge request. -/
def MergeRequestIn.members (state : String) {σ : Type} (m : MergeRequestIn σ) :
    List (String × Json) :=
  [("id", .int m.id), ("repo_id", .int m.repoId), ("title", .str m.title),
    ("description", .str m.description), ("source_branch", .str m.sourceBranch),
    ("target_branch", .str m.targetBranch), ("state", .str state), ("author_id", .str m.authorId),
    ("merged_by", Json.ofText? m.mergedBy), ("merged_at", Json.ofInt? m.mergedAt),
    ("closed_by", Json.ofText? m.closedBy), ("closed_at", Json.ofInt? m.closedAt),
    ("created_at", .int m.createdAt), ("updated_at", .int m.updatedAt)]

/-- The document of a merge request. -/
def MergeRequestIn.document (m : MergeRequest) : Json :=
  .obj (m.members m.state.text)

/-- The document of a dependency. -/
def Dependency.document (d : Dependency) : Json :=
  .obj [("issue_id", .int d.issueId), ("depends_on_id", .int d.dependsOnId),
    ("created_at", .int d.createdAt)]

end Forge
