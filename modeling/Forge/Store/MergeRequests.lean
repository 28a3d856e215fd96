import Forge.Store.Ticket

/-!
# Merge requests in the store
-/

namespace Forge.Store

open Transaction

/-- Adds an open merge request and answers its id. -/
def createMergeRequest (now repoId : Int) (author : Option String) (title : String)
    (description source target : Option String) : Transaction Int := do
  let title ← ofExcept (cleanTitle title)
  useTable .mergeRequests
  useParent .repos
  bindCells [.int repoId, .text title, Cell.ofText? description, Cell.ofText? source,
    Cell.ofText? target, Cell.ofText? author, .int now]
  let description ← required .mergeRequests "description" description
  let source ← required .mergeRequests "source_branch" source
  let target ← required .mergeRequests "target_branch" target
  let author ← required .mergeRequests "author_id" author
  let s ← whole
  check (s.hasRepository repoId) .foreignKey
  let build (id : Int) : StoredMergeRequest :=
    ⟨id, repoId, title, description, source, target, MergeRequestState.opened.text, author,
      none, none, none, none, now, now⟩
  change fun s => { s with mergeRequests := s.mergeRequests.insert build }
  pure s.mergeRequests.nextId

end Forge.Store
