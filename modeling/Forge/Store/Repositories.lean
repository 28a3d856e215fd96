import Forge.Argument
import Forge.Store.Transaction

/-!
# Repositories in the store

Repositories are found by the clean form of their name, which no two of them share.
-/

namespace Forge.Store

open Transaction

/-- Adds a repository and answers its id. -/
def createRepository (now : Int) (name path : String) : Transaction Int := do
  let location := Text.strip path
  ensure (location != "") (.invalidArgument .emptyRepositoryPath)
  let key ← ofExcept (Repository.cleanName name)
  useTable .repos
  bindCells [.text key, .text location, .int now]
  let repos ← view Store.repos
  check (!repos.any fun r => r.name == key) .repositoryName
  change fun s => { s with repos := s.repos.insert fun id => ⟨id, key, location, now⟩ }
  pure repos.nextId

/-- The repository of a name. -/
def repositoryNamed (name : String) : Transaction Repository := do
  let key ← ofExcept (Repository.cleanName name)
  useTable .repos
  bindCells [.text key]
  match (← view Store.repos).rows.find? fun r => r.name == key with
  | some r => pure r
  | none => fail (.notFound (.repository key))

/-- All repositories in the order of their names, compared by code points. -/
def listRepositories : Transaction (List Repository) := do
  useTable .repos
  return (← view Store.repos).rows.mergeSort fun a b => decide (a.name ≤ b.name)

/-- Removes a repository and everything that belongs to it. -/
def deleteRepository (name : String) : Transaction Unit := do
  let key ← ofExcept (Repository.cleanName name)
  useTable .repos
  bindCells [.text key]
  let repos ← view Store.repos
  ensure (repos.any fun r => r.name == key) (.notFound (.repository key))
  change fun s => s.dropRepositories fun r => r.name == key

end Forge.Store
