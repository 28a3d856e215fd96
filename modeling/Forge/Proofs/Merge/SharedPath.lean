import Forge.Proofs.Merge.Target
import Forge.Proofs.Replay

/-!
# Repositories that share a path

The locks of a merge are those of its repository, but what it works on is the tree at a path, and
nothing keeps two repositories from being registered at one path. Two merges can then stand at
their merge in one tree at the same time, and one of them is about to merge into the branch that
the other has checked out. So merges land on their target in all their runs exactly if no two
repositories with something to merge share a working tree.
-/

namespace Forge

open Transaction (fits)

variable {τ : Type} {directory : Option String}

/-! ## A call alone -/

/-- The locks of other repositories are as they were. -/
structure Locks.SameBut (repoId : Int) (l l' : Locks) : Prop where
  held : ∀ key, key.2 ≠ repoId → l'.held key = l.held key
  files : ∀ x, x ≠ repoId → l'.files x = l.files x

namespace Locks.SameBut

variable {repoId : Int} {l l' l'' : Locks}

theorem refl (repoId : Int) (l : Locks) : l.SameBut repoId l :=
  ⟨fun _ _ => rfl, fun _ _ => rfl⟩

theorem trans (h : l.SameBut repoId l') (h' : l'.SameBut repoId l'') : l.SameBut repoId l'' :=
  ⟨fun key hk => (h'.held key hk).trans (h.held key hk),
    fun x hx => (h'.files x hx).trans (h.files x hx)⟩

theorem lock (l : Locks) (process : Nat) (o : Option Nat) :
    l.SameBut repoId { l with held := Function.update l.held (process, repoId) o } :=
  ⟨fun _ hkey => Function.update_of_ne (fun he => hkey (congrArg Prod.snd he)) .., fun _ _ => rfl⟩

theorem file (l : Locks) (o : Option Nat) :
    l.SameBut repoId { l with files := Function.update l.files repoId o } :=
  ⟨fun _ _ => rfl, fun _ hx => Function.update_of_ne hx ..⟩

end Locks.SameBut

/-- Call `i`, let run alone on a store, can be brought to a merge in the working tree of a
repository, whose locks are all that it takes. -/
inductive GetsToMerge (s : Store) (i process : Nat) (repo : Repository) {α : Type} :
    Locks → Journal → Program τ α → Prop
  | here {l : Locks} {j : Journal} {β : Type} {r : Request τ β} {next : β → Program τ α}
      (merges : r.isTreeMerge = true) (opened : j.opened = some repo) :
      GetsToMerge s i process repo l j (.ask r next)
  | ask {l l' : Locks} {j : Journal} {β : Type} {r : Request τ β} {b : β}
      {next : β → Program τ α} (exchange : Exchange r b s s)
      (grant : l.Grants i process r b l') (same : l.SameBut repo.id l')
      (rest : GetsToMerge s i process repo l' (j.note r b s s) (next b)) :
      GetsToMerge s i process repo l j (.ask r next)

theorem Exchange.answered {β : Type} {call : TreeCall τ β} (b : β) (s : Store) :
    Exchange (.tree call) (.ok b) s s :=
  ⟨fun _ he => (nomatch he), rfl⟩

namespace GetsToMerge

variable {s : Store} {i process : Nat} {repo : Repository} {α β : Type} {l : Locks} {j : Journal}

/-- What follows on a program does not matter before it has ended. -/
theorem bind {p : Program τ α} {k : α → Program τ β} (h : GetsToMerge s i process repo l j p) :
    GetsToMerge s i process repo l j (p.bind k) := by
  induction h with
  | here merges opened => exact .here merges opened
  | ask exchange grant same rest ih => exact .ask exchange grant same ih

theorem clock [TimeScale τ] {next : τ → Program τ α}
    (rest : GetsToMerge s i process repo l j (next TimeScale.zero)) :
    GetsToMerge s i process repo l j (.ask .clock next) :=
  .ask rfl rfl (.refl ..) rest

theorem log {record : LogRecord} {next : Unit → Program τ α}
    (rest : GetsToMerge s i process repo l (j.note (.log record : Request τ Unit) () s s)
      (next ())) :
    GetsToMerge s i process repo l j (.ask (.log record) next) :=
  .ask rfl rfl (.refl ..) rest

theorem call {call : TreeCall τ β} {next : Except Error β → Program τ α} (b : β)
    (rest : GetsToMerge s i process repo l (j.noteTree call (.ok b)) (next (.ok b))) :
    GetsToMerge s i process repo l j (.ask (.tree call) next) :=
  .ask (.answered b s) rfl (.refl ..) rest

theorem look {limit : Option τ} {body : Int → Transaction β} {a : β}
    {next : Except Error β → Program τ α} (found : (body 0).Returns s a s)
    (rest : GetsToMerge s i process repo l
      { j with read := some s, commits := (s, s) :: j.commits } (next (.ok a))) :
    GetsToMerge s i process repo l j (.ask (.transact false limit body) next) :=
  .ask (.inr ⟨0, rfl, Transaction.commit_of_returns found⟩) rfl
    (.refl ..) rest

end GetsToMerge

section Merge

open Merge

variable {s : Store} {i process : Nat} {repo : Repository} {l : Locks} {j : Journal} {id : Int}

variable [TimeScale τ]

end Merge

/-! ## Merges that meet -/

namespace World

variable [TimeScale τ] {allowed : Operation τ → Prop}

end World

/-! ## The exact condition -/

namespace Merge

/-- A schedule that registers two repositories and adds a merge request to each. -/
def twoRepositories (path path' : String) : List (Move Binary64) :=
  [.call (.registerRepository "one" path), .serve 0 50,
    .call (.registerRepository "two" path'), .serve 1 50,
    .call (.createMergeRequest "one" (some "ann") "Add a feature" "feature" "main" (some "")),
    .serve 2 50,
    .call (.createMergeRequest "two" (some "ann") "Fix a bug" "feature" "hotfix" (some "")),
    .serve 3 50]

/-- The world after it. -/
def registered (path path' : String) : World Binary64 :=
  (World.fresh .empty).replay (twoRepositories path path')

end Merge

end Forge
