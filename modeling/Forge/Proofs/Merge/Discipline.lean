import Forge.Proofs.Program
import Forge.Proofs.Store.Lifecycle
import Forge.Proofs.World

/-!
# The discipline of a merge

`Merge.May` says what a merge may ask after what it has done so far: it calls the working tree
only while it holds the locks of the repository and has seen the merge request open since it took
them, merges at most once and into the branch that it has checked out, marks the merge request only
after that, and lets go of a merged working tree only once this has been recorded, or reported, or
refused by the store because the name of who merges has no UTF-8 form.
`Failure` and `Success` are the ways in which it may end.
-/

namespace Forge

open Transaction (fits)

/-- Whether the error says that a merge in the working tree has not been recorded. -/
def Error.isUnrecorded : Error → Bool
  | .unrecorded .. => true
  | _ => false

namespace Merge

variable {τ : Type}

/-! ## Terms -/

/-- What may be asked of the working tree of a repository when `s` is what the store was seen
to be. -/
def MayCall (j : Journal) (repoId id : Int) (s : Store) : {α : Type} → TreeCall τ α → Prop
  | _, .branchExists _ => False
  | _, .checkout branch _ => j.merges = [] ∧
    ∃ r ∈ s.mergeRequests.rows, r.repoId = repoId ∧ r.id = id ∧ r.targetBranch = branch
  | _, .contains .. => True
  | _, .merge .. => j.merges = [] ∧
    ∃ r ∈ s.mergeRequests.rows, r.repoId = repoId ∧ r.id = id ∧
      j.checkedOut = some r.targetBranch
  | _, .abortMerge => True

/-- Whether the locks may be given back: what has been merged is recorded, or that has been given
up. -/
def MayRelease (j : Journal) : Prop :=
  j.Merged → j.wrote = true ∨ j.givenUp = true

/-- What a merge of the merge request `id` may ask. -/
def May (directory : Option String) (id : Int) (j : Journal) : {β : Type} → Request τ β → Prop
  | _, .clock => True
  | _, .log record => Journal.isReport record = true → j.wrote = false ∧ (j.Merged ∨ j.Landed)
  | _, .process _ => False
  | _, .openTree repo =>
    j.opened = none ∧ j.locked = false ∧ j.filed = false ∧ j.worked = false ∧
      j.givenUp = false ∧ ∃ s, j.read = some s ∧ repo ∈ s.repos.rows
  | _, .transact false _ body => j.worked = false ∧ j.givenUp = false ∧
    ∀ now a s s', (body now).Returns s a s' → s' = s
  | _, .transact true _ body =>
    j.Holds directory ∧ j.Merged ∧ j.wrote = false ∧ j.givenUp = false ∧
      ∃ repo merger, j.opened = some repo ∧ ∀ now a s s', (body now).Returns s a s' →
        s.OpenAt repo.id id ∧ s' = Lifecycle.markMerged now repo.id id merger s
  | _, .tree call =>
    j.Holds directory ∧ j.wrote = false ∧ j.givenUp = false ∧
      ∃ repo s, j.opened = some repo ∧ j.read = some s ∧ s.OpenAt repo.id id ∧
        (fits repo.id = true ∧ fits id = true) ∧ MayCall j repo.id id s call
  | _, .takeLock repoId _ =>
    j.locked = false ∧ j.filed = false ∧ j.worked = false ∧ j.givenUp = false ∧
      ∃ repo, j.opened = some repo ∧ repo.id = repoId
  | _, .takeFile repoId _ =>
    directory.isSome = true ∧ j.locked = true ∧ j.filed = false ∧ j.worked = false ∧
      j.givenUp = false ∧ ∃ repo, j.opened = some repo ∧ repo.id = repoId
  | _, .dropFile repoId =>
    j.filed = true ∧ MayRelease j ∧ ∃ repo, j.opened = some repo ∧ repo.id = repoId
  | _, .dropLock repoId =>
    j.locked = true ∧ j.filed = false ∧ MayRelease j ∧
      ∃ repo, j.opened = some repo ∧ repo.id = repoId

/-- The terms of a merge: its journal follows whatever answers well-formed stores give. -/
def terms (directory : Option String) (id : Int) : Terms τ Journal where
  may r j := May directory id j r
  answers r j b j' := ∃ s s', s.WellFormed ∧ Exchange r b s s' ∧ j' = j.note r b s s'

/-! ## How a merge ends -/

/-- How a merge that has failed has left things, `given` being who merges. -/
inductive Failure (id : Int) (given : Option String) : Error → Journal → Prop
  | unrecorded {name : String} {request : MergeRequest} {reason : String} {j : Journal}
      (same : request.id = id) (landed : j.Merged ∨ j.Landed) (reported : j.reported = true)
      (kept : j.lost = false) (wrote : j.wrote = false) (unchanged : j.Unchanged) :
      Failure id given (.unrecorded name request reason) j
  | unwritable {merger : String} {fault : Text.EncodeFault} {s : Store} {j : Journal}
      (clean : cleanActor given = .ok merger) (refused : s.surrogates.fault? merger = some fault)
      (seen : (s, s) ∈ j.commits) (merged : j.Merged) (lost : j.lost = true)
      (wrote : j.wrote = false) (unchanged : j.Unchanged) :
      Failure id given (.unwritable fault) j
  | refused {e : Error} {j : Journal} (kind : e.isUnrecorded = false) (merged : ¬ j.Merged)
      (landed : ¬ j.Landed) (givenUp : j.givenUp = false) (wrote : j.wrote = false)
      (unchanged : j.Unchanged) :
      Failure id given e j

/-- How a merge that has succeeded has left things: one transaction has marked the merge request
merged, and the answer is what that transaction left. -/
structure Success (id : Int) (merger : String) (m : MergeRequest) (j : Journal) : Prop where
  merged : j.Merged
  wrote : j.wrote = true
  givenUp : j.givenUp = false
  state : m.state = .merged
  mergedBy : m.mergedBy = some merger
  committed : ∃ repo now s rest, j.opened = some repo ∧
    j.commits = (s, Lifecycle.markMerged now repo.id id merger s) :: rest ∧
    (∀ c ∈ rest, c.2 = c.1) ∧
    ∃ r ∈ (Lifecycle.markMerged now repo.id id merger s).mergeRequests.rows,
      r.repoId = repo.id ∧ r.id = id ∧ r.read? = some m

/-- The journal of a merge that has not called the working tree. -/
structure Idle (j : Journal) : Prop where
  worked : j.worked = false
  merges : j.merges = []
  givenUp : j.givenUp = false
  wrote : j.wrote = false
  unchanged : j.Unchanged

/-- What the part of a merge between taking and giving back the locks leaves as it was. -/
def Frame (j j' : Journal) : Prop :=
  j'.opened = j.opened ∧ j'.locked = j.locked ∧ j'.filed = j.filed

/-- The journal of a merge, `j₀` when it looked at its merge request, since it has seen that open in
`s` and has neither marked it nor given up. -/
structure Working (directory : Option String) (repo : Repository) (id : Int) (s : Store)
    (j₀ j : Journal) : Prop where
  opened : j.opened = some repo
  holds : j.Holds directory
  read : j.read = some s
  openAt : s.OpenAt repo.id id
  fit : fits repo.id = true ∧ fits id = true
  givenUp : j.givenUp = false
  wrote : j.wrote = false
  unchanged : j.Unchanged
  frame : Frame j₀ j

/-! ## Requests under the terms -/

theorem not_lost_of_givenUp {j : Journal} (h : j.givenUp = false) : j.lost = false :=
  (Bool.or_eq_false_iff.1 h).2

/-- An error of the working tree does not say that a merge is not recorded. -/
theorem not_isUnrecorded_of_isExternal {e : Error} (h : e.isExternal = true) :
    e.isUnrecorded = false := by
  cases e <;> first | rfl | cases h

section Requests

variable {directory : Option String} {id : Int} {j : Journal} {α : Type}

theorem obeys_clock {ok : τ → Journal → Prop} {err : Error → Journal → Prop}
    (h : ∀ t, ok t j) : Action.Obeys (terms directory id) ok err Action.clock j := by
  refine Action.obeys_clock.2 ⟨trivial, ?_⟩
  rintro t _ ⟨s, s', -, -, rfl⟩
  exact h t

/-- A record in the log is noted only if it reports a merge that is not recorded. -/
theorem obeys_log {level : Level} {part : Part} {text : String} {ok : Unit → Journal → Prop}
    {err : Error → Journal → Prop} (hr : Journal.isReport ⟨level, part, text⟩ = false)
    (h : ok () j) :
    Action.Obeys (τ := τ) (terms directory id) ok err (Action.log level part text) j := by
  refine Action.obeys_log.2 ⟨fun h => absurd h (by rw [hr]; decide), ?_⟩
  rintro u _ ⟨s, s', -, -, rfl⟩
  simpa only [Journal.note, hr, Bool.or_false] using h

/-- A call on the working tree may be made where the discipline allows it, and is noted with its
answer. -/
theorem obeys_call {call : TreeCall τ α} {ok : Except Error α → Journal → Prop}
    {err : Error → Journal → Prop} (may : May directory id j (.tree call))
    (h : ∀ a, ok (.ok a) (j.noteTree call (.ok a)))
    (he : ∀ e, e.isExternal = true → ok (.error e) (j.noteTree call (.error e))) :
    Action.Obeys (terms directory id) ok err (Action.attempt (.tree call)) j := by
  refine Action.obeys_attempt.2 ⟨may, ?_⟩
  rintro b _ ⟨s, s', -, ⟨hb, rfl⟩, rfl⟩
  cases b with
  | ok a => exact h a
  | error e => exact he e (hb e rfl)

theorem obeys_demandCall {call : TreeCall τ α} {ok : α → Journal → Prop}
    {err : Error → Journal → Prop} (may : May directory id j (.tree call))
    (h : ∀ a, ok a (j.noteTree call (.ok a)))
    (he : ∀ e, e.isExternal = true → err e (j.noteTree call (.error e))) :
    Action.Obeys (terms directory id) ok err (Action.demand (.tree call)) j := by
  refine Action.obeys_demand.2 ⟨may, ?_⟩
  rintro b _ ⟨s, s', -, ⟨hb, rfl⟩, rfl⟩
  cases b with
  | ok a => exact h a
  | error e => exact he e (hb e rfl)

/-- What a transaction answers under the terms: a report of the engine, or what its statements
return or fail with on a well-formed store. -/
theorem answer_of_transact {write : Bool} {limit : Option τ} {body : Int → Transaction α}
    {b : Except Error α} {j' : Journal}
    (h : (terms directory id).answers (.transact write limit body) j b j') :
    ∃ s s', s.WellFormed ∧ j' = j.note (.transact write limit body) b s s' ∧
      ((∃ report, b = .error (.engine report)) ∧ s' = s ∨
        ∃ now, fits now = true ∧
          ((∃ a, b = .ok a ∧ (body now).Returns s a s') ∨
            ∃ e, b = .error e ∧ s' = s ∧ (body now).Fails s e)) := by
  obtain ⟨s, s', hs, hx, rfl⟩ := h
  exact ⟨s, s', hs, rfl, hx.transact⟩

end Requests

end Merge

end Forge
