import Forge.Proofs.Store.WellFormed
import Forge.Workflow
import Mathlib.Logic.Relation
import Mathlib.Logic.Function.Basic

/-!
# Clients that share a forge

A `World` is one store, the locks of its repositories, and any number of calls of operations, each
at some request of its program. In a `Step` a call begins, or the request of one call is answered;
the steps of different calls come in any order. A world also remembers the answered requests
(`log`), and of each call what it has done so far (`Journal`).

Nothing is assumed about the surroundings but this: the store can be opened, may refuse a
transaction with any report of the engine and else runs it as a whole, at a time of day that fits in
64 bits; a call on a working tree is answered anyhow or refused with an error that
`Error.isExternal`; a lock is given to one call at a time, and the file of one may be refused.
-/

namespace Forge

open Transaction (fits)

variable {τ : Type}

/-! ## Answers -/

/-- The answers that a request can get, locks aside, with the store before and after. -/
def Exchange : {β : Type} → Request τ β → β → Store → Store → Prop
  | _, .transact _ _ body, b, s, s' =>
    (∃ report, b = .error (.engine report)) ∧ s' = s ∨
      ∃ now, fits now = true ∧ (body now).commit s = (b, s')
  | _, .tree _, b, s, s' => (∀ e, b = .error e → e.isExternal = true) ∧ s' = s
  | _, .takeLock _ limit, b, s, s' =>
    (∀ e, b = .error e → e = .limitTooLong ∧ limit.isSome = true) ∧ s' = s
  | _, .takeFile _ _, b, s, s' => (∀ e, b = .error e → e.isFileFault = true) ∧ s' = s
  | _, _, _, s, s' => s' = s

/-- A transaction is answered with a report of the engine, or with what its statements return or
fail with. -/
theorem Exchange.transact {α : Type} {write : Bool} {limit : Option τ}
    {body : Int → Transaction α} {b : Except Error α} {s s' : Store}
    (h : Exchange (.transact write limit body) b s s') :
    (∃ report, b = .error (.engine report)) ∧ s' = s ∨
      ∃ now, fits now = true ∧
        ((∃ a, b = .ok a ∧ (body now).Returns s a s') ∨
          ∃ e, b = .error e ∧ s' = s ∧ (body now).Fails s e) := by
  rcases h with h | ⟨now, hn, hc⟩
  · exact .inl h
  · refine .inr ⟨now, hn, ?_⟩
    rcases (body now).commit_cases s with ⟨a, s₁, hr, he⟩ | ⟨e, hf, he⟩
    · rw [he] at hc
      cases hc
      exact .inl ⟨a, rfl, hr⟩
    · rw [he] at hc
      cases hc
      exact .inr ⟨e, rfl, rfl, hf⟩

/-- Who holds the locks: the locks within a process by process and repository, the lock files by
repository. Calls are known by their numbers. -/
structure Locks where
  held : Nat × Int → Option Nat
  files : Int → Option Nat

namespace Locks

/-- The locks that nobody has taken. -/
def free : Locks := ⟨fun _ => none, fun _ => none⟩

/-- The answers that call `i` of a process can get from the locks, with the locks afterwards. A
lock that someone holds is not given; a wait for it may end without it if the wait is limited. -/
def Grants (l : Locks) (i process : Nat) : {β : Type} → Request τ β → β → Locks → Prop
  | _, .takeLock repoId limit, taken, l' =>
    match taken with
    | .ok true =>
      l.held (process, repoId) = none ∧
        l' = { l with held := Function.update l.held (process, repoId) (some i) }
    | .ok false => l.held (process, repoId) ≠ none ∧ limit.isSome = true ∧ l' = l
    | .error _ => l' = l
  | _, .dropLock repoId, _, l' =>
    l' = { l with held := Function.update l.held (process, repoId) none }
  | _, .takeFile repoId deadline, taken, l' =>
    match taken with
    | .ok true =>
      l.files repoId = none ∧ l' = { l with files := Function.update l.files repoId (some i) }
    | .ok false => l.files repoId ≠ none ∧ deadline.isSome = true ∧ l' = l
    | .error _ => l' = l
  | _, .dropFile repoId, _, l' =>
    l' = { l with files := Function.update l.files repoId none }
  | _, _, _, l' => l' = l

end Locks

/-- Whether an answered request is a writing transaction that has returned. -/
def Request.saves : {β : Type} → Request τ β → β → Bool
  | _, .transact write _ _, b => write && b.toBool
  | _, _, _ => false

/-! ## What a call has done -/

/-- What a call has done so far. Lists have the newest first. -/
structure Journal where
  /-- The repository whose working tree is open. -/
  opened : Option Repository := none
  /-- Whether the lock within the process is held. -/
  locked : Bool := false
  /-- Whether the lock file is held. -/
  filed : Bool := false
  /-- The store that the last reading transaction has seen, if no lock has been taken since. -/
  read : Option Store := none
  /-- Whether the working tree has been called. -/
  worked : Bool := false
  /-- The branch of the last checkout. -/
  checkedOut : Option String := none
  /-- The answer of the last containment check before a merge in the working tree. -/
  containedBefore : Option Bool := none
  /-- How the merges in the working tree have ended. -/
  merges : List (Except Error String) := []
  /-- The answer of the last containment check after a merge in the working tree. -/
  containedAfter : Option Bool := none
  /-- The stores before and after every transaction. -/
  commits : List (Store × Store) := []
  /-- Whether a writing transaction has returned. -/
  wrote : Bool := false
  /-- Whether a merge that is not recorded has been reported to the log. -/
  reported : Bool := false
  /-- Whether the store has refused a writing transaction for a text that has no UTF-8 form. -/
  lost : Bool := false

namespace Journal

/-- The journal after a call on the working tree. -/
def noteTree (j : Journal) : {β : Type} → TreeCall τ β → Except Error β → Journal
  | _, .branchExists _, _ => { j with worked := true }
  | _, .checkout branch _, _ => { j with worked := true, checkedOut := some branch }
  | _, .contains _ _ _, b =>
    { j with
      worked := true
      containedBefore := if j.merges.isEmpty then b.toOption else j.containedBefore
      containedAfter := if j.merges.isEmpty then j.containedAfter else b.toOption }
  | _, .merge _ _ _ _, b => { j with worked := true, merges := b :: j.merges }
  | _, .abortMerge, _ => { j with worked := true }

/-- A call on the working tree changes nothing in the journal but what is about the tree. -/
theorem noteTree_eq {α : Type} (j : Journal) (call : TreeCall τ α) (b : Except Error α) :
    ∃ checkedOut containedBefore merges containedAfter, j.noteTree call b =
      { j with worked := true, checkedOut, containedBefore, merges, containedAfter } := by
  cases call <;> exact ⟨_, _, _, _, rfl⟩

/-- Whether an answer says that a text has no UTF-8 form. -/
def isUnwritable {α : Type} : Except Error α → Bool
  | .error (.unwritable _) => true
  | _ => false

/-- Whether a log record reports that a merge is not recorded. -/
def isReport (record : LogRecord) : Bool :=
  record.level == .error && record.part == .merge

/-- The journal after a request, its answer, and the stores before and after. -/
def note (j : Journal) : {β : Type} → Request τ β → β → Store → Store → Journal
  | _, .transact write _ _, b, s, s' =>
    match write with
    | false => { j with read := some s, commits := (s, s') :: j.commits }
    | true =>
      { j with
        commits := (s, s') :: j.commits
        wrote := j.wrote || b.toBool
        lost := j.lost || isUnwritable b }
  | _, .openTree repo, _, _, _ => { j with opened := some repo }
  | _, .tree call, b, _, _ => j.noteTree call b
  | _, .takeLock _ _, taken, _, _ =>
    match taken with
    | .ok true => { j with locked := true, read := none }
    | _ => j
  | _, .dropLock _, _, _, _ => { j with locked := false }
  | _, .takeFile _ _, taken, _, _ =>
    match taken with
    | .ok true => { j with filed := true, read := none }
    | _ => j
  | _, .dropFile _, _, _, _ => { j with filed := false }
  | _, .log record, _, _, _ => { j with reported := j.reported || isReport record }
  | _, _, _, _, _ => j

theorem wrote_note {β : Type} (j : Journal) (r : Request τ β) (b : β) (s s' : Store) :
    (j.note r b s s').wrote = (j.wrote || r.saves b) := by
  have unchanged (j : Journal) : j.wrote = (j.wrote || false) := (Bool.or_false _).symm
  cases r with
  | transact write limit body =>
    cases write with
    | false => exact unchanged j
    | true => rfl
  | tree call =>
    obtain ⟨out, before, merges, after, heq⟩ := j.noteTree_eq call b
    rw [show j.note (.tree call) b s s' = _ from heq]
    exact unchanged j
  | takeLock repoId limit => rcases b with e | _ | _ <;> exact unchanged j
  | takeFile repoId deadline => rcases b with e | _ | _ <;> exact unchanged j
  | _ => exact unchanged j

/-- Whether the call has given up recording: it has reported a merge as not recorded, or the store
does not take a text of it. -/
def givenUp (j : Journal) : Bool :=
  j.reported || j.lost

/-- The call has changed nothing in the store. -/
def Unchanged (j : Journal) : Prop :=
  ∀ c ∈ j.commits, c.2 = c.1

/-- The branches have been merged in the working tree. -/
def Merged (j : Journal) : Prop :=
  ∃ commit, .ok commit ∈ j.merges

/-- A merge in the working tree was said to have failed, but the target branch, which did not
contain the source before, contains it afterwards. -/
def Landed (j : Journal) : Prop :=
  (∃ e, .error e ∈ j.merges) ∧ j.containedBefore = some false ∧ j.containedAfter = some true

/-- The locks that keep other calls from the working tree are held: the one within the process,
and the lock file where there is a directory for these. -/
def Holds (directory : Option String) (j : Journal) : Prop :=
  j.locked = true ∧ (directory.isSome = true → j.filed = true)

end Journal

/-- What the answer to a request of call `i` makes of the locks, and of the word of its journal on
them. -/
inductive Locks.Shift (i process : Nat) (l : Locks) (j : Journal) :
    {β : Type} → Request τ β → β → Locks → Journal → Prop
  | keep {β : Type} {r : Request τ β} {b : β} {j' : Journal} (locked : j'.locked = j.locked)
      (filed : j'.filed = j.filed) (opened : j'.opened = j.opened) : Shift i process l j r b l j'
  | openTree {repo : Repository} :
      Shift i process l j (.openTree repo) () l { j with opened := some repo }
  | takeLock {repoId : Int} {limit : Option τ} (free : l.held (process, repoId) = none) :
      Shift i process l j (.takeLock repoId limit) (.ok true)
        { l with held := Function.update l.held (process, repoId) (some i) }
        { j with locked := true, read := none }
  | dropLock {repoId : Int} : Shift i process l j (.dropLock repoId) ()
      { l with held := Function.update l.held (process, repoId) none } { j with locked := false }
  | takeFile {repoId : Int} {deadline : Option τ} (free : l.files repoId = none) :
      Shift i process l j (.takeFile repoId deadline) (.ok true)
        { l with files := Function.update l.files repoId (some i) }
        { j with filed := true, read := none }
  | dropFile {repoId : Int} : Shift i process l j (.dropFile repoId) ()
      { l with files := Function.update l.files repoId none } { j with filed := false }

theorem Locks.Grants.shift {i process : Nat} {β : Type} {r : Request τ β} {b : β} {l l' : Locks}
    (h : l.Grants i process r b l') (j : Journal) (s s' : Store) :
    Locks.Shift i process l j r b l' (j.note r b s s') := by
  cases r with
  | clock | process | log =>
    obtain rfl : l' = l := h
    exact .keep rfl rfl rfl
  | transact write limit body =>
    obtain rfl : l' = l := h
    cases write <;> exact .keep rfl rfl rfl
  | openTree repo =>
    obtain rfl : l' = l := h
    exact .openTree
  | tree call =>
    obtain rfl : l' = l := h
    obtain ⟨out, before, merges, after, heq⟩ := j.noteTree_eq call b
    rw [show j.note (.tree call) b s s' = _ from heq]
    exact .keep rfl rfl rfl
  | takeLock repoId limit =>
    rcases b with e | _ | _
    · obtain rfl : l' = l := h
      exact .keep rfl rfl rfl
    · obtain ⟨-, -, rfl⟩ := h
      exact .keep rfl rfl rfl
    · obtain ⟨free, rfl⟩ := h
      exact .takeLock free
  | dropLock repoId =>
    obtain rfl : l' = _ := h
    exact .dropLock
  | takeFile repoId deadline =>
    rcases b with e | _ | _
    · obtain rfl : l' = l := h
      exact .keep rfl rfl rfl
    · obtain ⟨-, -, rfl⟩ := h
      exact .keep rfl rfl rfl
    · obtain ⟨free, rfl⟩ := h
      exact .takeFile free
  | dropFile repoId =>
    obtain rfl : l' = _ := h
    exact .dropFile

/-! ## Worlds -/

/-- A call of an operation: the process that makes it, what is left of its program, and what it has
done. -/
structure Call (τ : Type) where
  process : Nat
  operation : Operation τ
  rest : Program τ (Except Error Answer)
  journal : Journal

/-- A request that a call has had answered. -/
structure Event (τ : Type) where
  call : Nat
  operation : Operation τ
  /-- The repository whose working tree was open. -/
  opened : Option Repository
  {β : Type}
  request : Request τ β
  answer : β
  before : Store
  after : Store

/-- A store, its locks, the calls of its clients, and the answered requests, the newest first. -/
structure World (τ : Type) where
  store : Store
  locks : Locks
  calls : List (Call τ)
  log : List (Event τ)

namespace World

/-- A world of a store that nobody has called. -/
def fresh (s : Store) : World τ := ⟨s, .free, [], []⟩

theorem call_of_concat {cs : List (Call τ)} {c c' : Call τ} {i : Nat}
    (h : (cs ++ [c'])[i]? = some c) : cs[i]? = some c ∨ i = cs.length ∧ c = c' := by
  rw [List.getElem?_append] at h
  split at h
  · exact .inl h
  · rename_i hi
    have hlt := (List.getElem?_eq_some_iff.1 h).1
    simp only [List.length_singleton] at hlt
    refine .inr ⟨by omega, ?_⟩
    simpa using List.mem_of_getElem? h

theorem call_of_set {cs : List (Call τ)} {c c' : Call τ} {i n : Nat}
    (h : (cs.set n c')[i]? = some c) : i = n ∧ c = c' ∨ i ≠ n ∧ cs[i]? = some c := by
  rw [List.getElem?_set] at h
  split at h
  · rename_i hi
    split at h
    · exact .inl ⟨hi.symm, (Option.some.inj h).symm⟩
    · cases h
  · rename_i hi
    exact .inr ⟨fun he => hi he.symm, h⟩

variable [TimeScale τ]

/-- A step of a world whose clients use a directory for lock files or, if there is none, the locks
of one process. Operations that begin are among the `allowed` ones. -/
inductive Step (directory : Option String) (allowed : Operation τ → Prop) :
    World τ → World τ → Prop
  | begin {w : World τ} {process : Nat} {policy : Policy τ} {op : Operation τ} (ok : allowed op)
      (shared : policy.lockDirectory = directory) (alone : directory = none → process = 0) :
      Step directory allowed w
        { w with calls := w.calls ++ [⟨process, op, (op.action policy).run, {}⟩] }
  | answer {w : World τ} {i : Nat} {c : Call τ} {β : Type} {r : Request τ β}
      {next : β → Program τ (Except Error Answer)} {b : β} {s : Store} {l : Locks}
      (call : w.calls[i]? = some c) (asks : c.rest = .ask r next)
      (exchange : Exchange r b w.store s) (grant : w.locks.Grants i c.process r b l) :
      Step directory allowed w
        { store := s
          locks := l
          calls := w.calls.set i
            { c with rest := next b, journal := c.journal.note r b w.store s }
          log := ⟨i, c.operation, c.journal.opened, r, b, w.store, s⟩ :: w.log }

/-- The second world comes from the first by steps. -/
def Run (directory : Option String) (allowed : Operation τ → Prop) : World τ → World τ → Prop :=
  Relation.ReflTransGen (Step directory allowed)

/-- The world comes from an empty store by steps of any operations. -/
def Reachable (directory : Option String) (w : World τ) : Prop :=
  ∃ surrogates, Run directory (fun _ => True) (fresh (.empty surrogates)) w

end World

end Forge
