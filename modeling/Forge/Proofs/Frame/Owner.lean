import Forge.Proofs.Frame.Ledger

/-!
# Who holds the locks

In an attained world a lock is held by a call exactly if the journal of the call says that it holds
it (`World.Owned`): no call gives back what another holds, and a call that has ended holds nothing.
-/

namespace Forge

variable {τ : Type} {faults : Error → Prop}

/-! ## Owners and what they own -/

section Owners

variable {κ : Type} [DecidableEq κ]

/-- The one says who owns what, the other what is owned by whom, one thing at a time. -/
def Matches (owner : κ → Option Nat) (owned : Nat → Option κ) : Prop :=
  ∀ key i, owner key = some i ↔ owned i = some key

/-- What becomes of the owners, and of what call `i` owns, in one step of the call. -/
inductive Handover (i : Nat) : (owner owner' : κ → Option Nat) → (mine mine' : Option κ) → Prop
  | keep {owner : κ → Option Nat} {mine : Option κ} : Handover i owner owner mine mine
  | take {owner : κ → Option Nat} {key : κ} (free : owner key = none) :
      Handover i owner (Function.update owner key (some i)) none (some key)
  | drop {owner : κ → Option Nat} {key : κ} :
      Handover i owner (Function.update owner key none) (some key) none

theorem Handover.matches {owner owner' : κ → Option Nat} {owned : Nat → Option κ} {i : Nat}
    {mine' : Option κ} (step : Handover i owner owner' (owned i) mine')
    (h : Matches owner owned) : Matches owner' (Function.update owned i mine') := by
  generalize hmine : owned i = mine at step
  cases step with
  | keep => rwa [← hmine, Function.update_eq_self]
  | @take key free =>
    intro key' k
    rw [Function.update_apply, Function.update_apply]
    split <;> split
    · subst_vars
      exact ⟨fun _ => rfl, fun _ => rfl⟩
    · subst_vars
      refine ⟨fun hi => absurd (Option.some.inj hi).symm ‹_›, fun hk => ?_⟩
      exact absurd ((h key' k).2 hk) (free ▸ nofun)
    · subst_vars
      refine ⟨fun hk => ?_, fun hkey => absurd (Option.some.inj hkey).symm ‹_›⟩
      exact absurd ((h key' k).1 hk) (hmine ▸ nofun)
    · exact h key' k
  | @drop key =>
    intro key' k
    rw [Function.update_apply, Function.update_apply]
    split <;> split
    · exact ⟨nofun, nofun⟩
    · subst_vars
      refine ⟨nofun, fun hk => ?_⟩
      have other := ((h key' k).2 hk).symm.trans ((h key' i).2 hmine)
      exact absurd (Option.some.inj other) ‹_›
    · subst_vars
      refine ⟨fun hk => ?_, nofun⟩
      have other := ((h key' k).1 hk).symm.trans hmine
      exact absurd (Option.some.inj other) ‹_›
    · exact h key' k

end Owners

/-! ## Locks of calls -/

/-- The lock within a process that a call of the process holds, by its journal. -/
def Journal.lock? (process : Nat) (j : Journal) : Option (Nat × Int) :=
  if j.locked then j.opened.map fun repo => (process, repo.id) else none

/-- The lock file that a call holds, by its journal. -/
def Journal.file? (j : Journal) : Option Int :=
  if j.filed then j.opened.map fun repo => repo.id else none

/-- The lock within its process that a call holds. -/
def Call.lock? (c : Call τ) : Option (Nat × Int) :=
  c.journal.lock? c.process

/-- The lock file that a call holds. -/
def Call.file? (c : Call τ) : Option Int :=
  c.journal.file?

section Shift

variable {op : Operation τ} {j j' : Journal} {β : Type} {r : Request τ β} {b : β} {l l' : Locks}
  {k process : Nat}

theorem Journal.lock?_of_unlocked (locked : j.locked = false) : j.lock? process = none := by
  rw [lock?, locked]
  rfl

theorem Journal.lock?_of_locked {repo : Repository} (locked : j.locked = true)
    (opened : j.opened = some repo) : j.lock? process = some (process, repo.id) := by
  rw [lock?, locked, opened]
  rfl

theorem Journal.file?_of_unfiled (filed : j.filed = false) : j.file? = none := by
  rw [file?, filed]
  rfl

theorem Journal.file?_of_filed {repo : Repository} (filed : j.filed = true)
    (opened : j.opened = some repo) : j.file? = some repo.id := by
  rw [file?, filed, opened]
  rfl

/-- What an answer does to the locks within processes, and to the one that the call holds. -/
theorem Locks.Shift.held (shift : Locks.Shift k process l j r b l' j') (may : r.InCourse op j) :
    Handover k l.held l'.held (j.lock? process) (j'.lock? process) := by
  cases shift with
  | keep locked _ opened =>
    have same : j'.lock? process = j.lock? process := by
      rw [Journal.lock?, locked, opened]
      rfl
    exact same ▸ .keep
  | openTree =>
    have locked : j.locked = false := may.1
    have before : j.lock? process = none := Journal.lock?_of_unlocked locked
    rw [before, Journal.lock?_of_unlocked]
    · exact .keep
    · exact locked
  | takeLock free =>
    obtain ⟨locked, repo, opened, rfl⟩ := may
    have before : j.lock? process = none := Journal.lock?_of_unlocked locked
    rw [before, Journal.lock?_of_locked]
    · exact .take free
    · rfl
    · exact opened
  | dropLock =>
    obtain ⟨locked, repo, opened, rfl⟩ := may
    have before : j.lock? process = some (process, repo.id) :=
      Journal.lock?_of_locked locked opened
    rw [before, Journal.lock?_of_unlocked]
    · exact .drop
    · rfl
  | takeFile | dropFile => exact .keep

/-- What an answer does to the lock files, and to the one that the call holds. -/
theorem Locks.Shift.files (shift : Locks.Shift k process l j r b l' j') (may : r.InCourse op j) :
    Handover k l.files l'.files j.file? j'.file? := by
  cases shift with
  | keep _ filed opened =>
    have same : j'.file? = j.file? := by
      rw [Journal.file?, filed, opened]
      rfl
    exact same ▸ .keep
  | openTree =>
    have filed : j.filed = false := may.2
    have before : j.file? = none := Journal.file?_of_unfiled filed
    rw [before, Journal.file?_of_unfiled]
    · exact .keep
    · exact filed
  | takeLock | dropLock => exact .keep
  | takeFile free =>
    obtain ⟨filed, repo, opened, rfl⟩ := may
    have before : j.file? = none := Journal.file?_of_unfiled filed
    rw [before, Journal.file?_of_filed]
    · exact .take free
    · rfl
    · exact opened
  | dropFile =>
    obtain ⟨filed, repo, opened, rfl⟩ := may
    have before : j.file? = some repo.id := Journal.file?_of_filed filed opened
    rw [before, Journal.file?_of_unfiled]
    · exact .drop
    · rfl

end Shift

section Lists

variable {κ : Type} [DecidableEq κ] {cs : List (Call τ)} {c c' : Call τ} {f : Call τ → Option κ}

omit [DecidableEq κ] in
/-- A call that begins holds nothing. -/
theorem Call.bind_concat (hc : f c = none) :
    (fun i : Nat => (cs ++ [c])[i]?.bind f) = fun i : Nat => cs[i]?.bind f := by
  funext i
  rw [List.getElem?_append]
  split
  · rfl
  · rename_i hi
    rw [List.getElem?_eq_none (Nat.not_lt.1 hi)]
    cases hcase : [c][i - cs.length]? with
    | none => rfl
    | some c' =>
      obtain rfl := List.mem_singleton.1 (List.mem_of_getElem? hcase)
      exact hc

theorem Handover.set {owner owner' : κ → Option Nat} {k : Nat} (hc : cs[k]? = some c)
    (step : Handover k owner owner' (f c) (f c')) (h : Matches owner fun i => cs[i]?.bind f) :
    Matches owner' fun i => (cs.set k c')[i]?.bind f := by
  have mine : cs[k]?.bind f = f c := by
    rw [hc]
    rfl
  have updated : (fun i => (cs.set k c')[i]?.bind f) =
      Function.update (fun i => cs[i]?.bind f) k (f c') := by
    funext i
    rw [Function.update_apply]
    split
    · subst_vars
      rw [List.getElem?_set_self (List.getElem?_eq_some_iff.1 hc).1]
      rfl
    · rw [List.getElem?_set_ne (Ne.symm ‹_›)]
  rw [updated]
  refine Handover.matches ?_ h
  rw [mine]
  exact step

end Lists

namespace World

/-- The locks of a world are those that its calls hold. -/
structure Owned (w : World τ) : Prop where
  held : Matches w.locks.held fun i => w.calls[i]?.bind Call.lock?
  files : Matches w.locks.files fun i => w.calls[i]?.bind Call.file?

theorem owned_fresh (s : Store) : (fresh s : World τ).Owned :=
  ⟨fun _ _ => ⟨nofun, nofun⟩, fun _ _ => ⟨nofun, nofun⟩⟩

variable [TimeScale τ] {directory : Option String} {w w' : World τ}

theorem Turn.owned (h : Turn directory faults w w') (hw : w.Orderly) (ho : w.Owned) :
    w'.Owned := by
  cases h with
  | begin =>
    refine ⟨?_, ?_⟩
    · rw [Call.bind_concat (rfl : Call.lock? _ = none)]
      exact ho.held
    · rw [Call.bind_concat (rfl : Call.file? _ = none)]
      exact ho.files
  | @answer i c β r next b s l call asks reply grant =>
    have may := hw.inCourse call asks
    have shift := grant.shift c.journal w.store s
    have held : Handover i w.locks.held l.held c.lock? _ := shift.held may
    have files : Handover i w.locks.files l.files c.file? _ := shift.files may
    exact ⟨held.set call ho.held, files.set call ho.files⟩

theorem Attained.owned (h : w.Attained directory faults) : w.Owned := by
  obtain ⟨u, turns⟩ := h
  induction turns with
  | refl => exact owned_fresh _
  | tail hturns ht ih => exact ht.owned (Attained.orderly ⟨u, hturns⟩) ih

/-- A call that has ended holds no lock. -/
theorem Attained.done_frees (h : w.Attained directory faults) {i : Nat} {c : Call τ}
    (hc : w.calls[i]? = some c) {a : Except Error Answer} (hdone : c.rest = .done a) :
    (∀ key, w.locks.held key ≠ some i) ∧ ∀ repoId, w.locks.files repoId ≠ some i := by
  obtain ⟨wrote, closed⟩ : ∃ wrote, c.journal.Closed wrote := by
    have ends := (h.orderly.calls i c hc).2
    rw [hdone, Program.obeys_done] at ends
    cases a with
    | ok a => exact ⟨_, ends⟩
    | error e => exact ⟨_, ends⟩
  refine ⟨fun key held => ?_, fun repoId filed => ?_⟩
  · have mine : w.calls[i]?.bind Call.lock? = some key := (h.owned.held key i).1 held
    rw [hc, Option.bind_some, Call.lock?, Journal.lock?_of_unlocked closed.locked] at mine
    cases mine
  · have mine : w.calls[i]?.bind Call.file? = some repoId := (h.owned.files repoId i).1 filed
    rw [hc, Option.bind_some, Call.file?, Journal.file?_of_unfiled closed.filed] at mine
    cases mine

end World

end Forge
