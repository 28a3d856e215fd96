import Forge.Proofs.Runs
import Forge.Proofs.World

/-!
# What a call holds

Locks are taken and given back by many calls at once. `Locks.Gained others i ks l l'` looks at this
from the side of call `i`: from `l` to `l'` it has gained the locks `ks`, lost none, and all else has
changed as the `others` change it. Gains add up (`Gained.trans`), a lock that is taken is gained and a
lock that is given back no longer is (`gained_take`, `Gained.drop`), and if the others do nothing, a
call that has gained nothing has left the locks as they were (`gained_nil_iff_eq`).

`Terms.company` are the answers that a call gets among the others.
-/

namespace Forge

variable {τ : Type}

/-! ## Single locks -/

/-- A lock of a repository: the one within a process, or the lock file. -/
inductive Lock where
  | inner (process : Nat) (repoId : Int)
  | file (repoId : Int)
deriving DecidableEq

namespace Locks

/-- The call that holds a lock. -/
def holder (l : Locks) : Lock → Option Nat
  | .inner process repoId => l.held (process, repoId)
  | .file repoId => l.files repoId

/-- The locks with another holder, or none, for one of them. -/
def assign (l : Locks) (owner : Option Nat) : Lock → Locks
  | .inner process repoId => { l with held := Function.update l.held (process, repoId) owner }
  | .file repoId => { l with files := Function.update l.files repoId owner }

@[ext] theorem ext {l l' : Locks} (h : ∀ k, l.holder k = l'.holder k) : l = l' := by
  obtain ⟨held, files⟩ := l
  obtain ⟨held', files'⟩ := l'
  congr
  · funext ⟨process, repoId⟩
    exact h (.inner process repoId)
  · funext repoId
    exact h (.file repoId)

theorem holder_assign (l : Locks) (owner : Option Nat) (k k' : Lock) :
    (l.assign owner k).holder k' = if k' = k then owner else l.holder k' := by
  cases k <;> cases k' <;> simp [assign, holder, Function.update_apply]

/-- The locks without those that call `i` holds. -/
def butFor (i : Nat) (l : Locks) : Locks where
  held key := if l.held key = some i then none else l.held key
  files repoId := if l.files repoId = some i then none else l.files repoId

theorem holder_butFor (i : Nat) (l : Locks) (k : Lock) :
    (l.butFor i).holder k = if l.holder k = some i then none else l.holder k := by
  cases k <;> rfl

/-- A free lock that call `i` takes, and one of its own that it gives back, is none of the rest. -/
theorem butFor_assign {i : Nat} {l : Locks} {k : Lock} {owner : Option Nat}
    (now : l.holder k = none ∨ l.holder k = some i) (next : owner = none ∨ owner = some i) :
    (l.assign owner k).butFor i = l.butFor i := by
  ext k' : 1
  rw [holder_butFor, holder_butFor, holder_assign]
  by_cases here : k' = k
  · rw [if_pos here, here]
    rcases now with now | now <;> rcases next with rfl | rfl <;> simp [now]
  · rw [if_neg here]

/-! ## Gains -/

/-- From the first locks to the second, call `i` has lost none. -/
def Retains (i : Nat) (l l' : Locks) : Prop :=
  ∀ k, l.holder k = some i → l'.holder k = some i

/-- From the first locks to the second, call `i` has gained some, and what it does not hold has
changed as the others change it. -/
structure Gained (others : Locks → Locks → Prop) (i : Nat) (ks : List Lock) (l l' : Locks) :
    Prop where
  fresh : ∀ k ∈ ks, l.holder k ≠ some i
  own : ∀ k, l'.holder k = some i ↔ k ∈ ks ∨ l.holder k = some i
  rest : others (l.butFor i) (l'.butFor i)

variable {others : Locks → Locks → Prop} {i : Nat} {ks ks' : List Lock} {l l' l'' : Locks} {k : Lock}

/-- If the others do nothing, a call that has gained nothing has left the locks as they were. -/
theorem gained_nil_iff_eq : Gained (· = ·) i [] l l' ↔ l' = l := by
  constructor
  · rintro ⟨-, own, rest⟩
    ext k : 1
    have same := congrArg (holder · k) rest
    simp only [holder_butFor] at same
    by_cases mine : l.holder k = some i
    · rw [mine]
      exact (own k).2 (.inr mine)
    · rw [if_neg mine, if_neg (by simpa [own] using mine)] at same
      exact same.symm
  · rintro rfl
    exact ⟨fun _ none => absurd none List.not_mem_nil, fun _ => by simp, rfl⟩

/-- What has been gained at the second locks is still there. -/
theorem Gained.of_mem (h : Gained others i ks l l') (mem : k ∈ ks) : l'.holder k = some i :=
  (h.own k).2 (.inl mem)

theorem Gained.retains (h : Gained others i ks l l') : Retains i l l' :=
  fun k mine => (h.own k).2 (.inr mine)

theorem Gained.trans [IsTrans Locks others] (h : Gained others i ks l l')
    (h' : Gained others i ks' l' l'') : Gained others i (ks' ++ ks) l l'' where
  fresh k mem := by
    rcases List.mem_append.1 mem with mem | mem
    · exact fun mine => h'.fresh k mem (h.retains k mine)
    · exact h.fresh k mem
  own k := by rw [h'.own, h.own, List.mem_append, or_assoc]
  rest := IsTrans.trans _ _ _ h.rest h'.rest

section Refl

variable [Std.Refl others]

theorem Gained.refl (i : Nat) (l : Locks) : Gained others i [] l l :=
  ⟨fun _ none => absurd none List.not_mem_nil, fun _ => by simp, Std.Refl.refl _⟩

/-- A free lock that is taken is gained. -/
theorem gained_take (free : l.holder k = none) : Gained others i [k] l (l.assign (some i) k) where
  fresh k' mem := by
    rw [List.mem_singleton.1 mem, free]
    nofun
  own k' := by
    rw [holder_assign, List.mem_singleton]
    split <;> simp [*]
  rest := by
    rw [butFor_assign (.inl free) (.inr rfl)]
    exact Std.Refl.refl _

end Refl

/-- A lock that has been gained, and is given back, is no longer gained. -/
theorem Gained.drop (h : Gained others i (k :: ks) l l') (new : k ∉ ks) :
    Gained others i ks l (l'.assign none k) where
  fresh k' mem := h.fresh k' (List.mem_cons_of_mem k mem)
  own k' := by
    rw [holder_assign]
    split
    · next here =>
      subst here
      simp [new, h.fresh k' List.mem_cons_self]
    · next other => rw [h.own, List.mem_cons, or_iff_right other]
  rest := by
    rw [butFor_assign (.inr (h.of_mem List.mem_cons_self)) (.inl rfl)]
    exact h.rest

end Locks

/-! ## Requests -/

/-- Whether a request of a process gives a lock back. -/
def Request.Drops (process : Nat) : {β : Type} → Request τ β → Lock → Prop
  | _, .dropLock repoId, k => k = .inner process repoId
  | _, .dropFile repoId, k => k = .file repoId
  | _, _, _ => False

/-- Whether a request is about no lock. -/
def Request.Lockless : {β : Type} → Request τ β → Prop
  | _, .takeLock .. => False
  | _, .dropLock _ => False
  | _, .takeFile .. => False
  | _, .dropFile _ => False
  | _, _ => True

theorem Request.Lockless.not_drops {β : Type} {r : Request τ β} (h : r.Lockless) {process : Nat}
    (k : Lock) : ¬ r.Drops process k := by
  cases r <;> first | exact h.elim | exact id

namespace Locks

variable {i process : Nat} {l l' : Locks} {β : Type} {r : Request τ β} {b : β}

theorem Grants.eq_of_lockless (lockless : r.Lockless) (h : l.Grants i process r b l') : l' = l := by
  cases r with
  | takeLock | dropLock | takeFile | dropFile => exact lockless.elim
  | _ => exact h

/-- A lock stays with its holder, is free and taken by the call, or is given back by it. -/
theorem Grants.holder_cases (h : l.Grants i process r b l') (k : Lock) :
    l'.holder k = l.holder k ∨ l.holder k = none ∧ l'.holder k = some i ∨
      r.Drops process k ∧ l'.holder k = none := by
  have taken (k₀ : Lock) (free : l.holder k₀ = none) : (l.assign (some i) k₀).holder k = l.holder k ∨
      l.holder k = none ∧ (l.assign (some i) k₀).holder k = some i := by
    rw [holder_assign]
    split
    · next here => exact .inr ⟨here ▸ free, rfl⟩
    · exact .inl rfl
  have dropped (k₀ : Lock) : (l.assign none k₀).holder k = l.holder k ∨
      k = k₀ ∧ (l.assign none k₀).holder k = none := by
    rw [holder_assign]
    split
    · next here => exact .inr ⟨here, rfl⟩
    · exact .inl rfl
  cases r with
  | takeLock repoId limit =>
    rcases b with e | _ | _
    · obtain rfl : l' = l := h
      exact .inl rfl
    · obtain ⟨-, -, rfl⟩ := h
      exact .inl rfl
    · obtain ⟨free, rfl⟩ := h
      exact (taken (.inner process repoId) free).imp_right .inl
  | takeFile repoId deadline =>
    rcases b with e | _ | _
    · obtain rfl : l' = l := h
      exact .inl rfl
    · obtain ⟨-, -, rfl⟩ := h
      exact .inl rfl
    · obtain ⟨free, rfl⟩ := h
      exact (taken (.file repoId) free).imp_right .inl
  | dropLock repoId =>
    obtain rfl : l' = _ := h
    exact (dropped (.inner process repoId)).imp_right .inr
  | dropFile repoId =>
    obtain rfl : l' = _ := h
    exact (dropped (.file repoId)).imp_right .inr
  | _ =>
    obtain rfl : l' = l := h
    exact .inl rfl

end Locks

/-! ## Terms -/

open Locks

/-- The answers that call `i` of a process can get when others change what it does not hold. -/
def Terms.company (others : Locks → Locks → Prop) (i process : Nat) : Terms τ Locks where
  may _ _ := True
  answers r l b l' := ∃ l₁, Gained others i [] l l₁ ∧ l₁.Grants i process r b l'

/-- The same, for a call that gives back only what it has taken since the locks were `base`. -/
def Terms.keeping (others : Locks → Locks → Prop) (i process : Nat) (base : Locks) :
    Terms τ Locks where
  may r l := ∀ k, r.Drops process k → l.holder k = some i ∧ base.holder k ≠ some i
  answers := (Terms.company others i process).answers

section Company

variable {others : Locks → Locks → Prop} {i process : Nat} {l l' : Locks} {β : Type}
  {r : Request τ β} {b : β} {repoId : Int}

theorem Terms.gained_of_lockless (lockless : r.Lockless)
    (h : (Terms.company others i process).answers r l b l') : Gained others i [] l l' := by
  obtain ⟨l₁, gained, grants⟩ := h
  exact grants.eq_of_lockless lockless ▸ gained

variable [Std.Refl others] [IsTrans Locks others]

theorem Terms.gained_takeLock {limit : Option τ} {taken : Except Error Bool}
    (h : (Terms.company others i process).answers (.takeLock repoId limit) l taken l') :
    Gained others i (match taken with | .ok true => [.inner process repoId] | _ => []) l l' := by
  obtain ⟨l₁, gained, grants⟩ := h
  rcases taken with e | _ | _
  · obtain rfl := grants
    exact gained
  · obtain ⟨-, -, rfl⟩ := grants
    exact gained
  · obtain ⟨free, rfl⟩ := grants
    exact gained.trans (gained_take (k := .inner process repoId) free)

theorem Terms.gained_takeFile {deadline : Option τ} {taken : Except Error Bool}
    (h : (Terms.company others i process).answers (.takeFile repoId deadline) l taken l') :
    Gained others i (match taken with | .ok true => [.file repoId] | _ => []) l l' := by
  obtain ⟨l₁, gained, grants⟩ := h
  rcases taken with e | _ | _
  · obtain rfl := grants
    exact gained
  · obtain ⟨-, -, rfl⟩ := grants
    exact gained
  · obtain ⟨free, rfl⟩ := grants
    exact gained.trans (gained_take (k := .file repoId) free)

end Company

section Keeping

variable {others : Locks → Locks → Prop} {i process : Nat} {base l l' : Locks} {β : Type}
  {r : Request τ β} {b : β}

/-- Nothing that was held at the base is given back. -/
theorem Terms.retains_keeping (may : (Terms.keeping others i process base).may r l)
    (answers : (Terms.keeping others i process base).answers r l b l') (h : Retains i base l) :
    Retains i base l' := by
  intro k mine
  obtain ⟨l₁, gained, grants⟩ := answers
  have now := gained.retains k (h k mine)
  rcases grants.holder_cases k with same | ⟨free, -⟩ | ⟨drops, -⟩
  · exact same.trans now
  · exact nomatch free.symm.trans now
  · exact absurd mine (may k drops).2

end Keeping

end Forge
