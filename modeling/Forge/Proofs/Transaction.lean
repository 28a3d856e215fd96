import Forge.Proofs.Text.Writable
import Forge.Store.Transaction
import Mathlib.Logic.Basic
import Mathlib.Tactic.Tauto

/-!
# Outcomes of transactions

A transaction on a store either returns a value and leaves a store (`Returns`) or fails with an
error (`Fails`). The lemmas here turn the statements of a transaction into plain facts about the
store, one lemma a statement, so that what an operation on the store does can be read off from its
outcome.
-/

namespace Forge

/-! ## Parameters -/

namespace Cell

variable {u : Text.Surrogates} {e : Error}

/-- The engine takes the cell as a parameter. -/
def Bindable (u : Text.Surrogates) (c : Cell) : Prop :=
  c.refusal? u = none

@[simp] theorem bindable_null : null.Bindable u :=
  rfl

/-- A number is taken if and only if it has 64 bits. -/
@[simp] theorem bindable_int {i : Int} : (int i).Bindable u ↔ Transaction.fits i = true := by
  unfold Bindable refusal?
  split <;> simp_all

/-- A text is taken if and only if it has a UTF-8 form. -/
@[simp] theorem bindable_text {text : String} : (Cell.text text).Bindable u ↔ u.Writable text :=
  Option.map_eq_none_iff

@[simp] theorem bindable_ofText? {text : Option String} :
    (ofText? text).Bindable u ↔ ∀ t, text = some t → u.Writable t := by
  cases text <;> simp [ofText?]

/-- A cell is refused for a number that is too wide or a text without a UTF-8 form. -/
theorem refusal?_eq_some {c : Cell} : c.refusal? u = some e ↔
    (∃ i, c = int i ∧ Transaction.fits i = false ∧ e = .integerTooWide) ∨
      ∃ text fault, c = Cell.text text ∧ u.fault? text = some fault ∧ e = .unwritable fault := by
  cases c with
  | null => simp [refusal?]
  | int i =>
    cases narrow : Transaction.fits i <;> simp [refusal?, narrow, eq_comm (a := e)]
  | text text => simp [refusal?, eq_comm (a := e)]

end Cell

namespace Transaction

variable {α β : Type} {s s' : Store} {e : Error}

/-- The transaction, run on `s`, returns `a` and leaves `s'`. -/
def Returns (t : Transaction α) (s : Store) (a : α) (s' : Store) : Prop :=
  t.run s = (.ok a, s')

/-- The transaction, run on `s`, fails with `e`. -/
def Fails (t : Transaction α) (s : Store) (e : Error) : Prop :=
  (t.run s).1 = .error e

/-! ## Running as a whole -/

/-- A transaction that returns leaves the store as it has made it. -/
theorem commit_of_returns {t : Transaction α} {a : α} (h : t.Returns s a s') :
    t.commit s = (.ok a, s') := by
  unfold commit
  rw [h]

/-- A transaction that fails leaves the store as it was. -/
theorem commit_of_fails {t : Transaction α} (h : t.Fails s e) : t.commit s = (.error e, s) := by
  unfold Fails at h
  unfold commit
  split
  · rename_i ht
    rw [ht] at h
    cases h
  · rename_i ht
    rw [ht] at h
    cases h
    rfl

/-- A transaction returns or fails. -/
theorem returns_or_fails (t : Transaction α) (s : Store) :
    (∃ a s', t.Returns s a s') ∨ ∃ e, t.Fails s e := by
  unfold Returns Fails
  rcases t.run s with ⟨a | e, s'⟩
  · exact .inr ⟨_, rfl⟩
  · exact .inl ⟨_, _, rfl⟩

/-- A committed transaction has returned and left its store, or has failed and changed nothing. -/
theorem commit_cases (t : Transaction α) (s : Store) :
    (∃ a s', t.Returns s a s' ∧ t.commit s = (.ok a, s')) ∨
      ∃ e, t.Fails s e ∧ t.commit s = (.error e, s) := by
  rcases t.returns_or_fails s with ⟨a, s', h⟩ | ⟨e, h⟩
  · exact .inl ⟨a, s', h, commit_of_returns h⟩
  · exact .inr ⟨e, h, commit_of_fails h⟩

/-! ## Statements that return -/

@[simp] theorem returns_pure {a b : α} :
    (pure a : Transaction α).Returns s b s' ↔ b = a ∧ s' = s := by
  simp only [Returns, pure, Prod.mk.injEq, Except.ok.injEq]
  tauto

/-- Two parts return if the first one does and the second does in the store that it leaves. -/
@[simp] theorem returns_bind {t : Transaction α} {k : α → Transaction β} {b : β} :
    (t >>= k).Returns s b s' ↔ ∃ a s₁, t.Returns s a s₁ ∧ (k a).Returns s₁ b s' := by
  simp only [Returns, bind]
  rcases ht : t.run s with ⟨a | a, s₁⟩
  · simp
  · constructor
    · intro h
      exact ⟨a, s₁, rfl, h⟩
    · rintro ⟨_, _, h, hk⟩
      cases h
      exact hk

@[simp] theorem returns_map {t : Transaction α} {f : α → β} {b : β} :
    (f <$> t).Returns s b s' ↔ ∃ a, t.Returns s a s' ∧ b = f a := by
  show (t >>= fun a => pure (f a)).Returns s b s' ↔ _
  simp only [returns_bind, returns_pure]
  constructor
  · rintro ⟨a, s₁, h, rfl, rfl⟩
    exact ⟨a, h, rfl⟩
  · rintro ⟨a, h, rfl⟩
    exact ⟨a, s', h, rfl, rfl⟩

/-- A failure does not return, and neither does a report of the engine. -/
@[simp] theorem returns_fail {a : α} : ¬ (fail e : Transaction α).Returns s a s' := by
  simp [Returns, fail]

@[simp] theorem returns_refuse {r : EngineError} {a : α} :
    ¬ (refuse r : Transaction α).Returns s a s' :=
  returns_fail

@[simp] theorem returns_view {f : Store → α} {a : α} :
    (view f).Returns s a s' ↔ a = f s ∧ s' = s := by
  simp only [Returns, view, Prod.mk.injEq, Except.ok.injEq]
  tauto

/-- To look at the whole store changes nothing. -/
@[simp] theorem returns_whole {a : Store} : whole.Returns s a s' ↔ a = s ∧ s' = s :=
  returns_view

@[simp] theorem returns_change {f : Store → Store} {u : Unit} :
    (change f).Returns s u s' ↔ s' = f s := by
  simp only [Returns, change, Prod.mk.injEq, true_and]
  tauto

@[simp] theorem returns_ofExcept {x : Except Error α} {a : α} :
    (ofExcept x).Returns s a s' ↔ x = .ok a ∧ s' = s := by
  cases x with
  | ok b => simp [ofExcept, eq_comm]
  | error e => simp [ofExcept]

/-- A check returns if and only if it is passed. -/
@[simp] theorem returns_ensure {b : Bool} {u : Unit} :
    (ensure b e).Returns s u s' ↔ b = true ∧ s' = s := by
  cases b <;> simp [ensure]

/-- Numbers are bound if and only if each of them has 64 bits. -/
@[simp] theorem returns_bindAll {is : List Int} {u : Unit} :
    (bindAll is).Returns s u s' ↔ (∀ i ∈ is, fits i = true) ∧ s' = s := by
  simp [bindAll]

/-- All parameters are taken. -/
@[simp] theorem returns_bindCells {cs : List Cell} {u : Unit} :
    (bindCells cs).Returns s u s' ↔ (∀ c ∈ cs, c.Bindable s.surrogates) ∧ s' = s := by
  have taken : cs.findSome? (Cell.refusal? s.surrogates) = none ↔
      ∀ c ∈ cs, c.Bindable s.surrogates := List.findSome?_eq_none_iff
  simp only [bindCells, returns_bind, returns_view, ← taken]
  constructor
  · rintro ⟨_, _, ⟨rfl, rfl⟩, h⟩
    split at h
    · exact absurd h returns_fail
    next none => exact ⟨none, (returns_pure.1 h).2⟩
  · rintro ⟨none, rfl⟩
    exact ⟨_, _, ⟨rfl, rfl⟩, by simp [none]⟩

@[simp] theorem returns_check {b : Bool} {v : Violation} {u : Unit} :
    (check b v).Returns s u s' ↔ b = true ∧ s' = s :=
  returns_ensure

/-- A table can be used if and only if it has not been dropped. -/
@[simp] theorem returns_useTable {name : TableName} {u : Unit} :
    (useTable name).Returns s u s' ↔ name ∉ s.withdrawn ∧ s' = s := by
  simp only [useTable, returns_bind, returns_view]
  constructor
  · rintro ⟨_, _, ⟨rfl, rfl⟩, h⟩
    split at h
    · exact absurd h returns_refuse
    · rename_i hn
      exact ⟨by simpa using hn, (returns_pure.1 h).2⟩
  · rintro ⟨hn, rfl⟩
    exact ⟨_, _, ⟨rfl, rfl⟩, by simp [hn]⟩

@[simp] theorem returns_useParent {name : TableName} {u : Unit} :
    (useParent name).Returns s u s' ↔ name ∉ s.withdrawn ∧ s' = s := by
  simp only [useParent, returns_bind, returns_view]
  constructor
  · rintro ⟨_, _, ⟨rfl, rfl⟩, h⟩
    split at h
    · exact absurd h returns_refuse
    · rename_i hn
      exact ⟨by simpa using hn, (returns_pure.1 h).2⟩
  · rintro ⟨hn, rfl⟩
    exact ⟨_, _, ⟨rfl, rfl⟩, by simp [hn]⟩

/-- A column that needs a value returns the one that it is given. -/
@[simp] theorem returns_required {table : TableName} {column : String} {x : Option α} {a : α} :
    (required table column x).Returns s a s' ↔ x = some a ∧ s' = s := by
  cases x with
  | some b => simp [required, eq_comm]
  | none => simp [required]

/-! ## Statements that fail -/

@[simp] theorem fails_pure {a : α} : ¬ (pure a : Transaction α).Fails s e := by
  simp [Fails, pure]

/-- Two parts fail if the first one does, or it returns and the second one fails after it. -/
@[simp] theorem fails_bind {t : Transaction α} {k : α → Transaction β} :
    (t >>= k).Fails s e ↔ t.Fails s e ∨ ∃ a s₁, t.Returns s a s₁ ∧ (k a).Fails s₁ e := by
  simp only [Fails, Returns, bind]
  rcases ht : t.run s with ⟨a | a, s₁⟩
  · simp
  · constructor
    · intro h
      exact .inr ⟨a, s₁, rfl, h⟩
    · rintro (h | ⟨_, _, h, hk⟩)
      · cases h
      · cases h
        exact hk

/-- A function of the answer changes no failure. -/
@[simp] theorem fails_map {t : Transaction α} {f : α → β} : (f <$> t).Fails s e ↔ t.Fails s e := by
  show (t >>= fun a => pure (f a)).Fails s e ↔ _
  simp

@[simp] theorem fails_fail {e' : Error} : (fail e' : Transaction α).Fails s e ↔ e = e' := by
  simp [Fails, fail, eq_comm]

@[simp] theorem fails_refuse {r : EngineError} :
    (refuse r : Transaction α).Fails s e ↔ e = .engine r :=
  fails_fail

@[simp] theorem fails_view {f : Store → α} : ¬ (view f).Fails s e := by
  simp [Fails, view]

@[simp] theorem fails_whole : ¬ whole.Fails s e :=
  fails_view

@[simp] theorem fails_change {f : Store → Store} : ¬ (change f).Fails s e := by
  simp [Fails, change]

@[simp] theorem fails_ofExcept {x : Except Error α} : (ofExcept x).Fails s e ↔ x = .error e := by
  cases x with
  | ok b => simp [ofExcept]
  | error e' => simp [ofExcept, eq_comm]

/-- A check that is not passed fails with its own error. -/
@[simp] theorem fails_ensure {b : Bool} {e' : Error} :
    (ensure b e').Fails s e ↔ b = false ∧ e = e' := by
  cases b <;> simp [ensure]

/-- Numbers are refused if and only if one of them has more than 64 bits. -/
@[simp] theorem fails_bindAll {is : List Int} :
    (bindAll is).Fails s e ↔ (∃ i ∈ is, fits i = false) ∧ e = .integerTooWide := by
  simp [bindAll]

/-- The first parameter that is refused decides the error. -/
@[simp] theorem fails_bindCells {cs : List Cell} :
    (bindCells cs).Fails s e ↔ cs.findSome? (Cell.refusal? s.surrogates) = some e := by
  simp only [bindCells, fails_bind, fails_view, returns_view, false_or]
  constructor
  · rintro ⟨_, _, ⟨rfl, rfl⟩, h⟩
    split at h
    next refused => rw [refused, fails_fail.1 h]
    · exact absurd h fails_pure
  · intro refused
    exact ⟨_, _, ⟨rfl, rfl⟩, by simp [refused]⟩

/-- What a parameter is refused with, one of them is. -/
theorem refused_of_fails_bindCells {cs : List Cell} (h : (bindCells cs).Fails s e) :
    ∃ c ∈ cs, c.refusal? s.surrogates = some e :=
  List.exists_of_findSome?_eq_some (fails_bindCells.1 h)

/-- A constraint that does not hold is told as a violation. -/
@[simp] theorem fails_check {b : Bool} {v : Violation} :
    (check b v).Fails s e ↔ b = false ∧ e = .engine (.violated v) :=
  fails_ensure

/-- That a table is gone is a report of the engine. -/
theorem engine_of_fails_useTable {name : TableName} (h : (useTable name).Fails s e) :
    ∃ r, e = .engine r := by
  simp only [useTable, fails_bind, fails_view, returns_view, false_or] at h
  obtain ⟨_, _, ⟨rfl, rfl⟩, h⟩ := h
  split at h
  · exact ⟨_, fails_refuse.1 h⟩
  · exact absurd h fails_pure

theorem engine_of_fails_useParent {name : TableName} (h : (useParent name).Fails s e) :
    ∃ r, e = .engine r := by
  simp only [useParent, fails_bind, fails_view, returns_view, false_or] at h
  obtain ⟨_, _, ⟨rfl, rfl⟩, h⟩ := h
  split at h
  · exact ⟨_, fails_refuse.1 h⟩
  · exact absurd h fails_pure

end Transaction

end Forge
