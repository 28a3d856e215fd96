import Forge.Proofs.Frame.Deed
import Forge.Proofs.Independence.Patch

/-!
# Transactions in two stores

A transaction ends `Alike` in two stores if it returns the same in both or fails with the same
error. There is one rule for every statement. A statement on a ticket asks for no more than that the
tables are there in both stores or in neither, and that the rows of the ticket are the same.
-/

namespace Forge

open Transaction Ticket

namespace Transaction

variable {α β : Type} {t t' : Transaction α} {k k' : α → Transaction β} {s s' : Store}

/-! ## The same end -/

/-- Each in its store, the transactions return the same or fail with the same error. -/
def Alike (t t' : Transaction α) (s s' : Store) : Prop :=
  (t.run s).1 = (t'.run s').1

namespace Alike

/-- Two runs that are alike have failed with one error or have returned one value. -/
theorem cases (h : Alike t t' s s') : (∃ e, t.Fails s e ∧ t'.Fails s' e) ∨
    ∃ a d d', t.Returns s a d ∧ t'.Returns s' a d' := by
  rcases t.returns_or_fails s with ⟨a, d, hd⟩ | ⟨e, he⟩
  · have returned : (t.run s).1 = .ok a := congrArg Prod.fst (show t.run s = (.ok a, d) from hd)
    exact .inr ⟨a, d, (t'.run s').2, hd, Prod.ext (h.symm.trans returned) rfl⟩
  · exact .inl ⟨e, he, h.symm.trans he⟩

/-- The values of runs that are alike are the same. -/
theorem value_eq {a a' : α} {d d' : Store} (h : Alike t t' s s') (hd : t.Returns s a d)
    (hd' : t'.Returns s' a' d') : a' = a := by
  have left : (t.run s).1 = .ok a := congrArg Prod.fst (show t.run s = (.ok a, d) from hd)
  have right : (t'.run s').1 = .ok a' := congrArg Prod.fst (show t'.run s' = (.ok a', d') from hd')
  exact Except.ok.inj (right.symm.trans (h.symm.trans left))

/-- What comes next has to end alike in the stores that are left. -/
theorem bind (h : Alike t t' s s')
    (next : ∀ a d d', t.Returns s a d → t'.Returns s' a d' → Alike (k a) (k' a) d d') :
    Alike (t >>= k) (t' >>= k') s s' := by
  rcases h.cases with ⟨e, he, he'⟩ | ⟨a, d, d', hd, hd'⟩
  · exact (fails_bind.2 (.inl he)).trans (fails_bind.2 (.inl he')).symm
  · have left : (t >>= k).run s = (k a).run d := by
      simp only [Bind.bind, show t.run s = _ from hd]
    have right : (t' >>= k').run s' = (k' a).run d' := by
      simp only [Bind.bind, show t'.run s' = _ from hd']
    unfold Alike
    rw [left, right]
    exact next a d d' hd hd'

theorem ensure {b : Bool} {e : Error} {k k' : Unit → Transaction β}
    (next : b = true → Alike (k ()) (k' ()) s s') :
    Alike (ensure b e >>= k) (Transaction.ensure b e >>= k') s s' := by
  cases b with
  | true => exact next rfl
  | false => rfl

theorem ofExcept {x : Except Error α} (next : ∀ a, x = .ok a → Alike (k a) (k' a) s s') :
    Alike (ofExcept x >>= k) (Transaction.ofExcept x >>= k') s s' := by
  cases x with
  | ok a => exact next a rfl
  | error e => rfl

theorem required {γ : Type} {table : TableName} {column : String} {x : Option γ}
    {k k' : γ → Transaction β} (next : ∀ a, x = some a → Alike (k a) (k' a) s s') :
    Alike (required table column x >>= k) (Transaction.required table column x >>= k') s s' := by
  cases x with
  | some a => exact next a rfl
  | none => rfl

theorem view {f : Store → α} (next : Alike (k (f s)) (k' (f s')) s s') :
    Alike (view f >>= k) (Transaction.view f >>= k') s s' :=
  next

theorem useTable {name : TableName} {k k' : Unit → Transaction β}
    (present : s'.withdrawn = s.withdrawn) (next : Alike (k ()) (k' ()) s s') :
    Alike (useTable name >>= k) (Transaction.useTable name >>= k') s s' := by
  refine Alike.bind ?_ fun _ d d' h h' => ?_
  · unfold Transaction.useTable
    refine Alike.view ?_
    rw [present]
    split <;> rfl
  · obtain ⟨-, rfl⟩ := returns_useTable.1 h
    obtain ⟨-, rfl⟩ := returns_useTable.1 h'
    exact next

theorem useParent {name : TableName} {k k' : Unit → Transaction β}
    (present : s'.withdrawn = s.withdrawn) (next : Alike (k ()) (k' ()) s s') :
    Alike (useParent name >>= k) (Transaction.useParent name >>= k') s s' := by
  refine Alike.bind ?_ fun _ d d' h h' => ?_
  · unfold Transaction.useParent
    refine Alike.view ?_
    rw [present]
    split <;> rfl
  · obtain ⟨-, rfl⟩ := returns_useParent.1 h
    obtain ⟨-, rfl⟩ := returns_useParent.1 h'
    exact next

/-- Parameters are refused alike by stores of the same surrogates. -/
theorem bindCells {cells : List Cell} {k k' : Unit → Transaction β}
    (surrogates : s'.surrogates = s.surrogates) (next : Alike (k ()) (k' ()) s s') :
    Alike (bindCells cells >>= k) (Transaction.bindCells cells >>= k') s s' := by
  refine Alike.bind ?_ fun _ d d' h h' => ?_
  · unfold Transaction.bindCells
    refine Alike.view ?_
    rw [surrogates]
    split <;> rfl
  · obtain ⟨-, rfl⟩ := returns_bindCells.1 h
    obtain ⟨-, rfl⟩ := returns_bindCells.1 h'
    exact next

end Alike

end Transaction

/-! ## Statements on tickets -/

namespace Ticket

variable {ρ ε : Type} [Ticket ρ ε] {s s' : Store} {repoIdent ident now : Int}

/-- Rows that can only be of one ticket are the same if those of the ticket are. -/
theorem filter_congr {p : ρ → Bool} {rows rows' : List ρ}
    (same : rows'.filter (isAt repoIdent ident) = rows.filter (isAt repoIdent ident))
    (hp : ∀ r, p r = true → isAt repoIdent ident r = true) : rows'.filter p = rows.filter p := by
  have narrow (rows : List ρ) :
      (rows.filter (isAt repoIdent ident)).filter p = rows.filter p := by
    rw [List.filter_filter]
    refine List.filter_congr fun r _ => ?_
    cases h : p r with
    | false => rfl
    | true => rw [hp r h]; rfl
  rw [← narrow rows, ← narrow rows', same]

section Reads

variable (present : s'.withdrawn = s.withdrawn)
  (same : (table (ρ := ρ) s').rows.filter (isAt repoIdent ident) =
    (table s).rows.filter (isAt repoIdent ident))

include same in
/-- Whether a ticket is there is alike where the rows at its place are. -/
theorem any_congr : (table (ρ := ρ) s').any (isAt repoIdent ident) =
    (table (ρ := ρ) s).any (isAt repoIdent ident) := by
  rw [Table.any, Table.any, ← List.isSome_find?, ← List.isSome_find?, ← List.head?_filter,
    ← List.head?_filter, same]

include present same

theorem alike_isThere :
    Alike (isThere ρ repoIdent ident) (isThere ρ repoIdent ident) s s' := by
  refine .useTable present (.ensure fun _ => .view ?_)
  rw [any_congr same]
  rfl

theorem alike_find? : Alike (find? ρ repoIdent ident : Transaction (Option ε))
    (find? ρ repoIdent ident) s s' := by
  refine .useTable present (.ensure fun _ => .view ?_)
  rw [← List.head?_filter, ← List.head?_filter, same]
  split
  · rename_i r _
    unfold readRow
    cases read? r <;> rfl
  · rfl

/-- To get a ticket depends on the rows at its place only. -/
theorem alike_get : Alike (get ρ repoIdent ident : Transaction ε) (get ρ repoIdent ident) s s' := by
  refine (alike_find? present same).bind fun found _ _ _ _ => ?_
  cases found <;> rfl

theorem alike_delete : Alike (delete ρ repoIdent ident) (delete ρ repoIdent ident) s s' := by
  refine .useTable present (.useParent present (.ensure fun _ => .view ?_))
  rw [any_congr same]
  exact .ensure fun _ => rfl

variable (repos : s'.repos = s.repos)

include repos

omit present in
/-- An update is alike if it meets rows at the place of the ticket only. -/
theorem alike_updateWhere {p : ρ → Bool} (values : List (String × Cell))
    (hp : ∀ r, p r = true → isAt repoIdent ident r = true) :
    Alike (updateWhere p values) (updateWhere p values) s s' := by
  have matched := filter_congr same hp
  have count : (table s').count p = (table s).count p := by
    rw [Table.count, Table.count, List.countP_eq_length_filter, List.countP_eq_length_filter,
      matched]
  refine .view ?_
  simp only [matched, count, Store.hasRepository, repos]
  split
  · rfl
  · exact .ensure fun _ => rfl

variable (surrogates : s'.surrogates = s.surrogates)

include surrogates

/-- A guarded update is one whose rows are in a certain state besides. -/
theorem alike_guardedUpdate (expected : String) (values : List (String × Cell)) :
    Alike (guardedUpdate ρ repoIdent ident expected values)
      (guardedUpdate ρ repoIdent ident expected values) s s' := by
  have rest : Alike (do
      Transaction.bindCells (guardedParameters repoIdent ident expected values)
      updateWhere (fun r : ρ => isAt repoIdent ident r && state r == expected) values) (do
      Transaction.bindCells (guardedParameters repoIdent ident expected values)
      updateWhere (fun r : ρ => isAt repoIdent ident r && state r == expected) values) s s' :=
    .bindCells surrogates (alike_updateWhere same repos values fun _ h =>
      (Bool.and_eq_true_iff.1 h).1)
  refine .ensure fun _ => .useTable present ?_
  split
  · rfl
  · split
    · exact .useParent present rest
    · exact rest

theorem alike_update (title : String) (description : Option String) :
    Alike (update ρ now repoIdent ident title description)
      (update ρ now repoIdent ident title description) s s' := by
  refine .ofExcept fun cleaned _ => .useTable present (.bindCells surrogates ?_)
  refine (alike_updateWhere same repos _ fun _ h => h).bind fun matched _ _ _ _ => ?_
  unfold Transaction.ensure
  split <;> rfl

end Reads

end Ticket

end Forge
