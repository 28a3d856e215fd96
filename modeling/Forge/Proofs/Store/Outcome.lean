import Forge.Lifecycle
import Forge.Proofs.Transaction
import Forge.Store.Repositories

/-!
# What the operations on the store return

One lemma for each operation on the store says when it returns, what, and which store it leaves;
for the operations that a merge relies on there is also one that says how they fail.
-/

namespace Forge

open Transaction

variable {s s' : Store} {e : Error} {now : Int}

/-! ## Repositories -/

namespace Store

/-- A repository is added if its path has text, its name is clean and new, and both are taken. -/
theorem returns_createRepository {name path : String} {id : Int} :
    (createRepository now name path).Returns s id s' ↔
      ∃ key, Text.strip path ≠ "" ∧ Repository.cleanName name = .ok key ∧
        .repos ∉ s.withdrawn ∧
        (s.surrogates.Writable key ∧ s.surrogates.Writable (Text.strip path) ∧
          fits now = true) ∧
        (∀ r ∈ s.repos.rows, r.name ≠ key) ∧ id = s.repos.nextId ∧
        s' = { s with
          repos := s.repos.insert fun id => ⟨id, key, Text.strip path, now⟩ } := by
  simp only [createRepository, returns_bind, returns_ensure, returns_ofExcept, returns_useTable,
    returns_bindCells, returns_view, returns_check, returns_change, returns_pure]
  constructor
  · rintro ⟨_, _, ⟨hp, rfl⟩, key, _, ⟨hk, rfl⟩, _, _, ⟨hw, rfl⟩, _, _, ⟨hf, rfl⟩, _, _,
      ⟨rfl, rfl⟩, _, _, ⟨hn, rfl⟩, _, _, rfl, rfl, rfl⟩
    refine ⟨key, by simpa using hp, hk, hw, by simpa using hf, ?_, rfl, rfl⟩
    simpa [Table.any] using hn
  · rintro ⟨key, hp, hk, hw, hf, hn, rfl, rfl⟩
    exact ⟨(), _, ⟨by simpa using hp, rfl⟩, key, _, ⟨hk, rfl⟩, (), _, ⟨hw, rfl⟩, (), _,
      ⟨by simpa using hf, rfl⟩, _, _, ⟨rfl, rfl⟩, (), _, ⟨by simpa [Table.any] using hn, rfl⟩,
      (), _, rfl, rfl, rfl⟩

/-- A repository is found under the clean form of the name. -/
theorem returns_repositoryNamed {name : String} {r : Repository} :
    (repositoryNamed name).Returns s r s' ↔
      ∃ key, Repository.cleanName name = .ok key ∧
        (.repos ∉ s.withdrawn ∧ s.surrogates.Writable key) ∧
        s.repos.rows.find? (fun r => r.name == key) = some r ∧ s' = s := by
  simp only [repositoryNamed, returns_bind, returns_ofExcept, returns_useTable, returns_bindCells,
    returns_view]
  constructor
  · rintro ⟨key, _, ⟨hk, rfl⟩, _, _, ⟨hw, rfl⟩, _, _, ⟨ht, rfl⟩, _, _, ⟨rfl, rfl⟩, h⟩
    split at h
    · rename_i hr
      obtain ⟨rfl, rfl⟩ := returns_pure.1 h
      exact ⟨key, hk, ⟨hw, by simpa using ht⟩, hr, rfl⟩
    · exact absurd h returns_fail
  · rintro ⟨key, hk, ⟨hw, ht⟩, hr, rfl⟩
    exact ⟨key, _, ⟨hk, rfl⟩, (), _, ⟨hw, rfl⟩, (), _, ⟨by simpa using ht, rfl⟩, _, _,
      ⟨rfl, rfl⟩, by simp [hr]⟩

/-- A repository that is found is a row whose name is the clean form of what was asked for. -/
theorem found_of_returns {name : String} {r : Repository}
    (h : (repositoryNamed name).Returns s r s') :
    r ∈ s.repos.rows ∧ Repository.cleanName name = .ok r.name ∧ s' = s := by
  obtain ⟨key, clean, -, found, rfl⟩ := returns_repositoryNamed.1 h
  have named := List.find?_some found
  obtain rfl : r.name = key := eq_of_beq named
  exact ⟨List.mem_of_find?_eq_some found, clean, rfl⟩

/-- The repository that is registered is the one that is then found under its name. -/
theorem returns_registered {name path : String} {id : Int} {r : Repository} {s₁ : Store}
    (hc : (createRepository now name path).Returns s id s₁)
    (hn : (repositoryNamed name).Returns s₁ r s') :
    Repository.cleanName name = .ok r.name ∧ (∀ r' ∈ s.repos.rows, r'.name ≠ r.name) ∧
      r.id = s.repos.nextId ∧ s' = { s with repos := s.repos.insert fun _ => r } := by
  obtain ⟨key, -, hk, -, -, new, rfl, rfl⟩ := returns_createRepository.1 hc
  obtain ⟨key', hk', -, hfind, rfl⟩ := returns_repositoryNamed.1 hn
  obtain rfl := Except.ok.inj (hk.symm.trans hk')
  -- No row had the name before, so what is found is the row that was added.
  have none : s.repos.rows.find? (fun r => r.name == key) = none := by
    refine List.find?_eq_none.2 fun r hr => ?_
    rw [beq_iff_eq]
    exact new r hr
  rw [Table.insert, List.find?_append, none, Option.none_or] at hfind
  obtain rfl := List.mem_singleton.1 (List.mem_of_find?_eq_some hfind)
  exact ⟨hk, new, rfl, rfl⟩

theorem returns_listRepositories {rs : List Repository} :
    listRepositories.Returns s rs s' ↔
      .repos ∉ s.withdrawn ∧ rs = s.repos.rows.mergeSort (fun a b => decide (a.name ≤ b.name)) ∧
        s' = s := by
  simp only [listRepositories, returns_bind, returns_useTable, returns_view, returns_pure]
  constructor
  · rintro ⟨_, _, ⟨hw, rfl⟩, _, _, ⟨rfl, rfl⟩, rfl, rfl⟩
    exact ⟨hw, rfl, rfl⟩
  · rintro ⟨hw, rfl, rfl⟩
    exact ⟨(), _, ⟨hw, rfl⟩, _, _, ⟨rfl, rfl⟩, rfl, rfl⟩

theorem returns_deleteRepository {name : String} {u : Unit} :
    (deleteRepository name).Returns s u s' ↔
      ∃ key, Repository.cleanName name = .ok key ∧
        (.repos ∉ s.withdrawn ∧ s.surrogates.Writable key) ∧
        (∃ r ∈ s.repos.rows, r.name = key) ∧
        s' = s.dropRepositories fun r => r.name == key := by
  simp only [deleteRepository, returns_bind, returns_ofExcept, returns_useTable,
    returns_bindCells, returns_view, returns_ensure, returns_change]
  constructor
  · rintro ⟨key, _, ⟨hk, rfl⟩, _, _, ⟨hw, rfl⟩, _, _, ⟨ht, rfl⟩, _, _, ⟨rfl, rfl⟩, _, _,
      ⟨hr, rfl⟩, rfl⟩
    exact ⟨key, hk, ⟨hw, by simpa using ht⟩, by simpa [Table.any] using hr, rfl⟩
  · rintro ⟨key, hk, ⟨hw, ht⟩, hr, rfl⟩
    exact ⟨key, _, ⟨hk, rfl⟩, (), _, ⟨hw, rfl⟩, (), _, ⟨by simpa using ht, rfl⟩, _, _,
      ⟨rfl, rfl⟩, (), _, ⟨by simpa [Table.any] using hr, rfl⟩, rfl⟩

end Store

/-! ## Tickets -/

namespace Ticket

variable {ρ ε : Type} [Ticket ρ ε] {repoIdent ident : Int}

theorem isAt_iff {r : ρ} :
    isAt repoIdent ident r = true ↔ repoId r = repoIdent ∧ id r = ident := by
  simp [isAt]

@[simp] theorem returns_readRow {r : ρ} {a : ε} :
    (readRow r).Returns s a s' ↔ read? r = some a ∧ s' = s := by
  unfold readRow
  cases hr : read? r with
  | some b => simp [eq_comm]
  | none => simp

@[simp] theorem fails_readRow {r : ρ} :
    (readRow r : Transaction ε).Fails s e ↔
      read? r = none ∧ e = .unreadableState (kind ρ) (state r) := by
  unfold readRow
  cases hr : read? r with
  | some b => simp
  | none => simp

/-- To read rows changes nothing. -/
theorem readRows_reads {rs : List ρ} {es : List ε} (h : (readRows rs).Returns s es s') :
    s' = s := by
  induction rs generalizing es with
  | nil => exact (returns_pure.1 h).2
  | cons r rs ih =>
    simp only [readRows, returns_bind, returns_readRow, returns_pure] at h
    obtain ⟨_, _, ⟨-, rfl⟩, _, _, hs, -, rfl⟩ := h
    exact ih hs

/-- What is found is the row at the place, as it can be read. -/
theorem returns_find? {o : Option ε} (h : (find? ρ repoIdent ident).Returns s o s') :
    tableName ρ ∉ s.withdrawn ∧ fits repoIdent = true ∧ fits ident = true ∧ s' = s ∧
      ((table s).rows.find? (isAt (ρ := ρ) repoIdent ident)).map read? = o.map some := by
  simp only [find?, returns_bind, returns_useTable, returns_bindAll, returns_view] at h
  obtain ⟨_, _, ⟨hw, rfl⟩, _, _, ⟨hf, rfl⟩, _, _, ⟨rfl, rfl⟩, h⟩ := h
  have hf₁ : fits repoIdent = true := hf _ (by simp)
  have hf₂ : fits ident = true := hf _ (by simp)
  split at h
  · rename_i r hr
    obtain ⟨a, ha, rfl⟩ := returns_map.1 h
    obtain ⟨hread, rfl⟩ := returns_readRow.1 ha
    exact ⟨hw, hf₁, hf₂, rfl, by simp [hr, hread]⟩
  · rename_i hr
    obtain ⟨rfl, rfl⟩ := returns_pure.1 h
    exact ⟨hw, hf₁, hf₂, rfl, by simp [hr]⟩

theorem fails_find? (h : (find? ρ repoIdent ident : Transaction (Option ε)).Fails s e) :
    (∃ report, e = .engine report) ∨
      (fits repoIdent = false ∨ fits ident = false) ∧ e = .integerTooWide ∨
      ∃ r ∈ (table (ρ := ρ) s).rows, read? r = none := by
  simp only [find?, fails_bind, returns_useTable, fails_bindAll, returns_bindAll, fails_view,
    returns_view] at h
  rcases h with h | ⟨_, _, ⟨-, rfl⟩, ⟨⟨i, hi, hf⟩, rfl⟩ |
    ⟨_, _, ⟨-, rfl⟩, h | ⟨_, _, ⟨rfl, rfl⟩, h⟩⟩⟩
  · exact .inl (engine_of_fails_useTable h)
  · simp only [List.mem_cons, List.not_mem_nil, or_false] at hi
    rcases hi with rfl | rfl
    · exact .inr (.inl ⟨.inl hf, rfl⟩)
    · exact .inr (.inl ⟨.inr hf, rfl⟩)
  · exact h.elim
  · split at h
    · rename_i r hr
      exact .inr (.inr ⟨r, List.mem_of_find?_eq_some hr, (fails_readRow.1 (fails_map.1 h)).1⟩)
    · exact absurd h fails_pure

/-- A ticket that is returned is read from the first row of its repository and id. -/
theorem returns_get {a : ε} :
    (get ρ repoIdent ident).Returns s a s' ↔
      tableName ρ ∉ s.withdrawn ∧ fits repoIdent = true ∧ fits ident = true ∧ s' = s ∧
        ∃ r, (table s).rows.find? (isAt (ρ := ρ) repoIdent ident) = some r ∧ read? r = some a := by
  constructor
  · intro h
    simp only [get, returns_bind] at h
    obtain ⟨o, s₁, ho, h⟩ := h
    obtain ⟨hw, hf₁, hf₂, rfl, hr⟩ := returns_find? ho
    cases o with
    | none => exact absurd h returns_fail
    | some b =>
      obtain ⟨rfl, rfl⟩ := returns_pure.1 h
      obtain ⟨r, hr, hb⟩ := Option.map_eq_some_iff.1 hr
      exact ⟨hw, hf₁, hf₂, rfl, r, hr, hb⟩
  · rintro ⟨hw, hf₁, hf₂, rfl, r, hr, ha⟩
    simp only [get, find?, returns_bind, returns_useTable, returns_bindAll, returns_view]
    refine ⟨some a, s', ⟨(), _, ⟨hw, rfl⟩, (), _, ⟨?_, rfl⟩, _, _, ⟨rfl, rfl⟩, ?_⟩, ?_⟩
    · simpa using ⟨hf₁, hf₂⟩
    · rw [hr]
      exact returns_map.2 ⟨a, returns_readRow.2 ⟨ha, rfl⟩, rfl⟩
    · exact returns_pure.2 ⟨rfl, rfl⟩

/-- Where all rows can be read and all parameters fit, a ticket is not got only because it is not
there or the engine has failed. -/
theorem fails_get (hr : ∀ r ∈ (table (ρ := ρ) s).rows, read? r ≠ none)
    (h₁ : fits repoIdent = true) (h₂ : fits ident = true)
    (h : (get ρ repoIdent ident : Transaction ε).Fails s e) :
    (∃ report, e = .engine report) ∨ ∃ what, e = .notFound what := by
  simp only [get, fails_bind] at h
  rcases h with h | ⟨o, s₁, -, h⟩
  · rcases fails_find? h with h | ⟨h | h, -⟩ | ⟨r, hm, h⟩
    · exact .inl h
    · simp [h₁] at h
    · simp [h₂] at h
    · exact absurd h (hr r hm)
  · cases o with
    | none => exact .inr ⟨_, fails_fail.1 h⟩
    | some b => exact absurd h fails_pure

theorem isThere_reads {b : Bool} (h : (isThere ρ repoIdent ident).Returns s b s') :
    s' = s ∧ b = (table s).any (isAt (ρ := ρ) repoIdent ident) := by
  simp only [isThere, returns_bind, returns_useTable, returns_bindAll, returns_view,
    returns_pure] at h
  obtain ⟨_, _, ⟨-, rfl⟩, _, _, ⟨-, rfl⟩, _, _, ⟨rfl, rfl⟩, rfl, rfl⟩ := h
  exact ⟨rfl, rfl⟩

theorem listAll_reads {es : List ε} (h : (listAll ρ repoIdent).Returns s es s') : s' = s := by
  simp only [listAll, returns_bind, returns_useTable, returns_bindAll, returns_view] at h
  obtain ⟨_, _, ⟨-, rfl⟩, _, _, ⟨-, rfl⟩, _, _, ⟨rfl, rfl⟩, h⟩ := h
  exact readRows_reads h

theorem listInState_reads {text : String} {es : List ε}
    (h : (listInState ρ repoIdent text).Returns s es s') : s' = s := by
  simp only [listInState, returns_bind, returns_useTable, returns_bindCells, returns_view] at h
  obtain ⟨_, _, ⟨-, rfl⟩, _, _, ⟨-, rfl⟩, _, _, ⟨rfl, rfl⟩, h⟩ := h
  exact readRows_reads h

theorem returns_updateWhere {p : ρ → Bool} {values : List (String × Cell)} {n : Nat} :
    (updateWhere p values).Returns s n s' ↔
      ((table s).rows.filter p).findSome? (emptied? values) = none ∧
      (((table s).rows.filter p).all fun r =>
        repoId (setAll values r) == repoId r || s.hasRepository (repoId (setAll values r))) ∧
      n = (table s).count p ∧
      s' = setTable ((table s).modify p (setAll values)) s := by
  simp only [updateWhere, returns_bind, returns_whole]
  constructor
  · rintro ⟨_, _, ⟨rfl, rfl⟩, h⟩
    split at h
    · exact absurd h returns_refuse
    · rename_i he
      simp only [returns_bind, returns_check, returns_change, returns_pure] at h
      obtain ⟨_, _, ⟨hf, rfl⟩, _, _, rfl, rfl, rfl⟩ := h
      exact ⟨he, hf, rfl, rfl⟩
  · rintro ⟨he, hf, rfl, rfl⟩
    refine ⟨_, _, ⟨rfl, rfl⟩, ?_⟩
    rw [he]
    simp only [returns_bind, returns_check, returns_change]
    exact ⟨(), _, ⟨hf, rfl⟩, (), _, rfl, returns_pure.2 ⟨rfl, rfl⟩⟩

theorem fails_updateWhere {p : ρ → Bool} {values : List (String × Cell)}
    (h : (updateWhere p values).Fails s e) : ∃ report, e = .engine report := by
  simp only [updateWhere, fails_bind, fails_whole, returns_whole, false_or] at h
  obtain ⟨_, _, ⟨rfl, rfl⟩, h⟩ := h
  split at h
  · exact ⟨_, fails_refuse.1 h⟩
  · simp only [fails_bind, fails_check, fails_change, fails_pure, and_false, exists_false,
      or_false] at h
    exact ⟨_, h.2⟩

/-- A guarded update sets its values in the rows at the place that are in the expected state, and
counts them. -/
theorem returns_guardedUpdate {expected : String} {values : List (String × Cell)} {n : Nat}
    (h : (guardedUpdate ρ repoIdent ident expected values).Returns s n s') :
    n = (table s).count (fun r : ρ => isAt repoIdent ident r && state r == expected) ∧
      s' = setTable ((table s).modify
        (fun r : ρ => isAt repoIdent ident r && state r == expected) (setAll values)) s := by
  simp only [guardedUpdate, returns_bind, returns_ensure, returns_useTable] at h
  obtain ⟨_, _, ⟨-, rfl⟩, _, _, ⟨-, rfl⟩, h⟩ := h
  split at h
  · exact absurd h returns_refuse
  · split at h
    · simp only [returns_bind, returns_useParent, returns_bindCells, returns_updateWhere] at h
      obtain ⟨_, _, ⟨-, rfl⟩, _, _, ⟨-, rfl⟩, -, -, rfl, rfl⟩ := h
      exact ⟨rfl, rfl⟩
    · simp only [returns_bind, returns_bindCells, returns_updateWhere] at h
      obtain ⟨_, _, ⟨-, rfl⟩, -, -, rfl, rfl⟩ := h
      exact ⟨rfl, rfl⟩

/-- All parameters of a guarded update are taken if its values are, the two ids and the state. -/
theorem bindable_guardedParameters {u : Text.Surrogates} {expected : String}
    {values : List (String × Cell)} :
    (∀ c ∈ guardedParameters repoIdent ident expected values, c.Bindable u) ↔
      (∀ v ∈ values, v.2.Bindable u) ∧ fits repoIdent = true ∧ fits ident = true ∧
        u.Writable expected := by
  simp only [guardedParameters, List.forall_mem_append, List.forall_mem_map, List.forall_mem_cons,
    Cell.bindable_int, Cell.bindable_text, List.not_mem_nil, false_imp_iff, implies_true, and_true]

/-- A guarded update fails with a report of the engine, or because one of its parameters is
refused. -/
theorem fails_guardedUpdate {expected : String} {values : List (String × Cell)}
    (h : (guardedUpdate ρ repoIdent ident expected values).Fails s e) :
    (∃ report, e = .engine report) ∨
      ∃ c ∈ guardedParameters repoIdent ident expected values,
        c.refusal? s.surrogates = some e := by
  -- What follows the check of the tables, at whichever store that check leaves.
  have rest {s₁ : Store} (same : s₁ = s) (failed : (do
      bindCells (guardedParameters repoIdent ident expected values)
      updateWhere (ρ := ρ) (fun r => isAt repoIdent ident r && state r == expected)
        values).Fails s₁ e) :
      (∃ report, e = .engine report) ∨
        ∃ c ∈ guardedParameters repoIdent ident expected values,
          c.refusal? s.surrogates = some e := by
    rw [← same]
    exact (fails_bind.1 failed).elim (fun refused => .inr (refused_of_fails_bindCells refused))
      fun ⟨_, _, _, failed⟩ => .inl (fails_updateWhere failed)
  simp only [guardedUpdate, fails_bind, fails_ensure, returns_ensure, returns_useTable] at h
  rcases h with ⟨-, rfl⟩ | ⟨_, _, ⟨-, same⟩, h | ⟨_, _, ⟨-, same'⟩, h⟩⟩
  · exact .inl ⟨_, rfl⟩
  · exact .inl (engine_of_fails_useTable h)
  · split at h
    · exact .inl ⟨_, fails_refuse.1 h⟩
    · split at h
      · rw [fails_bind] at h
        rcases h with h | ⟨_, _, hp, h⟩
        · exact .inl (engine_of_fails_useParent h)
        · exact rest ((returns_useParent.1 hp).2.trans (same'.trans same)) h
      · exact rest (same'.trans same) h

end Ticket

end Forge
