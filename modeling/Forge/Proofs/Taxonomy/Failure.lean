import Forge.Proofs.Dependency.Answers

/-!
# Which errors transactions fail with

The failures that an operation should answer with are those of the workflow (`Error.isWorkflow`).
A transaction on a store that can be read fails with one of these, with a report that is classified
as one, or because a number that it was given has more than 64 bits or a text has no UTF-8 form
(`Transaction.Ordinary`). Which of the latter are excused is left open.
-/

namespace Forge

open Transaction

/-- Whether an error is a failure of the workflow rather than a fault below it. -/
def Error.isWorkflow : Error → Bool
  | .notFound _ | .invalidState .. | .conflict _ | .invalidArgument _ | .storage _ | .external _
  | .deadline _ | .unrecorded .. => true
  | _ => false

/-- Every report of the engine is classified as a failure of the workflow. -/
theorem EngineError.isWorkflow_toError (report : EngineError) :
    report.toError.isWorkflow = true := by
  unfold toError
  dsimp only
  repeat' split
  all_goals rfl

theorem Error.isWorkflow_engine (report : EngineError) :
    (Error.engine report).classified.isWorkflow = true :=
  report.isWorkflow_toError

theorem Error.isWorkflow_classified {e : Error} (h : e.isWorkflow = true) :
    e.classified.isWorkflow = true := by
  cases e <;> first | exact h | exact EngineError.isWorkflow_toError _

theorem Error.isWorkflow_of_isExternal {e : Error} (h : e.isExternal = true) :
    e.isWorkflow = true := by
  cases e <;> first | rfl | cases h

/-- Classification leaves an error as it is or makes a failure of the workflow of it. -/
theorem Error.classified_cases (e : Error) :
    e.classified.isWorkflow = true ∨ e.classified = e := by
  cases e with
  | engine report => exact .inl report.isWorkflow_toError
  | _ => exact .inr rfl

/-- An error that is classified as a failure of the workflow, or is excused. -/
def Error.Ordinary (excused : Error → Prop) (e : Error) : Prop :=
  e.classified.isWorkflow = true ∨ excused e

/-- The transaction fails on the store only with ordinary errors. -/
abbrev Transaction.Ordinary {α : Type} (excused : Error → Prop) (s : Store)
    (t : Transaction α) : Prop :=
  t.FailsWith (Error.Ordinary excused) s

variable {excused : Error → Prop} {u : Text.Surrogates} {s : Store}

/-- If the text has no UTF-8 form, the errors that say so are excused. -/
def ExcusesText (excused : Error → Prop) (u : Text.Surrogates) (text : String) : Prop :=
  ¬ u.Writable text → ∀ fault, excused (.unwritable fault)

namespace Error.Ordinary

theorem foreseen : Foreseen (Error.Ordinary excused) where
  engine report := .inl (Error.isWorkflow_engine report)
  missing _ _ := .inl rfl
  state _ _ _ _ _ := .inl rfl
  argument _ := .inl rfl

theorem binds {i : Int} (h : Binds excused i) : Binds (Error.Ordinary excused) i :=
  fun unfit => .inr (h unfit)

/-- What has a UTF-8 form if the given text has one is covered with it. -/
theorem bindsText {text part : String} (h : ExcusesText excused u text)
    (part_of : u.Writable text → u.Writable part) : BindsText (Error.Ordinary excused) u part := by
  intro fault some
  refine .inr (h (fun writable => ?_) fault)
  cases (part_of writable).symm.trans some

theorem bindsName {name key : String} (h : ExcusesText excused u name)
    (clean : Repository.cleanName name = .ok key) : BindsText (Error.Ordinary excused) u key :=
  bindsText h (Repository.writable_cleanName clean)

theorem bindsTitle {title : String} (h : ExcusesText excused u title) (cleaned : String)
    (clean : cleanTitle title = .ok cleaned) : BindsText (Error.Ordinary excused) u cleaned := by
  unfold cleanTitle at clean
  dsimp only at clean
  split at clean <;> cases clean
  exact bindsText h .strip

/-- The cleaned name of an actor is part of the name that was given. -/
theorem bindsActor {actor : Option String} {name : String}
    (h : ∀ given, actor = some given → ExcusesText excused u given)
    (clean : cleanActor actor = .ok name) : BindsText (Error.Ordinary excused) u name := by
  unfold cleanActor at clean
  dsimp only at clean
  split at clean
  · cases clean
  · next named =>
    cases clean
    cases actor with
    | none => exact absurd (by decide) named
    | some given => exact bindsText (h given rfl) .strip

end Error.Ordinary

open FailsWith Error.Ordinary

/-! ## Arguments -/

section Arguments

variable {α : Type} {x : Except Error α}

theorem Except.Refuses.isWorkflow (h : Except.Refuses x) (e : Error) (he : x = .error e) :
    e.isWorkflow = true := by
  obtain ⟨why, rfl⟩ := h e he
  rfl

theorem Except.Refuses.ordinary (h : Except.Refuses x) (e : Error) (he : x = .error e) :
    e.Ordinary excused :=
  .inl (Error.isWorkflow_classified (h.isWorkflow e he))

end Arguments

/-! ## Stores in use -/

namespace Store

theorem fits_of_le {i j : Int} (hi : 0 ≤ i) (hij : i ≤ j) (hj : fits j = true) :
    fits i = true := by
  unfold fits bound at hj ⊢
  rw [Bool.and_eq_true, decide_eq_true_eq, decide_eq_true_eq] at hj ⊢
  omega

/-- Every table has another id of 64 bits to give out. -/
structure Roomy (s : Store) : Prop where
  repos : fits s.repos.nextId = true
  issues : fits s.issues.nextId = true
  mergeRequests : fits s.mergeRequests.nextId = true

/-- A store that has come from an empty one and is not full. -/
structure Usable (u : Text.Surrogates) (s : Store) : Prop where
  wellFormed : s.WellFormed
  evolved : (Store.empty u).Evolves s
  room : s.Roomy

theorem Usable.surrogates (h : s.Usable u) : s.surrogates = u :=
  h.evolved.surrogates

theorem Usable.excuses (h : s.Usable u) {text : String} (excuses : ExcusesText excused u text) :
    ExcusesText excused s.surrogates text :=
  h.surrogates.symm ▸ excuses

/-- A table that has room had room before. -/
theorem Roomy.earlier {s' : Store} (h : s'.Roomy) (evolved : (Store.empty u).Evolves s)
    (he : s.Evolves s') : s.Roomy := by
  have first := evolved.repos.last_le
  have second := evolved.issues.last_le
  have third := evolved.mergeRequests.last_le
  have below {i j : Int} (hi : 0 ≤ i) (hij : i ≤ j) (hj : fits (j + 1) = true) :
      fits (i + 1) = true :=
    fits_of_le (by omega) (by omega) hj
  exact ⟨below first he.repos.last_le h.repos, below second he.issues.last_le h.issues,
    below third he.mergeRequests.last_le h.mergeRequests⟩

/-- The id of a repository that is there fits into 64 bits. -/
theorem Usable.fits_repository (h : s.Usable u) {r : Repository} (hr : r ∈ s.repos.rows) :
    fits r.id = true := by
  have positive : 0 ≤ r.id := by
    by_contra negative
    obtain ⟨r₀, hr₀, -⟩ := h.evolved.repos.old r hr (show r.id ≤ 0 by omega)
    exact absurd hr₀ List.not_mem_nil
  have last := h.wellFormed.repos.le_last r hr
  exact fits_of_le positive (show r.id ≤ s.repos.lastId + 1 by omega) h.room.repos

end Store

/-! ## Statements on stores in use -/

namespace Ticket

variable {ρ ε : Type} [Ticket ρ ε] [LawfulTicket ρ] {now repoId ident : Int}

/-- Every ticket of a well-formed store can be read. -/
theorem covers_table {P : Error → Prop} (hs : s.WellFormed) : Covers P (table (ρ := ρ) s).rows :=
  .of_readable (LawfulTicket.readable hs)

/-- A transition of the kind of the ticket leaves it readable, so it can be told. Of its texts, only
the name of the actor may have no UTF-8 form. -/
theorem ordinary_apply {name : String} {actor : Option String} (hrepo : fits repoId = true)
    (hid : Binds excused ident) (hs : s.WellFormed) (hnow : fits now = true)
    (hactor : ∀ given, actor = some given → BindsText (Error.Ordinary excused) s.surrogates given)
    (known : (Transition.named? (kind ρ) name).isSome = true) :
    (Lifecycle.apply ρ now repoId ident name actor : Transaction ε).Ordinary excused s := by
  obtain ⟨t, ht⟩ := Option.isSome_iff_exists.1 known
  unfold Lifecycle.apply
  rw [ht]
  have mem : t ∈ Transition.ofKind (kind ρ) := List.mem_of_find?_eq_some ht
  obtain ⟨source, target⟩ := Transition.writable_states mem s.surrogates
  refine failsWith_follow foreseen (.of_fits hrepo) (binds hid)
    (t.forall_assignments (.text (.of_writable target)) (.ofText? hactor) (.int (.of_fits hnow))
      (.of_bindable Cell.bindable_null)) (.of_writable source) fun asked n s₁ h => ?_
  have fitting := LawfulTicket.fitting mem now (.of_hasActor asked)
  obtain ⟨-, rfl⟩ := returns_guardedUpdate h
  exact covers_table (LawfulTicket.modified hs fitting.id fitting.read)

end Ticket

namespace Store

variable {now : Int} {name : String} (hname : ExcusesText excused s.surrogates name)

include hname

theorem ordinary_repositoryNamed : (repositoryNamed name).Ordinary excused s := by
  refine ofExcept_then (Repository.refuses_cleanName name).ordinary fun key clean =>
    useTable_then foreseen (bindCells_then (List.forall_mem_singleton.2 (.text
      (bindsName hname clean))) (view_then ?_))
  split
  · exact .pure _
  · exact .fail (.inl rfl)

theorem ordinary_createRepository {path : String} (hpath : ExcusesText excused s.surrogates path)
    (hnow : fits now = true) : (createRepository now name path).Ordinary excused s := by
  refine ensure_then (fun _ => .inl rfl) (ofExcept_then
    (Repository.refuses_cleanName name).ordinary fun key clean => useTable_then foreseen
      (bindCells_then ?_ (view_then (check_then foreseen (change_then (.pure _))))))
  exact List.forall_mem_cons.2 ⟨.text (bindsName hname clean), List.forall_mem_cons.2
    ⟨.text (bindsText hpath .strip), List.forall_mem_singleton.2 (.int (.of_fits hnow))⟩⟩

theorem ordinary_deleteRepository : (deleteRepository name).Ordinary excused s :=
  ofExcept_then (Repository.refuses_cleanName name).ordinary fun _ clean =>
    useTable_then foreseen (bindCells_then (List.forall_mem_singleton.2 (.text
      (bindsName hname clean))) (view_then (ensure_then (fun _ => .inl rfl) (.change _))))

omit hname in
theorem ordinary_listRepositories : listRepositories.Ordinary excused s :=
  useTable_then foreseen (view_then (.pure _))

end Store

end Forge
