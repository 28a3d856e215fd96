import Forge.Proofs.Dependency.Answers

/-!
# Which constraints transactions violate

The tables refuse rows that would break a constraint. Nearly every transaction has made sure of all
that its statements need before it changes a row, and so violates nothing (`Transaction.Sound`).
There are three that may: a repository is added whose name is taken, a dependency is added that is
there already, and a merge request is added to a repository that was found in another transaction.
For these it is said exactly when they violate what.
-/

namespace Forge

open Transaction Ticket

/-! ## One statement, and then the rest -/

namespace Transaction

variable {α β : Type} {t : Transaction α} {s : Store} {v : Violation}

/-- The transaction, run on the store, violates the constraint. -/
def Violates (t : Transaction α) (s : Store) (v : Violation) : Prop :=
  t.Fails s (.engine (.violated v))

/-- The transaction, run on the store, violates no constraint. -/
def Sound (s : Store) (t : Transaction α) : Prop :=
  ∀ v, ¬ t.Violates s v

@[simp] theorem violates_pure {a : α} : ¬ (pure a : Transaction α).Violates s v :=
  fails_pure

@[simp] theorem violates_fail {e : Error} :
    (fail e : Transaction α).Violates s v ↔ e = .engine (.violated v) :=
  fails_fail.trans eq_comm

@[simp] theorem violates_ensure {b : Bool} {e : Error} :
    (ensure b e).Violates s v ↔ b = false ∧ e = .engine (.violated v) :=
  fails_ensure.trans (and_congr_right' eq_comm)

/-- A transaction violates what its first part does, or what follows does after it has returned. -/
theorem violates_bind {k : α → Transaction β} :
    (t >>= k).Violates s v ↔ t.Violates s v ∨ ∃ a s₁, t.Returns s a s₁ ∧ (k a).Violates s₁ v :=
  fails_bind

/-- What comes after a transaction that violates nothing. -/
theorem Sound.violates_bind {k : α → Transaction β} (h : t.Sound s) :
    (t >>= k).Violates s v ↔ ∃ a s₁, t.Returns s a s₁ ∧ (k a).Violates s₁ v :=
  Transaction.violates_bind.trans (or_iff_right (h v))

/-- What follows has to be sound only after what the first part can return. -/
theorem Sound.bind {k : α → Transaction β} (h : t.Sound s)
    (hk : ∀ a s₁, t.Returns s a s₁ → (k a).Sound s₁) : (t >>= k).Sound s := by
  intro v hv
  obtain ⟨a, s₁, ha, hv⟩ := h.violates_bind.1 hv
  exact hk a s₁ ha v hv

/-- What comes before transactions that violate nothing. -/
theorem violates_then {k : α → Transaction β}
    (hk : ∀ a s₁, t.Returns s a s₁ → (k a).Sound s₁) : (t >>= k).Violates s v ↔ t.Violates s v :=
  violates_bind.trans (or_iff_left fun ⟨a, s₁, ha, hv⟩ => hk a s₁ ha v hv)

theorem Sound.map {f : α → β} (h : t.Sound s) : (f <$> t).Sound s :=
  fun v hv => h v (fails_map.1 hv)

section Then

variable {k : Unit → Transaction β}

@[simp] theorem violates_view_then {f : Store → α} {k : α → Transaction β} :
    (view f >>= k).Violates s v ↔ (k (f s)).Violates s v := by
  simp [Violates]

@[simp] theorem violates_whole_then {k : Store → Transaction β} :
    (whole >>= k).Violates s v ↔ (k s).Violates s v :=
  violates_view_then

@[simp] theorem violates_change_then {f : Store → Store} :
    (change f >>= k).Violates s v ↔ (k ()).Violates (f s) v := by
  simp [Violates, Unique.exists_iff]

@[simp] theorem violates_change {f : Store → Store} : ¬ (change f).Violates s v :=
  fails_change

@[simp] theorem violates_ensure_then {b : Bool} {e : Error} :
    (ensure b e >>= k).Violates s v ↔
      b = false ∧ e = .engine (.violated v) ∨ b = true ∧ (k ()).Violates s v := by
  simp [Violates, Unique.exists_iff, eq_comm]

/-- A check is the only step that violates anything, and it violates its own constraint. -/
@[simp] theorem violates_check_then {b : Bool} {v' : Violation} :
    (check b v' >>= k).Violates s v ↔ b = false ∧ v' = v ∨ b = true ∧ (k ()).Violates s v := by
  simp [check]

@[simp] theorem violates_bindAll_then {is : List Int} :
    (bindAll is >>= k).Violates s v ↔ (∀ i ∈ is, fits i = true) ∧ (k ()).Violates s v := by
  simp [bindAll]

/-- Constraints are looked at after all parameters have been bound. -/
@[simp] theorem violates_bindCells_then {cs : List Cell} :
    (bindCells cs >>= k).Violates s v ↔
      (∀ c ∈ cs, c.Bindable s.surrogates) ∧ (k ()).Violates s v := by
  have sound : (bindCells cs).Sound s := by
    intro v hv
    obtain ⟨c, -, refused⟩ := refused_of_fails_bindCells hv
    rcases Cell.refusal?_eq_some.1 refused with ⟨_, -, -, he⟩ | ⟨_, _, -, -, he⟩ <;> cases he
  simp [sound.violates_bind, Unique.exists_iff]

@[simp] theorem violates_useTable_then {name : TableName} :
    (useTable name >>= k).Violates s v ↔ name ∉ s.withdrawn ∧ (k ()).Violates s v := by
  have sound : (useTable name).Sound s := by
    intro v
    unfold useTable
    rw [violates_view_then]
    split <;> simp [refuse]
  simp [sound.violates_bind, Unique.exists_iff]

@[simp] theorem violates_useParent_then {name : TableName} :
    (useParent name >>= k).Violates s v ↔ name ∉ s.withdrawn ∧ (k ()).Violates s v := by
  have sound : (useParent name).Sound s := by
    intro v
    unfold useParent
    rw [violates_view_then]
    split <;> simp [refuse]
  simp [sound.violates_bind, Unique.exists_iff]

@[simp] theorem violates_required_then {table : TableName} {column : String} {a : α}
    {k : α → Transaction β} :
    (required table column (some a) >>= k).Violates s v ↔ (k a).Violates s v := by
  simp [required, Violates]

/-- A check of an argument violates nothing. -/
theorem violates_ofExcept_then {x : Except Error α} {k : α → Transaction β}
    (hx : Except.Refuses x) :
    (ofExcept x >>= k).Violates s v ↔ ∃ a, x = .ok a ∧ (k a).Violates s v := by
  have sound : (ofExcept x).Sound s := by
    intro v hv
    obtain ⟨why, hwhy⟩ := hx _ (fails_ofExcept.1 hv)
    cases hwhy
  simp [sound.violates_bind]

end Then

end Transaction

/-! ## Tickets -/

namespace Ticket

variable {ρ ε : Type} [Ticket ρ ε] {s : Store} {v : Violation} {now repoId ident : Int}

theorem sound_readRow (r : ρ) : (readRow r : Transaction ε).Sound s := by
  intro v
  unfold readRow
  split <;> simp

theorem sound_readRows (rs : List ρ) : (readRows rs : Transaction (List ε)).Sound s := by
  induction rs with
  | nil => exact fun v => violates_pure
  | cons r rs ih =>
    refine .bind (sound_readRow r) fun e s₁ he => ?_
    obtain ⟨-, rfl⟩ := returns_readRow.1 he
    exact ih.bind fun _ _ _ v => violates_pure

theorem sound_find? : (find? ρ repoId ident : Transaction (Option ε)).Sound s := by
  intro v
  simp only [find?, violates_useTable_then, violates_bindAll_then, violates_view_then]
  rintro ⟨-, -, hv⟩
  split at hv
  · exact (sound_readRow _).map v hv
  · exact violates_pure hv

theorem sound_get : (get ρ repoId ident : Transaction ε).Sound s := by
  refine sound_find?.bind fun o s₁ _ v => ?_
  cases o <;> simp

theorem sound_isThere : (isThere ρ repoId ident).Sound s := by
  simp [Sound, isThere]

theorem sound_listAll : (listAll ρ repoId : Transaction (List ε)).Sound s := by
  simp [Sound, listAll, sound_readRows _ _]

theorem sound_listInState {text : String} :
    (listInState ρ repoId text : Transaction (List ε)).Sound s := by
  simp [Sound, listInState, sound_readRows _ _]

theorem sound_delete : (delete ρ repoId ident).Sound s := by
  simp [Sound, delete]

/-- A change of rows that leaves required columns filled and the repository what it was. -/
theorem sound_updateWhere {p : ρ → Bool} {values : List (String × Cell)}
    (filled : ∀ r : ρ, emptied? values r = none)
    (kept : ∀ r : ρ, Ticket.repoId (setAll values r) = Ticket.repoId r) :
    (updateWhere p values).Sound s := by
  have accepted : (updateWhere p values).Returns s ((table s).count p)
      (setTable ((table s).modify p (setAll values)) s) := by
    refine returns_updateWhere.2 ⟨List.findSome?_eq_none_iff.2 fun r _ => filled r, ?_, rfl, rfl⟩
    refine List.all_eq_true.2 fun r _ => ?_
    rw [kept r, beq_self_eq_true, Bool.true_or]
  exact fun v hv => not_fails_of_returns accepted hv

/-- A guarded update is sound if it fills all columns that need a value and keeps the repository. -/
theorem sound_guardedUpdate {expected : String} {values : List (String × Cell)}
    (filled : ∀ r : ρ, emptied? values r = none)
    (kept : ∀ r : ρ, Ticket.repoId (setAll values r) = Ticket.repoId r) :
    (guardedUpdate ρ repoId ident expected values).Sound s := by
  have sound (s : Store) := sound_updateWhere (s := s)
    (p := fun r => isAt repoId ident r && state r == expected) filled kept
  intro v
  simp only [guardedUpdate, violates_ensure_then, violates_useTable_then, reduceCtorEq,
    Error.engine.injEq, and_false, false_or]
  rintro ⟨-, -, hv⟩
  split at hv
  · simp [refuse] at hv
  · split at hv <;> simp [sound _ _] at hv

/-- A new title and a new description fit the columns of every ticket. -/
theorem sound_update {title description : String}
    (filled : ∀ (title : String) (r : ρ), emptied? [("title", .text title),
      ("description", .text description), ("updated_at", .int now)] r = none)
    (kept : ∀ (title : String) (r : ρ), Ticket.repoId (setAll [("title", .text title),
      ("description", .text description), ("updated_at", .int now)] r) = Ticket.repoId r) :
    (update ρ now repoId ident title (some description)).Sound s := by
  intro v
  simp only [update, violates_ofExcept_then (refuses_cleanTitle title), violates_useTable_then,
    violates_bindCells_then]
  rintro ⟨cleaned, -, -, -, hv⟩
  refine (sound_updateWhere (filled cleaned) (kept cleaned)).bind (fun n s₁ _ v => ?_) v hv
  simp

variable [LawfulTicket ρ]

/-- So does what a transition writes in the name of an actor that it admits. -/
theorem sound_apply {name : String} {actor : Option String} :
    (Lifecycle.apply ρ now repoId ident name actor : Transaction ε).Sound s := by
  unfold Lifecycle.apply
  split
  · next t ht =>
    intro v
    simp only [Lifecycle.follow, violates_ensure_then, reduceCtorEq, and_false, false_or]
    rintro ⟨asked, hv⟩
    have fitting : t.Fitting ρ (t.assignments actor now) :=
      LawfulTicket.fitting (List.mem_of_find?_eq_some ht) now (.of_hasActor asked)
    refine (sound_guardedUpdate fitting.filled fitting.repoId).bind (fun n s₁ _ => ?_) v hv
    split
    · exact sound_get.bind fun _ _ _ v => by simp
    · exact sound_get
  · exact fun v => by simp

end Ticket

/-! ## Repositories, issues and dependencies -/

namespace Store

variable {s : Store} {v : Violation} {now repoId a b : Int} {name : String}

theorem sound_repositoryNamed : (repositoryNamed name).Sound s := by
  intro v
  simp only [repositoryNamed, violates_ofExcept_then (Repository.refuses_cleanName name),
    violates_useTable_then, violates_bindCells_then, violates_view_then]
  rintro ⟨key, -, -, -, hv⟩
  split at hv <;> simp at hv

/-- What is done with a repository that is found under a name. -/
theorem violates_repositoryNamed_then {α : Type} {k : Repository → Transaction α}
    (hs : s.WellFormed) : (repositoryNamed name >>= k).Violates s v ↔
      ∃ r ∈ s.repos.rows, Repository.cleanName name = .ok r.name ∧ (k r).Violates s v := by
  rw [sound_repositoryNamed.violates_bind]
  constructor
  · rintro ⟨r, s₁, hr, hv⟩
    obtain ⟨there, clean, rfl⟩ := found_of_returns hr
    exact ⟨r, there, clean, hv⟩
  · rintro ⟨r, hr, clean, hv⟩
    exact ⟨r, s, hs.named hr clean, hv⟩

theorem sound_listRepositories : listRepositories.Sound s := by
  simp [Sound, listRepositories]

theorem sound_deleteRepository : (deleteRepository name).Sound s := by
  simp [Sound, deleteRepository, violates_ofExcept_then (Repository.refuses_cleanName name)]

/-- An issue of a repository that is there refers to nothing that is missing. -/
theorem sound_createIssue {author title description : String}
    (there : s.hasRepository repoId = true) :
    (createIssue now repoId (some author) title (some description)).Sound s := by
  simp [Sound, createIssue, violates_ofExcept_then (refuses_cleanTitle title), there]

theorem sound_deleteIssue : (deleteIssue repoId a).Sound s :=
  sound_delete.bind fun _ _ _ v => by simp [removeDependencies]

theorem sound_requireIssue : (requireIssue repoId a).Sound s :=
  sound_isThere.bind fun _ _ _ v => by simp

theorem sound_removeDependency : (removeDependency repoId a b).Sound s :=
  sound_requireIssue.bind fun _ _ _ v => by simp [removeDependencies]

theorem sound_hasDependency : (hasDependency repoId a b).Sound s :=
  sound_requireIssue.bind fun _ _ _ v => by simp

theorem sound_dependenciesOf : (dependenciesOf repoId a).Sound s :=
  sound_requireIssue.bind fun _ _ _ v => by simp [sound_readRows _ _]

theorem sound_dependentsOf : (dependentsOf repoId a).Sound s :=
  sound_requireIssue.bind fun _ _ _ v => by simp [sound_readRows _ _]

/-! ## The three that may violate a constraint -/

theorem hasIssue_of_hasIssueAt (h : s.hasIssueAt repoId a = true) : s.hasIssue a = true :=
  (hasIssueAt_iff.1 h).hasIssue

section Exact

variable (hs : s.WellFormed) (hnow : fits now = true)

include hs

/-- An issue is required by its numbers, both of which are bound. -/
theorem returns_requireIssue_iff {u : Unit} {s' : Store} :
    (requireIssue repoId a).Returns s u s' ↔
      (fits repoId = true ∧ fits a = true) ∧ s.hasIssueAt repoId a = true ∧ s' = s := by
  constructor
  · intro h
    simp only [requireIssue, isThere, returns_bind, returns_useTable, returns_bindAll,
      returns_view, returns_pure, returns_ensure] at h
    obtain ⟨_, _, ⟨_, _, ⟨-, rfl⟩, _, _, ⟨narrow, rfl⟩, _, _, ⟨rfl, rfl⟩, rfl, rfl⟩, there,
      rfl⟩ := h
    exact ⟨⟨narrow _ (by simp), narrow _ (by simp)⟩, there, rfl⟩
  · rintro ⟨⟨hrepo, ha⟩, there, rfl⟩
    exact requireIssue_returns hs hrepo ha there

/-- What comes after an issue has been found. -/
theorem violates_requireIssue_then {α : Type} {k : Unit → Transaction α} :
    (requireIssue repoId a >>= k).Violates s v ↔
      (fits repoId = true ∧ fits a = true) ∧ s.hasIssueAt repoId a = true ∧
        (k ()).Violates s v := by
  simp only [sound_requireIssue.violates_bind, returns_requireIssue_iff hs]
  constructor
  · rintro ⟨_, _, ⟨narrow, there, rfl⟩, hv⟩
    exact ⟨narrow, there, hv⟩
  · rintro ⟨narrow, there, hv⟩
    exact ⟨(), s, ⟨narrow, there, rfl⟩, hv⟩

include hnow

/-- A repository is added under a name that is taken. A name that is stored has a UTF-8 form, so it
is the path alone that may have none. -/
theorem violates_createRepository {path : String} :
    (createRepository now name path).Violates s v ↔
      v = .repositoryName ∧ Text.strip path ≠ "" ∧ s.surrogates.Writable (Text.strip path) ∧
        ∃ r ∈ s.repos.rows, Repository.cleanName name = .ok r.name := by
  have bound (key : String) :
      (∀ c ∈ [.text key, .text (Text.strip path), .int now], Cell.Bindable s.surrogates c) ↔
        s.surrogates.Writable key ∧ s.surrogates.Writable (Text.strip path) := by
    simp [hnow]
  simp only [createRepository, violates_ensure_then, reduceCtorEq, and_false, false_or,
    violates_ofExcept_then (Repository.refuses_cleanName name), violates_useTable_then,
    violates_bindCells_then, violates_view_then, violates_check_then, violates_change_then,
    violates_pure, or_false, bne_iff_ne, bound, hs.not_withdrawn, not_false_eq_true, true_and,
    Bool.not_eq_false', Table.any, List.any_eq_true, beq_iff_eq]
  constructor
  · rintro ⟨located, key, clean, ⟨-, place⟩, ⟨r, hr, rfl⟩, rfl⟩
    exact ⟨rfl, located, place, r, hr, clean⟩
  · rintro ⟨rfl, located, place, r, hr, clean⟩
    exact ⟨located, r.name, clean, ⟨hs.writable r hr, place⟩, ⟨r, hr, rfl⟩, rfl⟩

/-- A row of two issues that are there is added a second time. -/
theorem violates_insertDependency (distinct : a ≠ b) (first : s.hasIssue a = true)
    (second : s.hasIssue b = true) :
    (insertDependency now (some a) (some b)).Violates s v ↔
      v = .dependencyPair ∧ (fits a = true ∧ fits b = true) ∧
        s.dependencies.any (isEdge a b) = true := by
  have apart : (a != b) = true := bne_iff_ne.2 distinct
  have bound : (∀ i ∈ now :: (some a).toList ++ (some b).toList, fits i = true) ↔
      fits a = true ∧ fits b = true := by
    simp [hnow]
  simp only [insertDependency, violates_useTable_then, violates_useParent_then,
    violates_bindAll_then, violates_required_then, violates_check_then, violates_whole_then,
    violates_change_then, violates_pure, hs.not_withdrawn, not_false_eq_true, true_and, bound,
    apart, first, second, Bool.and_self, Bool.true_eq_false, false_and, and_false, or_false,
    false_or, Bool.not_eq_false']
  constructor
  · rintro ⟨narrow, there, rfl⟩
    exact ⟨rfl, narrow, there⟩
  · rintro ⟨rfl, narrow, there⟩
    exact ⟨narrow, there, rfl⟩

/-- A dependency is added that is there. -/
theorem violates_addDependency :
    (addDependency now repoId a b).Violates s v ↔
      v = .dependencyPair ∧ (fits repoId = true ∧ fits a = true ∧ fits b = true) ∧
        s.hasIssueAt repoId a = true ∧ s.hasIssueAt repoId b = true ∧ a ≠ b ∧
        s.dependencies.any (isEdge a b) = true := by
  simp only [addDependency, violates_requireIssue_then hs, violates_ensure_then, reduceCtorEq,
    and_false, false_or, bne_iff_ne]
  constructor
  · rintro ⟨⟨hrepo, -⟩, first, -, second, distinct, hv⟩
    obtain ⟨rfl, ⟨ha, hb⟩, there⟩ := (violates_insertDependency hs hnow distinct
      (hasIssue_of_hasIssueAt first) (hasIssue_of_hasIssueAt second)).1 hv
    exact ⟨rfl, ⟨hrepo, ha, hb⟩, first, second, distinct, there⟩
  · rintro ⟨rfl, ⟨hrepo, ha, hb⟩, first, second, distinct, there⟩
    exact ⟨⟨hrepo, ha⟩, first, ⟨hrepo, hb⟩, second, distinct,
      (violates_insertDependency hs hnow distinct (hasIssue_of_hasIssueAt first)
        (hasIssue_of_hasIssueAt second)).2 ⟨rfl, ⟨ha, hb⟩, there⟩⟩

/-- A merge request is added to a repository that is not there. Its texts are bound before the
reference is looked at. -/
theorem violates_createMergeRequest {author title description source target : String} :
    (createMergeRequest now repoId (some author) title (some description) (some source)
      (some target)).Violates s v ↔
      v = .foreignKey ∧ fits repoId = true ∧ s.hasRepository repoId = false ∧
        ∃ cleaned, cleanTitle title = .ok cleaned ∧
          ∀ t ∈ [cleaned, description, source, target, author], s.surrogates.Writable t := by
  have bound (cleaned : String) : (∀ c ∈ [.int repoId, .text cleaned, .ofText? (some description),
      .ofText? (some source), .ofText? (some target), .ofText? (some author), .int now],
        Cell.Bindable s.surrogates c) ↔ fits repoId = true ∧
      ∀ t ∈ [cleaned, description, source, target, author], s.surrogates.Writable t := by
    simp [hnow]
  simp only [createMergeRequest, violates_ofExcept_then (refuses_cleanTitle title),
    violates_useTable_then, violates_useParent_then, violates_required_then, violates_whole_then,
    violates_bindCells_then, violates_check_then, violates_change_then, violates_pure, and_false,
    or_false, hs.not_withdrawn, not_false_eq_true, true_and, bound]
  constructor
  · rintro ⟨cleaned, clean, ⟨narrow, texts⟩, gone, rfl⟩
    exact ⟨rfl, narrow, gone, cleaned, clean, texts⟩
  · rintro ⟨rfl, narrow, gone, cleaned, clean, texts⟩
    exact ⟨cleaned, clean, ⟨narrow, texts⟩, gone, rfl⟩

end Exact

end Store

end Forge
