import Forge.Proofs.Store.Effect

/-!
# How transactions fail

`Transaction.FailsWith P s t` says that what the transaction `t` fails with on the store `s` is of
the class `P`. The operations on the tickets of a repository that has been found fail with errors
that every class should have (`Foreseen`), unless a number has more than 64 bits, a text has no
UTF-8 form, a row cannot be read, or a transition is not known. They do not look for the repository
again, so they fail with something else than that it is not there: `TicketFailure` lists what they
can fail with at all.
-/

namespace Forge

/-- What a transaction on the tickets of a repository can fail with. -/
inductive TicketFailure : Error → Prop
  | engine (report : EngineError) : TicketFailure (.engine report)
  | tooWide : TicketFailure .integerTooWide
  | unwritable (fault : Text.EncodeFault) : TicketFailure (.unwritable fault)
  | missing (kind : Kind) (id : Int) : TicketFailure (.notFound (.ticket kind id))
  | state (verb : String) (kind : Kind) (id : Int) (current expected : String) :
      TicketFailure (.invalidState verb kind id current expected)
  | argument (why : Invalid) : TicketFailure (.invalidArgument why)
  | unreadable (kind : Kind) (text : String) : TicketFailure (.unreadableState kind text)
  | transition (kind : Kind) (name : String) : TicketFailure (.unknownTransition kind name)

/-! ## Arguments -/

/-- If the check fails, it does because of an argument. -/
def Except.Refuses {α : Type} (x : Except Error α) : Prop :=
  ∀ e, x = .error e → ∃ why, e = .invalidArgument why

/-- A name is refused as an argument that is not valid. -/
theorem Repository.refuses_cleanName (name : String) :
    Except.Refuses (Repository.cleanName name) := by
  intro e h
  unfold Repository.cleanName at h
  dsimp only at h
  split at h <;> cases h
  exact ⟨_, rfl⟩

/-- A title is refused as an argument, and in no other way. -/
theorem refuses_cleanTitle (title : String) : Except.Refuses (cleanTitle title) := by
  intro e h
  unfold cleanTitle at h
  dsimp only at h
  split at h <;> cases h
  exact ⟨_, rfl⟩

theorem refuses_cleanActor (actor : Option String) : Except.Refuses (cleanActor actor) := by
  intro e h
  unfold cleanActor at h
  dsimp only at h
  split at h <;> cases h
  exact ⟨_, rfl⟩

theorem IssueState.refuses_parse (text : String) : Except.Refuses (IssueState.parse text) := by
  intro e h
  unfold IssueState.parse at h
  split at h <;> cases h
  exact ⟨_, rfl⟩

theorem MergeRequestState.refuses_parse (text : String) :
    Except.Refuses (MergeRequestState.parse text) := by
  intro e h
  unfold MergeRequestState.parse at h
  split at h <;> cases h
  exact ⟨_, rfl⟩

/-- The names of states have UTF-8 forms. -/
theorem IssueState.writable_text (state : IssueState) (u : Text.Surrogates) :
    u.Writable state.text :=
  Text.Surrogates.writable_of_lt (by cases state <;> decide)

/-- The same for the states of merge requests, so that every list by state can ask for them. -/
theorem MergeRequestState.writable_text (state : MergeRequestState) (u : Text.Surrogates) :
    u.Writable state.text :=
  Text.Surrogates.writable_of_lt (by cases state <;> decide)

/-! ## Transactions -/

namespace Transaction

variable {α β : Type} {P : Error → Prop} {s : Store}

/-- What the transaction fails with on the store is of the class. -/
def FailsWith (P : Error → Prop) (s : Store) (t : Transaction α) : Prop :=
  ∀ e, t.Fails s e → P e

/-- If the transaction fails, it does as one on tickets can. -/
def FailsOnTickets (t : Transaction α) : Prop :=
  ∀ s e, t.Fails s e → TicketFailure e

/-- The class has the errors that operations on tickets can fail with whatever they are given. -/
structure Foreseen (P : Error → Prop) : Prop where
  engine (report : EngineError) : P (.engine report)
  missing (kind : Kind) (id : Int) : P (.notFound (.ticket kind id))
  state (verb : String) (kind : Kind) (id : Int) (current expected : String) :
    P (.invalidState verb kind id current expected)
  argument (why : Invalid) : P (.invalidArgument why)

/-- If the number is too wide for a statement, the class has the error that says so. -/
def Binds (P : Error → Prop) (i : Int) : Prop :=
  fits i = false → P .integerTooWide

/-- If the text has no UTF-8 form, the class has the error that says so. -/
def BindsText (P : Error → Prop) (u : Text.Surrogates) (text : String) : Prop :=
  ∀ fault, u.fault? text = some fault → P (.unwritable fault)

/-- If the engine does not take the parameter, the class has the error that says why. -/
def BindsCell (P : Error → Prop) (u : Text.Surrogates) (c : Cell) : Prop :=
  ∀ e, c.refusal? u = some e → P e

/-- A number of 64 bits needs no excuse. -/
theorem Binds.of_fits {i : Int} (h : fits i = true) : Binds P i :=
  fun unfit => absurd (h.symm.trans unfit) nofun

/-- A text with a UTF-8 form needs no excuse. -/
theorem BindsText.of_writable {u : Text.Surrogates} {text : String} (h : u.Writable text) :
    BindsText P u text := by
  intro fault some
  cases h.symm.trans some

namespace BindsCell

variable {u : Text.Surrogates}

theorem of_bindable {c : Cell} (h : c.Bindable u) : BindsCell P u c := by
  intro e some
  cases h.symm.trans some

theorem int {i : Int} (h : Binds P i) : BindsCell P u (.int i) := by
  intro e refused
  obtain ⟨_, same, unfit, rfl⟩ | ⟨_, _, same, -⟩ := Cell.refusal?_eq_some.1 refused
  · cases same
    exact h unfit
  · cases same

theorem text {t : String} (h : BindsText P u t) : BindsCell P u (.text t) := by
  intro e refused
  obtain ⟨_, same, -⟩ | ⟨_, fault, same, some, rfl⟩ := Cell.refusal?_eq_some.1 refused
  · cases same
  · cases same
    exact h fault some

/-- A text that may be missing needs an excuse only where it is there. -/
theorem ofText? {o : Option String} (h : ∀ t, o = some t → BindsText P u t) :
    BindsCell P u (Cell.ofText? o) := by
  cases o with
  | none => exact of_bindable Cell.bindable_null
  | some t => exact text (h t rfl)

end BindsCell

/-- The class has what the engine says about either of two numbers that are too wide. -/
theorem binds_pair {i j : Int} (hi : Binds P i) (hj : Binds P j) : ∀ k ∈ [i, j], Binds P k :=
  List.forall_mem_cons.2 ⟨hi, List.forall_mem_singleton.2 hj⟩

namespace FailsWith

theorem pure (a : α) : (pure a : Transaction α).FailsWith P s :=
  fun _ h => absurd h fails_pure

/-- What fails at once fails with an error that must be of the class. -/
theorem fail {e : Error} (h : P e) : (fail e : Transaction α).FailsWith P s :=
  fun _ he => fails_fail.1 he ▸ h

theorem change (f : Store → Store) : (change f).FailsWith P s :=
  fun _ h => absurd h fails_change

/-- A check fails with its own error. -/
theorem ensure {b : Bool} {e : Error} (he : b = false → P e) : (ensure b e).FailsWith P s := by
  intro e' h
  obtain ⟨hb, rfl⟩ := fails_ensure.1 h
  exact he hb

/-- One transaction after another fails as the first does, or as the second does on the store that
the first leaves. -/
theorem bind {t : Transaction α} {k : α → Transaction β} (ht : t.FailsWith P s)
    (hk : ∀ a s₁, t.Returns s a s₁ → (k a).FailsWith P s₁) : (t >>= k).FailsWith P s := by
  intro e h
  rcases fails_bind.1 h with h | ⟨a, s₁, ha, h⟩
  · exact ht e h
  · exact hk a s₁ ha e h

theorem map {t : Transaction α} {f : α → β} (ht : t.FailsWith P s) :
    (f <$> t).FailsWith P s :=
  fun e h => ht e (fails_map.1 h)

/-! ### One statement, and then the rest -/

section Then

variable {k : Unit → Transaction β}

/-- What follows a look at the store knows what was seen. -/
theorem view_then {f : Store → α} {k : α → Transaction β} (hk : (k (f s)).FailsWith P s) :
    (view f >>= k).FailsWith P s := by
  refine bind (fun _ h => absurd h fails_view) fun a s₁ h => ?_
  obtain ⟨rfl, rfl⟩ := returns_view.1 h
  exact hk

theorem whole_then {k : Store → Transaction β} (hk : (k s).FailsWith P s) :
    (whole >>= k).FailsWith P s :=
  view_then hk

/-- What follows a change fails on the changed store. -/
theorem change_then {f : Store → Store} (hk : (k ()).FailsWith P (f s)) :
    (Transaction.change f >>= k).FailsWith P s := by
  refine bind (change f) fun _ s₁ h => ?_
  obtain rfl := returns_change.1 h
  exact hk

/-- What follows a check fails with its errors only where the check is passed. -/
theorem ensure_then {b : Bool} {e : Error} (he : b = false → P e)
    (hk : (k ()).FailsWith P s) : (Transaction.ensure b e >>= k).FailsWith P s := by
  refine bind (ensure he) fun _ s₁ h => ?_
  obtain ⟨-, rfl⟩ := returns_ensure.1 h
  exact hk

/-- Numbers that are bound may each be refused before anything else is done. -/
theorem bindAll_then {is : List Int} (hbinds : ∀ i ∈ is, Binds P i)
    (hk : (k ()).FailsWith P s) : (bindAll is >>= k).FailsWith P s := by
  refine bind (fun e h => ?_) fun _ s₁ h => ?_
  · obtain ⟨⟨i, hi, unfit⟩, rfl⟩ := fails_bindAll.1 h
    exact hbinds i hi unfit
  · obtain ⟨-, rfl⟩ := returns_bindAll.1 h
    exact hk

/-- Where parameters are bound, one that the engine does not take ends the transaction. -/
theorem bindCells_then {cs : List Cell} (hbinds : ∀ c ∈ cs, BindsCell P s.surrogates c)
    (hk : (k ()).FailsWith P s) : (bindCells cs >>= k).FailsWith P s := by
  refine bind (fun e h => ?_) fun _ s₁ h => ?_
  · obtain ⟨c, hc, refused⟩ := refused_of_fails_bindCells h
    exact hbinds c hc e refused
  · obtain ⟨-, rfl⟩ := returns_bindCells.1 h
    exact hk

/-- What an argument is checked for, and then the rest with the value that the check gives. -/
theorem ofExcept_then {x : Except Error α} {k : α → Transaction β}
    (hx : ∀ e, x = .error e → P e) (hk : ∀ a, x = .ok a → (k a).FailsWith P s) :
    (ofExcept x >>= k).FailsWith P s := by
  refine bind (fun e h => hx e (fails_ofExcept.1 h)) fun a s₁ h => ?_
  obtain ⟨ok, rfl⟩ := returns_ofExcept.1 h
  exact hk a ok

variable (hP : Foreseen P)

include hP

/-- A report of the engine is among the failures that are foreseen. -/
theorem refuse (report : EngineError) : (refuse report : Transaction α).FailsWith P s :=
  fail (hP.engine report)

/-- Only the engine makes a statement of this kind fail. -/
theorem of_engine {t : Transaction α} (h : ∀ e, t.Fails s e → ∃ report, e = .engine report) :
    t.FailsWith P s := by
  intro e he
  obtain ⟨report, rfl⟩ := h e he
  exact hP.engine report

/-- A violated constraint is a report of the engine, so that a check adds no other failure. -/
theorem check_then {b : Bool} {v : Violation} (hk : (k ()).FailsWith P s) :
    (check b v >>= k).FailsWith P s :=
  ensure_then (fun _ => hP.engine _) hk

/-- A table that has been withdrawn is reported by the engine. -/
theorem useTable_then {name : TableName} (hk : (k ()).FailsWith P s) :
    (useTable name >>= k).FailsWith P s := by
  refine bind (of_engine hP fun _ => engine_of_fails_useTable) fun _ s₁ h => ?_
  obtain ⟨-, rfl⟩ := returns_useTable.1 h
  exact hk

theorem useParent_then {name : TableName} (hk : (k ()).FailsWith P s) :
    (useParent name >>= k).FailsWith P s := by
  refine bind (of_engine hP fun _ => engine_of_fails_useParent) fun _ s₁ h => ?_
  obtain ⟨-, rfl⟩ := returns_useParent.1 h
  exact hk

/-- A required column without a value is reported by the engine. -/
theorem required_then {table : TableName} {column : String} {x : Option α}
    {k : α → Transaction β} (hk : ∀ a, (k a).FailsWith P s) :
    (required table column x >>= k).FailsWith P s := by
  cases x with
  | some a =>
    refine bind (pure a) fun b s₁ h => ?_
    obtain ⟨-, rfl⟩ := returns_pure.1 h
    exact hk b
  | none => exact bind (refuse hP _) fun _ _ h => absurd h returns_refuse

/-- A title is checked, and then comes the rest with the title without the blanks around it. -/
theorem cleanTitle_then {title : String} {k : String → Transaction β}
    (hk : ∀ cleaned, cleanTitle title = .ok cleaned → (k cleaned).FailsWith P s) :
    (ofExcept (cleanTitle title) >>= k).FailsWith P s := by
  refine ofExcept_then (fun e he => ?_) hk
  obtain ⟨why, rfl⟩ := refuses_cleanTitle title e he
  exact hP.argument why

end Then

end FailsWith

end Transaction

open Transaction FailsWith

variable {P : Error → Prop} {s : Store} {now repoId : Int}

/-! ## Tickets -/

namespace Ticket

variable {ρ ε : Type} [Ticket ρ ε] {ident : Int}

/-- If one of the rows cannot be read, the class has the error that says so. -/
def Covers (P : Error → Prop) (rows : List ρ) : Prop :=
  ∀ r ∈ rows, read? r = none → P (.unreadableState (kind ρ) (state r))

/-- Rows that can all be read need no excuse. -/
theorem Covers.of_readable {rows : List ρ} (h : ∀ r ∈ rows, read? r ≠ none) : Covers P rows :=
  fun r hr unreadable => absurd unreadable (h r hr)

/-- A row is read, or the class has the error for it. -/
theorem failsWith_readRow {r : ρ} (h : read? r = none → P (.unreadableState (kind ρ) (state r))) :
    (readRow r : Transaction ε).FailsWith P s := by
  intro e he
  obtain ⟨hr, rfl⟩ := fails_readRow.1 he
  exact h hr

/-- A list of rows fails only by one that cannot be read. -/
theorem failsWith_readRows {rs : List ρ} (h : Covers P rs) :
    (readRows rs : Transaction (List ε)).FailsWith P s := by
  induction rs with
  | nil => exact .pure []
  | cons r rs ih =>
    refine .bind (failsWith_readRow (h r List.mem_cons_self)) fun e s₁ he => ?_
    obtain ⟨-, rfl⟩ := returns_readRow.1 he
    exact .bind (ih fun r' hr' => h r' (List.mem_cons_of_mem r hr')) fun _ _ _ => .pure _

/-- The rows of a list are among those of the table. -/
theorem failsWith_newest {rows : List ρ} {p : ρ → Bool} (h : Covers P rows) :
    (readRows (newestFirst (rows.filter p)) : Transaction (List ε)).FailsWith P s :=
  failsWith_readRows fun r hr => h r (List.mem_of_mem_filter (List.mem_mergeSort.1 hr))

variable (hP : Foreseen P) (hrepo : Binds P repoId)

include hP hrepo

section Lists

variable (rows : Covers P (table (ρ := ρ) s).rows)

include rows

theorem failsWith_listAll : (listAll ρ repoId : Transaction (List ε)).FailsWith P s :=
  useTable_then hP (bindAll_then (List.forall_mem_singleton.2 hrepo)
    (view_then (failsWith_newest rows)))

/-- The text is bound as it is, whether or not it names a state. -/
theorem failsWith_listInState {text : String} (htext : BindsText P s.surrogates text) :
    (listInState ρ repoId text : Transaction (List ε)).FailsWith P s :=
  useTable_then hP (bindCells_then
    (List.forall_mem_cons.2 ⟨.int hrepo, List.forall_mem_singleton.2 (.text htext)⟩)
    (view_then (failsWith_newest rows)))

end Lists

variable (hid : Binds P ident)

include hid

variable (ρ) in
/-- Whether a ticket is there is answered without reading its row. -/
theorem failsWith_isThere : (isThere ρ repoId ident).FailsWith P s :=
  useTable_then hP (bindAll_then (binds_pair hrepo hid) (view_then (.pure _)))

variable (ρ) in
/-- A ticket is removed after a look for it, and the look says when it is not there. -/
theorem failsWith_delete : (delete ρ repoId ident).FailsWith P s :=
  useTable_then hP (useParent_then hP (bindAll_then (binds_pair hrepo hid)
    (view_then (ensure_then (fun _ => hP.missing _ _) (.change _)))))

variable (ρ) in
/-- An edit binds the new texts before it looks for the ticket. -/
theorem failsWith_update {title : String} {description : Option String} (hnow : Binds P now)
    (htitle : ∀ cleaned, cleanTitle title = .ok cleaned → BindsText P s.surrogates cleaned)
    (hdescription : ∀ t, description = some t → BindsText P s.surrogates t) :
    (update ρ now repoId ident title description).FailsWith P s := by
  refine cleanTitle_then hP fun cleaned ok => useTable_then hP (bindCells_then ?_
    (.bind (of_engine hP fun _ => fails_updateWhere) fun _ _ _ => ensure fun _ => hP.missing _ _))
  exact List.forall_mem_cons.2 ⟨.text (htitle cleaned ok), List.forall_mem_cons.2
    ⟨.ofText? hdescription, List.forall_mem_cons.2 ⟨.int hnow, List.forall_mem_cons.2
      ⟨.int hrepo, List.forall_mem_singleton.2 (.int hid)⟩⟩⟩⟩

/-- A guarded update binds its values, the two ids and the expected state. -/
theorem failsWith_guardedUpdate {expected : String} {values : List (String × Cell)}
    (hvalues : ∀ v ∈ values, BindsCell P s.surrogates v.2)
    (hexpected : BindsText P s.surrogates expected) :
    (guardedUpdate ρ repoId ident expected values).FailsWith P s := by
  have rest : (do
      bindCells (guardedParameters repoId ident expected values)
      updateWhere (ρ := ρ) (fun r => isAt repoId ident r && state r == expected)
        values).FailsWith P s := by
    refine bindCells_then (List.forall_mem_append.2 ⟨List.forall_mem_map.2 hvalues, ?_⟩)
      (of_engine hP fun _ => fails_updateWhere)
    exact List.forall_mem_cons.2 ⟨.int hrepo, List.forall_mem_cons.2
      ⟨.int hid, List.forall_mem_singleton.2 (.text hexpected)⟩⟩
  refine ensure_then (fun _ => hP.engine _) (useTable_then hP ?_)
  split
  · exact refuse hP _
  · split
    · exact useParent_then hP rest
    · exact rest

section Find

variable (rows : Covers P (table (ρ := ρ) s).rows)

include rows

theorem failsWith_find? : (find? ρ repoId ident : Transaction (Option ε)).FailsWith P s := by
  refine useTable_then hP (bindAll_then (binds_pair hrepo hid) (view_then ?_))
  split
  · rename_i r hr
    exact .map (failsWith_readRow (rows r (List.mem_of_find?_eq_some hr)))
  · exact .pure none

/-- A ticket is got, or it is not there, or its row cannot be read. -/
theorem failsWith_get : (get ρ repoId ident : Transaction ε).FailsWith P s := by
  refine .bind (failsWith_find? hP hrepo hid rows) fun o s₁ _ => ?_
  cases o with
  | some e => exact .pure e
  | none => exact .fail (hP.missing _ _)

end Find

/-- A transition reads the ticket that it has changed. -/
theorem failsWith_follow {t : Transition} {actor : Option String}
    (hvalues : ∀ v ∈ t.assignments actor now, BindsCell P s.surrogates v.2)
    (hsource : BindsText P s.surrogates t.source)
    (rows : (t.stamps.isEmpty || Lifecycle.hasActor actor) = true → ∀ n s₁,
      (guardedUpdate ρ repoId ident t.source (t.assignments actor now)).Returns s n s₁ →
        Covers P (table (ρ := ρ) s₁).rows) :
    (Lifecycle.follow ρ t now repoId ident actor : Transaction ε).FailsWith P s := by
  refine .bind (ensure fun _ => hP.argument _) fun _ s₁ h => ?_
  obtain ⟨asked, rfl⟩ := returns_ensure.1 h
  refine .bind (failsWith_guardedUpdate hP hrepo hid hvalues hsource) fun n s₂ h => ?_
  have after : (get ρ repoId ident : Transaction ε).FailsWith P s₂ :=
    failsWith_get hP hrepo hid (rows asked n s₂ h)
  split
  · exact .bind after fun _ _ _ => .fail (hP.state _ _ _ _ _)
  · exact after

end Ticket

/-! ## Issues, dependencies and merge requests -/

namespace Store

variable {a b : Int} (hP : Foreseen P)

include hP

section Create

variable {author description : Option String} {title : String}
  (hnow : Binds P now) (hrepo : Binds P repoId)
  (htitle : ∀ cleaned, cleanTitle title = .ok cleaned → BindsText P s.surrogates cleaned)
  (hdescription : ∀ t, description = some t → BindsText P s.surrogates t)
  (hauthor : ∀ t, author = some t → BindsText P s.surrogates t)

include hnow hrepo htitle hdescription hauthor

/-- An issue is added after all its columns have been bound. -/
theorem failsWith_createIssue :
    (createIssue now repoId author title description).FailsWith P s := by
  refine cleanTitle_then hP fun cleaned ok => useTable_then hP (useParent_then hP
    (bindCells_then ?_ (required_then hP fun _ => required_then hP fun _ =>
      whole_then (check_then hP (change_then (.pure _))))))
  exact List.forall_mem_cons.2 ⟨.int hrepo, List.forall_mem_cons.2 ⟨.text (htitle cleaned ok),
    List.forall_mem_cons.2 ⟨.ofText? hdescription, List.forall_mem_cons.2
      ⟨.ofText? hauthor, List.forall_mem_singleton.2 (.int hnow)⟩⟩⟩⟩

/-- A merge request is added after all its columns have been bound, the branches among them. -/
theorem failsWith_createMergeRequest {source target : Option String}
    (hsource : ∀ t, source = some t → BindsText P s.surrogates t)
    (htarget : ∀ t, target = some t → BindsText P s.surrogates t) :
    (createMergeRequest now repoId author title description source target).FailsWith P s := by
  refine cleanTitle_then hP fun cleaned ok => useTable_then hP (useParent_then hP
    (bindCells_then ?_ (required_then hP fun _ => required_then hP fun _ =>
      required_then hP fun _ => required_then hP fun _ =>
        whole_then (check_then hP (change_then (.pure _))))))
  exact List.forall_mem_cons.2 ⟨.int hrepo, List.forall_mem_cons.2 ⟨.text (htitle cleaned ok),
    List.forall_mem_cons.2 ⟨.ofText? hdescription, List.forall_mem_cons.2
      ⟨.ofText? hsource, List.forall_mem_cons.2 ⟨.ofText? htarget, List.forall_mem_cons.2
        ⟨.ofText? hauthor, List.forall_mem_singleton.2 (.int hnow)⟩⟩⟩⟩⟩⟩

end Create

variable (hrepo : Binds P repoId) (ha : Binds P a)

include hrepo ha

/-- The dependencies of an issue go after it, and only the engine can object. -/
theorem failsWith_deleteIssue : (deleteIssue repoId a).FailsWith P s :=
  .bind (Ticket.failsWith_delete StoredIssue hP hrepo ha) fun _ _ _ =>
    useTable_then hP (useParent_then hP (.change _))

/-- What comes after the look for an issue. -/
theorem requireIssue_then {α : Type} {k : Unit → Transaction α} (hk : (k ()).FailsWith P s) :
    (requireIssue repoId a >>= k).FailsWith P s := by
  have requires : (requireIssue repoId a).FailsWith P s :=
    .bind (Ticket.failsWith_isThere StoredIssue hP hrepo ha) fun _ _ _ =>
      ensure fun _ => hP.missing _ _
  refine .bind requires fun _ s₁ h => ?_
  obtain ⟨rfl, -⟩ := returns_requireIssue h
  exact hk

section Joined

variable (rows : Ticket.Covers P s.issues.rows)

include rows

omit hP hrepo ha in
/-- The issues at the far ends of dependencies are rows of the table. -/
theorem failsWith_joined {p : StoredDependency → Bool} {far : StoredDependency → Int} :
    (Ticket.readRows (Ticket.newestFirst (s.joined repoId p far)) :
      Transaction (List Issue)).FailsWith P s := by
  refine Ticket.failsWith_readRows fun r hr => ?_
  obtain ⟨d, -, hr⟩ := List.mem_flatMap.1 (List.mem_mergeSort.1 hr)
  exact rows r (List.mem_of_mem_filter hr)

theorem failsWith_dependenciesOf : (dependenciesOf repoId a).FailsWith P s :=
  requireIssue_then hP hrepo ha (useTable_then hP (whole_then (failsWith_joined rows)))

theorem failsWith_dependentsOf : (dependentsOf repoId a).FailsWith P s :=
  requireIssue_then hP hrepo ha (useTable_then hP (whole_then (failsWith_joined rows)))

end Joined

variable (hb : Binds P b)

include hb

/-- Both issues are looked for before the engine is asked for the row. -/
theorem failsWith_addDependency (hnow : Binds P now) :
    (addDependency now repoId a b).FailsWith P s :=
  requireIssue_then hP hrepo ha (requireIssue_then hP hrepo hb (ensure_then
    (fun _ => hP.argument _) (useTable_then hP (useParent_then hP (bindAll_then
      (List.forall_mem_cons.2 ⟨hnow, binds_pair ha hb⟩)
      (required_then hP fun _ => required_then hP fun _ => check_then hP (whole_then
        (check_then hP (check_then hP (change_then (.pure _)))))))))))

/-- The issue that depends is looked for before a dependency is taken out. -/
theorem failsWith_removeDependency : (removeDependency repoId a b).FailsWith P s :=
  requireIssue_then hP hrepo ha (useTable_then hP (useParent_then hP
    (bindAll_then (binds_pair ha hb) (view_then (change_then (.pure _))))))

theorem failsWith_hasDependency : (hasDependency repoId a b).FailsWith P s :=
  requireIssue_then hP hrepo ha (useTable_then hP
    (bindAll_then (binds_pair ha hb) (view_then (.pure _))))

end Store

/-! ## Whatever is given -/

namespace TicketFailure

/-- The failures of operations on tickets have all that are foreseen among them. -/
theorem foreseen : Foreseen TicketFailure :=
  ⟨.engine, .missing, .state, .argument⟩

theorem binds (i : Int) : Binds TicketFailure i :=
  fun _ => .tooWide

theorem bindsText (u : Text.Surrogates) (text : String) : BindsText TicketFailure u text :=
  fun _ _ => .unwritable _

theorem bindsCell (u : Text.Surrogates) (c : Cell) : BindsCell TicketFailure u c := by
  intro e refused
  obtain ⟨_, -, -, rfl⟩ | ⟨_, fault, -, -, rfl⟩ := Cell.refusal?_eq_some.1 refused
  · exact .tooWide
  · exact .unwritable fault

/-- So have they the one for a row that cannot be read. -/
theorem covers {ρ ε : Type} [Ticket ρ ε] (rows : List ρ) : Ticket.Covers TicketFailure rows :=
  fun _ _ _ => .unreadable _ _

end TicketFailure

open TicketFailure

namespace Transaction.FailsOnTickets

variable {α β : Type}

theorem pure (a : α) : (pure a : Transaction α).FailsOnTickets :=
  fun _ => FailsWith.pure a

theorem bind {t : Transaction α} {k : α → Transaction β} (ht : t.FailsOnTickets)
    (hk : ∀ a, (k a).FailsOnTickets) : (t >>= k).FailsOnTickets :=
  fun s => FailsWith.bind (ht s) fun a s₁ _ => hk a s₁

end Transaction.FailsOnTickets

namespace Ticket

variable {ρ ε : Type} [Ticket ρ ε]

/-- Whatever is asked for, a ticket is got or the failure is one of tickets. -/
theorem failsOn_get (repoId id : Int) : (get ρ repoId id : Transaction ε).FailsOnTickets :=
  fun _ => failsWith_get foreseen (binds _) (binds _) (covers _)

/-- A transition by its name fails like one on tickets, or because there is none of this name. -/
theorem failsOn_apply (now repoId id : Int) (name : String) (actor : Option String) :
    (Lifecycle.apply ρ now repoId id name actor : Transaction ε).FailsOnTickets := by
  intro s
  unfold Lifecycle.apply
  split
  · exact failsWith_follow foreseen (binds _) (binds _) (fun _ _ => bindsCell _ _)
      (bindsText _ _) fun _ _ _ _ => covers _
  · exact FailsWith.fail (.transition _ _)

end Ticket

end Forge
