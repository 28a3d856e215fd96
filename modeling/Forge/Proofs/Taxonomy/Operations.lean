import Forge.Proofs.Taxonomy.Failure

/-!
# Which errors operations end with

In surroundings whose stores are usable (`Terms.accounted`), an operation ends with a failure of the
workflow, unless one of the numbers that it was given has more than 64 bits, one of the texts has no
UTF-8 form, or the surroundings have refused a request with the error (`Error.Accounted`). Nothing
else escapes.
-/

namespace Forge

open Transaction Forge.Action Error.Ordinary

variable {τ : Type}

/-! ## Terms -/

/-- The surroundings have refused the request with the error: a transaction before its first
statement, a call on a working tree, or a lock or the file of one. -/
def Request.RefusedWith : {β : Type} → Request τ β → β → Error → Prop
  | _, .transact _ _ _, b, e => b = .error e ∧ e.isOpening = true
  | _, .tree _, b, e => b = .error e
  | _, .takeLock _ _, b, e => b = .error e
  | _, .takeFile _ _, b, e => b = .error e
  | _, _, _, _ => False

/-- Everything may be asked. Stores are usable, and what requests are refused with has been met. -/
def Terms.accounted (u : Text.Surrogates) (met : Error → Prop) : Terms τ Unit where
  may _ _ := True
  answers r _ b _ := ∃ s s', s.Usable u ∧ Reply (fun _ => True) r b s s' ∧
    ∀ e, r.RefusedWith b e → met e

/-- What can be said of an error: it is a failure of the workflow, or excused, or one that has been
met. -/
def Error.Accounted (excused met : Error → Prop) (e : Error) : Prop :=
  e.isWorkflow = true ∨ excused e ∨ met e

section Accounted

variable {excused excused' met : Error → Prop} {e : Error}

/-- What is accounted for stays so under weaker excuses. -/
theorem Error.Accounted.mono (h : e.Accounted excused met) (weaker : excused e → excused' e) :
    e.Accounted excused' met :=
  h.imp_right (.imp_left weaker)

/-- To put an error into its class does not hide where it is from. -/
theorem Error.Accounted.classified (h : e.Accounted excused met) :
    e.classified.Accounted excused met := by
  rcases e.classified_cases with workflow | same
  · exact .inl workflow
  · rwa [same]

/-- What an ordinary transaction has failed with is accounted for once it is classified. -/
theorem Error.accounted_of_ordinary (h : e.Ordinary excused) :
    e.classified.Accounted excused met := by
  rcases h with workflow | excuse
  · exact .inl workflow
  · exact Error.Accounted.classified (.inr (.inl excuse))

end Accounted

namespace Action

variable {α β : Type} {u : Text.Surrogates} {excused met : Error → Prop} {err : Error → Prop}
  {ok : α → Prop} {ok' : β → Prop}

/-- The action ends in a value of which `ok` holds or in an error that `err` accounts for. -/
def Accounts (u : Text.Surrogates) (met err : Error → Prop) (ok : α → Prop) (x : Action τ α) :
    Prop :=
  x.Obeys (Terms.accounted u met) (fun a _ => ok a) (fun e _ => err e) ()

/-- What it ends in is accounted for as it is. -/
abbrev Ends (u : Text.Surrogates) (excused met : Error → Prop) (ok : α → Prop) (x : Action τ α) :
    Prop :=
  x.Accounts u met (Error.Accounted excused met) ok

/-- What it ends in is accounted for once it is classified. -/
abbrev EndsRaw (u : Text.Surrogates) (excused met : Error → Prop) (ok : α → Prop)
    (x : Action τ α) : Prop :=
  x.Accounts u met (fun e => e.classified.Accounted excused met) ok

theorem accounts_pure {a : α} (h : ok a) : (pure a : Action τ α).Accounts u met err ok :=
  obeys_pure.2 h

theorem accounts_throw {e : Error} (h : err e) : (throw e : Action τ α).Accounts u met err ok :=
  obeys_throw.2 h

theorem Accounts.mono {okay : α → Prop} {x : Action τ α} (h : x.Accounts u met err ok)
    (hok : ∀ a, ok a → okay a) : x.Accounts u met err okay :=
  Action.Obeys.mono h (fun a _ => hok a) fun _ _ h => h

/-- An action whose errors are in their classes may be taken for one whose errors are not. -/
theorem Accounts.raw {x : Action τ α} (h : x.Ends u excused met ok) : x.EndsRaw u excused met ok :=
  Action.Obeys.mono h (fun _ _ h => h) fun _ _ h => h.classified

/-- Two parts account for their errors if each of them does, the second for all values of the first.
-/
theorem accounts_bind {x : Action τ α} {k : α → Action τ β} (hx : x.Accounts u met err ok)
    (hk : ∀ a, ok a → (k a).Accounts u met err ok') : (x >>= k).Accounts u met err ok' :=
  obeys_bind.2 (Action.Obeys.mono hx (fun a _ ha => hk a ha) fun _ _ h => h)

theorem accounts_map {x : Action τ α} {f : α → β} (hx : x.Accounts u met err fun _ => True) :
    (f <$> x).Accounts u met err fun _ => True :=
  obeys_map.2 hx

theorem accounts_ask (r : Request τ α) : (ask r).Accounts u met err fun _ => True :=
  obeys_ask.2 ⟨trivial, fun _ _ _ => trivial⟩

theorem accounts_log (level : Level) (part : Part) (text : String) :
    (log level part text : Action τ Unit).Accounts u met err fun _ => True :=
  accounts_ask _

theorem accounts_clock : (clock : Action τ τ).Accounts u met err fun _ => True :=
  accounts_ask _

theorem accounts_logTransition (kind : Kind) (id : Int) (name : String) (repoId : Int)
    (actor : Option String) :
    (Merge.logTransition kind id name repoId actor : Action τ Unit).Accounts u met err
      fun _ => True := by
  unfold Merge.logTransition
  split
  · exact accounts_log _ _ _
  · exact accounts_pure trivial

/-- What is refused as an argument is an error of the workflow. -/
theorem ends_ofExcept {x : Except Error α} (h : Except.Refuses x) :
    (ofExcept x : Action τ α).Ends u excused met fun a => x = .ok a := by
  refine obeys_ofExcept.2 ?_
  cases x with
  | ok a => rfl
  | error e => exact .inl (h.isWorkflow e rfl)

/-- A request that fails only if it is refused ends in an error that has been met. -/
theorem ends_demand {r : Request τ (Except Error α)}
    (h : ∀ b e, b = .error e → r.RefusedWith b e) :
    (demand r : Action τ α).Ends u excused met fun _ => True := by
  refine obeys_demand.2 ⟨trivial, ?_⟩
  rintro b _ ⟨s, s', -, -, refusals⟩
  cases b with
  | ok a => trivial
  | error e => exact .inr (.inr (refusals e (h _ e rfl)))

/-- A working tree refuses with errors that are noted as met. -/
theorem ends_tree (call : TreeCall τ α) :
    (demand (.tree call) : Action τ α).Ends u excused met fun _ => True :=
  ends_demand fun _ _ refused => refused

theorem ends_takeLock (repoId : Int) (limit : Option τ) :
    (demand (.takeLock repoId limit) : Action τ Bool).Ends u excused met fun _ => True :=
  ends_demand fun _ _ refused => refused

theorem ends_takeFile (repoId : Int) (deadline : Option τ) :
    (demand (.takeFile repoId deadline) : Action τ Bool).Ends u excused met fun _ => True :=
  ends_demand fun _ _ refused => refused

/-- An answer of which `ok` holds, or an error that a transaction can end with. -/
def OfTransaction (excused met : Error → Prop) (ok : α → Prop) : Except Error α → Prop
  | .ok a => ok a
  | .error e => e.classified.Accounted excused met

/-- A transaction accounts for its errors if they are ordinary ones in every store that can be used.
-/
theorem accounts_transact {write : Bool} {limit : Option τ} {body : Int → Transaction α}
    (h : ∀ now s, fits now = true → s.Usable u → (body now).Ordinary excused s)
    (hok : ∀ now a s s', s.Usable u → (body now).Returns s a s' → ok a) :
    (attempt (.transact write limit body)).Accounts u met err
      (OfTransaction excused met ok) := by
  refine obeys_attempt.2 ⟨trivial, ?_⟩
  rintro b _ ⟨s, s', hs, reply, refusals⟩
  rcases reply.transact with
    ⟨⟨e, rfl, ⟨report, rfl⟩ | ⟨opening, -⟩⟩, -⟩ | ⟨now, hnow, ⟨a, rfl, ha⟩ | ⟨e, rfl, -, he⟩⟩
  · exact .inl (Error.isWorkflow_engine report)
  · exact Error.Accounted.classified (.inr (.inr (refusals e ⟨rfl, opening⟩)))
  · exact hok now a s s' hs ha
  · exact Error.accounted_of_ordinary (h now s hnow hs e he)

/-- A transaction whose failure is not looked at ends in it as it is. -/
theorem raw_transact {write : Bool} {limit : Option τ} {body : Int → Transaction α}
    (h : ∀ now s, fits now = true → s.Usable u → (body now).Ordinary excused s)
    (hok : ∀ now a s s', s.Usable u → (body now).Returns s a s' → ok a) :
    (demand (.transact write limit body)).EndsRaw u excused met ok := by
  refine obeys_demand.2 ⟨trivial, fun b _ answer => ?_⟩
  have attempted : (attempt (.transact write limit body)).Accounts u met (fun _ => False)
      (OfTransaction excused met ok) := accounts_transact h hok
  have hb : OfTransaction excused met ok b := (obeys_attempt.1 attempted).2 b () answer
  cases b with
  | ok a => exact hb
  | error e => exact hb

end Action

/-! ## Sessions -/

namespace Workflow

variable {α : Type} {u : Text.Surrogates} {excused met : Error → Prop} {ok : α → Prop}

/-- A session puts the failures of the engine into classes, so that ordinary ones remain. -/
theorem ends_session {write : Bool} {body : Int → Transaction α}
    (h : ∀ now s, fits now = true → s.Usable u → (body now).Ordinary excused s)
    (hok : ∀ now a s s', s.Usable u → (body now).Returns s a s' → ok a) :
    (session write body : Action τ α).Ends u excused met ok := by
  refine accounts_bind (accounts_transact h hok) fun b hb => ?_
  cases b with
  | ok a => exact accounts_pure hb
  | error e => exact accounts_throw hb

section Named

variable {repo : String} (hname : ExcusesText excused u repo)

include hname

/-- The repository that is found has an id that fits. -/
theorem ends_sessionOn {write : Bool} {body : Int → Repository → Transaction α}
    (h : ∀ now r s, fits now = true → fits r.id = true → s.Usable u →
      (body now r).Ordinary excused s) :
    (sessionOn write repo body : Action τ α).Ends u excused met fun _ => True := by
  refine ends_session (fun now s hnow hs => ?_) fun _ _ _ _ _ _ => trivial
  refine .bind (Store.ordinary_repositoryNamed (hs.excuses hname)) fun r s₁ hr => ?_
  obtain ⟨there, -, rfl⟩ := Store.found_of_returns hr
  exact h now r s₁ hnow (hs.fits_repository there) hs

/-- A repository that is found has a number of 64 bits, since there is room in its table. -/
theorem ends_repository :
    (repository repo : Action τ Repository).Ends u excused met fun r => fits r.id = true := by
  refine ends_session (fun _ _ _ hs => Store.ordinary_repositoryNamed (hs.excuses hname))
    fun _ r s s' hs hr => ?_
  obtain ⟨there, -, rfl⟩ := Store.found_of_returns hr
  exact hs.fits_repository there

section Tickets

variable {ρ ε : Type} [Ticket ρ ε] [LawfulTicket ρ] {id : Int}

theorem ends_tickets : (tickets ρ repo : Action τ (List ε)).Ends u excused met fun _ => True :=
  ends_sessionOn hname fun _ _ _ _ hrepo hs =>
    Ticket.failsWith_listAll foreseen (.of_fits hrepo) (Ticket.covers_table hs.wellFormed)

/-- The text of a state that is asked for has a UTF-8 form, as all states have. -/
theorem ends_ticketsIn {state : String} (plain : u.Writable state) :
    (ticketsIn ρ repo state : Action τ (List ε)).Ends u excused met fun _ => True :=
  ends_sessionOn hname fun _ _ _ _ hrepo hs =>
    Ticket.failsWith_listInState foreseen (.of_fits hrepo) (Ticket.covers_table hs.wellFormed)
      (.of_writable (hs.surrogates.symm ▸ plain))

variable (hid : Binds excused id)

include hid

theorem ends_ticket : (ticket ρ repo id : Action τ ε).Ends u excused met fun _ => True :=
  ends_sessionOn hname fun _ _ _ _ hrepo hs =>
    Ticket.failsWith_get foreseen (.of_fits hrepo) (binds hid) (Ticket.covers_table hs.wellFormed)

/-- A transition fails ordinarily if its name is known and its actor excused. -/
theorem ends_followTransition {name : String} {actor : Option String}
    (hactor : ∀ given, actor = some given → BindsText (Error.Ordinary excused) u given)
    (known : (Transition.named? (Ticket.kind ρ) name).isSome = true) :
    (followTransition ρ repo id name actor : Action τ ε).Ends u excused met fun _ => True := by
  refine accounts_bind (ends_sessionOn hname fun now r s hnow hrepo hs => .bind
    (Ticket.ordinary_apply hrepo hid hs.wellFormed hnow (hs.surrogates.symm ▸ hactor) known)
      fun _ _ _ => .pure _) fun p _ =>
    accounts_bind (accounts_logTransition _ _ _ _ _) fun _ _ => accounts_pure trivial

/-- The texts of an update may be refused, its numbers and its ticket as well. -/
theorem ends_updateTicket {title : String} {description : Option String}
    (htitle : ExcusesText excused u title)
    (hdescription : ∀ t, description = some t → ExcusesText excused u t)
    (effect : ∀ now repoId v s s',
      (Ticket.update ρ now repoId id title description).Returns s v s' →
        TicketEffect now repoId s s') :
    (updateTicket ρ repo id title description : Action τ ε).Ends u excused met fun _ => True := by
  refine ends_sessionOn hname fun now r s hnow hrepo hs => .bind
    (Ticket.failsWith_update ρ foreseen (.of_fits hrepo) (binds hid) (.of_fits hnow)
      (bindsTitle (hs.excuses htitle))
      fun t ht => bindsText (hs.excuses (hdescription t ht)) fun h => h)
    fun v s' hv => ?_
  exact Ticket.failsWith_get foreseen (.of_fits hrepo) (binds hid)
    (Ticket.covers_table ((effect now r.id v s s' hv).wellFormed hs.wellFormed))

theorem ends_closeTicket {actor : Option String}
    (hactor : ∀ given, actor = some given → ExcusesText excused u given)
    (known : (Transition.named? (Ticket.kind ρ) "close").isSome = true) :
    (closeTicket ρ repo id actor : Action τ ε).Ends u excused met fun _ => True := by
  refine accounts_bind (ends_ofExcept (refuses_cleanActor actor)) fun closer clean =>
    ends_followTransition hname hid ?_ known
  rintro _ ⟨⟩
  exact bindsActor hactor clean

end Tickets

/-! ### Repositories, issues and lists -/

theorem ends_registerRepository {path : String} (hpath : ExcusesText excused u path) :
    (registerRepository repo path : Action τ Repository).Ends u excused met fun _ => True := by
  refine accounts_bind (ends_session (fun now s hnow hs => .bind
    (Store.ordinary_createRepository (hs.excuses hname) (hs.excuses hpath) hnow)
      fun _ s₁ hc => .bind ?_ fun _ _ _ => .pure _) fun _ _ _ _ _ _ => trivial)
    fun p _ => ?_
  · have same : s₁.surrogates = u :=
      (Store.effect_of_createRepository hc).evolves.surrogates.trans hs.surrogates
    exact Store.ordinary_repositoryNamed (same.symm ▸ hname)
  · exact accounts_bind (accounts_log _ _ _) fun _ _ => accounts_pure trivial

theorem ends_createIssue {actor : Option String} {title : String} {description : Option String}
    (hactor : ∀ given, actor = some given → ExcusesText excused u given)
    (htitle : ExcusesText excused u title)
    (hdescription : ∀ t, description = some t → ExcusesText excused u t) :
    (createIssue repo actor title description : Action τ Issue).Ends u excused met
      fun _ => True := by
  refine accounts_bind (ends_ofExcept (refuses_cleanActor actor)) fun author clean =>
    ends_sessionOn hname fun now r s hnow hrepo hs => .bind (Store.failsWith_createIssue foreseen
      (.of_fits hnow) (.of_fits hrepo) (bindsTitle (hs.excuses htitle))
      (fun t ht => bindsText (hs.excuses (hdescription t ht)) fun h => h) ?_) fun id s' hc => ?_
  · rintro _ ⟨⟩
    exact bindsActor (fun given hgiven => hs.excuses (hactor given hgiven)) clean
  · obtain ⟨-, rfl, -⟩ := Store.returns_createIssue hc
    have effect := Store.effect_of_createIssue hc
    exact Ticket.failsWith_get foreseen (.of_fits hrepo) (.of_fits hs.room.issues)
      (Ticket.covers_table (effect.wellFormed hs.wellFormed))

theorem ends_issuesIn (state : String) :
    (issuesIn repo state : Action τ (List Issue)).Ends u excused met fun _ => True :=
  accounts_bind (ends_ofExcept (IssueState.refuses_parse state)) fun wanted _ =>
    ends_ticketsIn hname (wanted.writable_text u)

theorem ends_mergeRequestsIn (state : String) :
    (mergeRequestsIn repo state : Action τ (List MergeRequest)).Ends u excused met
      fun _ => True :=
  accounts_bind (ends_ofExcept (MergeRequestState.refuses_parse state)) fun wanted _ =>
    ends_ticketsIn hname (wanted.writable_text u)

omit hname in
theorem ends_repositories :
    (repositories : Action τ (List Repository)).Ends u excused met fun _ => True :=
  ends_session (fun _ _ _ _ => Store.ordinary_listRepositories) fun _ _ _ _ _ _ => trivial

theorem ends_removeRepository :
    (removeRepository repo : Action τ Unit).Ends u excused met fun _ => True :=
  ends_session (fun _ _ _ hs => Store.ordinary_deleteRepository (hs.excuses hname))
    fun _ _ _ _ _ _ => trivial

section Deletions

variable {id : Int} (hid : Binds excused id)

include hid

theorem ends_deleteIssue :
    (deleteIssue repo id : Action τ Unit).Ends u excused met fun _ => True :=
  ends_sessionOn hname fun _ _ _ _ hrepo _ =>
    Store.failsWith_deleteIssue foreseen (.of_fits hrepo) (binds hid)

theorem ends_deleteMergeRequest :
    (deleteMergeRequest repo id : Action τ Unit).Ends u excused met fun _ => True :=
  ends_sessionOn hname fun _ _ _ _ hrepo _ =>
    Ticket.failsWith_delete StoredMergeRequest foreseen (.of_fits hrepo) (binds hid)

end Deletions

section Dependencies

variable {a b : Int} (ha : Binds excused a) (hb : Binds excused b)

include ha

theorem ends_dependenciesOf :
    (dependenciesOf repo a : Action τ (List Issue)).Ends u excused met fun _ => True :=
  ends_sessionOn hname fun _ _ _ _ hrepo hs => Store.failsWith_dependenciesOf foreseen
    (.of_fits hrepo) (binds ha) (Ticket.covers_table hs.wellFormed)

theorem ends_dependentsOf :
    (dependentsOf repo a : Action τ (List Issue)).Ends u excused met fun _ => True :=
  ends_sessionOn hname fun _ _ _ _ hrepo hs => Store.failsWith_dependentsOf foreseen
    (.of_fits hrepo) (binds ha) (Ticket.covers_table hs.wellFormed)

include hb

theorem ends_addDependency :
    (addDependency repo a b : Action τ Dependency).Ends u excused met fun _ => True := by
  refine accounts_bind (ends_sessionOn hname fun now r s hnow hrepo _ =>
    Store.failsWith_addDependency foreseen (.of_fits hrepo) (binds ha) (binds hb)
      (.of_fits hnow)) fun d _ => ?_
  exact accounts_bind (accounts_log _ _ _) fun _ _ => accounts_pure trivial

theorem ends_removeDependency :
    (removeDependency repo a b : Action τ Bool).Ends u excused met fun _ => True :=
  ends_sessionOn hname fun _ _ _ _ hrepo _ =>
    Store.failsWith_removeDependency foreseen (.of_fits hrepo) (binds ha) (binds hb)

theorem ends_hasDependency :
    (hasDependency repo a b : Action τ Bool).Ends u excused met fun _ => True :=
  ends_sessionOn hname fun _ _ _ _ hrepo _ =>
    Store.failsWith_hasDependency foreseen (.of_fits hrepo) (binds ha) (binds hb)

end Dependencies

/-! ### Creating a merge request -/

omit hname in
theorem ends_requireBranch (side : Side) (branch : String) :
    (requireBranch side branch : Action τ Unit).Ends u excused met fun _ => True := by
  refine accounts_bind (ends_tree _) fun there _ => ?_
  split
  · exact accounts_pure trivial
  · exact accounts_throw (.inl rfl)

/-- Of a new merge request all texts may be refused, its branches after the working tree knew them.
-/
theorem ends_createMergeRequest {actor : Option String} {title source target : String}
    {description : Option String}
    (hactor : ∀ given, actor = some given → ExcusesText excused u given)
    (htitle : ExcusesText excused u title) (hsource : ExcusesText excused u source)
    (htarget : ExcusesText excused u target)
    (hdescription : ∀ t, description = some t → ExcusesText excused u t) :
    (createMergeRequest repo actor title source target description :
      Action τ MergeRequest).Ends u excused met fun _ => True := by
  refine accounts_bind (ends_ofExcept (refuses_cleanActor actor)) fun author clean =>
    accounts_bind (ends_ofExcept (refuses_checkBranchName _ _)) fun _ _ =>
      accounts_bind (ends_ofExcept (refuses_checkBranchName _ _)) fun _ _ => ?_
  split
  · have fails : (throw (.invalidArgument .sameBranches) : Action τ PUnit).Ends u excused met
        fun _ => False := accounts_throw (.inl rfl)
    exact accounts_bind fails fun _ h => h.elim
  · refine accounts_bind (ends_repository hname) fun r hrepo =>
      accounts_bind (accounts_ask _) fun _ _ => accounts_bind (ends_requireBranch _ _) fun _ _ =>
        accounts_bind (ends_requireBranch _ _) fun _ _ => ?_
    refine ends_session (fun now s hnow hs => ?_) fun _ _ _ _ _ _ => trivial
    refine .bind (Store.failsWith_createMergeRequest foreseen (.of_fits hnow) (.of_fits hrepo)
      (bindsTitle (hs.excuses htitle))
      (fun t ht => bindsText (hs.excuses (hdescription t ht)) fun h => h) ?_ ?_ ?_)
      fun id s' hc => ?_
    · rintro _ ⟨⟩
      exact bindsActor (fun given hgiven => hs.excuses (hactor given hgiven)) clean
    · rintro _ ⟨⟩
      exact bindsText (hs.excuses hsource) .strip
    · rintro _ ⟨⟩
      exact bindsText (hs.excuses htarget) .strip
    · obtain ⟨-, rfl, -⟩ := Store.returns_createMergeRequest hc
      have effect := Store.effect_of_createMergeRequest hc
      exact Ticket.failsWith_get foreseen (.of_fits hrepo) (.of_fits hs.room.mergeRequests)
        (Ticket.covers_table (effect.wellFormed hs.wellFormed))

end Named

end Workflow

/-! ## Merging -/

namespace Merge

variable {u : Text.Surrogates} {excused met : Error → Prop}

/-- A merge that is not recorded is told as an error of the workflow. -/
theorem ends_unrecorded {α : Type} {ok : α → Prop} (repo : Repository) (request : MergeRequest)
    (commit reason : String) :
    (unrecorded repo request commit reason : Action τ α).Ends u excused met ok :=
  accounts_bind (accounts_log _ _ _) fun _ _ => accounts_throw (.inl rfl)

/-- What a call on a working tree has answered: a value, an error of the working tree, or another
one that has been met. -/
def OfTree {α : Type} (met : Error → Prop) (b : Except Error α) : Prop :=
  ∀ e, b = .error e → met e

/-- A refusal that is caught has been met all the same. -/
theorem accounts_attemptTree {α : Type} {err : Error → Prop} (call : TreeCall τ α) :
    (attempt (.tree call) : Action τ (Except Error α)).Accounts u met err (OfTree met) := by
  refine obeys_attempt.2 ⟨trivial, ?_⟩
  rintro b _ ⟨s, s', -, -, refusals⟩
  exact refusals

theorem ends_landed (request : MergeRequest) :
    (landed request : Action τ Bool).Ends u excused met fun _ => True := by
  refine accounts_bind (accounts_attemptTree _) fun b hb => ?_
  cases b with
  | ok there => exact accounts_pure trivial
  | error e =>
    dsimp only
    split
    · exact accounts_bind (accounts_log _ _ _) fun _ _ => accounts_pure trivial
    · exact accounts_throw (.inr (.inr (hb e rfl)))

theorem ends_abort (request : MergeRequest) :
    (abort request : Action τ Unit).Ends u excused met fun _ => True := by
  refine accounts_bind (accounts_attemptTree _) fun b hb => ?_
  cases b with
  | ok _ => exact accounts_pure trivial
  | error e =>
    dsimp only
    split
    · exact accounts_log _ _ _
    · exact accounts_throw (.inr (.inr (hb e rfl)))

variable [TimeScale τ]

theorem ends_remaining (deadline : Deadline τ) :
    (remaining deadline).Ends u excused met fun _ => True :=
  accounts_bind accounts_clock fun _ _ => accounts_pure trivial

/-- To merge fails as the working tree does, or as not recorded. -/
theorem ends_mergeBranches (repo : Repository) (request : MergeRequest) (actor : String)
    (deadline : Deadline τ) :
    (mergeBranches repo request actor deadline).Ends u excused met fun _ => True := by
  refine accounts_bind (accounts_log _ _ _) fun _ _ => accounts_bind (ends_remaining _) fun _ _ =>
    accounts_bind (ends_tree _) fun _ _ => accounts_bind (ends_remaining _) fun _ _ =>
    accounts_bind (ends_tree _) fun upToDate _ => accounts_bind (ends_remaining _) fun _ _ =>
    accounts_bind (accounts_attemptTree _) fun b hb => ?_
  cases b with
  | ok commit => exact accounts_pure trivial
  | error e =>
    have refused {α : Type} {ok : α → Prop} : (throw e : Action τ α).Ends u excused met ok :=
      accounts_throw (.inr (.inr (hb e rfl)))
    have finish (there : Bool) : (do
        if there then
          unrecorded repo request "" ("git reported a failure after merging: " ++ e.message)
        else
          abort request
          throw e : Action τ String).Ends u excused met fun _ => True := by
      cases there with
      | true => exact ends_unrecorded _ _ _ _
      | false => exact accounts_bind (ends_abort request) fun _ _ => refused
    dsimp only
    split
    · cases upToDate with
      | true =>
        have unasked : (pure false : Action τ Bool).Ends u excused met fun _ => True :=
          accounts_pure trivial
        exact accounts_bind unasked fun there _ => finish there
      | false => exact accounts_bind (ends_landed request) fun there _ => finish there
    · exact refused

section Steps

variable {repo : Repository} {id : Int} {actor commit : String} {deadline : Deadline τ}
  (hrepo : fits repo.id = true)
  (hactor : BindsText (Error.Ordinary excused) u actor)

include hrepo hactor

/-- To record may fail with an error that has no class yet, which the merge passes on. -/
theorem ends_record {request : MergeRequest} (hid : Binds excused request.id) :
    (record repo request actor commit deadline).EndsRaw u excused met fun _ => True := by
  refine accounts_bind accounts_clock fun now _ => ?_
  dsimp only
  split
  · exact (ends_unrecorded _ _ _ _).raw
  · refine accounts_bind (ends_remaining _).raw fun limit _ => ?_
    have marks : (attempt (.transact true limit fun now =>
        Lifecycle.apply StoredMergeRequest now repo.id request.id "merge" (some actor)) :
          Action τ (Except Error MergeRequest)).Accounts u met
        (fun e => e.classified.Accounted excused met)
        (OfTransaction excused met fun _ => True) := by
      refine accounts_transact (fun now s hnow hs =>
        Ticket.ordinary_apply hrepo hid hs.wellFormed hnow ?_ rfl) fun _ _ _ _ _ _ => trivial
      rintro _ ⟨⟩
      exact hs.surrogates.symm ▸ hactor
    refine accounts_bind marks fun b hb => ?_
    cases b with
    | ok merged =>
      exact accounts_bind (accounts_logTransition _ _ _ _ _) fun _ _ =>
        accounts_bind (accounts_log _ _ _) fun _ _ => accounts_pure trivial
    | error e =>
      cases e with
      | invalidState | notFound | engine => exact (ends_unrecorded _ _ _ _).raw
      | _ => exact accounts_throw hb

theorem ends_underLock (hid : Binds excused id) :
    (underLock repo id actor deadline).EndsRaw u excused met fun _ => True := by
  refine accounts_bind (ends_remaining _).raw fun limit _ => ?_
  have gets : (demand (.transact false limit fun _ => Ticket.get StoredMergeRequest repo.id id) :
      Action τ MergeRequest).EndsRaw u excused met fun request => request.id = id := by
    refine raw_transact (fun _ s _ hs => Ticket.failsWith_get foreseen (.of_fits hrepo) (binds hid)
      (Ticket.covers_table hs.wellFormed)) fun now request s s' _ hg => ?_
    obtain ⟨-, row, ident, reads⟩ := Store.id_of_get hg
    obtain ⟨_, -, rfl⟩ := Option.map_eq_some_iff.1 (show row.read? = some request from reads)
    exact ident
  refine accounts_bind gets fun request same => ?_
  subst same
  split
  · refine accounts_bind accounts_clock fun now _ => ?_
    split
    · exact accounts_throw (.inl rfl)
    · exact accounts_bind (ends_mergeBranches _ _ _ _).raw fun commit _ =>
        ends_record hrepo hactor hid
  · exact accounts_throw (.inl rfl)

end Steps

/-! ### Locks -/

section Hold

variable {directory : Option String} {repoId : Int} {body : Action τ MergeRequest}
  (hbody : body.EndsRaw u excused met fun _ => True)

include hbody

omit [TimeScale τ] in
/-- Giving a lock back changes nothing about what the body has ended in. -/
theorem raw_withCleanup (r : Request τ Unit) :
    (withCleanup body (Program.request r)).EndsRaw u excused met fun _ => True := by
  have kept {post : Prop} (h : post) :
      (Program.request r).Obeys (Terms.accounted u met) (fun _ _ => post) () :=
    Program.obeys_request.2 ⟨trivial, fun _ _ _ => h⟩
  exact obeys_withCleanup.2 (Action.Obeys.mono hbody (fun _ _ _ => kept trivial) fun _ _ => kept)

omit [TimeScale τ] in
theorem ends_holdFile {deadline : Option τ} :
    (WorkingTree.holdFile directory repoId deadline body).EndsRaw u excused met
      fun _ => True := by
  cases directory with
  | none => exact hbody
  | some dir =>
    refine accounts_bind (ends_takeFile _ _).raw fun taken _ => ?_
    cases taken with
    | false => exact accounts_throw (.inl rfl)
    | true => exact raw_withCleanup (accounts_bind (accounts_log _ _ _) fun _ _ => hbody) _

/-- What is done under the lock adds the errors of the lock and of its file to those of the body. -/
theorem ends_hold {limit : Option τ} :
    (WorkingTree.hold directory repoId limit body).EndsRaw u excused met fun _ => True := by
  refine accounts_bind accounts_clock fun now _ => ?_
  refine accounts_bind (ends_takeLock _ _).raw fun taken _ => ?_
  cases taken with
  | false => exact accounts_throw (.inl rfl)
  | true => exact raw_withCleanup (ends_holdFile hbody) _

end Hold

end Merge

/-- A merge fails ordinarily, or in a way that its arguments are excused for. -/
theorem Workflow.ends_merge [TimeScale τ] {u : Text.Surrogates} {excused met : Error → Prop}
    (policy : Policy τ) {name : String} {id : Int} {actor : Option String} (limit : Option τ)
    (hname : ExcusesText excused u name) (hid : Binds excused id)
    (hactor : ∀ given, actor = some given → ExcusesText excused u given) :
    (merge policy name id actor limit).Ends u excused met fun _ => True := by
  refine accounts_bind (ends_ofExcept (refuses_cleanActor actor)) fun merger clean =>
    accounts_bind (ends_repository hname) fun repo hrepo =>
      accounts_bind (accounts_ask _) fun _ _ => ?_
  have hrun : (Merge.run policy.lockDirectory policy.lockLimit repo id merger
      (limit <|> policy.mergeLimit)).EndsRaw u excused met fun _ => True :=
    accounts_bind accounts_clock fun _ _ => accounts_bind accounts_clock fun _ _ =>
      Merge.ends_hold (Merge.ends_underLock hrepo (bindsActor hactor clean) hid)
  exact obeys_bind.2 (obeys_lift.2 (Action.Obeys.mono hrun (fun m _ _ => obeys_pure.2 trivial)
    fun e _ h => obeys_throw.2 h))

/-! ## All operations -/

namespace Operation

open Workflow

/-- The numbers that an operation is given. -/
def numbers : Operation τ → List Int
  | .issue _ id | .updateIssue _ id .. | .deleteIssue _ id | .closeIssue _ id _
  | .reopenIssue _ id | .dependenciesOf _ id | .dependentsOf _ id | .mergeRequest _ id
  | .updateMergeRequest _ id .. | .deleteMergeRequest _ id | .closeMergeRequest _ id _
  | .reopenMergeRequest _ id | .merge _ id .. => [id]
  | .addDependency _ a b | .removeDependency _ a b | .hasDependency _ a b => [a, b]
  | _ => []

/-- One of the numbers has more than 64 bits. -/
def Wide (op : Operation τ) : Prop :=
  ∃ i ∈ op.numbers, fits i = false

/-- The texts that an operation is given, but for the names of states, which are only compared. -/
def texts : Operation τ → List String
  | .repositories => []
  | .registerRepository name path => [name, path]
  | .repository repo | .removeRepository repo | .issue repo _ | .issues repo | .issuesIn repo _
  | .deleteIssue repo _ | .reopenIssue repo _ | .addDependency repo _ _
  | .removeDependency repo _ _ | .hasDependency repo _ _ | .dependenciesOf repo _
  | .dependentsOf repo _ | .mergeRequest repo _ | .mergeRequests repo | .mergeRequestsIn repo _
  | .deleteMergeRequest repo _ | .reopenMergeRequest repo _ => [repo]
  | .closeIssue repo _ actor | .closeMergeRequest repo _ actor | .merge repo _ actor _ =>
    repo :: actor.toList
  | .updateIssue repo _ title description | .updateMergeRequest repo _ title description =>
    repo :: title :: description.toList
  | .createIssue repo actor title description =>
    repo :: title :: actor.toList ++ description.toList
  | .createMergeRequest repo actor title source target description =>
    repo :: title :: source :: target :: actor.toList ++ description.toList

/-- One of the texts has no UTF-8 form. -/
def Unwritable (u : Text.Surrogates) (op : Operation τ) : Prop :=
  ∃ text ∈ op.texts, ¬ u.Writable text

/-- The errors that an operation is excused for, because they come from a number or a text that it
was given. -/
def Excused (u : Text.Surrogates) (op : Operation τ) (e : Error) : Prop :=
  e = .integerTooWide ∧ op.Wide ∨ (∃ fault, e = .unwritable fault) ∧ op.Unwritable u

section Excused

variable {u : Text.Surrogates} {op : Operation τ}

theorem binds_of_mem {i : Int} (h : i ∈ op.numbers) : Binds (op.Excused u) i :=
  fun unfit => .inl ⟨rfl, i, h, unfit⟩

/-- The texts of an operation are those that it is excused for. -/
theorem excuses_of_mem {text : String} (h : text ∈ op.texts) : ExcusesText (op.Excused u) u text :=
  fun unwritable fault => .inr ⟨⟨fault, rfl⟩, text, h, unwritable⟩

end Excused

/-- **What an operation ends in**, whatever it is asked and wherever it fails. -/
theorem ends_action [TimeScale τ] (policy : Policy τ) (op : Operation τ) (u : Text.Surrogates)
    (met : Error → Prop) : (op.action policy).Ends u (op.Excused u) met fun _ => True := by
  have number {i : Int} (h : i ∈ op.numbers) : Binds (op.Excused u) i := binds_of_mem h
  have text {t : String} (h : t ∈ op.texts) : ExcusesText (op.Excused u) u t := excuses_of_mem h
  cases op with
  | registerRepository name path =>
    exact accounts_map (ends_registerRepository (text (.head _)) (text (.tail _ (.head _))))
  | repository name =>
    exact accounts_map ((ends_repository (text (.head _))).mono fun _ _ => trivial)
  | repositories => exact accounts_map ends_repositories
  | removeRepository name => exact accounts_map (ends_removeRepository (text (.head _)))
  | createIssue repo actor title description =>
    exact accounts_map (ends_createIssue (text (.head _))
      (fun _ h => text (by simp [texts, h])) (text (by simp [texts]))
      fun _ h => text (by simp [texts, h]))
  | issue repo id => exact accounts_map (ends_ticket (text (.head _)) (number (.head _)))
  | issues repo => exact accounts_map (ends_tickets (text (.head _)))
  | issuesIn repo state => exact accounts_map (ends_issuesIn (text (.head _)) state)
  | updateIssue repo id title description =>
    exact accounts_map (ends_updateTicket (text (.head _)) (number (.head _))
      (text (.tail _ (.head _))) (fun _ h => text (by simp [texts, h]))
      fun _ _ _ _ _ => Store.effect_of_updateIssue)
  | deleteIssue repo id => exact accounts_map (ends_deleteIssue (text (.head _)) (number (.head _)))
  | closeIssue repo id actor =>
    exact accounts_map (ends_closeTicket (text (.head _)) (number (.head _))
      (fun _ h => text (by simp [texts, h])) rfl)
  | reopenIssue repo id =>
    exact accounts_map (ends_followTransition (text (.head _)) (number (.head _)) nofun rfl)
  | addDependency repo a b =>
    exact accounts_map (ends_addDependency (text (.head _)) (number (.head _))
      (number (.tail _ (.head _))))
  | removeDependency repo a b =>
    exact accounts_map (ends_removeDependency (text (.head _)) (number (.head _))
      (number (.tail _ (.head _))))
  | hasDependency repo a b =>
    exact accounts_map (ends_hasDependency (text (.head _)) (number (.head _))
      (number (.tail _ (.head _))))
  | dependenciesOf repo a =>
    exact accounts_map (ends_dependenciesOf (text (.head _)) (number (.head _)))
  | dependentsOf repo a =>
    exact accounts_map (ends_dependentsOf (text (.head _)) (number (.head _)))
  | createMergeRequest repo actor title source target description =>
    exact accounts_map (ends_createMergeRequest (text (.head _))
      (fun _ h => text (by simp [texts, h])) (text (by simp [texts])) (text (by simp [texts]))
      (text (by simp [texts])) fun _ h => text (by simp [texts, h]))
  | mergeRequest repo id => exact accounts_map (ends_ticket (text (.head _)) (number (.head _)))
  | mergeRequests repo => exact accounts_map (ends_tickets (text (.head _)))
  | mergeRequestsIn repo state => exact accounts_map (ends_mergeRequestsIn (text (.head _)) state)
  | updateMergeRequest repo id title description =>
    exact accounts_map (ends_updateTicket (text (.head _)) (number (.head _))
      (text (.tail _ (.head _))) (fun _ h => text (by simp [texts, h]))
      fun _ _ _ _ _ => Store.effect_of_updateMergeRequest)
  | deleteMergeRequest repo id =>
    exact accounts_map (ends_deleteMergeRequest (text (.head _)) (number (.head _)))
  | closeMergeRequest repo id actor =>
    exact accounts_map (ends_closeTicket (text (.head _)) (number (.head _))
      (fun _ h => text (by simp [texts, h])) rfl)
  | reopenMergeRequest repo id =>
    exact accounts_map (ends_followTransition (text (.head _)) (number (.head _)) nofun rfl)
  | merge repo id actor limit =>
    exact accounts_map (ends_merge policy limit (text (.head _)) (number (.head _))
      fun _ h => text (by simp [texts, h]))

end Operation

end Forge
