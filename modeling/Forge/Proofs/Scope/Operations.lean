import Forge.Proofs.Merge.Course
import Forge.Proofs.Scope.Basic

/-!
# Each operation acts on its repository

The tickets of a repository are looked up, changed and listed in one transaction, whose body is
`OnTickets`; a merge takes more requests than that, all of them of its repository. The main result
is `Operation.actsOn`: an operation that is called with a text by which a repository is found acts
on that repository.
-/

namespace Forge

open Transaction Forge.Action TicketFailure

variable {τ : Type} {r : Repository} {s : Store}

/-! ## Transactions on tickets -/

namespace Transaction

variable {α β : Type} {now repoId : Int} {ok : α → Prop} {t : Transaction α}

/-- A transaction that does nothing but to the tickets of a repository, and returns a value with
`ok`. -/
structure OnTickets (now repoId : Int) (ok : α → Prop) (t : Transaction α) : Prop where
  effect : ∀ s a s', t.Returns s a s' → TicketEffect now repoId s s'
  result : ∀ s a s', t.Returns s a s' → ok a
  fails : t.FailsOnTickets

namespace OnTickets

/-- A transaction that only reads. -/
theorem reading (h : ∀ s a s', t.Returns s a s' → s' = s)
    (result : ∀ s a s', t.Returns s a s' → ok a) (fails : t.FailsOnTickets) :
    t.OnTickets now repoId ok :=
  ⟨fun s a s' ha => h s a s' ha ▸ .nothing, result, fails⟩

/-- A transaction of which only the effect matters. -/
theorem changing (effect : ∀ s a s', t.Returns s a s' → TicketEffect now repoId s s')
    (fails : t.FailsOnTickets) : t.OnTickets now repoId fun _ => True :=
  ⟨effect, fun _ _ _ _ => trivial, fails⟩

/-- What comes after a change only reads. -/
theorem bind {k : α → Transaction β} {ok' : β → Prop} (ht : t.OnTickets now repoId ok)
    (hk : ∀ a s b s', (k a).Returns s b s' → s' = s ∧ ok' b) (fails : ∀ a, (k a).FailsOnTickets) :
    (t >>= k).OnTickets now repoId ok' where
  effect s b s' h := by
    obtain ⟨a, s₁, ha, hb⟩ := returns_bind.1 h
    obtain ⟨rfl, -⟩ := hk a s₁ b s' hb
    exact ht.effect s a s' ha
  result s b s' h := by
    obtain ⟨a, s₁, -, hb⟩ := returns_bind.1 h
    exact (hk a s₁ b s' hb).2
  fails := .bind ht.fails fails

variable {ρ ε : Type} [Ticket ρ ε]

/-- A ticket that is got is of the repository that it was looked for in. -/
theorem get (id : Int) :
    (Ticket.get ρ repoId id : Transaction ε).OnTickets now repoId (Ticket.OfRepository ρ repoId) :=
  .reading (fun _ _ _ h => (Ticket.returns_get.1 h).2.2.2.1)
    (fun _ _ _ h => Ticket.ofRepository_get h) (Ticket.failsOn_get repoId id)

/-- A ticket that has been changed is got. -/
theorem thenGet {id : α → Int} (ht : t.OnTickets now repoId ok) :
    (t >>= fun a => Ticket.get ρ repoId (id a) : Transaction ε).OnTickets now repoId
      (Ticket.OfRepository ρ repoId) :=
  ht.bind (fun _ _ _ _ h => ⟨(Ticket.returns_get.1 h).2.2.2.1, Ticket.ofRepository_get h⟩)
    fun _ => Ticket.failsOn_get repoId _

end OnTickets

end Transaction

namespace Action

variable {α : Type} {ok : α → Prop} {write : Bool} {limit : Option τ} {body : Int → Transaction α}

/-- What a transaction on tickets writes stays in the repository. -/
theorem confined (h : ∀ now, (body now).OnTickets now r.id ok) (now : Int) (a : α) (s' : Store)
    (ha : (body now).Returns s a s') : s.ConfinedTo r.id s' ∧ ok a :=
  ⟨((h now).effect s a s' ha).confinedTo, (h now).result s a s' ha⟩

/-- It fails otherwise than by missing the repository. -/
theorem unmissed (h : ∀ now, (body now).OnTickets now r.id ok) (now : Int) (e : Error)
    (he : (body now).Fails s e) : e.missesRepository = false :=
  ((h now).fails s e he).missesRepository

end Action

namespace Workflow

variable {α : Type} {name : String} {ok : α → Prop}

/-! ## Looking a repository up -/

/-- So a session on tickets acts on the repository alone. -/
theorem actsOn_onTickets {write : Bool} {body : Int → Transaction α}
    (h : ∀ now, (body now).OnTickets now r.id ok) :
    (session write body : Action τ α).ActsOn r ok s :=
  actsOn_session (confined h) (unmissed h)

/-- A transaction on the tickets of the repository that is found. -/
theorem actsOn_sessionOn {write : Bool} {body : Int → Repository → Transaction α}
    (named : (Store.repositoryNamed name).Returns s r s)
    (h : ∀ now, (body now r).OnTickets now r.id ok) :
    (sessionOn write name body : Action τ α).ActsOn r ok s := by
  -- The look and the body are one transaction, so the body finds the store as it was looked at.
  unfold sessionOn
  refine actsOn_session (fun now a s' hr => ?_) fun now e he => ?_
  · simp only [returns_bind] at hr
    obtain ⟨r', s₁, hn, hr⟩ := hr
    obtain ⟨rfl, rfl⟩ := returns_unique named hn
    exact confined h now a s' hr
  · simp only [fails_bind] at he
    rcases he with hn | ⟨r', s₁, hn, he⟩
    · exact absurd hn (not_fails_of_returns named)
    · obtain ⟨rfl, rfl⟩ := returns_unique named hn
      exact unmissed h now e he

/-- A name that stands for a repository is found to stand for it. -/
theorem actsOn_repository (named : (Store.repositoryNamed name).Returns s r s) :
    (repository name : Action τ Repository).ActsOn r (· = r) s := by
  refine actsOn_session (fun now r' s' hr => ?_) fun now e he => ?_
  · obtain ⟨rfl, rfl⟩ := returns_unique named hr
    exact ⟨.refl .., rfl⟩
  · exact absurd he (not_fails_of_returns named)

/-- A name of an actor that is refused says nothing about the repository. -/
theorem actsOn_cleanActor {actor : Option String} {k : String → Action τ α}
    (hk : ∀ cleaned, Text.Trimmed cleaned → (k cleaned).ActsOn r ok s) :
    (Action.ofExcept (cleanActor actor) >>= k).ActsOn r ok s := by
  refine obeys_bind.2 (obeys_ofExcept.2 ?_)
  cases ha : cleanActor actor with
  | ok cleaned => exact hk cleaned (trimmed_of_cleanActor ha)
  | error e => exact (refuses_cleanActor actor).found e ha

/-! ## Tickets -/

section

variable {ρ ε : Type} [Ticket ρ ε]

theorem actsOn_ticket (named : (Store.repositoryNamed name).Returns s r s) (id : Int) :
    (ticket ρ name id : Action τ ε).ActsOn r (Ticket.OfRepository ρ r.id) s :=
  actsOn_sessionOn named fun _ => .get id

theorem actsOn_tickets (named : (Store.repositoryNamed name).Returns s r s) :
    (tickets ρ name : Action τ (List ε)).ActsOn r
      (fun es => ∀ e ∈ es, Ticket.OfRepository ρ r.id e) s :=
  actsOn_sessionOn named fun _ => .reading (fun _ _ _ h => Ticket.listAll_reads h)
    (fun _ _ _ h => Ticket.ofRepository_listAll h)
    fun _ => Ticket.failsWith_listAll foreseen (binds _) (covers _)

theorem actsOn_ticketsIn (named : (Store.repositoryNamed name).Returns s r s) (state : String) :
    (ticketsIn ρ name state : Action τ (List ε)).ActsOn r
      (fun es => ∀ e ∈ es, Ticket.OfRepository ρ r.id e) s :=
  actsOn_sessionOn named fun _ => .reading (fun _ _ _ h => Ticket.listInState_reads h)
    (fun _ _ _ h => Ticket.ofRepository_listInState h)
    fun _ => Ticket.failsWith_listInState foreseen (binds _) (covers _) (bindsText _ _)

theorem actsOn_updateTicket (named : (Store.repositoryNamed name).Returns s r s) {id : Int}
    {title : String} {description : Option String}
    (h : ∀ now u s s', (Ticket.update ρ now r.id id title description).Returns s u s' →
      TicketEffect now r.id s s') :
    (updateTicket ρ name id title description : Action τ ε).ActsOn r
      (Ticket.OfRepository ρ r.id) s := by
  refine actsOn_sessionOn named fun now => ?_
  have hupdate := OnTickets.changing (fun s u s' => h now u s s')
    fun _ => Ticket.failsWith_update ρ foreseen (binds _) (binds _) (binds now)
      (fun _ _ => bindsText _ _) fun _ _ => bindsText _ _
  exact hupdate.thenGet

/-- The log is outside of the store. -/
theorem actsOn_logTransition (kind : Kind) (id : Int) (verb : String) (repoId : Int)
    (actor : Option String) :
    (Merge.logTransition kind id verb repoId actor : Action τ Unit).ActsOn r (fun _ => True) s := by
  unfold Merge.logTransition
  split
  · exact actsOn_log ..
  · exact actsOn_pure trivial

/-- A ticket that is moved is of the repository, and so is the one that is answered. -/
theorem actsOn_followTransition (named : (Store.repositoryNamed name).Returns s r s) {id : Int}
    {verb : String} {actor : Option String}
    (h : ∀ now a s s', (Lifecycle.apply ρ now r.id id verb actor).Returns s a s' →
      TicketEffect now r.id s s') :
    (followTransition ρ name id verb actor : Action τ ε).ActsOn r
      (Ticket.OfRepository ρ r.id) s := by
  have followed (now : Int) : (do
      let e ← Lifecycle.apply ρ now r.id id verb actor
      pure (r.id, e) : Transaction (Int × ε)).OnTickets now r.id
        (fun p => Ticket.OfRepository ρ r.id p.2) := by
    have happly : (Lifecycle.apply ρ now r.id id verb actor).OnTickets now r.id
        (Ticket.OfRepository ρ r.id) :=
      ⟨fun s a s' => h now a s s', fun _ _ _ => Ticket.ofRepository_apply,
        Ticket.failsOn_apply now r.id id verb actor⟩
    refine ⟨fun s p s' hp => ?_, fun s p s' hp => ?_, .bind happly.fails fun _ => .pure _⟩
    · obtain ⟨a, s₁, ha, hp⟩ := returns_bind.1 hp
      obtain ⟨-, rfl⟩ := returns_pure.1 hp
      exact happly.effect s a _ ha
    · obtain ⟨a, s₁, ha, hp⟩ := returns_bind.1 hp
      obtain ⟨rfl, -⟩ := returns_pure.1 hp
      exact happly.result s a s₁ ha
  refine actsOn_bind (actsOn_sessionOn named followed) fun p s hp => ?_
  exact actsOn_bind (actsOn_logTransition ..) fun _ _ _ => actsOn_pure hp

theorem actsOn_closeTicket (named : (Store.repositoryNamed name).Returns s r s) {id : Int}
    {actor : Option String}
    (h : ∀ closer, Text.Trimmed closer → ∀ now a s s',
      (Lifecycle.apply ρ now r.id id "close" (some closer)).Returns s a s' →
        TicketEffect now r.id s s') :
    (closeTicket ρ name id actor : Action τ ε).ActsOn r (Ticket.OfRepository ρ r.id) s :=
  actsOn_cleanActor fun closer hcloser => actsOn_followTransition named (h closer hcloser)

end

/-! ## Issues, dependencies and removals -/

theorem actsOn_createIssue (named : (Store.repositoryNamed name).Returns s r s)
    {actor : Option String} {title : String} {description : Option String} :
    (createIssue name actor title description : Action τ Issue).ActsOn r
      (Ticket.OfRepository StoredIssue r.id) s := by
  refine actsOn_cleanActor fun author _ => actsOn_sessionOn named fun now => ?_
  exact .thenGet (.changing (fun _ _ _ => Store.effect_of_createIssue)
    fun _ => Store.failsWith_createIssue foreseen (binds now) (binds r.id)
      (fun _ _ => bindsText _ _) (fun _ _ => bindsText _ _) fun _ _ => bindsText _ _)

theorem actsOn_issuesIn (named : (Store.repositoryNamed name).Returns s r s) (state : String) :
    (issuesIn name state : Action τ (List Issue)).ActsOn r
      (fun is => ∀ i ∈ is, Ticket.OfRepository StoredIssue r.id i) s := by
  exact actsOn_ofExcept (IssueState.refuses_parse state).found fun wanted =>
    actsOn_ticketsIn named _

theorem actsOn_mergeRequestsIn (named : (Store.repositoryNamed name).Returns s r s)
    (state : String) : (mergeRequestsIn name state : Action τ (List MergeRequest)).ActsOn r
      (fun ms => ∀ m ∈ ms, Ticket.OfRepository StoredMergeRequest r.id m) s := by
  exact actsOn_ofExcept (MergeRequestState.refuses_parse state).found fun wanted =>
    actsOn_ticketsIn named _

theorem actsOn_deleteIssue (named : (Store.repositoryNamed name).Returns s r s) (id : Int) :
    (deleteIssue name id : Action τ Unit).ActsOn r (fun _ => True) s :=
  actsOn_sessionOn named fun _ => .changing (fun _ _ _ => Store.effect_of_deleteIssue)
    fun _ => Store.failsWith_deleteIssue foreseen (binds _) (binds _)

theorem actsOn_deleteMergeRequest (named : (Store.repositoryNamed name).Returns s r s)
    (id : Int) : (deleteMergeRequest name id : Action τ Unit).ActsOn r (fun _ => True) s :=
  actsOn_sessionOn named fun _ => .changing (fun _ _ _ => Store.effect_of_deleteMergeRequest)
    fun _ => Ticket.failsWith_delete StoredMergeRequest foreseen (binds _) (binds _)

theorem actsOn_addDependency (named : (Store.repositoryNamed name).Returns s r s) (a b : Int) :
    (addDependency name a b : Action τ Dependency).ActsOn r (fun _ => True) s := by
  have hadd (now : Int) :
      (Store.addDependency now r.id a b).OnTickets now r.id fun _ => True :=
    .changing (fun _ _ _ => Store.effect_of_addDependency)
      fun _ => Store.failsWith_addDependency foreseen (binds _) (binds _) (binds _) (binds _)
  refine actsOn_bind (actsOn_sessionOn named hadd) fun _ _ _ => ?_
  exact actsOn_bind (actsOn_log ..) fun _ _ _ => actsOn_pure trivial

theorem actsOn_removeDependency (named : (Store.repositoryNamed name).Returns s r s)
    (a b : Int) : (removeDependency name a b : Action τ Bool).ActsOn r (fun _ => True) s :=
  actsOn_sessionOn named fun _ => .changing (fun _ _ _ => Store.effect_of_removeDependency)
    fun _ => Store.failsWith_removeDependency foreseen (binds _) (binds _) (binds _)

theorem actsOn_hasDependency (named : (Store.repositoryNamed name).Returns s r s) (a b : Int) :
    (hasDependency name a b : Action τ Bool).ActsOn r (fun _ => True) s :=
  actsOn_sessionOn named fun _ => .reading (fun _ _ _ => Store.hasDependency_reads)
    (fun _ _ _ _ => trivial)
    fun _ => Store.failsWith_hasDependency foreseen (binds _) (binds _) (binds _)

theorem actsOn_dependenciesOf (named : (Store.repositoryNamed name).Returns s r s) (a : Int) :
    (dependenciesOf name a : Action τ (List Issue)).ActsOn r
      (fun is => ∀ i ∈ is, Ticket.OfRepository StoredIssue r.id i) s :=
  actsOn_sessionOn named fun _ => .reading (fun _ _ _ => Store.dependenciesOf_reads)
    (fun _ _ _ => Store.ofRepository_dependenciesOf)
    fun _ => Store.failsWith_dependenciesOf foreseen (binds _) (binds _) (covers _)

theorem actsOn_dependentsOf (named : (Store.repositoryNamed name).Returns s r s) (a : Int) :
    (dependentsOf name a : Action τ (List Issue)).ActsOn r
      (fun is => ∀ i ∈ is, Ticket.OfRepository StoredIssue r.id i) s :=
  actsOn_sessionOn named fun _ => .reading (fun _ _ _ => Store.dependentsOf_reads)
    (fun _ _ _ => Store.ofRepository_dependentsOf)
    fun _ => Store.failsWith_dependentsOf foreseen (binds _) (binds _) (covers _)

/-! ## Creating a merge request -/

theorem actsOn_requireBranch (side : Side) (branch : String) :
    (requireBranch side branch : Action τ Unit).ActsOn r (fun _ => True) s := by
  refine actsOn_bind (actsOn_demandCall _) fun there _ _ => ?_
  split
  · exact actsOn_pure trivial
  · exact actsOn_throw rfl

theorem refuses_checkBranchName (side : Side) (branch : String) :
    Except.Refuses (checkBranchName side branch) := by
  intro e h
  unfold checkBranchName at h
  split at h <;> cases h
  exact ⟨_, rfl⟩

theorem actsOn_checkBranchName {side : Side} {branch : String} {k : Unit → Action τ α}
    (hk : ∀ u, (k u).ActsOn r ok s) :
    (Action.ofExcept (checkBranchName side branch) >>= k).ActsOn r ok s :=
  actsOn_ofExcept (refuses_checkBranchName side branch).found hk

theorem actsOn_openTree : (Action.ask (.openTree r) : Action τ Unit).ActsOn r (fun _ => True) s :=
  obeys_ask.2 ⟨rfl, fun _ _ _ => trivial⟩

/-- A merge request that is created is one of the repository that was looked up. -/
theorem actsOn_createMergeRequest (named : (Store.repositoryNamed name).Returns s r s)
    {actor : Option String} {title source target : String} {description : Option String} :
    (createMergeRequest name actor title source target description :
      Action τ MergeRequest).ActsOn r (Ticket.OfRepository StoredMergeRequest r.id) s := by
  refine actsOn_cleanActor fun author _ => actsOn_checkBranchName fun _ =>
    actsOn_checkBranchName fun _ => ?_
  split
  · have refused : (throw (.invalidArgument .sameBranches) : Action τ PUnit).ActsOn r
        (fun _ => False) s := actsOn_throw rfl
    exact actsOn_bind refused fun _ _ h => h.elim
  · refine actsOn_bind (actsOn_repository named) fun r' _ hr' => ?_
    obtain rfl := hr'
    refine actsOn_bind actsOn_openTree fun _ _ _ =>
      actsOn_bind (actsOn_requireBranch ..) fun _ _ _ =>
        actsOn_bind (actsOn_requireBranch ..) fun _ _ _ => actsOn_onTickets fun now => ?_
    exact .thenGet (.changing (fun _ _ _ => Store.effect_of_createMergeRequest)
      fun _ => Store.failsWith_createMergeRequest foreseen (binds now) (binds r'.id)
        (fun _ _ => bindsText _ _) (fun _ _ => bindsText _ _) (fun _ _ => bindsText _ _)
        (fun _ _ => bindsText _ _) fun _ _ => bindsText _ _)

end Workflow

/-! ## Merging -/

namespace Merge

variable [TimeScale τ]

theorem actsOn_remaining (deadline : Deadline τ) :
    (remaining deadline).ActsOn r (fun _ => True) s :=
  actsOn_bind actsOn_clock fun _ _ _ => actsOn_pure trivial

omit [TimeScale τ] in
theorem actsOn_unrecorded {α : Type} {ok : α → Prop} {repo : Repository} {request : MergeRequest}
    {commit reason : String} :
    (unrecorded repo request commit reason : Action τ α).ActsOn r ok s :=
  actsOn_bind (actsOn_log ..) fun _ _ _ => actsOn_throw rfl

omit [TimeScale τ] in
theorem actsOn_landed (request : MergeRequest) :
    (landed request : Action τ Bool).ActsOn r (fun _ => True) s := by
  refine actsOn_bind (actsOn_attemptCall _) fun b s hb => ?_
  cases b with
  | ok there => exact actsOn_pure trivial
  | error e =>
    dsimp only
    rw [if_pos (hb e rfl)]
    exact actsOn_bind (actsOn_log ..) fun _ _ _ => actsOn_pure trivial

omit [TimeScale τ] in
theorem actsOn_abort (request : MergeRequest) :
    (abort request : Action τ Unit).ActsOn r (fun _ => True) s := by
  refine actsOn_bind (actsOn_attemptCall _) fun b s hb => ?_
  cases b with
  | ok u => exact actsOn_pure trivial
  | error e =>
    dsimp only
    rw [if_pos (hb e rfl)]
    exact actsOn_log ..

theorem actsOn_mergeBranches (request : MergeRequest) (actor : String) (deadline : Deadline τ) :
    (mergeBranches r request actor deadline).ActsOn r (fun _ => True) s := by
  refine actsOn_bind (actsOn_log ..) fun _ _ _ => actsOn_bind (actsOn_remaining _) fun _ _ _ =>
    actsOn_bind (actsOn_demandCall _) fun _ _ _ => actsOn_bind (actsOn_remaining _) fun _ _ _ =>
    actsOn_bind (actsOn_demandCall _) fun upToDate _ _ => actsOn_bind (actsOn_remaining _)
      fun _ _ _ => actsOn_bind (actsOn_attemptCall _) fun b s hb => ?_
  cases b with
  | ok commit => exact actsOn_pure trivial
  | error e =>
    have he := hb e rfl
    dsimp only
    rw [if_pos he]
    have finish (there : Bool) (s : Store) : (do
        if there then
          unrecorded r request "" ("git reported a failure after merging: " ++ e.message)
        else
          abort request
          throw e : Action τ String).ActsOn r (fun _ => True) s := by
      cases there with
      | true => exact actsOn_unrecorded
      | false =>
        exact actsOn_bind (actsOn_abort request) fun _ _ _ =>
          actsOn_throw (missesRepository_of_isExternal he)
    cases upToDate with
    | true =>
      have unasked : (pure false : Action τ Bool).ActsOn r (fun _ => True) s := actsOn_pure trivial
      exact actsOn_bind unasked fun there s _ => finish there s
    | false => exact actsOn_bind (actsOn_landed request) fun there s _ => finish there s

/-- The merge request that is marked merged is one of the repository. -/
theorem actsOn_record (request : MergeRequest) (actor commit : String) (deadline : Deadline τ) :
    (record r request actor commit deadline).ActsOn r
      (Ticket.OfRepository StoredMergeRequest r.id) s := by
  refine actsOn_bind actsOn_clock fun now _ _ => ?_
  dsimp only
  split
  · exact actsOn_unrecorded
  · have marks (now : Int) : (Lifecycle.apply StoredMergeRequest now r.id request.id "merge"
        (some actor)).OnTickets now r.id (Ticket.OfRepository StoredMergeRequest r.id) :=
      ⟨fun _ _ _ => Lifecycle.effect_of_merge, fun _ _ _ => Ticket.ofRepository_apply,
        Ticket.failsOn_apply _ _ _ _ _⟩
    refine actsOn_bind (actsOn_remaining _) fun _ _ _ =>
      actsOn_bind (actsOn_attempt (confined marks) (unmissed marks)) fun b _ hb => ?_
    cases b with
    | ok merged =>
      exact actsOn_bind (Workflow.actsOn_logTransition ..) fun _ _ _ =>
        actsOn_bind (actsOn_log ..) fun _ _ _ => actsOn_pure hb
    | error e =>
      cases e with
      | invalidState | notFound | engine => exact actsOn_unrecorded
      | _ => exact actsOn_throw rfl

theorem actsOn_underLock (id : Int) (actor : String) (deadline : Deadline τ) :
    (underLock r id actor deadline).ActsOn r (Ticket.OfRepository StoredMergeRequest r.id) s := by
  have looks (now : Int) : (Ticket.get StoredMergeRequest r.id id).OnTickets now r.id
      (Ticket.OfRepository StoredMergeRequest r.id) := .get id
  refine actsOn_bind (actsOn_remaining _) fun _ _ _ =>
    actsOn_bind (actsOn_demand (confined looks) (unmissed looks)) fun request _ _ => ?_
  split
  · refine actsOn_bind actsOn_clock fun now _ _ => ?_
    split
    · exact actsOn_throw rfl
    · exact actsOn_bind (actsOn_mergeBranches request actor deadline) fun commit _ _ =>
        actsOn_record request actor commit deadline
  · exact actsOn_throw rfl

/-- The locks are outside of the store as well. -/
theorem actsOn_hold {α : Type} {ok : α → Prop} {directory : Option String} {limit : Option τ}
    {body : Action τ α} (hbody : ∀ s, body.ActsOn r ok s) :
    (WorkingTree.hold directory r.id limit body).ActsOn r ok s := by
  have filed (deadline : Option τ) (s : Store) :
      (WorkingTree.holdFile directory r.id deadline body).ActsOn r ok s := by
    cases directory with
    | none => exact hbody s
    | some dir =>
      have taken : (demand (.takeFile r.id deadline) : Action τ Bool).ActsOn r
          (fun _ => True) s := by
        refine obeys_demand.2 ⟨rfl, fun b _ ⟨_, h⟩ => ?_⟩
        cases b with
        | ok taken => trivial
        | error e =>
          have fault := h.1 e rfl
          show e.missesRepository = false
          cases e <;> first | rfl | cases fault
      refine actsOn_bind taken fun taken _ _ => ?_
      cases taken with
      | false => exact actsOn_throw rfl
      | true =>
        exact actsOn_withCleanup (fun _ => rfl)
          (actsOn_bind (actsOn_log ..) fun _ s _ => hbody s)
  have taken (limit : Option τ) (s : Store) :
      (demand (.takeLock r.id limit) : Action τ Bool).ActsOn r (fun _ => True) s := by
    refine obeys_demand.2 ⟨rfl, fun b _ ⟨_, h⟩ => ?_⟩
    cases b with
    | ok taken => trivial
    | error e =>
      obtain ⟨rfl, -⟩ := h.1 e rfl
      exact (rfl : Error.missesRepository .limitTooLong = false)
  refine actsOn_bind actsOn_clock fun _ s _ => actsOn_bind (taken _ s) fun taken s _ => ?_
  cases taken with
  | false => exact actsOn_throw rfl
  | true => exact actsOn_withCleanup (fun _ => rfl) (filed _ s)

end Merge

/-- A merge acts on the repository that its name stands for. -/
theorem Workflow.actsOn_merge [TimeScale τ] {name : String}
    (named : (Store.repositoryNamed name).Returns s r s) {policy : Policy τ} {id : Int}
    {actor : Option String} {limit : Option τ} :
    (merge policy name id actor limit).ActsOn r
      (Ticket.OfRepository StoredMergeRequest r.id) s := by
  refine actsOn_cleanActor fun merger _ => actsOn_bind (actsOn_repository named) fun r' _ hr' => ?_
  obtain rfl := hr'
  refine actsOn_bind actsOn_openTree fun _ s _ => obeys_bind.2 (obeys_lift.2 ?_)
  have hrun : (Merge.run policy.lockDirectory policy.lockLimit r' id merger
      (limit <|> policy.mergeLimit)).ActsOn r' (Ticket.OfRepository StoredMergeRequest r'.id) s :=
    actsOn_bind actsOn_clock fun _ _ _ => actsOn_bind actsOn_clock fun _ _ _ =>
      Merge.actsOn_hold fun _ => Merge.actsOn_underLock ..
  exact hrun.mono (fun m s hm => actsOn_pure hm)
    fun e s he => actsOn_throw (missesRepository_classified he)

/-! ## All operations on a repository -/

theorem Action.actsOn_answer {α : Type} {ok : α → Prop} {x : Action τ α} {f : α → Answer}
    (h : x.ActsOn r ok s) (hf : ∀ a, ok a → (f a).IsOf r) : (f <$> x).ActsOn r (Answer.IsOf r) s :=
  obeys_map.2 (h.mono (fun a _ ha => hf a ha) fun _ _ he => he)

namespace Operation

open Workflow Ticket

/-- The text by which an operation names the repository that it acts on, if it acts on one and
neither registers nor removes it. -/
def scope? : Operation τ → Option String
  | .registerRepository .. | .repositories | .removeRepository _ => none
  | .repository repo | .createIssue repo .. | .issue repo _ | .issues repo | .issuesIn repo _
  | .updateIssue repo .. | .deleteIssue repo _ | .closeIssue repo .. | .reopenIssue repo _
  | .addDependency repo .. | .removeDependency repo .. | .hasDependency repo ..
  | .dependenciesOf repo _ | .dependentsOf repo _ | .createMergeRequest repo ..
  | .mergeRequest repo _ | .mergeRequests repo | .mergeRequestsIn repo _
  | .updateMergeRequest repo .. | .deleteMergeRequest repo _ | .closeMergeRequest repo ..
  | .reopenMergeRequest repo _ | .merge repo .. => some repo

/-- **An operation acts on the repository that is found under its text.** -/
theorem actsOn [TimeScale τ] {op : Operation τ} {name : String} (h : op.scope? = some name)
    (named : (Store.repositoryNamed name).Returns s r s) : op.ActsOn r s := by
  intro policy
  cases op with
  | registerRepository | repositories | removeRepository => cases h
  | repository =>
    cases h
    exact actsOn_answer (actsOn_repository named) fun _ hr => hr
  | createIssue =>
    cases h
    exact actsOn_answer (actsOn_createIssue named) fun _ hi => hi.issue
  | issue _ id =>
    cases h
    exact actsOn_answer (actsOn_ticket named id) fun _ hi => OfRepository.issue hi
  | issues =>
    cases h
    exact actsOn_answer (actsOn_tickets named) fun _ his i hi => (his i hi).issue
  | issuesIn _ state =>
    cases h
    exact actsOn_answer (actsOn_issuesIn named state) fun _ his i hi => (his i hi).issue
  | updateIssue =>
    cases h
    exact actsOn_answer (actsOn_updateTicket named fun _ _ _ _ => Store.effect_of_updateIssue)
      fun _ hi => OfRepository.issue hi
  | deleteIssue _ id =>
    cases h
    exact actsOn_answer (actsOn_deleteIssue named id) fun _ _ => trivial
  | closeIssue =>
    cases h
    exact actsOn_answer
      (actsOn_closeTicket named fun _ ha _ _ _ _ => Lifecycle.effect_of_closeIssue ha)
      fun _ hi => OfRepository.issue hi
  | reopenIssue =>
    cases h
    exact actsOn_answer
      (actsOn_followTransition named fun _ _ _ _ => Lifecycle.effect_of_reopenIssue)
      fun _ hi => OfRepository.issue hi
  | addDependency _ a b =>
    cases h
    exact actsOn_answer (actsOn_addDependency named a b) fun _ _ => trivial
  | removeDependency _ a b =>
    cases h
    exact actsOn_answer (actsOn_removeDependency named a b) fun _ _ => trivial
  | hasDependency _ a b =>
    cases h
    exact actsOn_answer (actsOn_hasDependency named a b) fun _ _ => trivial
  | dependenciesOf _ a =>
    cases h
    exact actsOn_answer (actsOn_dependenciesOf named a) fun _ his i hi => (his i hi).issue
  | dependentsOf _ a =>
    cases h
    exact actsOn_answer (actsOn_dependentsOf named a) fun _ his i hi => (his i hi).issue
  | createMergeRequest =>
    cases h
    exact actsOn_answer (actsOn_createMergeRequest named) fun _ hm => hm.mergeRequest
  | mergeRequest _ id =>
    cases h
    exact actsOn_answer (actsOn_ticket named id) fun _ hm => OfRepository.mergeRequest hm
  | mergeRequests =>
    cases h
    exact actsOn_answer (actsOn_tickets named) fun _ hms m hm => (hms m hm).mergeRequest
  | mergeRequestsIn _ state =>
    cases h
    exact actsOn_answer (actsOn_mergeRequestsIn named state)
      fun _ hms m hm => (hms m hm).mergeRequest
  | updateMergeRequest =>
    cases h
    exact actsOn_answer
      (actsOn_updateTicket named fun _ _ _ _ => Store.effect_of_updateMergeRequest)
      fun _ hm => OfRepository.mergeRequest hm
  | deleteMergeRequest _ id =>
    cases h
    exact actsOn_answer (actsOn_deleteMergeRequest named id) fun _ _ => trivial
  | closeMergeRequest =>
    cases h
    exact actsOn_answer
      (actsOn_closeTicket named fun _ ha _ _ _ _ => Lifecycle.effect_of_closeMergeRequest ha)
      fun _ hm => OfRepository.mergeRequest hm
  | reopenMergeRequest =>
    cases h
    exact actsOn_answer
      (actsOn_followTransition named fun _ _ _ _ => Lifecycle.effect_of_reopenMergeRequest)
      fun _ hm => OfRepository.mergeRequest hm
  | merge =>
    cases h
    exact actsOn_answer (actsOn_merge named) fun _ hm => hm.mergeRequest

end Operation

end Forge
