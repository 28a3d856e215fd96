import Forge.Proofs.Constraints.Statements
import Forge.Proofs.Frame.Ledger

/-!
# Which constraints operations violate

The checks in the operations and the constraints of the tables cover each other: in the store of a
forge, a statement violates a constraint in three cases only, which `Operation.Breaks` lists with
the refusals they end in. All other transactions are sound, whatever came before them
(`Action.Sound`). The third case needs two clients: the repository of a new merge request has to be
removed after it was looked up.
-/

namespace Forge

open Transaction Forge.Action

variable {τ : Type}

/-! ## Actions whose transactions are sound -/

/-- A transaction that is made violates no constraint of a well-formed store. -/
def Request.Sound : {β : Type} → Request τ β → Prop
  | _, .transact _ _ body => ∀ now s, fits now = true → s.WellFormed → (body now).Sound s
  | _, _ => True

/-- Transactions are sound, whatever is answered. -/
def Terms.sound : Terms τ Unit where
  may r _ := r.Sound
  answers _ _ _ _ := True

namespace Action

variable {α β : Type}

/-- All transactions of the action are sound. -/
structure Sound (x : Action τ α) : Prop where
  obeys : x.Obeys Terms.sound (fun _ _ => True) (fun _ _ => True) ()

theorem sound_pure (a : α) : (pure a : Action τ α).Sound :=
  ⟨obeys_pure.2 trivial⟩

theorem sound_throw (e : Error) : (throw e : Action τ α).Sound :=
  ⟨obeys_throw.2 trivial⟩

/-- Two parts that violate nothing violate nothing together. -/
theorem sound_bind {x : Action τ α} {k : α → Action τ β} (hx : x.Sound) (hk : ∀ a, (k a).Sound) :
    (x >>= k).Sound :=
  ⟨obeys_bind.2 (hx.obeys.mono (fun a _ _ => (hk a).obeys) fun _ _ h => h)⟩

theorem sound_map {x : Action τ α} {f : α → β} (hx : x.Sound) : (f <$> x).Sound :=
  ⟨obeys_map.2 hx.obeys⟩

theorem sound_ofExcept (x : Except Error α) : (ofExcept x : Action τ α).Sound := by
  refine ⟨obeys_ofExcept.2 ?_⟩
  cases x <;> trivial

theorem sound_ask {r : Request τ α} (h : r.Sound) : (ask r).Sound :=
  ⟨obeys_ask.2 ⟨h, fun _ _ _ => trivial⟩⟩

theorem sound_attempt {r : Request τ (Except Error α)} (h : r.Sound) : (attempt r).Sound :=
  sound_ask h

theorem sound_demand {r : Request τ (Except Error α)} (h : r.Sound) : (demand r).Sound := by
  refine ⟨obeys_demand.2 ⟨h, fun b _ _ => ?_⟩⟩
  cases b <;> trivial

theorem sound_log (level : Level) (part : Part) (text : String) :
    (log level part text : Action τ Unit).Sound :=
  sound_ask trivial

theorem sound_clock : (clock : Action τ τ).Sound :=
  sound_ask trivial

/-- To give a lock back is no statement. -/
theorem sound_withCleanup {x : Action τ α} {r : Request τ Unit} (hx : x.Sound) (h : r.Sound) :
    (withCleanup x (Program.request r)).Sound := by
  have cleans {ok : Unit → Prop} (hok : ∀ u, ok u) :
      (Program.request r).Obeys Terms.sound (fun u _ => ok u) () :=
    Program.obeys_request.2 ⟨h, fun u _ _ => hok u⟩
  exact ⟨obeys_withCleanup.2 (hx.obeys.mono (fun _ _ _ => cleans fun _ => trivial)
    fun _ _ _ => cleans fun _ => trivial)⟩

end Action

/-! ## Operations whose transactions are sound -/

namespace Workflow

variable {α : Type}

/-- A session is sound if its transaction is so in every well formed store, at all times of 64 bits.
-/
theorem sound_session {write : Bool} {body : Int → Transaction α}
    (h : ∀ now s, fits now = true → s.WellFormed → (body now).Sound s) :
    (session write body : Action τ α).Sound := by
  refine sound_bind (sound_attempt h) fun b => ?_
  cases b with
  | ok a => exact sound_pure a
  | error e => exact sound_throw _

/-- On a repository it may rely on the repository being there. -/
theorem sound_sessionOn {write : Bool} {repo : String} {body : Int → Repository → Transaction α}
    (h : ∀ now s r, fits now = true → s.WellFormed → r ∈ s.repos.rows → (body now r).Sound s) :
    (sessionOn write repo body : Action τ α).Sound := by
  refine sound_session fun now s hnow hs v hv => ?_
  obtain ⟨r, hr, -, hv⟩ := (Store.violates_repositoryNamed_then hs).1 hv
  exact h now s r hnow hs hr v hv

theorem sound_logTransition (kind : Kind) (id : Int) (name : String) (repoId : Int)
    (actor : Option String) :
    (Merge.logTransition kind id name repoId actor : Action τ Unit).Sound := by
  unfold Merge.logTransition
  split
  · exact sound_log ..
  · exact sound_pure ()

theorem sound_repository (name : String) : (repository name : Action τ Repository).Sound :=
  sound_session fun _ _ _ _ => Store.sound_repositoryNamed

theorem sound_createIssue (repo : String) (actor : Option String) (title description : String) :
    (createIssue repo actor title (some description) : Action τ Issue).Sound := by
  refine sound_bind (sound_ofExcept _) fun author => sound_sessionOn fun now s r _ _ hr => ?_
  have there : s.hasRepository r.id = true := Store.hasRepository_iff.2 ⟨r, hr, rfl⟩
  exact (Store.sound_createIssue there).bind fun _ _ _ => Ticket.sound_get

section Tickets

variable {ρ ε : Type} [Ticket ρ ε] (repo : String)

theorem sound_ticket (id : Int) : (ticket ρ repo id : Action τ ε).Sound :=
  sound_sessionOn fun _ _ _ _ _ _ => Ticket.sound_get

theorem sound_tickets : (tickets ρ repo : Action τ (List ε)).Sound :=
  sound_sessionOn fun _ _ _ _ _ _ => Ticket.sound_listAll

theorem sound_ticketsIn (state : String) : (ticketsIn ρ repo state : Action τ (List ε)).Sound :=
  sound_sessionOn fun _ _ _ _ _ _ => Ticket.sound_listInState

/-- An update fills all columns that need a value and keeps the repository. -/
theorem sound_updateTicket {id : Int} {title description : String}
    (filled : ∀ (now : Int) (title : String) (r : ρ), Ticket.emptied? [("title", .text title),
      ("description", .text description), ("updated_at", .int now)] r = none)
    (kept : ∀ (now : Int) (title : String) (r : ρ), Ticket.repoId (Ticket.setAll
      [("title", .text title), ("description", .text description), ("updated_at", .int now)] r) =
        Ticket.repoId r) :
    (updateTicket ρ repo id title (some description) : Action τ ε).Sound :=
  sound_sessionOn fun now _ _ _ _ _ =>
    (Ticket.sound_update (filled now) (kept now)).bind fun _ _ _ => Ticket.sound_get

variable [LawfulTicket ρ]

theorem sound_followTransition (id : Int) (name : String) (actor : Option String) :
    (followTransition ρ repo id name actor : Action τ ε).Sound := by
  refine sound_bind (sound_sessionOn fun _ _ _ _ _ _ => ?_) fun p =>
    sound_bind (sound_logTransition ..) fun _ => sound_pure _
  exact Ticket.sound_apply.bind fun _ _ _ _ => violates_pure

theorem sound_closeTicket (id : Int) (actor : Option String) :
    (closeTicket ρ repo id actor : Action τ ε).Sound :=
  sound_bind (sound_ofExcept _) fun closer => sound_followTransition repo id "close" (some closer)

end Tickets

end Workflow

/-! ### Merging -/

namespace Merge

theorem sound_unrecorded {α : Type} (repo : Repository) (request : MergeRequest)
    (commit reason : String) : (unrecorded repo request commit reason : Action τ α).Sound :=
  sound_bind (sound_log ..) fun _ => sound_throw _

theorem sound_landed (request : MergeRequest) : (landed request : Action τ Bool).Sound := by
  refine sound_bind (sound_attempt trivial) fun b => ?_
  cases b with
  | ok there => exact sound_pure there
  | error e =>
    dsimp only
    split
    · exact sound_bind (sound_log ..) fun _ => sound_pure false
    · exact sound_throw e

theorem sound_abort (request : MergeRequest) : (abort request : Action τ Unit).Sound := by
  refine sound_bind (sound_attempt trivial) fun b => ?_
  cases b with
  | ok u => exact sound_pure ()
  | error e =>
    dsimp only
    split
    · exact sound_log ..
    · exact sound_throw e

variable [TimeScale τ]

theorem sound_remaining (deadline : Deadline τ) : (remaining deadline).Sound :=
  sound_bind sound_clock fun _ => sound_pure _

theorem sound_mergeBranches (repo : Repository) (request : MergeRequest) (actor : String)
    (deadline : Deadline τ) : (mergeBranches repo request actor deadline).Sound := by
  refine sound_bind (sound_log ..) fun _ => sound_bind (sound_remaining _) fun _ =>
    sound_bind (sound_demand trivial) fun _ => sound_bind (sound_remaining _) fun _ =>
    sound_bind (sound_demand trivial) fun upToDate => sound_bind (sound_remaining _) fun _ =>
    sound_bind (sound_attempt trivial) fun b => ?_
  cases b with
  | ok commit => exact sound_pure commit
  | error e =>
    have ends (there : Bool) : (if there = true then unrecorded repo request ""
        ("git reported a failure after merging: " ++ e.message)
        else abort request >>= fun _ => throw e : Action τ String).Sound := by
      split
      · exact sound_unrecorded ..
      · exact sound_bind (sound_abort request) fun _ => sound_throw e
    dsimp only
    split
    · split
      · exact ends false
      · exact sound_bind (sound_landed request) ends
    · exact sound_throw e

theorem sound_record (repo : Repository) (request : MergeRequest) (actor commit : String)
    (deadline : Deadline τ) : (record repo request actor commit deadline).Sound := by
  refine sound_bind sound_clock fun now => ?_
  split
  · exact sound_unrecorded ..
  · refine sound_bind (sound_remaining deadline) fun limit =>
      sound_bind (sound_attempt fun _ _ _ _ => Ticket.sound_apply) fun b => ?_
    cases b with
    | ok merged =>
      exact sound_bind (Workflow.sound_logTransition ..) fun _ =>
        sound_bind (sound_log ..) fun _ => sound_pure merged
    | error e =>
      cases e with
      | invalidState | notFound | engine => exact sound_unrecorded ..
      | _ => exact sound_throw _

theorem sound_underLock (repo : Repository) (id : Int) (actor : String) (deadline : Deadline τ) :
    (underLock repo id actor deadline).Sound := by
  refine sound_bind (sound_remaining deadline) fun limit =>
    sound_bind (sound_demand fun _ _ _ _ => Ticket.sound_get) fun request => ?_
  split
  · refine sound_bind sound_clock fun now => ?_
    split
    · exact sound_throw _
    · exact sound_bind (sound_mergeBranches ..) fun commit => sound_record ..
  · exact sound_throw _

/-- Locks have no constraints. -/
theorem sound_hold {α : Type} (directory : Option String) (repoId : Int) (limit : Option τ)
    {body : Action τ α} (h : body.Sound) :
    (WorkingTree.hold directory repoId limit body).Sound := by
  refine sound_bind sound_clock fun now => sound_bind (sound_demand trivial) fun taken => ?_
  split
  · refine sound_withCleanup ?_ trivial
    unfold WorkingTree.holdFile
    split
    · exact h
    · refine sound_bind (sound_demand trivial) fun taken => ?_
      split
      · exact sound_withCleanup (sound_bind (sound_log ..) fun _ => h) trivial
      · exact sound_throw _
  · exact sound_throw _

end Merge

theorem Workflow.sound_merge [TimeScale τ] (policy : Policy τ) (repo : String) (id : Int)
    (actor : Option String) (limit : Option τ) :
    (Workflow.merge policy repo id actor limit).Sound := by
  have run (r : Repository) (merger : String) (limit : Option τ) :
      (Merge.run policy.lockDirectory policy.lockLimit r id merger limit).Sound :=
    sound_bind sound_clock fun _ => sound_bind sound_clock fun _ =>
      Merge.sound_hold _ _ _ (Merge.sound_underLock ..)
  refine sound_bind (sound_ofExcept _) fun merger => sound_bind (sound_repository repo) fun r =>
    sound_bind (sound_ask trivial) fun _ => sound_bind ⟨obeys_lift.2 (run r merger _).obeys⟩
      fun outcome => ?_
  cases outcome with
  | ok merged => exact sound_pure merged
  | error e => exact sound_throw _

/-! ## The three cases -/

/-- The constraints that a transaction of an operation violates on a store, after what the call has
done so far, with the refusals that the operation ends in. -/
inductive Operation.Breaks (s : Store) (j : Journal) : Operation τ → Violation → Error → Prop
  | nameTaken {name path : String} {r : Repository} (located : Text.strip path ≠ "")
      (place : s.surrogates.Writable (Text.strip path))
      (clean : Repository.cleanName name = .ok r.name) (there : r ∈ s.repos.rows) :
      Breaks s j (.registerRepository name path) .repositoryName (.conflict .repository)
  | edgeThere {repo : String} {a b : Int} {r : Repository}
      (clean : Repository.cleanName repo = .ok r.name) (there : r ∈ s.repos.rows)
      (narrow : fits r.id = true ∧ fits a = true ∧ fits b = true)
      (first : s.hasIssueAt r.id a = true) (second : s.hasIssueAt r.id b = true)
      (distinct : a ≠ b) (edge : s.dependencies.any (Store.isEdge a b) = true) :
      Breaks s j (.addDependency repo a b) .dependencyPair (.conflict .dependency)
  | repositoryGone {repo title cleaned author description source target : String}
      {actor : Option String} {r : Repository} (clean : Repository.cleanName repo = .ok r.name)
      (known : j.Knows r) (opened : j.opened = some r) (gone : r ∉ s.repos.rows)
      (narrow : fits r.id = true) (titled : cleanTitle title = .ok cleaned)
      (named : cleanActor actor = .ok author)
      (texts : ∀ t ∈ [cleaned, description, Text.strip source, Text.strip target, author],
        s.surrogates.Writable t) :
      Breaks s j (.createMergeRequest repo actor title source target (some description))
        .foreignKey (.notFound .reference)

/-- The descriptions of tickets are texts. -/
def Operation.Described : Operation τ → Prop
  | .createIssue _ _ _ description | .updateIssue _ _ _ description
  | .createMergeRequest _ _ _ _ _ description | .updateMergeRequest _ _ _ description =>
    description.isSome = true
  | _ => True

/-- Each of the three violations is told in the class that it has. -/
theorem Operation.Breaks.surfaced {s : Store} {j : Journal} {op : Operation τ} {v : Violation}
    {e : Error} (h : op.Breaks s j v e) : (Error.engine (.violated v)).classified = e := by
  cases h <;> decide +kernel

/-- The answer of a transaction reports that the constraint is violated. -/
def Request.Reports (v : Violation) : {β : Type} → Request τ β → β → Prop
  | _, .transact _ _ _, b => b = .error (.engine (.violated v))
  | _, _, _ => False

/-- A transaction violates on every store that the call can see what its operation breaks there. -/
def Request.Exact (op : Operation τ) (j : Journal) : {β : Type} → Request τ β → Prop
  | _, .transact _ _ body => ∀ now s v, fits now = true → s.Follows j →
      ((body now).Violates s v ↔ ∃ e, op.Breaks s j v e)
  | _, _ => True

/-- What a call does is noted in its journal. After a constraint was violated, the refusal that this
ends in may be noted too; then nothing more can be asked. -/
def Terms.constrained (op : Operation τ) : Terms τ (Journal × Option Error) where
  may r p := p.2 = none ∧ r.Exact op p.1
  answers r p b p' := ∃ s s', s.Follows p.1 ∧ Reply (fun _ => True) r b s s' ∧
    p'.1 = p.1.note r b s s' ∧
    ∀ e, p'.2 = some e → ∃ v, r.Reports v b ∧ op.Breaks s p.1 v e

/-- The call ends in the refusal that has been noted. -/
def Refused (e : Error) (p : Journal × Option Error) : Prop :=
  ∀ e', p.2 = some e' → e = e'

theorem refused_of_none {e : Error} {p : Journal × Option Error} (h : p.2 = none) : Refused e p :=
  fun e' he' => absurd (h.symm.trans he') (Option.some_ne_none e').symm

section Constrained

variable {α β : Type} {op : Operation τ} {j : Journal}

/-- An operation that breaks nothing keeps to the terms if its transactions are sound. -/
theorem Action.Sound.constrained {x : Action τ α} (hx : x.Sound)
    (unbroken : ∀ s j v e, ¬ op.Breaks s j v e) (j : Journal) :
    x.Obeys (Terms.constrained op) (fun _ p => p.2 = none) Refused (j, none) := by
  have exactly {β : Type} {r : Request τ β} (h : r.Sound) (j : Journal) : r.Exact op j := by
    cases r with
    | transact write limit body =>
      intro now s v hnow hs
      exact iff_of_false (h now s hnow hs.wellFormed v) fun ⟨e, he⟩ => unbroken s j v e he
    | _ => trivial
  have program {p : Program τ (Except Error α)} {post : Except Error α → Unit → Prop}
      (hp : p.Obeys Terms.sound post ()) (j : Journal) :
      p.Obeys (Terms.constrained op) (fun _ q => q.2 = none) (j, none) := by
    induction p generalizing j with
    | done a => exact Program.obeys_done.2 rfl
    | ask r next ih =>
      obtain ⟨sound, hnext⟩ := Program.obeys_step.1 hp
      refine Program.obeys_step.2 ⟨⟨rfl, exactly sound j⟩, ?_⟩
      rintro b ⟨j', noted⟩ ⟨s, s', -, -, -, marks⟩
      cases noted with
      | none => exact ih b (hnext b () trivial) j'
      | some e =>
        obtain ⟨v, -, breaks⟩ := marks e rfl
        exact absurd breaks (unbroken s j v e)
  refine obeys_run.2 ((program (obeys_run.1 hx.obeys) j).mono fun a p hp => ?_)
  cases a with
  | ok a => exact hp
  | error e => exact refused_of_none hp

/-- After a request that is no transaction, nothing is noted. -/
theorem answered_quietly {r : Request τ α} {b : α} {p : Journal × Option Error}
    (quiet : ∀ v b, ¬ r.Reports v b) (h : (Terms.constrained op).answers r (j, none) b p) :
    p.2 = none ∧ ∃ s s', p.1 = j.note r b s s' := by
  obtain ⟨s, s', -, -, hj, marks⟩ := h
  refine ⟨Option.eq_none_iff_forall_ne_some.2 fun e he => ?_, s, s', hj⟩
  obtain ⟨v, reports, -⟩ := marks e he
  exact quiet v b reports

/-- A session of an operation keeps to the terms if it violates what the operation breaks. -/
theorem constrained_session {write : Bool} {body : Int → Transaction α}
    (exactly : ∀ now s v, fits now = true → s.Follows j →
      ((body now).Violates s v ↔ ∃ e, op.Breaks s j v e)) :
    (Workflow.session write body : Action τ α).Obeys (Terms.constrained op)
      (fun a p => p.2 = none ∧ ∃ now s s', s.Follows j ∧ (body now).Returns s a s' ∧
        p.1 = j.note (.transact write none body : Request τ (Except Error α)) (.ok a) s s')
      Refused (j, none) := by
  refine obeys_bind.2 (obeys_attempt.2 ⟨⟨rfl, exactly⟩, ?_⟩)
  rintro b ⟨j', noted⟩ ⟨s, s', hs, reply, hj, marks⟩
  cases b with
  | error e =>
    refine obeys_throw.2 fun e' he' => ?_
    obtain ⟨v, reports, breaks⟩ := marks e' he'
    cases reports
    exact breaks.surfaced
  | ok a =>
    refine obeys_pure.2 ⟨?_, ?_⟩
    · cases noted with
      | none => rfl
      | some e =>
        obtain ⟨v, reports, -⟩ := marks e rfl
        cases reports
    · rcases reply.transact with ⟨⟨e, refused, -⟩, -⟩ | ⟨now, -, ⟨a', same, ha⟩ | ⟨e, failed, -⟩⟩
      · cases refused
      · cases same
        exact ⟨now, s, s', hs, ha, hj⟩
      · cases failed

/-- So does a session of which the log is told. -/
theorem constrained_logged {write : Bool} {body : Int → Transaction α} {level : Level}
    {part : Part} {text : α → String} {f : α → β}
    (exactly : ∀ now s v, fits now = true → s.Follows j →
      ((body now).Violates s v ↔ ∃ e, op.Breaks s j v e)) :
    (do let a ← Workflow.session write body
        log level part (text a)
        pure (f a) : Action τ β).Obeys (Terms.constrained op) (fun _ p => p.2 = none) Refused
      (j, none) := by
  refine obeys_bind.2 ((constrained_session exactly).mono ?_ fun _ _ h => h)
  rintro a ⟨j', noted⟩ ⟨rfl, -⟩
  refine obeys_bind.2 (obeys_log.2 ⟨⟨rfl, trivial⟩, fun u p hp => obeys_pure.2 ?_⟩)
  exact (answered_quietly (fun _ _ => id) hp).1

end Constrained

/-! ## Adding repositories and dependencies -/

namespace Workflow

/-- The one statement of a registration violates the constraint on names where it is told so. -/
theorem constrained_registerRepository (name path : String) (j : Journal) :
    (registerRepository name path : Action τ Repository).Obeys
      (Terms.constrained (.registerRepository name path)) (fun _ p => p.2 = none) Refused
      (j, none) := by
  refine constrained_logged fun now s v hnow hs => ?_
  have after {id : Int} {s₁ : Store} : (do
      let repo ← Store.repositoryNamed name
      pure (id, repo) : Transaction (Int × Repository)).Sound s₁ :=
    Store.sound_repositoryNamed.bind fun _ _ _ _ => violates_pure
  rw [violates_then fun _ _ _ => after, Store.violates_createRepository hs.wellFormed hnow]
  constructor
  · rintro ⟨rfl, located, place, r, hr, clean⟩
    exact ⟨_, .nameTaken located place clean hr⟩
  · rintro ⟨e, breaks⟩
    cases breaks with
    | nameTaken located place clean hr => exact ⟨rfl, located, place, _, hr, clean⟩

/-- The two issues are there, so that only the constraint on pairs is left to violate. -/
theorem constrained_addDependency (repo : String) (a b : Int) (j : Journal) :
    (addDependency repo a b : Action τ Dependency).Obeys
      (Terms.constrained (.addDependency repo a b)) (fun _ p => p.2 = none) Refused
      (j, none) := by
  refine constrained_logged fun now s v hnow hs => ?_
  rw [Store.violates_repositoryNamed_then hs.wellFormed]
  simp only [Store.violates_addDependency hs.wellFormed hnow]
  constructor
  · rintro ⟨r, hr, clean, rfl, narrow, first, second, distinct, edge⟩
    exact ⟨_, .edgeThere clean hr narrow first second distinct edge⟩
  · rintro ⟨e, breaks⟩
    cases breaks with
    | edgeThere clean hr narrow first second distinct edge =>
      exact ⟨_, hr, clean, rfl, narrow, first, second, distinct, edge⟩

/-! ## Adding merge requests -/

section CreateMergeRequest

variable {α : Type} {op : Operation τ} {j : Journal} {r : Repository}

theorem constrained_ofExcept {β : Type} {x : Except Error α} {k : α → Action τ β}
    (hk : ∀ a, x = .ok a →
      (k a).Obeys (Terms.constrained op) (fun _ p => p.2 = none) Refused (j, none)) :
    (Action.ofExcept x >>= k).Obeys (Terms.constrained op) (fun _ p => p.2 = none) Refused
      (j, none) := by
  refine obeys_bind.2 (obeys_ofExcept.2 ?_)
  cases x with
  | ok a => exact hk a rfl
  | error e => exact refused_of_none rfl

theorem constrained_requireBranch (side : Side) (branch : String) :
    (requireBranch side branch : Action τ Unit).Obeys (Terms.constrained op)
      (fun _ p => p.2 = none ∧ j.Passes j.wrote p.1) Refused (j, none) := by
  have looks : Request.Looks (.tree (.branchExists branch) : Request τ (Except Error Bool)) :=
    trivial
  refine obeys_bind.2 (obeys_demand.2 ⟨⟨rfl, trivial⟩, fun b p hp => ?_⟩)
  obtain ⟨noted, s, s', hj⟩ := answered_quietly (fun _ _ => id) hp
  cases b with
  | error e => exact refused_of_none noted
  | ok there =>
    dsimp only [ends]
    split
    · exact obeys_pure.2 ⟨noted, hj ▸ looks.passes j _ s s'⟩
    · exact obeys_throw.2 (refused_of_none noted)

/-- While no working tree is open, nothing that the operation looks for can be gone. -/
theorem constrained_repository {repo title source target : String}
    {actor description : Option String} (closed : j.opened = none) :
    (repository repo : Action τ Repository).Obeys
      (Terms.constrained (.createMergeRequest repo actor title source target description))
      (fun r p => p.2 = none ∧ Repository.cleanName repo = .ok r.name ∧ p.1.Knows r) Refused
      (j, none) := by
  refine (constrained_session fun now s v hnow hs => ?_).mono ?_ fun _ _ h => h
  · refine iff_of_false (Store.sound_repositoryNamed v) ?_
    rintro ⟨e, breaks⟩
    cases breaks with
    | repositoryGone _ _ opened => exact nomatch closed.symm.trans opened
  · rintro r ⟨j', noted⟩ ⟨rfl, now, s, s', hs, hr, rfl⟩
    obtain ⟨there, clean, rfl⟩ := Store.found_of_returns hr
    exact ⟨rfl, clean, (s', s'), List.mem_cons_self, hs.wellFormed, there⟩

/-- The repository was there when it was looked up, and may be gone when the row is added. -/
theorem constrained_createMergeRequest (repo : String) (actor : Option String)
    (title source target description : String) :
    (createMergeRequest repo actor title source target (some description) :
      Action τ MergeRequest).Obeys
      (Terms.constrained (.createMergeRequest repo actor title source target (some description)))
      (fun _ p => p.2 = none) Refused ({}, none) := by
  refine constrained_ofExcept fun author named => constrained_ofExcept fun _ _ =>
    constrained_ofExcept fun _ _ => ?_
  split
  · exact obeys_bind.2 (obeys_throw.2 (refused_of_none rfl))
  · refine obeys_bind.2 ((constrained_repository rfl).mono ?_ fun _ _ h => h)
    rintro r ⟨j₁, noted⟩ ⟨rfl, clean, known⟩
    refine obeys_bind.2 (obeys_ask.2 ⟨⟨rfl, trivial⟩, ?_⟩)
    rintro _ ⟨j₂, noted⟩ answered
    obtain ⟨rfl, s, s', hj⟩ := answered_quietly (fun _ _ => id) answered
    obtain rfl : j₂ = { j₁ with opened := some r } := hj
    refine obeys_bind.2 ((constrained_requireBranch ..).mono ?_ fun _ _ h => h)
    rintro _ ⟨j₃, noted⟩ ⟨rfl, passes₃⟩
    refine obeys_bind.2 ((constrained_requireBranch ..).mono ?_ fun _ _ h => h)
    rintro _ ⟨j₄, noted⟩ ⟨rfl, passes₄⟩
    have opened : j₄.opened = some r := passes₄.opened.trans passes₃.opened
    have knows : Journal.Knows r { j₁ with opened := some r } := known
    have known : j₄.Knows r := (knows.passes passes₃).passes passes₄
    refine (constrained_session fun now s v hnow hs => ?_).mono (fun _ _ h => h.1) fun _ _ h => h
    rw [violates_then fun _ _ _ => Ticket.sound_get,
      Store.violates_createMergeRequest hs.wellFormed hnow]
    constructor
    · rintro ⟨rfl, narrow, missing, cleaned, titled, texts⟩
      refine ⟨_, .repositoryGone clean known opened (fun hr => ?_) narrow titled named texts⟩
      exact absurd (Store.hasRepository_iff.2 ⟨r, hr, rfl⟩) (Bool.eq_false_iff.1 missing)
    · rintro ⟨e, breaks⟩
      cases breaks with
      | repositoryGone _ _ opened' gone narrow titled named' texts =>
        obtain rfl := Option.some.inj (opened.symm.trans opened')
        obtain rfl := Except.ok.inj (named.symm.trans named')
        refine ⟨rfl, narrow, Bool.eq_false_iff.2 fun there => gone ?_, _, titled, texts⟩
        exact known.there hs (Store.hasRepository_iff.1 there)

end CreateMergeRequest

end Workflow

/-! ## All operations -/

namespace Operation

open Workflow

/-- Whether the operation is none of the three that may violate a constraint. -/
def isSound : Operation τ → Bool
  | .registerRepository .. | .addDependency .. | .createMergeRequest .. => false
  | _ => true

/-- All other operations break nothing. -/
theorem not_breaks {op : Operation τ} (h : op.isSound = true) (s : Store) (j : Journal)
    (v : Violation) (e : Error) : ¬ op.Breaks s j v e := by
  intro breaks
  cases breaks <;> cases h

/-- The transactions of the other operations are sound. -/
theorem sound_of_isSound [TimeScale τ] (policy : Policy τ) {op : Operation τ}
    (h : op.isSound = true) (described : op.Described) : (op.action policy).Sound := by
  cases op with
  | registerRepository | addDependency | createMergeRequest => cases h
  | repository name => exact sound_map (sound_repository name)
  | repositories =>
    exact sound_map (sound_session fun _ _ _ _ => Store.sound_listRepositories)
  | removeRepository name =>
    exact sound_map (sound_session fun _ _ _ _ => Store.sound_deleteRepository)
  | createIssue repo actor title description =>
    obtain ⟨text, rfl⟩ := Option.isSome_iff_exists.1 described
    exact sound_map (sound_createIssue repo actor title text)
  | issue repo id => exact sound_map (sound_ticket repo id)
  | issues repo => exact sound_map (sound_tickets repo)
  | issuesIn repo state =>
    exact sound_map (sound_bind (sound_ofExcept _) fun _ => sound_ticketsIn repo _)
  | updateIssue repo id title description =>
    obtain ⟨text, rfl⟩ := Option.isSome_iff_exists.1 described
    exact sound_map (sound_updateTicket repo (fun _ _ _ => rfl) fun _ _ _ => rfl)
  | deleteIssue repo id =>
    exact sound_map (sound_sessionOn fun _ _ _ _ _ _ => Store.sound_deleteIssue)
  | closeIssue repo id actor => exact sound_map (sound_closeTicket repo id actor)
  | reopenIssue repo id => exact sound_map (sound_followTransition repo id _ _)
  | removeDependency repo a b =>
    exact sound_map (sound_sessionOn fun _ _ _ _ _ _ => Store.sound_removeDependency)
  | hasDependency repo a b =>
    exact sound_map (sound_sessionOn fun _ _ _ _ _ _ => Store.sound_hasDependency)
  | dependenciesOf repo a =>
    exact sound_map (sound_sessionOn fun _ _ _ _ _ _ => Store.sound_dependenciesOf)
  | dependentsOf repo a =>
    exact sound_map (sound_sessionOn fun _ _ _ _ _ _ => Store.sound_dependentsOf)
  | mergeRequest repo id => exact sound_map (sound_ticket repo id)
  | mergeRequests repo => exact sound_map (sound_tickets repo)
  | mergeRequestsIn repo state =>
    exact sound_map (sound_bind (sound_ofExcept _) fun _ => sound_ticketsIn repo _)
  | updateMergeRequest repo id title description =>
    obtain ⟨text, rfl⟩ := Option.isSome_iff_exists.1 described
    exact sound_map (sound_updateTicket repo (fun _ _ _ => rfl) fun _ _ _ => rfl)
  | deleteMergeRequest repo id =>
    exact sound_map (sound_sessionOn fun _ _ _ _ _ _ => Ticket.sound_delete)
  | closeMergeRequest repo id actor => exact sound_map (sound_closeTicket repo id actor)
  | reopenMergeRequest repo id => exact sound_map (sound_followTransition repo id _ _)
  | merge repo id actor limit => exact sound_map (sound_merge policy repo id actor limit)

/-- Every operation violates exactly what it breaks. -/
theorem constrained [TimeScale τ] (policy : Policy τ) (op : Operation τ)
    (described : op.Described) :
    (op.action policy).Obeys (Terms.constrained op) (fun _ p => p.2 = none) Refused
      ({}, none) := by
  cases h : op.isSound with
  | true => exact (sound_of_isSound policy h described).constrained (not_breaks h) {}
  | false =>
    cases op with
    | registerRepository name path => exact obeys_map.2 (constrained_registerRepository name path _)
    | addDependency repo a b => exact obeys_map.2 (constrained_addDependency repo a b _)
    | createMergeRequest repo actor title source target description =>
      obtain ⟨text, rfl⟩ := Option.isSome_iff_exists.1 described
      exact obeys_map.2 (constrained_createMergeRequest repo actor title source target text)
    | _ => cases h

end Operation

/-! ## Worlds -/

namespace World

variable [TimeScale τ] {directory : Option String} {faults : Error → Prop} {w : World τ}

/-- A call whose tickets have descriptions keeps to its terms from the first request to the last. -/
theorem Attained.constrained (h : w.Attained directory faults) {i : Nat} {c : Call τ}
    (call : w.calls[i]? = some c) (described : c.operation.Described) :
    c.rest.Obeys (Terms.constrained c.operation) (Action.ends (fun _ p => p.2 = none) Refused)
      (c.journal, none) := by
  obtain ⟨u, turns⟩ := h
  induction turns generalizing c with
  | refl => simp [fresh] at call
  | @tail w w' turns turn ih =>
    have orderly : w.Orderly := Attained.orderly ⟨u, turns⟩
    rcases turn.call_cases call with before | ⟨policy, -, hrest, hj⟩ |
      ⟨c, β, r, next, b, before, asks, reply, -, rfl⟩
    · exact ih before described
    · rw [hrest, hj]
      exact Action.obeys_run.1 (Operation.constrained policy c.operation described)
    · have obeys := ih before described
      rw [asks, Program.obeys_step] at obeys
      refine obeys.2 b _ ⟨w.store, w'.store, (orderly.calls i c before).1,
        reply.mono fun _ _ => trivial, rfl, fun e he => ?_⟩
      exact absurd he.symm (Option.some_ne_none e)

/-- **Two constraints and one race.** At every transaction of every call, in every world that
clients attain, the statements violate just what the operation breaks at this point, whatever the
time; and the operation then ends in the refusal that belongs to it. -/
theorem violates_iff_breaks (h : w.Attained directory faults) {i : Nat} {c : Call τ}
    (call : w.calls[i]? = some c) (described : c.operation.Described) {α : Type} {write : Bool}
    {limit : Option τ} {body : Int → Transaction α}
    {next : Except Error α → Program τ (Except Error Answer)}
    (asks : c.rest = .ask (.transact write limit body) next) {now : Int} (hnow : fits now = true) :
    (∀ v, (body now).Violates w.store v ↔ ∃ e, c.operation.Breaks w.store c.journal v e) ∧
      ∀ v e, c.operation.Breaks w.store c.journal v e →
        next (.error (.engine (.violated v))) = .done (.error e) := by
  have follows := (h.orderly.calls i c call).1
  have obeys := h.constrained call described
  rw [asks, Program.obeys_step] at obeys
  obtain ⟨⟨-, exactly⟩, onward⟩ := obeys
  refine ⟨fun v => exactly now w.store v hnow follows, fun v e breaks => ?_⟩
  -- The violation is one of the answers that the call can get, with the refusal noted.
  have violates : (body now).Violates w.store v :=
    (exactly now w.store v hnow follows).2 ⟨e, breaks⟩
  have reply : Reply (fun _ => True) (.transact write limit body)
      (.error (.engine (.violated v))) w.store w.store :=
    .inr (.inr ⟨now, hnow, commit_of_fails violates⟩)
  have ends := onward (.error (.engine (.violated v))) (_, some e)
    ⟨w.store, w.store, follows, reply, rfl, fun e' he' => ⟨v, rfl, Option.some.inj he' ▸ breaks⟩⟩
  generalize next (.error (.engine (.violated v))) = rest at ends
  cases rest with
  | ask r next =>
    exact absurd (Program.obeys_step.1 ends).1.1 (Option.some_ne_none e)
  | done a =>
    have refused := Program.obeys_done.1 ends
    cases a with
    | ok a => exact absurd refused (Option.some_ne_none e)
    | error e' => rw [refused e rfl]

/-- A dependency is added twice, and a merge request to a repository that somebody removes meanwhile
and registers again at another path. -/
def collisions : List (Move Binary64) :=
  [.call (.registerRepository "one" "/one"), .serve 0 50,
    .call (.createIssue "one" (some "ann") "First" (some "")), .serve 1 50,
    .call (.createIssue "one" (some "ann") "Second" (some "")), .serve 2 50,
    .call (.addDependency "one" 1 2), .serve 3 50,
    .call (.addDependency "one" 1 2), .serve 4 50,
    .call (.registerRepository "two" "/two"), .serve 5 50,
    .call (.createMergeRequest "two" (some "ann") "Add it" "feature" "main" (some "")), .serve 6 4,
    .call (.removeRepository "two"), .serve 7 50,
    .call (.registerRepository "two" "/elsewhere"), .serve 8 50,
    .serve 6 50]

/-- The world after this. -/
def collisionsWorld : World Binary64 :=
  (fresh .empty).replay collisions

/-- The world in which a repository is about to be registered under a name that is taken. -/
def takenWorld : World Binary64 :=
  collisionsWorld.call (.registerRepository " One " "/other")

/-- All three cases: two have ended in their refusals, and the third is about to. -/
theorem violates_iff_breaks_of_collisions :
    (collisionsWorld.answered 4).map (·.2) = some (.error (.conflict .dependency)) ∧
    (collisionsWorld.answered 6).map (·.2) = some (.error (.notFound .reference)) ∧
    takenWorld.Attained none (fun _ => False) ∧
    ∃ (c : Call Binary64) (body : Int → Transaction (Int × Repository))
      (next : Except Error (Int × Repository) → Program Binary64 (Except Error Answer)),
      takenWorld.calls[9]? = some c ∧ c.rest = .ask (.transact true none body) next ∧
      (body 0).Violates takenWorld.store .repositoryName ∧
      next (.error (.engine (.violated .repositoryName))) =
        .done (.error (.conflict .repository)) := by
  have reached : collisionsWorld.Reachable none := replay_reachable collisions
  have attained : takenWorld.Attained none fun _ => False :=
    reached.attained.turns (.single (.begin rfl fun _ => rfl))
  have count : collisionsWorld.calls.length = 9 := by decide +kernel
  have begun : takenWorld.calls[9]? = some ⟨0, .registerRepository " One " "/other",
      ((Operation.registerRepository " One " "/other").action ⟨none, none, none⟩).run, {}⟩ :=
    count ▸ List.getElem?_concat_length
  have there : (⟨1, "one", "/one", 0⟩ : Repository) ∈ takenWorld.store.repos.rows := by
    decide +kernel
  have breaks : Operation.Breaks takenWorld.store {}
      (.registerRepository " One " "/other" : Operation Binary64) .repositoryName
      (.conflict .repository) :=
    .nameTaken (by decide +kernel) (by decide +kernel) (by decide +kernel) there
  obtain ⟨exactly, surfaced⟩ := violates_iff_breaks attained begun trivial rfl (rfl : fits 0 = true)
  exact ⟨by decide +kernel, by decide +kernel, attained, _, _, _, begun, rfl,
    (exactly _).2 ⟨_, breaks⟩, surfaced _ _ breaks⟩

/-- The path of a second repository, with a surrogate in it. -/
def lonePath : String := "/" ++ Text.loneByte

/-- The world in which a repository at this path is about to be registered under the same name. -/
def lonePathWorld : World Binary64 :=
  collisionsWorld.call (.registerRepository " One " lonePath)

/-- The transaction that this call asks for. -/
def loneRegistration (now : Int) : Transaction (Int × Repository) := do
  let id ← Store.createRepository now " One " lonePath
  let repo ← Store.repositoryNamed " One "
  pure (id, repo)

/-- A name that is taken is not always told: the path has no UTF-8 form, though it is not empty, and
so the row is refused before any constraint is looked at. -/
theorem not_violated_of_lonePath :
    lonePathWorld.Attained none (fun _ => False) ∧
    (⟨1, "one", "/one", 0⟩ : Repository) ∈ lonePathWorld.store.repos.rows ∧
    Repository.cleanName " One " = .ok "one" ∧ Text.strip lonePath ≠ "" ∧
    ∃ (c : Call Binary64)
      (next : Except Error (Int × Repository) → Program Binary64 (Except Error Answer)),
      lonePathWorld.calls[9]? = some c ∧ c.operation = .registerRepository " One " lonePath ∧
      c.rest = .ask (.transact true none loneRegistration) next ∧
      (loneRegistration 0).Fails lonePathWorld.store (.unwritable ⟨1, 1, 0xdcff⟩) ∧
      (∀ v, ¬(loneRegistration 0).Violates lonePathWorld.store v) ∧
      next (.error (.unwritable ⟨1, 1, 0xdcff⟩)) = .done (.error (.unwritable ⟨1, 1, 0xdcff⟩)) := by
  have reached : collisionsWorld.Reachable none := replay_reachable collisions
  have attained : lonePathWorld.Attained none fun _ => False :=
    reached.attained.turns (.single (.begin rfl fun _ => rfl))
  have count : collisionsWorld.calls.length = 9 := by decide +kernel
  have begun : lonePathWorld.calls[9]? = some ⟨0, .registerRepository " One " lonePath,
      ((Operation.registerRepository " One " lonePath).action ⟨none, none, none⟩).run, {}⟩ :=
    count ▸ List.getElem?_concat_length
  have fails : (loneRegistration 0).Fails lonePathWorld.store (.unwritable ⟨1, 1, 0xdcff⟩) := by
    unfold Fails
    decide +kernel
  have sound (v : Violation) : ¬(loneRegistration 0).Violates lonePathWorld.store v := by
    intro violates
    cases Except.error.inj ((fails : _ = _).symm.trans violates)
  exact ⟨attained, by decide +kernel, by decide +kernel, by decide +kernel, _, _, begun, rfl, rfl,
    fails, sound, rfl⟩

end World

end Forge
