import Forge.Git.Tree
import Forge.Proofs.Program
import Forge.Proofs.Validation.Rows

/-!
# Operations keep rows validated

Every operation checks what it stores, and asks a working tree only about branches that have been
checked, by itself or by the operation that has stored them. Where git is the working tree, these
branches are words of its command lines, and so git is given none that it can misread. All this is
one set of terms, `Terms.checked`, which every operation keeps to, as it is and with its working tree
carried out by git.
-/

namespace Forge

open Transaction

variable {τ α β : Type}

/-! ## Terms -/

/-- The branches that a call on a working tree is about. -/
def TreeCall.branches : TreeCall τ α → List String
  | .branchExists branch => [branch]
  | .contains branch ancestor _ => [branch, ancestor]
  | .checkout branch _ => [branch]
  | .merge branch _ _ _ => [branch]
  | .abortMerge => []

/-- The arguments that git is run with, and the branches that are, or end, one of them. -/
inductive Git.Arguments : List String → List String → Prop
  | exists (branch : String) :
      Arguments ["show-ref", "--verify", "--quiet", "refs/heads/" ++ branch] [branch]
  | contains (branch ancestor : String) :
      Arguments ["merge-base", "--is-ancestor", ancestor, branch] [branch, ancestor]
  | checkout (branch : String) : Arguments ["checkout", "--quiet", branch] [branch]
  | merge (message branch : String) :
      Arguments ["merge", "--no-ff", "--no-edit", "-m", message, branch] [branch]
  | commit : Arguments ["rev-parse", "HEAD"] []
  | abort : Arguments ["merge", "--abort"] []

/-- The command is run as git, on branches that it cannot misread. -/
def ProcessCall.Harmless (call : ProcessCall τ) : Prop :=
  ∃ command arguments branches, call.arguments = command :: arguments ∧
    Git.Arguments arguments branches ∧ ∀ branch ∈ branches, Branch.Harmless branch

/-- What may be asked: transactions that keep stores validated, calls on a working tree about valid
branches, and harmless runs of git. -/
def Request.Checked : {β : Type} → Request τ β → Prop
  | _, .transact _ _ body =>
    ∀ now a s s', s.Validated → (body now).Returns s a s' → s'.Validated
  | _, .tree call => ∀ branch ∈ call.branches, Branch.isValid branch = true
  | _, .process call => call.Harmless
  | _, _ => True

/-- What is told by a transaction is told by a validated store. -/
def Request.Told : {β : Type} → Request τ β → β → Prop
  | _, .transact _ _ body, b =>
    ∀ a, b = .ok a → ∃ now s s', s.Validated ∧ (body now).Returns s a s'
  | _, _, _ => True

/-- The terms of operations on validated stores. -/
def Terms.checked : Terms τ Unit where
  may r _ := r.Checked
  answers r _ b _ := r.Told b

/-- A transaction may be asked for if it leaves tickets as they would be taken in. -/
theorem Request.checked_transact {write : Bool} {limit : Option τ} {body : Int → Transaction α}
    (h : ∀ now a s s', s.Validated → (body now).Returns s a s' → s'.Validated) :
    (Request.transact write limit body).Checked :=
  h

/-- A working tree may be asked about valid branches only. -/
theorem Request.checked_tree {call : TreeCall τ α}
    (h : ∀ branch ∈ call.branches, Branch.isValid branch = true) : (Request.tree call).Checked :=
  h

/-- The action keeps to the terms, and its value is as given. -/
def Action.Checked (P : α → Prop) (x : Action τ α) : Prop :=
  x.Obeys Terms.checked (fun a _ => P a) (fun _ _ => True) ()

namespace Action

variable {P : α → Prop} {Q : β → Prop}

theorem checked_pure {a : α} (h : P a) : (pure a : Action τ α).Checked P :=
  obeys_pure.2 h

theorem checked_throw (e : Error) : (throw e : Action τ α).Checked P :=
  obeys_throw.2 trivial

/-- The second part may rely on what was checked of the value of the first. -/
theorem checked_bind {x : Action τ α} {k : α → Action τ β} (hx : x.Checked P)
    (hk : ∀ a, P a → (k a).Checked Q) : (x >>= k).Checked Q :=
  obeys_bind.2 (Obeys.mono hx (fun a _ h => hk a h) fun _ _ _ => trivial)

/-- The second action needs nothing of the value of the first. -/
theorem checked_then {x : Action τ α} {k : α → Action τ β} (hx : x.Checked fun _ => True)
    (hk : ∀ a, (k a).Checked Q) : (x >>= k).Checked Q :=
  checked_bind hx fun a _ => hk a

theorem checked_map {x : Action τ α} {f : α → β} (hx : x.Checked fun _ => True) :
    (f <$> x).Checked fun _ => True :=
  obeys_map.2 hx

/-- What has passed a check is known to have passed it. -/
theorem checked_ofExcept (x : Except Error α) : (ofExcept x : Action τ α).Checked (x = .ok ·) := by
  apply obeys_ofExcept.2
  cases x with
  | ok a => rfl
  | error e => trivial

theorem checked_ask {r : Request τ α} (h : r.Checked) : (ask r).Checked fun _ => True :=
  obeys_ask.2 ⟨h, fun _ _ _ => trivial⟩

/-- What a request is told of merge requests may be relied on. -/
theorem checked_told {r : Request τ (Except Error α)} (h : r.Checked) :
    (demand r).Checked fun a => r.Told (.ok a) := by
  apply obeys_demand.2
  refine ⟨h, fun b _ told => ?_⟩
  cases b with
  | ok a => exact told
  | error e => trivial

theorem checked_demand {r : Request τ (Except Error α)} (h : r.Checked) :
    (demand r).Checked fun _ => True := by
  apply obeys_demand.2
  refine ⟨h, fun b _ _ => ?_⟩
  cases b <;> trivial

theorem checked_attempt {r : Request τ (Except Error α)} (h : r.Checked) :
    (attempt r).Checked fun _ => True :=
  obeys_attempt.2 ⟨h, fun _ _ _ => trivial⟩

theorem checked_log (level : Level) (part : Part) (text : String) :
    (log level part text : Action τ Unit).Checked fun _ => True :=
  obeys_log.2 ⟨trivial, fun _ _ _ => trivial⟩

theorem checked_clock : (clock : Action τ τ).Checked fun _ => True :=
  obeys_clock.2 ⟨trivial, fun _ _ _ => trivial⟩

/-- To give a lock back checks nothing. -/
theorem checked_withCleanup {x : Action τ α} {r : Request τ Unit} (hx : x.Checked P)
    (h : r.Checked) : (withCleanup x (Program.request r)).Checked P := by
  apply obeys_withCleanup.2
  refine Obeys.mono hx (fun a _ ha => ?_) fun e _ _ => ?_
  · exact Program.obeys_request.2 ⟨h, fun _ _ _ => ha⟩
  · exact Program.obeys_request.2 ⟨h, fun _ _ _ => trivial⟩

end Action

/-! ## Transactions of operations -/

namespace Workflow

open Forge.Action Forge.Request

theorem checked_session {write : Bool} {body : Int → Transaction α}
    (h : ∀ now a s s', s.Validated → (body now).Returns s a s' → s'.Validated) :
    (session write body : Action τ α).Checked fun _ => True := by
  refine checked_then (checked_attempt (checked_transact h)) fun b => ?_
  cases b with
  | ok a => exact checked_pure trivial
  | error e => exact checked_throw _

/-- The same on a repository that is looked for first. -/
theorem checked_sessionOn {write : Bool} {repo : String} {body : Int → Repository → Transaction α}
    (h : ∀ now r a s s', s.Validated → (body now r).Returns s a s' → s'.Validated) :
    (sessionOn write repo body : Action τ α).Checked fun _ => True := by
  refine checked_session fun now a s s' hs ha => ?_
  obtain ⟨r, s₁, hr, hb⟩ := returns_bind.1 ha
  obtain ⟨-, -, -, -, rfl⟩ := Store.returns_repositoryNamed.1 hr
  exact h now r a _ s' hs hb

/-- A transaction that only reads leaves all tickets as they are. -/
theorem checked_reading {write : Bool} {repo : String} {body : Int → Repository → Transaction α}
    (h : ∀ now r a s s', (body now r).Returns s a s' → s' = s) :
    (sessionOn write repo body : Action τ α).Checked fun _ => True := by
  refine checked_sessionOn fun now r a s s' hs ha => ?_
  rw [h now r a s s' ha]
  exact hs

section

variable {ρ ε : Type} [Ticket ρ ε]

/-- A change of a ticket after which it is read back. -/
theorem checked_thenGet {write : Bool} {repo : String} {change : Int → Repository → Transaction β}
    (ident : β → Int)
    (h : ∀ now r b s s', s.Validated → (change now r).Returns s b s' → s'.Validated) :
    (sessionOn write repo fun now r => do
      let b ← change now r
      Ticket.get ρ r.id (ident b) : Action τ ε).Checked fun _ => True := by
  refine checked_sessionOn fun now r a s s' hs ha => ?_
  obtain ⟨b, s₁, hb, hg⟩ := returns_bind.1 ha
  obtain ⟨-, -, -, rfl, -⟩ := Ticket.returns_get.1 hg
  exact h now r b s _ hs hb

theorem checked_ticket (repo : String) (id : Int) :
    (ticket ρ repo id : Action τ ε).Checked fun _ => True :=
  checked_reading fun _ _ _ _ _ h => (Ticket.returns_get.1 h).2.2.2.1

theorem checked_tickets (repo : String) :
    (tickets ρ repo : Action τ (List ε)).Checked fun _ => True :=
  checked_reading fun _ _ _ _ _ h => Ticket.listAll_reads h

theorem checked_ticketsIn (repo state : String) :
    (ticketsIn ρ repo state : Action τ (List ε)).Checked fun _ => True :=
  checked_reading fun _ _ _ _ _ h => Ticket.listInState_reads h

theorem checked_logTransition (kind : Kind) (id : Int) (name : String) (repoId : Int)
    (actor : Option String) :
    (Merge.logTransition kind id name repoId actor : Action τ Unit).Checked fun _ => True := by
  unfold Merge.logTransition
  split
  · exact checked_log ..
  · exact checked_pure trivial

theorem checked_followTransition {repo name : String} {id : Int} {actor : Option String}
    (h : ∀ now r e s s', s.Validated →
      (Lifecycle.apply ρ now r id name actor).Returns s e s' → s'.Validated) :
    (followTransition ρ repo id name actor : Action τ ε).Checked fun _ => True := by
  refine checked_then (checked_sessionOn fun now r p s s' hs hp => ?_) fun p =>
    checked_then (checked_logTransition ..) fun _ => checked_pure trivial
  obtain ⟨e, s₁, he, hp⟩ := returns_bind.1 hp
  obtain ⟨-, rfl⟩ := returns_pure.1 hp
  exact h now r.id e s _ hs he

/-- The actor of a closing is trimmed before the transaction begins. -/
theorem checked_closeTicket {repo : String} {id : Int} {actor : Option String}
    (h : ∀ closer, Text.Trimmed closer → ∀ now r e s s', s.Validated →
      (Lifecycle.apply ρ now r id "close" (some closer)).Returns s e s' → s'.Validated) :
    (closeTicket ρ repo id actor : Action τ ε).Checked fun _ => True :=
  checked_bind (checked_ofExcept _) fun closer hc =>
    checked_followTransition (h closer (trimmed_of_cleanActor hc))

end

theorem checked_registerRepository (name path : String) :
    (Workflow.registerRepository name path : Action τ Repository).Checked fun _ => True := by
  refine checked_then (checked_session fun now p s s' hs hp => ?_) fun p => ?_
  · obtain ⟨id, s₁, hc, hrest⟩ := returns_bind.1 hp
    obtain ⟨r, s₂, hn, hlast⟩ := returns_bind.1 hrest
    obtain ⟨-, -, -, -, rfl⟩ := Store.returns_repositoryNamed.1 hn
    obtain ⟨-, rfl⟩ := returns_pure.1 hlast
    exact hs.createRepository hc
  · exact checked_then (checked_log ..) fun _ => checked_pure trivial

theorem checked_repository (name : String) :
    (Workflow.repository name : Action τ Repository).Checked fun _ => True := by
  refine checked_session fun now r s s' hs hr => ?_
  obtain ⟨-, -, -, -, rfl⟩ := Store.returns_repositoryNamed.1 hr
  exact hs

theorem checked_createIssue (repo : String) (actor : Option String) (title : String)
    (description : Option String) :
    (Workflow.createIssue repo actor title description : Action τ Issue).Checked fun _ => True :=
  checked_bind (checked_ofExcept _) fun _ ha =>
    checked_thenGet _ fun _ _ _ _ _ hs h => hs.createIssue (trimmed_of_cleanActor ha) h

theorem checked_requireBranch (side : Side) {branch : String}
    (valid : Branch.isValid branch = true) :
    (requireBranch side branch : Action τ Unit).Checked fun _ => True := by
  refine checked_then (checked_demand (checked_tree ?_)) fun there => ?_
  · exact List.forall_mem_singleton.2 valid
  · split
    · exact checked_pure trivial
    · exact checked_throw _

/-- A branch name that passes its check is valid. -/
theorem isValid_of_checkBranchName {side : Side} {branch : String} {u : Unit}
    (h : checkBranchName side branch = .ok u) : Branch.isValid branch = true := by
  unfold checkBranchName at h
  split at h
  · assumption
  · cases h

/-- Both branches are checked, and to be different ones, before the working tree is asked about
them. -/
theorem checked_createMergeRequest (repo : String) (actor : Option String)
    (title source target : String) (description : Option String) :
    (Workflow.createMergeRequest repo actor title source target description :
      Action τ MergeRequest).Checked fun _ => True := by
  refine checked_bind (checked_ofExcept _) fun author ha =>
    checked_bind (checked_ofExcept _) fun _ hsource =>
    checked_bind (checked_ofExcept _) fun _ htarget => ?_
  have signed := trimmed_of_cleanActor ha
  have first := isValid_of_checkBranchName hsource
  have second := isValid_of_checkBranchName htarget
  split
  · exact obeys_bind.2 (obeys_throw.2 trivial)
  · rename_i distinct
    refine checked_then (checked_repository repo) fun r =>
      checked_then (checked_ask (r := .openTree r) trivial) fun _ =>
      checked_then (checked_requireBranch .source first) fun _ =>
      checked_then (checked_requireBranch .target second) fun _ =>
      checked_session fun now m s s' hs hm => ?_
    obtain ⟨id, s₁, hc, hg⟩ := returns_bind.1 hm
    obtain ⟨-, -, -, rfl, -⟩ := Ticket.returns_get.1 hg
    exact hs.createMergeRequest signed distinct first second hc

end Workflow

/-! ## Merging -/

namespace Merge

open Forge.Action Forge.Request

variable {request : MergeRequest} {actor : String}

theorem checked_unrecorded (repo : Repository) (request : MergeRequest) (commit reason : String) :
    (unrecorded repo request commit reason : Action τ α).Checked fun _ => True :=
  checked_then (checked_log ..) fun _ => checked_throw _

theorem checked_landed (h : request.Validated) :
    (landed request : Action τ Bool).Checked fun _ => True := by
  refine checked_then (checked_attempt (checked_tree ?_)) fun b => ?_
  · exact List.forall_mem_cons.2 ⟨h.target, List.forall_mem_singleton.2 h.source⟩
  · cases b with
    | ok there => exact checked_pure trivial
    | error e =>
      dsimp only
      split
      · exact checked_then (checked_log ..) fun _ => checked_pure trivial
      · exact checked_throw _

theorem checked_abort (request : MergeRequest) :
    (abort request : Action τ Unit).Checked fun _ => True := by
  refine checked_then (checked_attempt (checked_tree (List.forall_mem_nil _))) fun b => ?_
  cases b with
  | ok u => exact checked_pure trivial
  | error e =>
    dsimp only
    split
    · exact checked_log ..
    · exact checked_throw _

variable [TimeScale τ]

theorem checked_remaining (deadline : Deadline τ) :
    (remaining deadline).Checked fun _ => True :=
  checked_then checked_clock fun _ => checked_pure trivial

/-- The branches that are asked about are those of the merge request that has been read. -/
theorem checked_mergeBranches (repo : Repository) (h : request.Validated) (actor : String)
    (deadline : Deadline τ) :
    (mergeBranches repo request actor deadline).Checked fun _ => True := by
  have source : ∀ branch ∈ [request.sourceBranch], Branch.isValid branch = true :=
    List.forall_mem_singleton.2 h.source
  have target : ∀ branch ∈ [request.targetBranch], Branch.isValid branch = true :=
    List.forall_mem_singleton.2 h.target
  refine checked_then (checked_log ..) fun _ => checked_then (checked_remaining deadline) fun _ =>
    checked_then (checked_demand (checked_tree target)) fun _ =>
    checked_then (checked_remaining deadline) fun _ =>
    checked_then (checked_demand (checked_tree (List.forall_mem_cons.2 ⟨h.target, source⟩)))
      fun upToDate =>
    checked_then (checked_remaining deadline) fun _ =>
    checked_then (checked_attempt (checked_tree source)) fun b => ?_
  cases b with
  | ok commit => exact checked_pure trivial
  | error e =>
    have ends (there : Bool) : (if there = true then unrecorded repo request ""
        ("git reported a failure after merging: " ++ e.message)
        else abort request >>= fun _ => throw e : Action τ String).Checked fun _ => True := by
      split
      · exact checked_unrecorded ..
      · exact checked_then (checked_abort request) fun _ => checked_throw _
    dsimp only
    split
    · split
      · exact ends false
      · exact checked_then (checked_landed h) ends
    · exact checked_throw _

/-- Who merges is trimmed when it is written. -/
theorem checked_record (repo : Repository) (signed : Text.Trimmed actor) (request : MergeRequest)
    (commit : String) (deadline : Deadline τ) :
    (record repo request actor commit deadline).Checked fun _ => True := by
  refine checked_then checked_clock fun now => ?_
  split
  · exact checked_unrecorded ..
  · refine checked_then (checked_remaining deadline) fun limit =>
      checked_then (checked_attempt (checked_transact ?_)) fun b => ?_
    · intro now m s s' hs hm
      exact hs.merge signed hm
    · split
      · exact checked_then (Workflow.checked_logTransition ..) fun _ =>
          checked_then (checked_log ..) fun _ => checked_pure trivial
      · split
        · exact checked_unrecorded ..
        · exact checked_unrecorded ..
        · exact checked_unrecorded ..
        · exact checked_throw _

/-- The branches of a merge are those of the merge request that was read under the lock. -/
theorem checked_underLock (repo : Repository) (id : Int) (signed : Text.Trimmed actor)
    (deadline : Deadline τ) : (underLock repo id actor deadline).Checked fun _ => True := by
  refine checked_then (checked_remaining deadline) fun limit =>
    checked_bind (checked_told (checked_transact ?_)) fun request told => ?_
  · intro now m s s' hs hm
    rw [(Ticket.returns_get.1 hm).2.2.2.1]
    exact hs
  · obtain ⟨now, s, s', hs, got⟩ := told request rfl
    have h := hs.got got
    split
    · refine checked_then checked_clock fun now => ?_
      split
      · exact checked_throw _
      · exact checked_then (checked_mergeBranches repo h actor deadline) fun commit =>
          checked_record repo signed request commit deadline
    · exact checked_throw _

theorem checked_hold (directory : Option String) (repoId : Int) (limit : Option τ)
    {body : Action τ α} (h : body.Checked fun _ => True) :
    (WorkingTree.hold directory repoId limit body).Checked fun _ => True := by
  refine checked_then checked_clock fun now =>
    checked_then (checked_demand (r := .takeLock repoId _) trivial) fun taken => ?_
  split
  · refine checked_withCleanup ?_ trivial
    unfold WorkingTree.holdFile
    split
    · exact h
    · refine checked_then (checked_demand (r := .takeFile repoId _) trivial) fun taken => ?_
      split
      · exact checked_withCleanup (checked_then (checked_log ..) fun _ => h) trivial
      · exact checked_throw _
  · exact checked_throw _

theorem checked_run (directory : Option String) (lockLimit : Option τ) (repo : Repository)
    (id : Int) (signed : Text.Trimmed actor) (limit : Option τ) :
    (run directory lockLimit repo id actor limit).Checked fun _ => True :=
  checked_then checked_clock fun _ => checked_then checked_clock fun _ =>
    checked_hold _ _ _ (checked_underLock repo id signed _)

end Merge

open Forge.Action in
theorem Workflow.checked_merge [TimeScale τ] (policy : Policy τ) (repo : String) (id : Int)
    (actor : Option String) (limit : Option τ) :
    (Workflow.merge policy repo id actor limit).Checked fun _ => True := by
  refine checked_bind (checked_ofExcept _) fun merger ha => checked_then (checked_repository repo)
    fun r => checked_then (checked_ask (r := .openTree r) trivial) fun _ =>
    checked_then (obeys_lift.2 ?_) fun outcome => ?_
  · exact Merge.checked_run policy.lockDirectory policy.lockLimit r id
      (trimmed_of_cleanActor ha) (limit <|> policy.mergeLimit)
  · cases outcome with
    | ok merged => exact checked_pure trivial
    | error e => exact checked_throw _

/-! ## All operations -/

open Workflow Forge.Action in
/-- Every operation keeps to the terms. -/
theorem Operation.checked [TimeScale τ] (policy : Policy τ) (op : Operation τ) :
    (op.action policy).Checked fun _ => True := by
  cases op with
  | registerRepository name path => exact checked_map (checked_registerRepository name path)
  | repository name => exact checked_map (checked_repository name)
  | repositories =>
    refine checked_map (checked_session fun now rs s s' hs h => ?_)
    obtain ⟨-, -, rfl⟩ := Store.returns_listRepositories.1 h
    exact hs
  | removeRepository name =>
    exact checked_map (checked_session fun _ _ _ _ hs h => hs.deleteRepository h)
  | createIssue repo actor title description => exact checked_map (checked_createIssue ..)
  | issue repo id => exact checked_map (checked_ticket repo id)
  | issues repo => exact checked_map (checked_tickets repo)
  | issuesIn repo state =>
    exact checked_map (checked_bind (checked_ofExcept _) fun _ _ => checked_ticketsIn repo _)
  | updateIssue repo id title description =>
    exact checked_map (checked_thenGet (fun _ => id) fun _ _ _ _ _ hs h => hs.updateIssue h)
  | deleteIssue repo id =>
    exact checked_map (checked_sessionOn fun _ _ _ _ _ hs h => hs.deleteIssue h)
  | closeIssue repo id actor =>
    exact checked_map (checked_closeTicket fun _ signed _ _ _ _ _ hs h => hs.closeIssue signed h)
  | reopenIssue repo id =>
    exact checked_map (checked_followTransition fun _ _ _ _ _ hs h => hs.reopenIssue h)
  | addDependency repo a b =>
    refine checked_map (checked_then
      (checked_sessionOn fun _ _ _ _ _ hs h => hs.addDependency h) fun _ => ?_)
    exact checked_then (checked_log ..) fun _ => checked_pure trivial
  | removeDependency repo a b =>
    exact checked_map (checked_sessionOn fun _ _ _ _ _ hs h => hs.removeDependency h)
  | hasDependency repo a b =>
    exact checked_map (checked_reading fun _ _ _ _ _ h => Store.hasDependency_reads h)
  | dependenciesOf repo a =>
    exact checked_map (checked_reading fun _ _ _ _ _ h => Store.dependenciesOf_reads h)
  | dependentsOf repo a =>
    exact checked_map (checked_reading fun _ _ _ _ _ h => Store.dependentsOf_reads h)
  | createMergeRequest repo actor title source target description =>
    exact checked_map (checked_createMergeRequest ..)
  | mergeRequest repo id => exact checked_map (checked_ticket repo id)
  | mergeRequests repo => exact checked_map (checked_tickets repo)
  | mergeRequestsIn repo state =>
    exact checked_map (checked_bind (checked_ofExcept _) fun _ _ => checked_ticketsIn repo _)
  | updateMergeRequest repo id title description =>
    exact checked_map
      (checked_thenGet (fun _ => id) fun _ _ _ _ _ hs h => hs.updateMergeRequest h)
  | deleteMergeRequest repo id =>
    exact checked_map (checked_sessionOn fun _ _ _ _ _ hs h => hs.deleteMergeRequest h)
  | closeMergeRequest repo id actor =>
    exact checked_map (checked_closeTicket fun _ signed _ _ _ _ _ hs h =>
      hs.closeMergeRequest signed h)
  | reopenMergeRequest repo id =>
    exact checked_map (checked_followTransition fun _ _ _ _ _ hs h => hs.reopenMergeRequest h)
  | merge repo id actor limit => exact checked_map (checked_merge ..)

/-! ## Working trees under git -/

namespace Git

open Program

theorem obeys_note (level : Level) (text : String) :
    (note level text : Program τ Unit).Obeys Terms.checked (fun _ _ => True) () :=
  obeys_request.2 ⟨trivial, fun _ _ _ => trivial⟩

/-- What git is run with is one of the known forms, with harmless names for branches. -/
theorem obeys_runGit {c : Checkout} {arguments branches : List String}
    (shape : Arguments arguments branches) (harmless : ∀ b ∈ branches, Branch.Harmless b)
    (limit : Option τ) (settings : Option (List (String × String))) :
    (runGit c arguments limit settings).Obeys Terms.checked (fun _ _ => True) () := by
  refine obeys_bind.2 (obeys_request.2 ⟨⟨c.command, arguments, branches, rfl, shape, harmless⟩, ?_⟩)
  intro outcome _ _
  cases outcome with
  | finished status out err =>
    dsimp only
    split <;> exact obeys_done.2 trivial
  | timedOut => exact obeys_done.2 trivial
  | unstartable error => exact obeys_done.2 trivial
  | rejected fault => exact obeys_done.2 trivial

variable [TimeScale τ]

theorem obeys_perform {c : Checkout} {deed : String} {arguments branches : List String}
    (shape : Arguments arguments branches) (harmless : ∀ b ∈ branches, Branch.Harmless b)
    (limit : Option τ) (settings : Option (List (String × String))) :
    (perform c deed arguments limit settings).Obeys Terms.checked (fun _ _ => True) () := by
  refine obeys_bind.2 ((obeys_runGit shape harmless limit settings).mono fun r _ _ => ?_)
  cases r <;> exact obeys_done.2 trivial

theorem obeys_question {c : Checkout} {deed : String} {arguments branches : List String}
    (shape : Arguments arguments branches) (harmless : ∀ b ∈ branches, Branch.Harmless b)
    (limit : Option τ) :
    (question c deed arguments limit).Obeys Terms.checked (fun _ _ => True) () := by
  refine obeys_bind.2 ((obeys_runGit shape harmless limit none).mono fun r _ _ => ?_)
  split
  · exact obeys_done.2 trivial
  · split <;> exact obeys_done.2 trivial
  · exact obeys_done.2 trivial

/-- To read the id of a commit names no branch. -/
theorem obeys_readCommit (c : Checkout) (branch : String) :
    (readCommit c branch : Program τ _).Obeys Terms.checked (fun _ _ => True) () := by
  refine obeys_bind.2 ((obeys_perform .commit (List.forall_mem_nil _) _ _).mono fun r _ _ => ?_)
  cases r with
  | ok out => exact obeys_bind.2 ((obeys_note ..).mono fun _ _ _ => obeys_done.2 trivial)
  | error e =>
    dsimp only
    split
    · exact obeys_bind.2 ((obeys_note ..).mono fun _ _ _ => obeys_done.2 trivial)
    · exact obeys_done.2 trivial

/-- A call about valid branches is carried out by harmless runs of git. -/
theorem obeys_carryOut (c : Checkout) {call : TreeCall τ α}
    (valid : ∀ branch ∈ call.branches, Branch.isValid branch = true) :
    (carryOut c call).Obeys Terms.checked (fun _ _ => True) () := by
  have harmless : ∀ branch ∈ call.branches, Branch.Harmless branch := fun branch h =>
    Branch.harmless_of_isValid (valid branch h)
  cases call with
  | branchExists branch => exact obeys_question (.exists branch) harmless _
  | contains branch ancestor limit => exact obeys_question (.contains branch ancestor) harmless _
  | checkout branch limit =>
    refine obeys_bind.2 ((obeys_perform (.checkout branch) harmless _ _).mono fun r _ _ => ?_)
    exact obeys_done.2 trivial
  | merge branch message author limit =>
    refine obeys_bind.2 ((obeys_perform (.merge message branch) harmless _ _).mono fun r _ _ => ?_)
    cases r with
    | ok out => exact obeys_readCommit c branch
    | error e => exact obeys_done.2 trivial
  | abortMerge =>
    refine obeys_bind.2 ((obeys_perform .abort harmless _ _).mono fun r _ _ => ?_)
    exact obeys_done.2 trivial

/-- A program that keeps to the terms does so with its working tree carried out by git. -/
theorem obeys_carryOutAll (c : Checkout) {p : Program τ α} {post : α → Unit → Prop}
    (h : p.Obeys Terms.checked post ()) : (carryOutAll c p).Obeys Terms.checked post () := by
  induction p generalizing c with
  | done a => exact h
  | ask r next ih =>
    obtain ⟨may, rest⟩ := obeys_step.1 h
    cases r with
    | openTree repo => exact ih () _ (rest () () trivial)
    | tree call =>
      refine obeys_bind.2 ((obeys_carryOut c may).mono fun b _ _ => ?_)
      exact ih b c (rest b () trivial)
    | _ => exact obeys_step.2 ⟨may, fun b _ told => ih b c (rest b () told)⟩

end Git

end Forge
