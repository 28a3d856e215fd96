import Forge.Proofs.Frame.Deed
import Forge.Proofs.Permanence.Commits
import Forge.Proofs.Turn

/-!
# The course of an operation

Whatever it is answered, an operation makes at most one transaction that writes and returns, and
that does what `Operation.Does` says; all its other requests leave the store as it is. It ends in a
value exactly after its transaction has returned, and it holds no lock at its end. The terms of this
are `Terms.course`, along the journal of the call, and `Operation.obeys_course` is the result; a
working tree may fail with any error meanwhile.
-/

namespace Forge

open Transaction Ticket Forge.Action

variable {τ : Type}

/-! ## Terms -/

/-- The store that is seen is a later one than all that were seen before. -/
structure Store.Follows (j : Journal) (s : Store) : Prop where
  wellFormed : s.WellFormed
  related : s.Related
  evolves : ∀ p ∈ j.commits, p.2.Evolves s

/-- The writing transaction of an operation has an effect, and it is what the operation does. -/
def Operation.Performs {α : Type} (op : Operation τ) (j : Journal) (body : Int → Transaction α) :
    Prop :=
  ∀ now a s s', s.Follows j → (body now).Returns s a s' →
    Effect now s s' ∧ ∃ r, op.Deed now r s s'

/-- What a call of an operation may ask after what it has done. -/
def Request.InCourse (op : Operation τ) (j : Journal) : {β : Type} → Request τ β → Prop
  | _, .transact false _ body => ∀ now a s s', (body now).Returns s a s' → s' = s
  | _, .transact true _ body => j.wrote = false ∧ op.Performs j body
  | _, .openTree _ => j.locked = false ∧ j.filed = false
  | _, .takeLock repoId _ => j.locked = false ∧ ∃ repo, j.opened = some repo ∧ repo.id = repoId
  | _, .takeFile repoId _ => j.filed = false ∧ ∃ repo, j.opened = some repo ∧ repo.id = repoId
  | _, .dropLock repoId => j.locked = true ∧ ∃ repo, j.opened = some repo ∧ repo.id = repoId
  | _, .dropFile repoId => j.filed = true ∧ ∃ repo, j.opened = some repo ∧ repo.id = repoId
  | _, _ => True

/-- The terms of a call of an operation: its journal follows whatever answers are given. -/
def Terms.course (op : Operation τ) : Terms τ Journal where
  may r j := r.InCourse op j
  answers r j b j' := ∃ s s', s.Follows j ∧ Reply (fun _ => True) r b s s' ∧ j' = j.note r b s s'

/-- Nothing has changed between two journals of one call but that it has seen more, and whether it
has written. -/
structure Journal.Passes (wrote : Bool) (j j' : Journal) : Prop where
  wrote : j'.wrote = wrote
  locked : j'.locked = j.locked
  filed : j'.filed = j.filed
  opened : j'.opened = j.opened
  commits : ∀ p ∈ j.commits, p ∈ j'.commits

theorem Journal.Passes.refl (j : Journal) : j.Passes j.wrote j :=
  ⟨rfl, rfl, rfl, rfl, fun _ hp => hp⟩

/-- What a call has written adds up along its journal. -/
theorem Journal.Passes.trans {wrote wrote' : Bool} {j j' j'' : Journal} (h : j.Passes wrote j')
    (h' : j'.Passes wrote' j'') : j.Passes wrote' j'' :=
  ⟨h'.wrote, h'.locked.trans h.locked, h'.filed.trans h.filed, h'.opened.trans h.opened,
    fun p hp => h'.commits p (h.commits p hp)⟩

/-- A call holds no lock, and has written or not. -/
structure Journal.Closed (wrote : Bool) (j : Journal) : Prop where
  wrote : j.wrote = wrote
  locked : j.locked = false
  filed : j.filed = false

theorem Journal.Closed.passes {wrote wrote' : Bool} {j j' : Journal} (h : j.Closed wrote)
    (hj : j.Passes wrote' j') : j'.Closed wrote' :=
  ⟨hj.wrote, hj.locked.trans h.locked, hj.filed.trans h.filed⟩

theorem Journal.Closed.looked {wrote : Bool} {j j' : Journal} (h : j.Closed wrote)
    (hj : j.Passes j.wrote j') : j'.Closed wrote :=
  h.passes (h.wrote ▸ hj)

/-! ## Actions that only look -/

/-- A request that changes neither the store nor what the call holds or has open. -/
def Request.Looks : {β : Type} → Request τ β → Prop
  | _, .transact false _ body => ∀ now a s s', (body now).Returns s a s' → s' = s
  | _, .clock | _, .tree _ | _, .process _ | _, .log _ => True
  | _, _ => False

/-- A request that only looks may be made in the course of every operation. -/
theorem Request.Looks.inCourse {β : Type} {r : Request τ β} (h : r.Looks) (op : Operation τ)
    (j : Journal) : r.InCourse op j := by
  cases r with
  | transact write limit body =>
    cases write with
    | false => exact h
    | true => exact h.elim
  | clock | tree | process | log => trivial
  | _ => exact h.elim

/-- It adds nothing to what the call has written. -/
theorem Request.Looks.passes {β : Type} {r : Request τ β} (h : r.Looks) (j : Journal) (b : β)
    (s s' : Store) : j.Passes j.wrote (j.note r b s s') := by
  cases r with
  | transact write limit body =>
    cases write with
    | false => exact { Journal.Passes.refl j with commits := fun _ hp => List.mem_cons_of_mem _ hp }
    | true => exact h.elim
  | tree call =>
    obtain ⟨out, before, merges, after, heq⟩ := j.noteTree_eq call b
    rw [show j.note (.tree call) b s s' = _ from heq]
    exact { Journal.Passes.refl j with }
  | log record => exact { Journal.Passes.refl j with }
  | clock | process => exact .refl j
  | _ => exact h.elim

namespace Action

variable {α β : Type} {ok : α → Prop} {ok' : β → Prop} {op : Operation τ} {j : Journal}

/-- The action only looks, whether it ends in a value, of which `ok` holds, or in an error. -/
structure Looks (ok : α → Prop) (x : Action τ α) : Prop where
  obeys (op : Operation τ) (j : Journal) : x.Obeys (Terms.course op)
    (fun a j' => ok a ∧ j.Passes j.wrote j') (fun _ j' => j.Passes j.wrote j') j

theorem looks_pure {a : α} (h : ok a) : (pure a : Action τ α).Looks ok :=
  ⟨fun _ j => obeys_pure.2 ⟨h, .refl j⟩⟩

theorem looks_throw (e : Error) : (throw e : Action τ α).Looks ok :=
  ⟨fun _ j => obeys_throw.2 (.refl j)⟩

/-- Two parts that only look only look together. -/
theorem looks_bind {x : Action τ α} {k : α → Action τ β} (hx : x.Looks ok)
    (hk : ∀ a, ok a → (k a).Looks ok') : (x >>= k).Looks ok' := by
  refine ⟨fun op j => ?_⟩
  refine obeys_bind.2 ((hx.obeys op j).mono (fun a j' ⟨ha, hj⟩ => ?_) fun _ _ h => h)
  refine ((hk a ha).obeys op j').mono (fun b j'' ⟨hb, hj'⟩ => ⟨hb, ?_⟩) fun e j'' hj' => ?_
  · exact hj.wrote ▸ hj.trans hj'
  · exact hj.wrote ▸ hj.trans hj'

/-- What comes after a look starts from a journal that has only seen more. -/
theorem closed_after {x : Action τ α} {k : α → Action τ β} {okay : β → Journal → Prop}
    (hj : j.Closed false) (hx : x.Looks ok)
    (hk : ∀ a j', ok a → j.Passes false j' → j'.Closed false →
      (k a).Obeys (Terms.course op) okay (fun _ => Journal.Closed false) j') :
    (x >>= k).Obeys (Terms.course op) okay (fun _ => Journal.Closed false) j :=
  obeys_bind.2 ((hx.obeys op j).mono (fun a j' ⟨ha, h⟩ => hk a j' ha (hj.wrote ▸ h) (hj.looked h))
    fun _ _ h => hj.looked h)

theorem looks_ofExcept (x : Except Error α) :
    (ofExcept x : Action τ α).Looks fun a => x = .ok a := by
  refine ⟨fun op j => obeys_ofExcept.2 ?_⟩
  cases x with
  | ok a => exact ⟨rfl, .refl j⟩
  | error e => exact .refl j

theorem looks_ask {r : Request τ α} (h : r.Looks) : (ask r).Looks fun _ => True := by
  refine ⟨fun op j => obeys_ask.2 ⟨h.inCourse op j, ?_⟩⟩
  rintro b _ ⟨s, s', -, -, rfl⟩
  exact ⟨trivial, h.passes j b s s'⟩

theorem looks_demand {r : Request τ (Except Error α)} (h : r.Looks) :
    (demand r).Looks fun _ => True := by
  refine ⟨fun op j => obeys_demand.2 ⟨h.inCourse op j, ?_⟩⟩
  rintro b _ ⟨s, s', -, -, rfl⟩
  cases b with
  | ok a => exact ⟨trivial, h.passes j (.ok a) s s'⟩
  | error e => exact h.passes j (.error e) s s'

theorem looks_log (level : Level) (part : Part) (text : String) :
    (log level part text : Action τ Unit).Looks fun _ => True :=
  looks_ask trivial

theorem looks_clock : (clock : Action τ τ).Looks fun _ => True :=
  looks_ask trivial

/-- A reading transaction, of whose value something is known. -/
theorem looks_transact {limit : Option τ} {body : Int → Transaction α}
    (h : ∀ now a s s', (body now).Returns s a s' → s' = s ∧ ok a) :
    (demand (.transact false limit body)).Looks ok := by
  have reads : Request.Looks (.transact false limit body) := fun now a s s' ha =>
    (h now a s s' ha).1
  refine ⟨fun op j => obeys_demand.2 ⟨reads.inCourse op j, ?_⟩⟩
  rintro b _ ⟨s, s', -, reply, rfl⟩
  have passes := reads.passes j b s s'
  rcases reply.transact with ⟨⟨e, rfl, -⟩, -⟩ | ⟨now, -, ⟨a, rfl, ha⟩ | ⟨e, rfl, -, -⟩⟩
  · exact passes
  · exact ⟨(h now a s s' ha).2, passes⟩
  · exact passes

/-! ## Actions that only make records -/

/-- The action only makes log records, and does not fail. -/
structure Notes (x : Action τ α) : Prop where
  obeys (op : Operation τ) (j : Journal) : x.Obeys (Terms.course op)
    (fun _ j' => j.Passes j.wrote j') (fun _ _ => False) j

theorem notes_pure (a : α) : (pure a : Action τ α).Notes :=
  ⟨fun _ j => obeys_pure.2 (.refl j)⟩

/-- Records in the log follow one another. -/
theorem notes_bind {x : Action τ α} {k : α → Action τ β} (hx : x.Notes) (hk : ∀ a, (k a).Notes) :
    (x >>= k).Notes := by
  refine ⟨fun op j => obeys_bind.2 ((hx.obeys op j).mono (fun a j' hj => ?_) fun _ _ h => h)⟩
  exact ((hk a).obeys op j').mono (fun b j'' hj' => hj.wrote ▸ hj.trans hj') fun _ _ h => h

theorem notes_log (level : Level) (part : Part) (text : String) :
    (log level part text : Action τ Unit).Notes := by
  refine ⟨fun op j => obeys_log.2 ⟨trivial, ?_⟩⟩
  rintro u _ ⟨s, s', -, -, rfl⟩
  exact { Journal.Passes.refl j with }

theorem notes_logTransition (kind : Kind) (id : Int) (name : String) (repoId : Int)
    (actor : Option String) :
    (Merge.logTransition kind id name repoId actor : Action τ Unit).Notes := by
  unfold Merge.logTransition
  split
  · exact notes_log ..
  · exact notes_pure ()

/-! ## Actions that write -/

/-- The action has written when it returns, and has not when it fails. -/
def Writes (op : Operation τ) (x : Action τ α) (j : Journal) : Prop :=
  x.Obeys (Terms.course op) (fun _ j' => j.Passes true j') (fun _ j' => j.Passes false j') j

theorem writes_throw {e : Error} (hj : j.wrote = false) : (throw e : Action τ α).Writes op j :=
  obeys_throw.2 (hj ▸ .refl j)

/-- What writes may look at anything before it does. -/
theorem writes_after {x : Action τ α} {k : α → Action τ β} (hj : j.wrote = false) (hx : x.Looks ok)
    (hk : ∀ a j', ok a → j.Passes false j' → (k a).Writes op j') : (x >>= k).Writes op j := by
  refine obeys_bind.2
    ((hx.obeys op j).mono (fun a j' ⟨ha, hpass⟩ => ?_) fun e j' hpass => hj ▸ hpass)
  have passed : j.Passes false j' := hj ▸ hpass
  exact (hk a j' ha passed).mono (fun b j'' h => passed.trans h) fun e j'' h => passed.trans h

/-- After it has written only the log may follow. -/
theorem writes_then {x : Action τ α} {k : α → Action τ β} (hx : x.Writes op j)
    (hk : ∀ a, (k a).Notes) : (x >>= k).Writes op j := by
  refine obeys_bind.2 (hx.mono (fun a j' hpass => ?_) fun _ _ h => h)
  exact ((hk a).obeys op j').mono (fun b j'' h => hpass.wrote ▸ hpass.trans h) fun _ _ h => h.elim

/-- The transaction of an operation is performed at most once, and writes if it returns. -/
theorem writes_attempt {limit : Option τ} {body : Int → Transaction α} (hj : j.wrote = false)
    (h : op.Performs j body) :
    (attempt (.transact true limit body)).Obeys (Terms.course op)
      (fun b j' => j.Passes b.toBool j') (fun _ _ => False) j := by
  refine obeys_attempt.2 ⟨⟨hj, h⟩, ?_⟩
  rintro b _ ⟨s, s', -, -, rfl⟩
  refine { Journal.Passes.refl j with
    wrote := ?_
    commits := fun _ hp => List.mem_cons_of_mem _ hp }
  show (j.wrote || b.toBool) = b.toBool
  rw [hj, Bool.false_or]

end Action

/-! ## Transactions of operations -/

namespace Workflow

variable {α : Type} {op : Operation τ} {j : Journal} {ok : α → Prop}

theorem looks_session {body : Int → Transaction α}
    (h : ∀ now a s s', (body now).Returns s a s' → s' = s) :
    (session false body : Action τ α).Looks fun _ => True := by
  refine looks_bind (looks_ask h) fun b _ => ?_
  cases b with
  | ok a => exact looks_pure trivial
  | error e => exact looks_throw _

theorem looks_sessionOn {repo : String} {body : Int → Repository → Transaction α}
    (h : ∀ now r a s s', (body now r).Returns s a s' → s' = s) :
    (sessionOn false repo body : Action τ α).Looks fun _ => True := by
  refine looks_session fun now a s s' hr => ?_
  obtain ⟨r, s₁, hr₁, hr₂⟩ := returns_bind.1 hr
  obtain ⟨-, -, -, -, rfl⟩ := Store.returns_repositoryNamed.1 hr₁
  exact h now r a _ s' hr₂

/-- A session writes by its transaction. -/
theorem writes_session {body : Int → Transaction α} (hj : j.wrote = false)
    (h : op.Performs j body) : (session true body : Action τ α).Writes op j := by
  refine obeys_bind.2 ((writes_attempt hj h).mono (fun b j' hpass => ?_) fun _ _ h => h.elim)
  cases b with
  | ok a => exact obeys_pure.2 hpass
  | error e => exact obeys_throw.2 hpass

/-- A transaction on the repository that is found under the text of the operation. -/
theorem writes_sessionOn {repo : String} {body : Int → Repository → Transaction α}
    (hj : j.wrote = false) (named : op.text? = some repo)
    (h : ∀ now r a s s', s.WellFormed → (body now r).Returns s a s' →
      TicketEffect now r.id s s' ∧ op.Does now r s s') :
    (sessionOn true repo body : Action τ α).Writes op j := by
  refine writes_session hj fun now a s s' hs hr => ?_
  obtain ⟨r, s₁, hr₁, hr₂⟩ := returns_bind.1 hr
  obtain ⟨there, clean, rfl⟩ := Store.found_of_returns hr₁
  obtain ⟨effect, does⟩ := h now r a s₁ s' hs.wellFormed hr₂
  exact ⟨.onTickets effect, r, ⟨repo, named, clean⟩, fun _ => there, does⟩

/-- A change of a ticket that reads it back does what the change does. -/
theorem writes_thenGet {ρ ε β : Type} [Ticket ρ ε] {repo : String} {i : β → Int}
    {change : Int → Repository → Transaction β} (hj : j.wrote = false)
    (named : op.text? = some repo)
    (h : ∀ now r b s s', s.WellFormed → (change now r).Returns s b s' →
      TicketEffect now r.id s s' ∧ op.Does now r s s') :
    (sessionOn true repo fun now r => do
      let b ← change now r
      Ticket.get ρ r.id (i b) : Action τ ε).Writes op j := by
  refine writes_sessionOn hj named fun now r a s s' hs hr => ?_
  obtain ⟨b, s₁, hc, hg⟩ := returns_bind.1 hr
  obtain ⟨-, -, -, rfl, -⟩ := Ticket.returns_get.1 hg
  exact h now r b s _ hs hc

section

variable {ρ ε : Type} [Ticket ρ ε]

theorem looks_ticket (repo : String) (id : Int) :
    (ticket ρ repo id : Action τ ε).Looks fun _ => True :=
  looks_sessionOn fun _ _ _ _ _ hr => (Ticket.returns_get.1 hr).2.2.2.1

theorem looks_tickets (repo : String) : (tickets ρ repo : Action τ (List ε)).Looks fun _ => True :=
  looks_sessionOn fun _ _ _ _ _ hr => Ticket.listAll_reads hr

theorem looks_ticketsIn (repo state : String) :
    (ticketsIn ρ repo state : Action τ (List ε)).Looks fun _ => True :=
  looks_sessionOn fun _ _ _ _ _ hr => Ticket.listInState_reads hr

theorem writes_followTransition {repo name : String} {id : Int} {actor : Option String}
    (hj : j.wrote = false) (named : op.text? = some repo)
    (h : ∀ now r e s s', s.WellFormed → (Lifecycle.apply ρ now r.id id name actor).Returns s e s' →
      TicketEffect now r.id s s' ∧ op.Does now r s s') :
    (followTransition ρ repo id name actor : Action τ ε).Writes op j := by
  refine writes_then (writes_sessionOn hj named fun now r p s s' hs hr => ?_) fun p =>
    notes_bind (notes_logTransition ..) fun _ => notes_pure _
  obtain ⟨e, s₁, ha, hp⟩ := returns_bind.1 hr
  obtain ⟨-, rfl⟩ := returns_pure.1 hp
  exact h now r e s _ hs ha

end

end Workflow

/-! ## Repositories that are looked up first -/

/-- A transaction of the call has found the repository. -/
def Journal.Knows (r : Repository) (j : Journal) : Prop :=
  ∃ p ∈ j.commits, p.2.WellFormed ∧ r ∈ p.2.repos.rows

section Knows

variable {r : Repository} {j : Journal} {s : Store}

theorem Journal.Knows.passes {wrote : Bool} {j' : Journal} (h : j.Knows r)
    (hj : j.Passes wrote j') : j'.Knows r := by
  obtain ⟨p, hp, hr⟩ := h
  exact ⟨p, hj.commits p hp, hr⟩

/-- A repository stays what it is as long as there is one of its id. -/
theorem Store.Evolves.repository_there {s s' : Store} (h : s.Evolves s') (hs : s.WellFormed)
    (hr : r ∈ s.repos.rows) (there : ∃ r' ∈ s'.repos.rows, r'.id = r.id) : r ∈ s'.repos.rows := by
  obtain ⟨r', hr', hid⟩ := there
  have same := h.repos.same hs.repos (fun _ _ h => congrArg _ h.symm) hr hr' hid
  exact same ▸ hr'

/-- A repository that the call knows is still the same if one of its number is there. -/
theorem Journal.Knows.there (h : j.Knows r) (hs : s.Follows j)
    (hr : ∃ r' ∈ s.repos.rows, r'.id = r.id) : r ∈ s.repos.rows := by
  obtain ⟨p, hp, hwf, hmem⟩ := h
  exact (hs.evolves p hp).repository_there hwf hmem hr

/-- Looking a repository up finds a row of the store that was seen. -/
theorem Workflow.obeys_repository {op : Operation τ} (name : String) :
    (repository name : Action τ Repository).Obeys (Terms.course op)
      (fun r j' => Repository.cleanName name = .ok r.name ∧ j'.Knows r ∧ j.Passes j.wrote j')
      (fun _ j' => j.Passes j.wrote j') j := by
  have reads : Request.Looks (.transact false none fun _ => Store.repositoryNamed name :
      Request τ (Except Error Repository)) := by
    intro now r s s' hr
    obtain ⟨-, -, -, -, rfl⟩ := Store.returns_repositoryNamed.1 hr
    rfl
  refine obeys_bind.2 (obeys_attempt.2 ⟨reads.inCourse op j, ?_⟩)
  rintro b _ ⟨s, s', hs, reply, rfl⟩
  have passes := reads.passes j b s s'
  rcases reply.transact with ⟨⟨e, rfl, -⟩, -⟩ | ⟨now, -, ⟨r, rfl, hr⟩ | ⟨e, rfl, -, -⟩⟩
  · exact obeys_throw.2 passes
  · obtain ⟨there, clean, rfl⟩ := Store.found_of_returns hr
    exact obeys_pure.2 ⟨clean, ⟨(s', s'), List.mem_cons_self, hs.wellFormed, there⟩, passes⟩
  · exact obeys_throw.2 passes

/-- Opening the working tree of a repository, while no lock is held. -/
theorem Workflow.obeys_openTree {op : Operation τ} (hl : j.locked = false) (hf : j.filed = false) :
    (Action.ask (.openTree r) : Action τ Unit).Obeys (Terms.course op)
      (fun _ j' => j' = { j with opened := some r }) (fun _ _ => False) j := by
  refine obeys_ask.2 ⟨⟨hl, hf⟩, ?_⟩
  rintro u _ ⟨s, s', -, -, rfl⟩
  rfl

end Knows

/-! ## Creating a merge request -/

namespace Workflow

theorem looks_requireBranch (side : Side) (branch : String) :
    (requireBranch side branch : Action τ Unit).Looks fun _ => True := by
  refine looks_bind (looks_demand trivial) fun there _ => ?_
  split
  · exact looks_pure trivial
  · exact looks_throw _

/-- A merge request is created in one transaction, after one that looks and the questions to the
working tree. -/
theorem course_createMergeRequest (repo : String) (actor : Option String)
    (title source target : String) (description : Option String) :
    (createMergeRequest repo actor title source target description :
      Action τ MergeRequest).Obeys
      (Terms.course (.createMergeRequest repo actor title source target description))
      (fun _ => Journal.Closed true) (fun _ => Journal.Closed false) {} := by
  have begun : Journal.Closed false {} := ⟨rfl, rfl, rfl⟩
  refine closed_after begun (looks_ofExcept _) fun author j₁ _ _ h₁ =>
    closed_after h₁ (looks_ofExcept _) fun _ j₂ _ _ h₂ =>
      closed_after h₂ (looks_ofExcept _) fun _ j₃ _ _ h₃ => ?_
  split
  · exact obeys_bind.2 (obeys_throw.2 h₃)
  · refine obeys_bind.2 ((obeys_repository repo).mono ?_ fun _ _ h => h₃.looked h)
    rintro r j₄ ⟨named, known, h₄⟩
    have closed := h₃.looked h₄
    refine obeys_bind.2 ((obeys_openTree closed.locked closed.filed).mono ?_ fun _ _ h => h.elim)
    rintro _ _ rfl
    have opened : Journal.Closed false { j₄ with opened := some r } := { closed with }
    refine closed_after opened (looks_requireBranch ..) fun _ j₅ _ passes₅ h₅ =>
      closed_after h₅ (looks_requireBranch ..) fun _ j₆ _ passes₆ h₆ => ?_
    refine (writes_session h₆.wrote fun now m s s' hs hr => ?_).mono
      (fun _ _ h => h₆.passes h) fun _ _ h => h₆.passes h
    obtain ⟨id, s₁, hc, hg⟩ := returns_bind.1 hr
    obtain ⟨-, -, -, rfl, -⟩ := Ticket.returns_get.1 hg
    obtain ⟨there, -⟩ := Store.returns_createMergeRequest hc
    refine ⟨.onTickets (Store.effect_of_createMergeRequest hc), r, ⟨repo, rfl, named⟩, fun _ => ?_,
      Store.does_createMergeRequest hc⟩
    have knows : Journal.Knows r { j₄ with opened := some r } := known
    exact ((knows.passes passes₅).passes passes₆).there hs (Store.hasRepository_iff.1 there)

end Workflow

/-! ## Merging -/

namespace Merge

variable {op : Operation τ} {j : Journal}

theorem looks_unrecorded {α : Type} {ok : α → Prop} (repo : Repository) (request : MergeRequest)
    (commit reason : String) :
    (unrecorded repo request commit reason : Action τ α).Looks ok :=
  looks_bind (looks_log ..) fun _ _ => looks_throw _

theorem looks_landed (request : MergeRequest) :
    (landed request : Action τ Bool).Looks fun _ => True := by
  refine looks_bind (looks_ask trivial) fun b _ => ?_
  cases b with
  | ok there => exact looks_pure trivial
  | error e =>
    dsimp only
    split
    · exact looks_bind (looks_log ..) fun _ _ => looks_pure trivial
    · exact looks_throw e

theorem looks_abort (request : MergeRequest) :
    (abort request : Action τ Unit).Looks fun _ => True := by
  refine looks_bind (looks_ask trivial) fun b _ => ?_
  cases b with
  | ok u => exact looks_pure trivial
  | error e =>
    dsimp only
    split
    · exact looks_log ..
    · exact looks_throw e

variable [TimeScale τ]

theorem looks_remaining (deadline : Deadline τ) : (remaining deadline).Looks fun _ => True :=
  looks_bind looks_clock fun _ _ => looks_pure trivial

theorem looks_mergeBranches (repo : Repository) (request : MergeRequest) (actor : String)
    (deadline : Deadline τ) :
    (mergeBranches repo request actor deadline).Looks fun _ => True := by
  refine looks_bind (looks_log ..) fun _ _ => looks_bind (looks_remaining _) fun _ _ =>
    looks_bind (looks_demand trivial) fun _ _ => looks_bind (looks_remaining _) fun _ _ =>
    looks_bind (looks_demand trivial) fun upToDate _ => looks_bind (looks_remaining _)
      fun _ _ => looks_bind (looks_ask trivial) fun b _ => ?_
  cases b with
  | ok commit => exact looks_pure trivial
  | error e =>
    have finish (there : Bool) : (do
        if there then
          unrecorded repo request "" ("git reported a failure after merging: " ++ e.message)
        else
          abort request
          throw e : Action τ String).Looks fun _ => True := by
      cases there with
      | true => exact looks_unrecorded ..
      | false => exact looks_bind (looks_abort request) fun _ _ => looks_throw e
    dsimp only
    split
    · cases upToDate with
      | true =>
        have unasked : (pure false : Action τ Bool).Looks fun _ => True := looks_pure trivial
        exact looks_bind unasked fun there _ => finish there
      | false => exact looks_bind (looks_landed request) fun there _ => finish there
    · exact looks_throw e

omit [TimeScale τ] in
/-- What ends in an error without having written can stand where the operation would write. -/
theorem writes_unrecorded {α : Type} {repo : Repository} {request : MergeRequest}
    {commit reason : String} (hj : j.wrote = false) :
    (unrecorded repo request commit reason : Action τ α).Writes op j :=
  writes_after hj (looks_log ..) fun _ _ _ h => writes_throw h.wrote

section Steps

variable {repo : Repository} {name : String} {id : Int} {actor : Option String}
  {limit : Option τ} {merger : String}

/-- To mark a merge request merged is what a merge does to the store. -/
theorem writes_record {request : MergeRequest} {commit : String} {deadline : Deadline τ}
    (ha : cleanActor actor = .ok merger) (named : Repository.cleanName name = .ok repo.name)
    (same : request.id = id) (hj : j.wrote = false) (known : j.Knows repo) :
    (record repo request merger commit deadline).Writes (.merge name id actor limit) j := by
  subst same
  refine writes_after hj looks_clock fun now j₁ _ h₁ => ?_
  dsimp only
  split
  · exact writes_unrecorded h₁.wrote
  · refine writes_after h₁.wrote (looks_remaining _) fun _ j₂ _ h₂ => ?_
    refine obeys_bind.2 ((writes_attempt h₂.wrote fun now m s s' hs hr => ?_).mono
      (fun b j₃ h₃ => ?_) fun _ _ h => h.elim)
    · have does := Store.does_requestTransition (t := .merging) hs.wellFormed
        (Transition.mem_ofKind_mergeRequest.2 (.inr (.inr rfl))) hr
      refine ⟨.onTickets (Lifecycle.effect_of_merge hr), repo, ⟨name, rfl, named⟩, fun _ => ?_,
        merger, ha, does⟩
      obtain ⟨row, t, hrow, -, -⟩ := does
      have repoId : row.repoId = repo.id := hrow.repo
      exact ((known.passes h₁).passes h₂).there hs (repoId ▸ hs.related.mergeRequests row hrow.mem)
    · cases b with
      | ok merged =>
        have recorded : (do
            logTransition .mergeRequest request.id "merge" repo.id (some merger)
            Action.log .info .merge
              ("merge request #" ++ toString request.id ++ " merged by " ++ merger ++ " at " ++
                (if commit = "" then "HEAD" else commit))
            pure merged : Action τ MergeRequest).Notes :=
          notes_bind (notes_logTransition ..) fun _ =>
            notes_bind (notes_log ..) fun _ => notes_pure merged
        refine (recorded.obeys _ j₃).mono (fun _ j' h => ?_) fun _ _ h => h.elim
        have wrote : j₃.wrote = true := h₃.wrote
        exact h₃.trans (wrote ▸ h)
      | error e =>
        have refused : j₃.wrote = false := h₃.wrote
        have failed {x : Action τ MergeRequest}
            (hx : x.Writes (.merge name request.id actor limit) j₃) :
            x.Obeys (Terms.course (.merge name request.id actor limit))
              (fun _ j' => j₂.Passes true j') (fun _ j' => j₂.Passes false j') j₃ :=
          hx.mono (fun _ _ h => h₃.trans h) fun _ _ h => h₃.trans h
        cases e with
        | invalidState | notFound | engine => exact failed (writes_unrecorded refused)
        | _ => exact failed (writes_throw refused)

theorem writes_underLock {deadline : Deadline τ} (ha : cleanActor actor = .ok merger)
    (named : Repository.cleanName name = .ok repo.name) (hj : j.wrote = false)
    (known : j.Knows repo) :
    (underLock repo id merger deadline).Writes (.merge name id actor limit) j := by
  have looks (limit : Option τ) : (demand (.transact false limit fun _ =>
      Ticket.get StoredMergeRequest repo.id id)).Looks fun request => request.id = id := by
    refine looks_transact fun now request s s' hg => ?_
    obtain ⟨same, row, ident, reads⟩ := Store.id_of_get hg
    obtain ⟨_, -, rfl⟩ := Option.map_eq_some_iff.1 (show row.read? = some request from reads)
    exact ⟨same, ident⟩
  refine writes_after hj (looks_remaining _) fun _ j₁ _ h₁ =>
    writes_after h₁.wrote (looks _) fun request j₂ same h₂ => ?_
  split
  · refine writes_after h₂.wrote looks_clock fun now j₃ _ h₃ => ?_
    split
    · exact writes_throw h₃.wrote
    · refine writes_after h₃.wrote (looks_mergeBranches ..) fun commit j₄ _ h₄ => ?_
      exact writes_record ha named same h₄.wrote
        ((((known.passes h₁).passes h₂).passes h₃).passes h₄)
  · exact writes_throw h₂.wrote

end Steps

/-! ## Taking and giving back the locks -/

section Hold

variable {directory : Option String} {repo : Repository} {body : Action τ MergeRequest}

omit [TimeScale τ] in
/-- The lock file is given back however the body ends. -/
theorem writes_holdFile {deadline : Option τ} (hj : j.wrote = false) (filed : j.filed = false)
    (opened : j.opened = some repo) (known : j.Knows repo)
    (hbody : ∀ j, j.wrote = false → j.Knows repo → body.Writes op j) :
    (WorkingTree.holdFile directory repo.id deadline body).Writes op j := by
  cases directory with
  | none => exact hbody j hj known
  | some dir =>
    refine obeys_bind.2 (obeys_demand.2 ⟨⟨filed, repo, opened, rfl⟩, ?_⟩)
    rintro taken _ ⟨s, s', -, -, rfl⟩
    rcases taken with e | _ | _
    · exact hj ▸ .refl j
    · exact writes_throw hj
    · have held : (do
          Action.log .debug .locks (WorkingTree.acquiredText dir repo.id)
          body).Writes op { j with filed := true, read := none } :=
        writes_after hj (looks_log ..) fun _ j' _ h => hbody j' h.wrote
          (Journal.Knows.passes (j := { j with filed := true, read := none }) known h)
      -- Whatever the body has written, giving the file back changes only that.
      have dropped {wrote : Bool} {j' : Journal}
          (h : Journal.Passes wrote { j with filed := true, read := none } j') :
          (Program.request (.dropFile repo.id) : Program τ Unit).Obeys (Terms.course op)
            (fun _ => j.Passes wrote) j' := by
        refine Program.obeys_request.2 ⟨⟨h.filed, repo, h.opened.trans opened, rfl⟩, ?_⟩
        rintro u _ ⟨s, s', -, -, rfl⟩
        exact ⟨h.wrote, h.locked, filed.symm, h.opened, h.commits⟩
      exact obeys_withCleanup.2 (held.mono (fun _ _ h => dropped h) fun _ _ h => dropped h)

/-- So is the lock within the process. -/
theorem writes_hold {limit : Option τ} (hj : j.Closed false) (opened : j.opened = some repo)
    (known : j.Knows repo)
    (hbody : ∀ j, j.wrote = false → j.Knows repo → body.Writes op j) :
    (WorkingTree.hold directory repo.id limit body).Writes op j := by
  refine writes_after hj.wrote looks_clock fun now j₁ _ h₁ => ?_
  have closed := hj.passes h₁
  have opened₁ := h₁.opened.trans opened
  refine obeys_bind.2 (obeys_demand.2 ⟨⟨closed.locked, repo, opened₁, rfl⟩, ?_⟩)
  rintro taken _ ⟨s, s', -, -, rfl⟩
  cases taken with
  | error e => exact h₁.wrote ▸ .refl j₁
  | ok taken =>
    cases taken with
    | false => exact writes_throw closed.wrote
    | true =>
      have dropped {wrote : Bool} {j' : Journal}
          (h : Journal.Passes wrote { j₁ with locked := true, read := none } j') :
          (Program.request (.dropLock repo.id) : Program τ Unit).Obeys (Terms.course op)
            (fun _ => j₁.Passes wrote) j' := by
        refine Program.obeys_request.2 ⟨⟨h.locked, repo, h.opened.trans opened₁, rfl⟩, ?_⟩
        rintro u _ ⟨s, s', -, -, rfl⟩
        exact ⟨h.wrote, closed.locked.symm, h.filed, h.opened, h.commits⟩
      have knows : Journal.Knows repo j₁ := known.passes h₁
      have held : (WorkingTree.holdFile directory repo.id (limit.map fun t => TimeScale.add now t)
          body).Writes op { j₁ with locked := true, read := none } :=
        writes_holdFile closed.wrote closed.filed opened₁ knows hbody
      exact obeys_withCleanup.2 (held.mono (fun _ _ h => dropped h) fun _ _ h => dropped h)

end Hold

end Merge

/-- A merge looks under its lock and writes there at most once. -/
theorem Workflow.course_merge [TimeScale τ] (policy : Policy τ) (name : String) (id : Int)
    (actor : Option String) (limit : Option τ) :
    (merge policy name id actor limit).Obeys (Terms.course (.merge name id actor limit))
      (fun _ => Journal.Closed true) (fun _ => Journal.Closed false) {} := by
  have begun : Journal.Closed false {} := ⟨rfl, rfl, rfl⟩
  refine closed_after begun (looks_ofExcept _) fun merger j₁ ha _ h₁ =>
    obeys_bind.2 ((obeys_repository name).mono ?_ fun _ _ h => h₁.looked h)
  rintro repo j₂ ⟨named, known, h₂⟩
  have closed := h₁.looked h₂
  refine obeys_bind.2 ((obeys_openTree closed.locked closed.filed).mono ?_ fun _ _ h => h.elim)
  rintro _ _ rfl
  have opened : Journal.Closed false { j₂ with opened := some repo } := { closed with }
  have hrun : (Merge.run policy.lockDirectory policy.lockLimit repo id merger
      (limit <|> policy.mergeLimit)).Writes (.merge name id actor limit)
      { j₂ with opened := some repo } := by
    refine writes_after opened.wrote looks_clock fun _ j₃ _ h₃ =>
      writes_after h₃.wrote looks_clock fun _ j₄ _ h₄ => ?_
    have knows : Journal.Knows repo { j₂ with opened := some repo } := known
    exact Merge.writes_hold ((opened.passes h₃).passes h₄) (h₄.opened.trans h₃.opened)
      ((knows.passes h₃).passes h₄) fun j hj hknown => Merge.writes_underLock ha named hj hknown
  refine obeys_bind.2 (obeys_lift.2 (hrun.mono (fun m j h => ?_) fun e j h => ?_))
  · exact obeys_pure.2 (opened.passes h)
  · exact obeys_throw.2 (opened.passes h)

/-! ## All operations -/

namespace Operation

open Workflow

variable {op : Operation τ}

/-- An operation that only looks is in its course, and writes nothing. -/
theorem course_of_looks {α : Type} {x : Action τ α} {f : α → Answer}
    (hx : x.Looks fun _ => True) (hop : op.writes = false) :
    (f <$> x).Obeys (Terms.course op) (fun _ => Journal.Closed op.writes)
      (fun _ => Journal.Closed false) {} := by
  rw [hop]
  have begun : Journal.Closed false {} := ⟨rfl, rfl, rfl⟩
  exact obeys_map.2 ((hx.obeys op {}).mono (fun _ _ h => begun.looked h.2)
    fun _ _ h => begun.looked h)

/-- One that writes is in its course once it has written what it does. -/
theorem course_of_writes {α : Type} {x : Action τ α} {f : α → Answer} (hx : x.Writes op {})
    (hop : op.writes = true) :
    (f <$> x).Obeys (Terms.course op) (fun _ => Journal.Closed op.writes)
      (fun _ => Journal.Closed false) {} := by
  rw [hop]
  have begun : Journal.Closed false {} := ⟨rfl, rfl, rfl⟩
  exact obeys_map.2 (hx.mono (fun _ _ h => begun.passes h) fun _ _ h => begun.passes h)

/-- What comes before a transaction that writes may look. -/
theorem writes_ofExcept {α β : Type} {x : Except Error α} {k : α → Action τ β}
    (hk : ∀ a j, x = .ok a → j.wrote = false → (k a).Writes op j) :
    (Action.ofExcept x >>= k).Writes op {} :=
  writes_after rfl (looks_ofExcept x) fun a j ha h => hk a j ha h.wrote

/-- **The course of an operation.** -/
theorem obeys_course [TimeScale τ] (policy : Policy τ) (op : Operation τ) :
    (op.action policy).Obeys (Terms.course op) (fun _ => Journal.Closed op.writes)
      (fun _ => Journal.Closed false) {} := by
  cases op with
  | registerRepository name path =>
    refine course_of_writes (writes_then (writes_session rfl fun now p s s' hs hr => ?_) fun p =>
      notes_bind (notes_log ..) fun _ => notes_pure _) rfl
    obtain ⟨id, s₁, hc, hr⟩ := returns_bind.1 hr
    obtain ⟨r, s₂, hn, hp⟩ := returns_bind.1 hr
    obtain ⟨-, rfl⟩ := returns_pure.1 hp
    obtain ⟨hk, does⟩ := Store.returns_registered hc hn
    obtain ⟨-, -, -, -, rfl⟩ := Store.returns_repositoryNamed.1 hn
    exact ⟨Store.effect_of_createRepository hc, r, ⟨name, rfl, hk⟩, nofun, does⟩
  | repository name =>
    refine course_of_looks (looks_session fun now r s s' hr => ?_) rfl
    obtain ⟨-, -, -, -, rfl⟩ := Store.returns_repositoryNamed.1 hr
    rfl
  | repositories =>
    refine course_of_looks (looks_session fun now rs s s' hr => ?_) rfl
    obtain ⟨-, -, rfl⟩ := Store.returns_listRepositories.1 hr
    rfl
  | removeRepository name =>
    refine course_of_writes (writes_session rfl fun now u s s' hs hr => ?_) rfl
    obtain ⟨r, hmem, hk, does⟩ := Store.does_deleteRepository hs.wellFormed hs.related hr
    exact ⟨Store.effect_of_deleteRepository hr, r, ⟨name, rfl, hk⟩, fun _ => hmem, does⟩
  | createIssue repo actor title description =>
    refine course_of_writes (writes_ofExcept fun author j _ hj =>
      writes_thenGet hj rfl fun now r id s s' _ hc => ?_) rfl
    exact ⟨Store.effect_of_createIssue hc, Store.does_createIssue hc⟩
  | issue repo id => exact course_of_looks (looks_ticket repo id) rfl
  | issues repo => exact course_of_looks (looks_tickets repo) rfl
  | issuesIn repo state =>
    exact course_of_looks (looks_bind (looks_ofExcept _) fun _ _ => looks_ticketsIn repo _) rfl
  | updateIssue repo id title description =>
    refine course_of_writes
      (writes_thenGet (i := fun _ => id) rfl rfl fun now r u s s' hs hu => ?_) rfl
    exact ⟨Store.effect_of_updateIssue hu, Store.does_updateIssue hs hu⟩
  | deleteIssue repo id =>
    refine course_of_writes (writes_sessionOn rfl rfl fun now r u s s' _ hu => ?_) rfl
    exact ⟨Store.effect_of_deleteIssue hu, Store.does_deleteIssue hu⟩
  | closeIssue repo id actor =>
    refine course_of_writes (writes_ofExcept fun closer j hc hj =>
      writes_followTransition hj rfl fun now r e s s' hs he => ?_) rfl
    exact ⟨Lifecycle.effect_of_closeIssue (trimmed_of_cleanActor hc) he, closer, hc,
      Store.does_issueTransition (t := .closing) hs (Transition.closing_mem _) he⟩
  | reopenIssue repo id =>
    refine course_of_writes (writes_followTransition rfl rfl fun now r e s s' hs he => ?_) rfl
    exact ⟨Lifecycle.effect_of_reopenIssue he,
      Store.does_issueTransition (t := .reopening) hs (Transition.reopening_mem _) he⟩
  | addDependency repo a b =>
    refine course_of_writes (writes_then (writes_sessionOn rfl rfl fun now r d s s' _ hd => ?_)
      fun d => notes_bind (notes_log ..) fun _ => notes_pure d) rfl
    obtain ⟨ha, hb, hne, new, rfl, hs'⟩ := Store.returns_addDependency hd
    exact ⟨Store.effect_of_addDependency hd, Store.row_of_requireIssue ha,
      Store.row_of_requireIssue hb, hne, new, hs'⟩
  | removeDependency repo a b =>
    refine course_of_writes (writes_sessionOn rfl rfl fun now r there s s' _ hd => ?_) rfl
    obtain ⟨ha, hs'⟩ := Store.returns_removeDependency hd
    exact ⟨Store.effect_of_removeDependency hd, Store.row_of_requireIssue ha, hs'⟩
  | hasDependency repo a b =>
    exact course_of_looks (looks_sessionOn fun _ _ _ _ _ hr => Store.hasDependency_reads hr) rfl
  | dependenciesOf repo a =>
    exact course_of_looks (looks_sessionOn fun _ _ _ _ _ hr => Store.dependenciesOf_reads hr) rfl
  | dependentsOf repo a =>
    exact course_of_looks (looks_sessionOn fun _ _ _ _ _ hr => Store.dependentsOf_reads hr) rfl
  | createMergeRequest repo actor title source target description =>
    exact obeys_map.2 (course_createMergeRequest ..)
  | mergeRequest repo id =>
    exact course_of_looks (looks_ticket repo id) rfl
  | mergeRequests repo =>
    exact course_of_looks (looks_tickets repo) rfl
  | mergeRequestsIn repo state =>
    exact course_of_looks (looks_bind (looks_ofExcept _) fun _ _ => looks_ticketsIn repo _) rfl
  | updateMergeRequest repo id title description =>
    refine course_of_writes
      (writes_thenGet (i := fun _ => id) rfl rfl fun now r u s s' hs hu => ?_) rfl
    exact ⟨Store.effect_of_updateMergeRequest hu, Store.does_updateMergeRequest hs hu⟩
  | deleteMergeRequest repo id =>
    refine course_of_writes (writes_sessionOn rfl rfl fun now r u s s' _ hu => ?_) rfl
    exact ⟨Store.effect_of_deleteMergeRequest hu, Store.does_deleteMergeRequest hu⟩
  | closeMergeRequest repo id actor =>
    refine course_of_writes (writes_ofExcept fun closer j hc hj =>
      writes_followTransition hj rfl fun now r e s s' hs he => ?_) rfl
    exact ⟨Lifecycle.effect_of_closeMergeRequest (trimmed_of_cleanActor hc) he, closer, hc,
      Store.does_requestTransition (t := .closing) hs (Transition.closing_mem _) he⟩
  | reopenMergeRequest repo id =>
    refine course_of_writes (writes_followTransition rfl rfl fun now r e s s' hs he => ?_) rfl
    exact ⟨Lifecycle.effect_of_reopenMergeRequest he,
      Store.does_requestTransition (t := .reopening) hs (Transition.reopening_mem _) he⟩
  | merge repo id actor limit => exact obeys_map.2 (course_merge policy repo id actor limit)

end Operation

end Forge
