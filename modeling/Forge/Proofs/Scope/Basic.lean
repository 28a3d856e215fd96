import Forge.Proofs.Store.Confined
import Forge.Proofs.Store.Failure
import Forge.Proofs.Program
import Forge.Proofs.World

/-!
# Operations on a repository

An operation that names a repository looks it up and then acts on it alone: its transactions are
confined to the repository, it opens no other working tree and takes no other locks, what it answers
is of the repository, and it does not fail for want of one. So it is whatever other clients do to
the store after the look.
-/

namespace Forge

open Transaction Workflow

variable {τ : Type} {r : Repository} {s : Store}

/-! ## Acting on a repository -/

/-- Whether the error says that a repository is not there. -/
def Error.missesRepository : Error → Bool
  | .notFound (.repository _) => true
  | _ => false

/-- What an operation on a repository may ask when the store is `s`. -/
def Request.On (r : Repository) : {β : Type} → Request τ β → Store → Prop
  | _, .transact _ _ body, s =>
    ∀ now, (∀ a s', (body now).Returns s a s' → s.ConfinedTo r.id s') ∧
      ∀ e, (body now).Fails s e → e.missesRepository = false
  | _, .openTree r', _ => r' = r
  | _, .takeLock repoId _, _ => repoId = r.id
  | _, .dropLock repoId, _ => repoId = r.id
  | _, .takeFile repoId _, _ => repoId = r.id
  | _, .dropFile repoId, _ => repoId = r.id
  | _, _, _ => True

/-- The terms of an operation on a repository. Between its requests others may have changed the
store in any way. -/
def Terms.on (r : Repository) : Terms τ Store where
  may q s := q.On r s
  answers q s b _ := ∃ s', Exchange q b s s'

/-- The answer is about the repository. -/
def Answer.IsOf (r : Repository) : Answer → Prop
  | .repository r' => r' = r
  | .issue i => i.repoId = r.id
  | .issues is => ∀ i ∈ is, i.repoId = r.id
  | .mergeRequest m => m.repoId = r.id
  | .mergeRequests ms => ∀ m ∈ ms, m.repoId = r.id
  | _ => True

/-- The action, begun on the store `s`, acts on the repository and ends in a value with `ok`, or in
an error that does not say that the repository is missing. -/
def Action.ActsOn (r : Repository) {α : Type} (ok : α → Prop) (x : Action τ α) (s : Store) :
    Prop :=
  x.Obeys (Terms.on r) (fun a _ => ok a) (fun e _ => e.missesRepository = false) s

/-- The operation, begun on the store `s`, acts on the repository. -/
def Operation.ActsOn [TimeScale τ] (op : Operation τ) (r : Repository) (s : Store) : Prop :=
  ∀ policy : Policy τ, (op.action policy).ActsOn r (Answer.IsOf r) s

/-! ## Errors -/

/-- No failure on tickets says that the repository is missing. -/
theorem TicketFailure.missesRepository {e : Error} (h : TicketFailure e) :
    e.missesRepository = false := by
  cases h <;> rfl

theorem Except.Refuses.found {α : Type} {x : Except Error α} (h : Except.Refuses x) (e : Error)
    (he : x = .error e) : e.missesRepository = false := by
  obtain ⟨why, rfl⟩ := h e he
  rfl

theorem missesRepository_of_isExternal {e : Error} (h : e.isExternal = true) :
    e.missesRepository = false := by
  cases e <;> first | rfl | cases h

theorem missesRepository_classified {e : Error} (h : e.missesRepository = false) :
    e.classified.missesRepository = false := by
  cases e with
  | engine report =>
    simp only [Error.classified, EngineError.toError]
    repeat' split
    all_goals rfl
  | _ => exact h

namespace Transaction

variable {α : Type} {t : Transaction α} {s' s'' : Store} {a a' : α} {e : Error}

/-- A transaction returns in one way at most. -/
theorem returns_unique (h : t.Returns s a s') (h' : t.Returns s a' s'') : a' = a ∧ s'' = s' := by
  cases h.symm.trans h'
  exact ⟨rfl, rfl⟩

theorem not_fails_of_returns (h : t.Returns s a s') : ¬ t.Fails s e := by
  unfold Fails
  rw [h]
  exact nofun

end Transaction

/-! ## Statements of an action -/

namespace Action

variable {α β : Type} {ok : α → Prop} {ok' : β → Prop}

theorem actsOn_pure {a : α} (h : ok a) : (pure a : Action τ α).ActsOn r ok s :=
  obeys_pure.2 h

theorem actsOn_throw {e : Error} (h : e.missesRepository = false) :
    (throw e : Action τ α).ActsOn r ok s :=
  obeys_throw.2 h

/-- Two parts act on the repository if each of them does. -/
theorem actsOn_bind {x : Action τ α} {k : α → Action τ β} (hx : x.ActsOn r ok s)
    (hk : ∀ a s, ok a → (k a).ActsOn r ok' s) : (x >>= k).ActsOn r ok' s :=
  obeys_bind.2 (hx.mono (fun a s ha => hk a s ha) fun _ _ he => he)

/-- Nothing is asked for a value that is there. -/
theorem actsOn_ofExcept {x : Except Error α} {k : α → Action τ β}
    (he : ∀ e, x = .error e → e.missesRepository = false) (hk : ∀ a, (k a).ActsOn r ok' s) :
    (ofExcept x >>= k).ActsOn r ok' s := by
  refine obeys_bind.2 (obeys_ofExcept.2 ?_)
  cases x with
  | ok a => exact hk a
  | error e => exact he e rfl

theorem actsOn_clock : (clock : Action τ τ).ActsOn r (fun _ => True) s :=
  obeys_clock.2 ⟨trivial, fun _ _ _ => trivial⟩

theorem actsOn_log (level : Level) (part : Part) (text : String) :
    (log level part text : Action τ Unit).ActsOn r (fun _ => True) s :=
  obeys_log.2 ⟨trivial, fun _ _ _ => trivial⟩

theorem actsOn_attemptCall (call : TreeCall τ α) :
    (attempt (.tree call)).ActsOn r (fun b => ∀ e, b = .error e → e.isExternal = true) s :=
  obeys_attempt.2 ⟨trivial, fun _ _ ⟨_, h⟩ => h.1⟩

theorem actsOn_demandCall (call : TreeCall τ α) :
    (demand (.tree call)).ActsOn r (fun _ => True) s := by
  refine obeys_demand.2 ⟨trivial, fun b s' ⟨_, h⟩ => ?_⟩
  cases b with
  | ok a => trivial
  | error e => exact missesRepository_of_isExternal (h.1 e rfl)

/-- A cleanup that makes one request of the repository. -/
theorem actsOn_withCleanup {x : Action τ α} {q : Request τ Unit} (hq : ∀ s, q.On r s)
    (hx : x.ActsOn r ok s) : (withCleanup x (Program.request q)).ActsOn r ok s :=
  obeys_withCleanup.2 (hx.mono
    (fun _ s ha => Program.obeys_request.2 ⟨hq s, fun _ _ _ => ha⟩)
    fun _ s he => Program.obeys_request.2 ⟨hq s, fun _ _ _ => he⟩)

section

variable {write : Bool} {limit : Option τ} {body : Int → Transaction α}

/-- How a transaction that is confined to the repository and does not miss it is answered. -/
theorem answered {b : Except Error α} {s' : Store}
    (h : ∀ now a s', (body now).Returns s a s' → s.ConfinedTo r.id s' ∧ ok a)
    (hf : ∀ now e, (body now).Fails s e → e.missesRepository = false)
    (hx : ∃ s', Exchange (.transact write limit body) b s s') :
    ends (fun a _ => ok a) (fun e _ => e.missesRepository = false) b s' := by
  obtain ⟨s₁, hx⟩ := hx
  rcases hx.transact with ⟨⟨report, rfl⟩, -⟩ | ⟨now, -, ⟨a, rfl, ha⟩ | ⟨e, rfl, -, he⟩⟩
  · exact (rfl : (Error.engine report).missesRepository = false)
  · exact (h now a s₁ ha).2
  · exact hf now e he

theorem may_transact
    (h : ∀ now a s', (body now).Returns s a s' → s.ConfinedTo r.id s' ∧ ok a)
    (hf : ∀ now e, (body now).Fails s e → e.missesRepository = false) :
    (Terms.on r).may (.transact write limit body) s := by
  show Request.On r (.transact write limit body) s
  exact fun now => ⟨fun a s' ha => (h now a s' ha).1, hf now⟩

theorem actsOn_attempt
    (h : ∀ now a s', (body now).Returns s a s' → s.ConfinedTo r.id s' ∧ ok a)
    (hf : ∀ now e, (body now).Fails s e → e.missesRepository = false) :
    (attempt (.transact write limit body)).ActsOn r
      (fun b => ends (fun a _ => ok a) (fun e _ => e.missesRepository = false) b s) s :=
  obeys_attempt.2 ⟨may_transact h hf, fun _ _ hx => answered h hf hx⟩

theorem actsOn_demand
    (h : ∀ now a s', (body now).Returns s a s' → s.ConfinedTo r.id s' ∧ ok a)
    (hf : ∀ now e, (body now).Fails s e → e.missesRepository = false) :
    (demand (.transact write limit body)).ActsOn r ok s :=
  obeys_demand.2 ⟨may_transact h hf, fun _ _ hx => answered h hf hx⟩

/-- A session acts on a repository if its transaction writes nothing outside of it and does not miss
it. -/
theorem actsOn_session
    (h : ∀ now a s', (body now).Returns s a s' → s.ConfinedTo r.id s' ∧ ok a)
    (hf : ∀ now e, (body now).Fails s e → e.missesRepository = false) :
    (session write body : Action τ α).ActsOn r ok s := by
  refine actsOn_bind (actsOn_attempt h hf) fun b s' hb => ?_
  cases b with
  | ok a => exact actsOn_pure hb
  | error e => exact actsOn_throw (missesRepository_classified hb)

end

end Action

end Forge
