import Forge.Proofs.Reachable

/-!
# What calls have committed

The journal of a call has the stores before and after each of its transactions. `Terms.noted` follow
an operation along its journal, so that it can be shown to end in a value only after a transaction
that did what the value tells. In a reachable world this is so of every call that has ended, and
each transaction of its journal is an event of the log (`World.Chronicle`), where every event starts
from what the events before it have left.
-/

namespace Forge

variable {τ : Type}

/-! ## Journals -/

namespace Journal

variable {β : Type} {r : Request τ β} {b : β} {s s' : Store} {j : Journal}
  {P : Store → Store → Prop}

/-- One of the transactions did this. -/
def Committed (P : Store → Store → Prop) (j : Journal) : Prop :=
  ∃ c ∈ j.commits, P c.1 c.2

theorem commits_transact {α : Type} {write : Bool} {limit : Option τ} {body : Int → Transaction α}
    {b : Except Error α} :
    (j.note (.transact write limit body) b s s').commits = (s, s') :: j.commits := by
  cases write <;> rfl

/-- A request that is no transaction leaves the transactions of the journal as they are. -/
theorem commits_note (j : Journal) (r : Request τ β) (b : β) (s s' : Store) :
    (j.note r b s s').commits = j.commits ∧ (j.note r b s s').wrote = j.wrote ∨
      (j.note r b s s').commits = (s, s') :: j.commits := by
  cases r with
  | transact write limit body => exact .inr commits_transact
  | tree call =>
    obtain ⟨out, before, merges, after, heq⟩ := j.noteTree_eq call b
    rw [show j.note (.tree call) b s s' = _ from heq]
    exact .inl ⟨rfl, rfl⟩
  | takeLock repoId limit => rcases b with e | _ | _ <;> exact .inl ⟨rfl, rfl⟩
  | takeFile repoId deadline => rcases b with e | _ | _ <;> exact .inl ⟨rfl, rfl⟩
  | clock => exact .inl ⟨rfl, rfl⟩
  | process call => exact .inl ⟨rfl, rfl⟩
  | openTree repo => exact .inl ⟨rfl, rfl⟩
  | dropLock repoId => exact .inl ⟨rfl, rfl⟩
  | dropFile repoId => exact .inl ⟨rfl, rfl⟩
  | log record => exact .inl ⟨rfl, rfl⟩

theorem Committed.note (h : j.Committed P) : (j.note r b s s').Committed P := by
  obtain ⟨c, hc, hP⟩ := h
  refine ⟨c, ?_, hP⟩
  rcases j.commits_note r b s s' with ⟨heq, -⟩ | heq
  · rw [heq]
    exact hc
  · rw [heq]
    exact List.mem_cons_of_mem _ hc

end Journal

/-! ## Programs -/

/-- The terms of a client whose journal is kept. It may ask anything. -/
def Terms.noted : Terms τ Journal where
  may _ _ := True
  answers r j b j' := ∃ s s', s.WellFormed ∧ Exchange r b s s' ∧ j' = j.note r b s s'

variable {α β : Type} {j : Journal}

/-- What no request takes from the journal is in it at the end. -/
theorem Program.obeys_noted {I : Journal → Prop} (p : Program τ α)
    (kept : ∀ {β : Type} (r : Request τ β) b s s' j, I j → I (j.note r b s s')) (h : I j) :
    p.Obeys Terms.noted (fun _ => I) j := by
  induction p generalizing j with
  | done a => exact Program.obeys_done.2 h
  | ask r next ih =>
    refine Program.obeys_step.2 ⟨trivial, ?_⟩
    rintro b _ ⟨s, s', -, -, rfl⟩
    exact ih b (kept r b s s' j h)

namespace Action

theorem obeys_noted {I : Journal → Prop} (x : Action τ α)
    (kept : ∀ {β : Type} (r : Request τ β) b s s' j, I j → I (j.note r b s s')) (h : I j) :
    x.Obeys Terms.noted (fun _ => I) (fun _ _ => True) j := by
  refine obeys_run.2 ((Program.obeys_noted x.run kept h).mono fun b j hj => ?_)
  cases b with
  | ok a => exact hj
  | error e => trivial

theorem noted_any (x : Action τ α) :
    x.Obeys Terms.noted (fun _ _ => True) (fun _ _ => True) j :=
  obeys_noted (I := fun _ => True) x (fun _ _ _ _ _ _ => trivial) trivial

/-- What matters is done after `x`. -/
theorem noted_bind {x : Action τ α} {k : α → Action τ β} {ok : β → Journal → Prop}
    (hk : ∀ a j, (k a).Obeys Terms.noted ok (fun _ _ => True) j) :
    (x >>= k).Obeys Terms.noted ok (fun _ _ => True) j :=
  obeys_bind.2 ((noted_any x).mono (fun a j _ => hk a j) fun _ _ h => h)

/-- What matters is done by `x`, and does not depend on its value. -/
theorem noted_then {x : Action τ α} {k : α → Action τ β} {P : Store → Store → Prop}
    (hx : x.Obeys Terms.noted (fun _ j => j.Committed P) (fun _ _ => True) j) :
    (x >>= k).Obeys Terms.noted (fun _ j => j.Committed P) (fun _ _ => True) j :=
  obeys_bind.2 (hx.mono (fun a _ h => obeys_noted (k a) (fun _ _ _ _ _ h => h.note) h)
    fun _ _ h => h)

end Action

/-- A session that returns has committed what its statements do. -/
theorem Workflow.noted_session {write : Bool} {body : Int → Transaction α}
    {P : α → Store → Store → Prop}
    (h : ∀ now a s s', s.WellFormed → (body now).Returns s a s' → P a s s') :
    (session write body : Action τ α).Obeys Terms.noted (fun a j => j.Committed (P a))
      (fun _ _ => True) j := by
  refine Action.obeys_bind.2 (Action.obeys_attempt.2 ⟨trivial, ?_⟩)
  rintro b _ ⟨s, s', hs, hx, rfl⟩
  rcases hx.transact with ⟨⟨report, rfl⟩, -⟩ | ⟨now, -, ⟨a, rfl, ha⟩ | ⟨e, rfl, -, -⟩⟩
  · exact Action.obeys_throw.2 trivial
  · refine Action.obeys_pure.2 ⟨(s, s'), ?_, h now a s s' hs ha⟩
    rw [Journal.commits_transact]
    exact List.mem_cons_self
  · exact Action.obeys_throw.2 trivial

/-- So has one on the repository that it finds. -/
theorem Workflow.noted_sessionOn {write : Bool} {repo : String}
    {body : Int → Repository → Transaction α} {P : α → Store → Store → Prop}
    (h : ∀ now r a s s', s.WellFormed → (body now r).Returns s a s' → P a s s') :
    (sessionOn write repo body : Action τ α).Obeys Terms.noted (fun a j => j.Committed (P a))
      (fun _ _ => True) j := by
  refine noted_session fun now a s s' hs hr => ?_
  obtain ⟨r, s₁, hr₁, hr₂⟩ := Transaction.returns_bind.1 hr
  obtain ⟨-, -, -, -, rfl⟩ := Store.returns_repositoryNamed.1 hr₁
  exact h now r a _ s' hs hr₂

/-! ## Worlds -/

namespace World

variable [TimeScale τ] {directory : Option String} {allowed : Operation τ → Prop} {w w' : World τ}

/-- A call of a reachable world that has returned has left its journal as its operation does. -/
theorem Reachable.noted {ok : Operation τ → Answer → Journal → Prop} (h : w.Reachable directory)
    (begins : ∀ (policy : Policy τ) (op : Operation τ),
      (op.action policy).Obeys Terms.noted (ok op) (fun _ _ => True) {})
    {i : Nat} {c : Call τ} (hc : w.calls[i]? = some c) {a : Answer}
    (hdone : c.rest = .done (.ok a)) : ok c.operation a c.journal := by
  have goes : ∀ (i : Nat) (c : Call τ), w.calls[i]? = some c →
      c.rest.Obeys Terms.noted (Action.ends (ok c.operation) fun _ _ => True) c.journal := by
    clear hc hdone
    obtain ⟨u, run⟩ := h
    induction run with
    | refl => exact fun i c hc => by simp [fresh] at hc
    | tail hrun hs ih =>
      intro i c' hc'
      have hw := Reachable.sound ⟨u, hrun⟩
      rcases hs.call_cases hc' with hc | ⟨policy, -, -, hrest, hj, -⟩ |
        ⟨c, β, r, next, b, hc, hr, hx, -, rfl⟩
      · exact ih i c' hc
      · rw [hrest, hj]
        exact Action.obeys_run.1 (begins policy c'.operation)
      · have hobeys := ih i c hc
        rw [hr, Program.obeys_step] at hobeys
        exact hobeys.2 b _ ⟨_, _, hw.store, hx, rfl⟩
  have hobeys := goes i c hc
  rw [hdone, Program.obeys_done] at hobeys
  exact hobeys

/-- What the log of a reachable world says of its stores. -/
structure Chronicle (w : World τ) : Prop where
  later : ∀ e ∈ w.log, e.after.Evolves w.store
  ordered : w.log.Pairwise fun e' e => e.after.Evolves e'.before
  commits : ∀ (i : Nat) (c : Call τ), w.calls[i]? = some c → ∀ p ∈ c.journal.commits,
    ∃ e ∈ w.log, e.call = i ∧ e.before = p.1 ∧ e.after = p.2

omit [TimeScale τ] in
theorem chronicle_fresh (s : Store) : (fresh s : World τ).Chronicle :=
  ⟨fun _ he => absurd he List.not_mem_nil, .nil, fun i c hc => by simp [fresh] at hc⟩

theorem Step.chronicle (h : Step directory allowed w w') (hw : w.Sound directory)
    (hlog : w.Chronicle) : w'.Chronicle := by
  obtain ⟨now, he⟩ := h.effect hw
  cases h with
  | begin =>
    refine ⟨hlog.later, hlog.ordered, fun i c hc => ?_⟩
    rcases call_of_concat hc with hc | ⟨-, rfl⟩
    · exact hlog.commits i c hc
    · exact fun p hp => absurd hp List.not_mem_nil
  | @answer n c₀ β r next b s l call asks exchange grant =>
    have old {e₀ : Event τ} (i : Nat) (c : Call τ) (hc : w.calls[i]? = some c) (p : Store × Store)
        (hp : p ∈ c.journal.commits) :
        ∃ e ∈ e₀ :: w.log, e.call = i ∧ e.before = p.1 ∧ e.after = p.2 := by
      obtain ⟨e, hmem, hcommit⟩ := hlog.commits i c hc p hp
      exact ⟨e, List.mem_cons_of_mem _ hmem, hcommit⟩
    -- The new event starts from the store that all earlier ones have led to.
    refine ⟨fun e hmem => ?_, List.pairwise_cons.2 ⟨hlog.later, hlog.ordered⟩,
      fun i c hc p hp => ?_⟩
    · rcases List.mem_cons.1 hmem with rfl | hmem
      · exact .refl s
      · exact (hlog.later e hmem).trans he.evolves
    · rcases call_of_set hc with ⟨rfl, rfl⟩ | ⟨-, hc⟩
      · rcases c₀.journal.commits_note r b w.store s with ⟨heq, -⟩ | heq
        · rw [heq] at hp
          exact old i c₀ call p hp
        · rw [heq] at hp
          rcases List.mem_cons.1 hp with rfl | hp
          · exact ⟨_, List.mem_cons_self, rfl, rfl, rfl⟩
          · exact old i c₀ call p hp
      · exact old i c hc p hp

theorem Run.chronicle (h : Run directory allowed w w') (hw : w.Sound directory)
    (hlog : w.Chronicle) : w'.Chronicle := by
  induction h with
  | refl => exact hlog
  | tail hrun hs ih => exact hs.chronicle (Run.sound hrun hw) ih

theorem Reachable.chronicle (h : w.Reachable directory) : w.Chronicle :=
  let ⟨u, run⟩ := h
  run.chronicle (sound_fresh (.empty u)) (chronicle_fresh _)

omit [TimeScale τ] in
/-- The stores of all transactions have the surrogates of the store that they have led to. -/
theorem Chronicle.surrogates (h : w.Chronicle) {i : Nat} {c : Call τ} (hc : w.calls[i]? = some c) :
    ∀ p ∈ c.journal.commits, p.2.surrogates = w.store.surrogates := by
  intro p hp
  obtain ⟨e, he, -, -, hafter⟩ := h.commits i c hc p hp
  rw [← hafter]
  exact (h.later e he).surrogates.symm

omit [TimeScale τ] in
/-- What a call has committed is in the log. -/
theorem Chronicle.event {P : Store → Store → Prop} (h : w.Chronicle) {i : Nat} {c : Call τ}
    (hc : w.calls[i]? = some c) (hcommitted : c.journal.Committed P) :
    ∃ e ∈ w.log, e.call = i ∧ P e.before e.after := by
  obtain ⟨p, hp, hP⟩ := hcommitted
  obtain ⟨e, he, hcall, hbefore, hafter⟩ := h.commits i c hc p hp
  exact ⟨e, he, hcall, by rw [hbefore, hafter]; exact hP⟩

/-- The log grows, and whatever is done from a world on starts from what its store becomes. -/
theorem Run.log (h : Run directory allowed w w') (hw : w.Sound directory) :
    ∃ l, w'.log = l ++ w.log ∧ ∀ e ∈ l, w.store.Evolves e.before ∧ w.store.Evolves e.after := by
  induction h with
  | refl => exact ⟨[], rfl, fun _ he => absurd he List.not_mem_nil⟩
  | tail hrun hs ih =>
    obtain ⟨l, hl, hevolves⟩ := ih
    have hbefore := Run.evolves hrun hw
    obtain ⟨now, he⟩ := hs.effect (Run.sound hrun hw)
    have hafter := hbefore.trans he.evolves
    cases hs with
    | begin => exact ⟨l, hl, hevolves⟩
    | answer =>
      exact ⟨_ :: l, congrArg _ hl, List.forall_mem_cons.2 ⟨⟨hbefore, hafter⟩, hevolves⟩⟩

end World

end Forge
