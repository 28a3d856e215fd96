import Forge.Proofs.Listing.Agreement
import Forge.Proofs.Store.Dated
import Forge.Proofs.Turn

/-!
# Lists in the order of numbers

The statements of the store sort tickets by the time of their creation. In a store whose times are
in order this is the order of their numbers, the highest first. `Operation.descends` says so of the
answers of all operations: whichever transactions are answered from such stores, and however the
other requests are answered, the tickets of an answer descend.
-/

namespace Forge

open Transaction Ticket Forge.Action

/-! ## Rows -/

namespace Ticket

variable {ρ ε : Type} [Ticket ρ ε] {s s' : Store} {rows : List ρ} {es : List ε} {now repoId : Int}

theorem reads_of_readRows (h : (readRows rows : Transaction (List ε)).Returns s es s') :
    Reads rows es := by
  unfold Reads
  induction rows generalizing es with
  | nil =>
    obtain ⟨rfl, -⟩ := returns_pure.1 h
    rfl
  | cons row rows ih =>
    simp only [readRows, returns_bind, returns_readRow, returns_pure] at h
    obtain ⟨e, _, ⟨read, rfl⟩, es, _, later, rfl, rfl⟩ := h
    rw [List.map_cons, List.map_cons, read, ih later]

/-- Of two rows of a table whose times are in order, the one with the higher number is listed
first. -/
theorem descending_newestFirst {t : Table ρ} (dated : t.Dated Ticket.id createdAt now)
    (sub : ∀ row ∈ rows, row ∈ t.rows) (distinct : (rows.map Ticket.id).Nodup) :
    ((newestFirst rows).map Ticket.id).Pairwise (· > ·) := by
  have listed {row : ρ} (h : row ∈ newestFirst rows) : row ∈ t.rows :=
    sub row ((Cli.latestFirst_perm createdAt Ticket.id rows).mem_iff.1 h)
  have sorted : (newestFirst rows).Pairwise (Cli.Precedes createdAt Ticket.id) :=
    Cli.latestFirst_pairwise distinct
  refine List.pairwise_map.2 (sorted.imp_of_mem fun {a b} ha hb precedes => ?_)
  by_contra below
  have ordered := dated.ordered a (listed ha) b (listed hb) (Int.not_lt.1 below)
  rcases precedes with earlier | ⟨-, lower⟩
  · exact absurd ordered (Int.not_le.2 earlier)
  · exact below lower

/-- The tickets that are read from such rows descend. -/
theorem Reads.descending {ident : ε → Int} {t : Table ρ} (h : Reads (newestFirst rows) es)
    (dated : t.Dated Ticket.id createdAt now) (sub : ∀ row ∈ rows, row ∈ t.rows)
    (distinct : (rows.map Ticket.id).Nodup)
    (same : ∀ (row : ρ) e, read? row = some e → Ticket.id row = ident e) :
    (es.map ident).Pairwise (· > ·) := by
  rw [h.map_eq same]
  exact descending_newestFirst dated sub distinct

section Listed

variable [LawfulTicket ρ] {σ : Type} (k : Listing ρ σ) (hs : s.WellFormed)
  (dated : (table s).Dated (Ticket.id (ρ := ρ)) createdAt now)

include hs dated

theorem descending_of_readRows {p : ρ → Bool}
    (h : (readRows (newestFirst ((table s).rows.filter p)) :
      Transaction (List ε)).Returns s es s') : (es.map k.id).Pairwise (· > ·) := by
  have numbered : (table (ρ := ρ) s).Numbered Ticket.id := LawfulTicket.numbered hs
  have distinct : (((table s).rows.filter p).map Ticket.id).Nodup :=
    List.pairwise_map.2 ((numbered.ascending.filter p).imp fun lt => Int.ne_of_lt lt)
  exact (reads_of_readRows h).descending dated (fun _ h => (List.mem_filter.1 h).1) distinct
    fun row e read => (k.read read).1.symm

theorem descending_listAll (h : (listAll ρ repoId).Returns s es s') :
    (es.map k.id).Pairwise (· > ·) := by
  simp only [listAll, returns_bind, returns_useTable, returns_bindAll, returns_view] at h
  obtain ⟨_, _, ⟨-, rfl⟩, _, _, ⟨-, rfl⟩, _, _, ⟨rfl, rfl⟩, h⟩ := h
  exact descending_of_readRows k hs dated h

theorem descending_listInState {text : String} (h : (listInState ρ repoId text).Returns s es s') :
    (es.map k.id).Pairwise (· > ·) := by
  simp only [listInState, returns_bind, returns_useTable, returns_bindCells, returns_view] at h
  obtain ⟨_, _, ⟨-, rfl⟩, _, _, ⟨-, rfl⟩, _, _, ⟨rfl, rfl⟩, h⟩ := h
  exact descending_of_readRows k hs dated h

end Listed

end Ticket

namespace Store

variable {s s' : Store} {now repoId a : Int} {es : List Issue}

/-- The issues at the far ends of different dependencies descend. -/
theorem descending_listJoined (hs : s.WellFormed) (hd : s.Dated now) {p : StoredDependency → Bool}
    {far : StoredDependency → Int}
    (apart : (s.dependencies.rows.filter p).Pairwise fun d e => far d ≠ far e)
    (h : (listJoined repoId a p far).Returns s es s') : (es.map (·.id)).Pairwise (· > ·) := by
  simp only [listJoined, returns_bind, returns_useTable, returns_whole] at h
  obtain ⟨_, _, required, _, _, ⟨-, rfl⟩, _, _, ⟨rfl, rfl⟩, h⟩ := h
  obtain ⟨rfl, -⟩ := returns_requireIssue required
  refine (reads_of_readRows h).descending hd.issues (fun row joined => ?_)
    (joined_nodup repoId hs apart) fun row e read => (Listing.issues.read read).1.symm
  obtain ⟨d, -, -, hat⟩ := mem_joined.1 joined
  exact hat.mem

theorem descending_dependenciesOf (hs : s.WellFormed) (hr : s.Related) (hd : s.Dated now)
    (h : (dependenciesOf repoId a).Returns s es s') : (es.map (·.id)).Pairwise (· > ·) := by
  refine descending_listJoined hs hd ?_ h
  refine List.pairwise_filter.2 (hr.pairs.imp fun {d e} h hd he same => h ⟨?_, same⟩)
  exact (eq_of_beq hd).trans (eq_of_beq he).symm

theorem descending_dependentsOf (hs : s.WellFormed) (hr : s.Related) (hd : s.Dated now)
    (h : (dependentsOf repoId a).Returns s es s') : (es.map (·.id)).Pairwise (· > ·) := by
  refine descending_listJoined hs hd ?_ h
  refine List.pairwise_filter.2 (hr.pairs.imp fun {d e} h hd he same => h ⟨same, ?_⟩)
  exact (eq_of_beq hd).trans (eq_of_beq he).symm

end Store

/-! ## Operations -/

/-- The tickets of the answer stand in the order of their numbers, the highest first. -/
def Answer.Descends : Answer → Prop
  | .issues es => (es.map (·.id)).Pairwise (· > ·)
  | .mergeRequests ms => (ms.map (·.id)).Pairwise (· > ·)
  | _ => True

variable {τ : Type}

/-- Anything may be asked, and every answer comes from a store whose times are in order. -/
def Terms.dated : Terms τ Unit where
  may _ _ := True
  answers r _ b _ := ∃ now s s',
    s.WellFormed ∧ s.Related ∧ s.Dated now ∧ Reply (fun _ => True) r b s s'

section Obeys

variable {α σ : Type} {T : Terms τ σ}

/-- Where anything may be asked, every program obeys. -/
theorem Program.obeys_anything (may : ∀ {β : Type} (r : Request τ β) s, T.may r s)
    (p : Program τ α) (s : σ) : p.Obeys T (fun _ _ => True) s := by
  induction p generalizing s with
  | done a => exact obeys_done.2 trivial
  | ask r next ih => exact obeys_step.2 ⟨may r s, fun b s' _ => ih b s'⟩

theorem Action.obeys_anything (may : ∀ {β : Type} (r : Request τ β) s, T.may r s)
    (x : Action τ α) (s : σ) : x.Obeys T (fun _ _ => True) (fun _ _ => True) s := by
  refine obeys_run.2 ((Program.obeys_anything may x.run s).mono fun r _ _ => ?_)
  cases r <;> trivial

end Obeys

/-- The action, asked of stores whose times are in order, returns only what is `ok`. -/
structure Action.Yields {α : Type} (ok : α → Prop) (x : Action τ α) : Prop where
  obeys : x.Obeys Terms.dated (fun a _ => ok a) (fun _ _ => True) ()

namespace Workflow

variable {α : Type} {ok : α → Prop}

theorem yields_session {write : Bool} {body : Int → Transaction α}
    (h : ∀ now a s s' time, s.WellFormed → s.Related → s.Dated time →
      (body now).Returns s a s' → ok a) : (session write body : Action τ α).Yields ok := by
  refine ⟨obeys_bind.2 (obeys_attempt.2 ⟨trivial, ?_⟩)⟩
  rintro b _ ⟨time, s, s', hs, hr, hd, reply⟩
  cases b with
  | ok a =>
    rcases reply.transact with ⟨⟨e, refused, -⟩, -⟩ | ⟨now, -, ⟨a', same, ha⟩ | ⟨e, refused, -⟩⟩
    · cases refused
    · cases same
      exact obeys_pure.2 (h now a s s' time hs hr hd ha)
    · cases refused
  | error e => exact obeys_throw.2 trivial

theorem yields_sessionOn {write : Bool} {repo : String} {body : Int → Repository → Transaction α}
    (h : ∀ now r a s s' time, s.WellFormed → s.Related → s.Dated time →
      (body now r).Returns s a s' → ok a) : (sessionOn write repo body : Action τ α).Yields ok := by
  unfold sessionOn
  refine yields_session fun now a s s' time hs hr hd ha => ?_
  obtain ⟨r, s₁, named, ha⟩ := returns_bind.1 ha
  obtain ⟨-, -, -, -, same⟩ := Store.returns_repositoryNamed.1 named
  rw [same] at ha
  exact h now r a s s' time hs hr hd ha

/-- All lists of a kind of tickets, whole or by state, descend. -/
theorem yields_listed {ρ ε σ : Type} [Ticket ρ ε] [LawfulTicket ρ] (k : Listing ρ σ)
    (dated : ∀ {s : Store} {time}, s.Dated time →
      (table s).Dated (Ticket.id (ρ := ρ)) createdAt time)
    (repo : String) (wanted : Option String) :
    (listed ρ k.text k.parse repo wanted : Action τ (List ε)).Yields
      fun es => (es.map k.id).Pairwise (· > ·) := by
  cases wanted with
  | none =>
    exact yields_sessionOn fun _ _ _ _ _ _ hs _ hd h => descending_listAll k hs (dated hd) h
  | some given =>
    refine ⟨obeys_bind.2 (obeys_ofExcept.2 ?_)⟩
    cases k.parse given with
    | ok state =>
      refine Yields.obeys ?_
      exact yields_sessionOn fun _ _ _ _ _ _ hs _ hd h => descending_listInState k hs (dated hd) h
    | error e => trivial

theorem yields_dependenciesOf (repo : String) (id : Int) :
    (dependenciesOf repo id : Action τ (List Issue)).Yields
      fun es => (es.map (·.id)).Pairwise (· > ·) := by
  unfold dependenciesOf
  exact yields_sessionOn fun _ _ _ _ _ _ hs hr hd h => Store.descending_dependenciesOf hs hr hd h

theorem yields_dependentsOf (repo : String) (id : Int) :
    (dependentsOf repo id : Action τ (List Issue)).Yields
      fun es => (es.map (·.id)).Pairwise (· > ·) := by
  unfold dependentsOf
  exact yields_sessionOn fun _ _ _ _ _ _ hs hr hd h => Store.descending_dependentsOf hs hr hd h

end Workflow

theorem Action.yields_map {α β : Type} {ok : α → Prop} {ok' : β → Prop} {f : α → β}
    {x : Action τ α} (h : x.Yields ok) (hf : ∀ a, ok a → ok' (f a)) : (f <$> x).Yields ok' :=
  ⟨obeys_map.2 (h.obeys.mono (fun a _ ha => hf a ha) fun _ _ h => h)⟩

/-- What has no list to show descends. -/
theorem Action.yields_single {α : Type} {f : α → Answer} (single : ∀ a, (f a).Descends)
    (x : Action τ α) : (f <$> x).Yields Answer.Descends :=
  yields_map ⟨obeys_anything (fun _ _ => trivial) x ()⟩ fun a _ => single a

theorem Listing.yields_operation [TimeScale τ] {ρ ε σ : Type} [Ticket ρ ε] [LawfulTicket ρ]
    (k : Listing ρ σ) (policy : Policy τ) (repo : String) (wanted : Option String)
    (dated : ∀ {s : Store} {time}, s.Dated time →
      (table s).Dated (Ticket.id (ρ := ρ)) Ticket.createdAt time)
    (shown : ∀ es, (es.map k.id).Pairwise (· > ·) → (k.answer es).Descends) :
    ((k.operation τ repo wanted).action policy).Yields Answer.Descends := by
  rw [k.acts]
  exact yields_map (Workflow.yields_listed k dated repo wanted) shown

/-- Whatever an operation answers descends. -/
theorem Operation.descends [TimeScale τ] (policy : Policy τ) (op : Operation τ) :
    (op.action policy).Yields Answer.Descends := by
  cases op with
  | issues repo =>
    exact Listing.issues.yields_operation policy repo none (fun hd => hd.issues) fun _ h => h
  | issuesIn repo state =>
    exact Listing.issues.yields_operation policy repo (some state) (fun hd => hd.issues)
      fun _ h => h
  | mergeRequests repo =>
    exact Listing.mergeRequests.yields_operation policy repo none (fun hd => hd.mergeRequests)
      fun _ h => h
  | mergeRequestsIn repo state =>
    exact Listing.mergeRequests.yields_operation policy repo (some state)
      (fun hd => hd.mergeRequests) fun _ h => h
  | dependenciesOf repo id =>
    exact yields_map (Workflow.yields_dependenciesOf repo id) fun _ h => h
  | dependentsOf repo id =>
    exact yields_map (Workflow.yields_dependentsOf repo id) fun _ h => h
  | _ =>
    refine yields_single ?_ _
    exact fun _ => trivial

end Forge
