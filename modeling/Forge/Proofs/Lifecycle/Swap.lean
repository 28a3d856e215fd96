import Forge.Proofs.Named
import Forge.Proofs.Store.Audit
import Forge.Proofs.Store.Columns
import Forge.Proofs.Store.Lifecycle

/-!
# A transition is a compare-and-swap

A transition compares the state of one row and, in the same statement, writes its columns; whether
it has done so is told from the number of rows that matched, and why it has not from a second look.
`Lifecycle.swap` says how this ends: the row was in the state that the transition starts from and is
replaced, or it was in another one, or there is no such row. Which columns are written is said by
`Transition.onIssue` and `Transition.onMergeRequest`, record by record. An actor whose name has no
UTF-8 form is none that the store takes, so a transition in its name does nothing
(`Lifecycle.follow_of_unwritable`).
-/

namespace Forge

open Transaction Ticket

/-! ## Replacing one row -/

namespace Table

variable {ρ : Type} {t t' : Table ρ} {p : ρ → Bool} {f : ρ → ρ} {r r' : ρ}

/-- The later table has `r'` in the place of the row `r`, and is otherwise the earlier one. -/
def Replaces (r r' : ρ) (t t' : Table ρ) : Prop :=
  ∃ before after, t.rows = before ++ r :: after ∧ t' = ⟨before ++ r' :: after, t.lastId⟩

theorem modify_eq_self (h : ∀ r ∈ t.rows, p r = false) : t.modify p f = t := by
  have same (r : ρ) (hr : r ∈ t.rows) : (if p r then f r else r) = r := by
    rw [h r hr]
    exact if_neg Bool.false_ne_true
  unfold modify
  rw [List.map_congr_left same, List.map_id']

/-- A change of the rows that satisfy `p` replaces one row if no other has its id. -/
theorem Numbered.modify_replaces {ident : ρ → Int} (h : t.Numbered ident) (hr : r ∈ t.rows)
    (hp : p r = true) (only : ∀ b ∈ t.rows, p b = true → ident b = ident r) :
    Replaces r (f r) t (t.modify p f) := by
  obtain ⟨before, after, hrows⟩ := List.append_of_mem hr
  have ascending := h.ascending
  rw [hrows] at ascending
  obtain ⟨-, hafter, hbefore⟩ := List.pairwise_append.1 ascending
  -- Ids ascend, so no row on either side has the id of `r`, and none there satisfies `p`.
  have same (l : List ρ) (hl : ∀ b ∈ l, b ∈ t.rows ∧ ident b ≠ ident r) :
      l.map (fun b => if p b then f b else b) = l := by
    have kept (b : ρ) (hb : b ∈ l) : (if p b then f b else b) = b := by
      obtain ⟨hmem, hne⟩ := hl b hb
      exact if_neg fun hpb => hne (only b hmem hpb)
    rw [List.map_congr_left kept, List.map_id']
  have left : before.map (fun b => if p b then f b else b) = before := by
    refine same before fun b hb => ⟨?_, Int.ne_of_lt (hbefore b hb r List.mem_cons_self)⟩
    rw [hrows]
    exact List.mem_append_left _ hb
  have right : after.map (fun b => if p b then f b else b) = after := by
    refine same after fun b hb => ⟨?_, Int.ne_of_gt ((List.pairwise_cons.1 hafter).1 b hb)⟩
    rw [hrows]
    exact List.mem_append_right _ (List.mem_cons_of_mem r hb)
  refine ⟨before, after, hrows, ?_⟩
  rw [Table.modify, hrows, List.map_append, List.map_cons, left, right, if_pos hp]

end Table

/-! ## The row after a transition -/

namespace Transition

variable {α : Type}

/-- Whether the transition can be made in the name of the actor: one that is stamped needs one. -/
def Admits (t : Transition) (actor : Option String) : Prop :=
  t.stamps = [] ∨ ∃ name, actor = some name ∧ name ≠ ""

theorem Admits.named {t : Transition} {actor : Option String} (h : t.Admits actor) {name : String}
    (hs : t.stamps = [name]) : ∃ name, actor = some name := by
  rcases h with h | ⟨name, rfl, -⟩
  · rw [hs] at h
    cases h
  · exact ⟨name, rfl⟩

/-- Whether the store takes the actor: a transition that is stamped writes its name. -/
def Takes (u : Text.Surrogates) (t : Transition) (actor : Option String) : Prop :=
  t.stamps = [] ∨ ∀ name, actor = some name → u.Writable name

/-- What is in a field of the audit pair of a name after the transition. -/
def audit (t : Transition) (name : String) (stamp kept : Option α) : Option α :=
  if name ∈ t.clears then none else if name ∈ t.stamps then stamp else kept

/-- The issue after the transition. -/
def onIssue (t : Transition) (now : Int) (actor : Option String) (r : StoredIssue) : StoredIssue :=
  { r with
    state := t.target
    closedBy := t.audit "closed" actor r.closedBy
    closedAt := t.audit "closed" (some now) r.closedAt
    updatedAt := now }

/-- The merge request after the transition. -/
def onMergeRequest (t : Transition) (now : Int) (actor : Option String) (r : StoredMergeRequest) :
    StoredMergeRequest :=
  { r with
    state := t.target
    mergedBy := t.audit "merged" actor r.mergedBy
    mergedAt := t.audit "merged" (some now) r.mergedAt
    closedBy := t.audit "closed" actor r.closedBy
    closedAt := t.audit "closed" (some now) r.closedAt
    updatedAt := now }

/-- From open to closed. -/
def closing : Transition := ⟨"close", "open", "closed", ["closed"], []⟩

/-- Back from closed to open. -/
def reopening : Transition := ⟨"reopen", "closed", "open", [], ["closed"]⟩

/-- From open to merged. -/
def merging : Transition := ⟨"merge", "open", "merged", ["merged"], []⟩

theorem mem_ofKind_issue {t : Transition} : t ∈ ofKind .issue ↔ t = closing ∨ t = reopening := by
  show t ∈ [closing, reopening] ↔ _
  simp only [List.mem_cons, List.not_mem_nil, or_false]

theorem mem_ofKind_mergeRequest {t : Transition} :
    t ∈ ofKind .mergeRequest ↔ t = closing ∨ t = reopening ∨ t = merging := by
  show t ∈ [closing, reopening, merging] ↔ _
  simp only [List.mem_cons, List.not_mem_nil, or_false]

theorem cases_ofKind {kind : Kind} {t : Transition} (h : t ∈ ofKind kind) :
    t = closing ∨ t = reopening ∨ t = merging := by
  cases kind with
  | issue => exact (mem_ofKind_issue.1 h).imp_right .inl
  | mergeRequest => exact mem_ofKind_mergeRequest.1 h

theorem closing_mem (kind : Kind) : closing ∈ ofKind kind := by
  cases kind <;> exact List.mem_cons_self

theorem reopening_mem (kind : Kind) : reopening ∈ ofKind kind := by
  cases kind <;> exact List.mem_cons_of_mem _ List.mem_cons_self

/-- The transitions of a kind are found by their names. -/
theorem named?_name {kind : Kind} {t : Transition} (h : t ∈ ofKind kind) :
    named? kind t.name = some t := by
  cases kind with
  | issue => rcases mem_ofKind_issue.1 h with rfl | rfl <;> rfl
  | mergeRequest => rcases mem_ofKind_mergeRequest.1 h with rfl | rfl | rfl <;> rfl

theorem target_ne_source {kind : Kind} {t : Transition} (h : t ∈ ofKind kind) :
    t.target ≠ t.source := by
  rcases cases_ofKind h with rfl | rfl | rfl <;> decide

/-- Exactly the state, the audit pair and the time of the update are written. -/
theorem setAll_issue {t : Transition} (ht : t ∈ ofKind .issue) (actor : Option String)
    (now : Int) (r : StoredIssue) (ha : t.Admits actor) :
    setAll (t.assignments actor now) r = t.onIssue now actor r := by
  rcases mem_ofKind_issue.1 ht with rfl | rfl
  · obtain ⟨name, rfl⟩ := ha.named rfl
    rfl
  · rfl

theorem setAll_mergeRequest {t : Transition} (ht : t ∈ ofKind .mergeRequest)
    (actor : Option String) (now : Int) (r : StoredMergeRequest) (ha : t.Admits actor) :
    setAll (t.assignments actor now) r = t.onMergeRequest now actor r := by
  rcases mem_ofKind_mergeRequest.1 ht with rfl | rfl | rfl
  · obtain ⟨name, rfl⟩ := ha.named rfl
    rfl
  · rfl
  · obtain ⟨name, rfl⟩ := ha.named rfl
    rfl

end Transition

theorem Transition.Admits.hasActor {t : Transition} {actor : Option String} (h : t.Admits actor) :
    (t.stamps.isEmpty || Lifecycle.hasActor actor) = true := by
  rcases h with h | ⟨name, rfl, hname⟩
  · rw [h]
    rfl
  · rw [show Lifecycle.hasActor (some name) = true from bne_iff_ne.2 hname, Bool.or_true]

theorem Transition.Admits.of_hasActor {t : Transition} {actor : Option String}
    (h : (t.stamps.isEmpty || Lifecycle.hasActor actor) = true) : t.Admits actor := by
  rcases Bool.or_eq_true_iff.1 h with h | h
  · exact .inl (List.isEmpty_iff.1 h)
  · cases actor with
    | none => cases h
    | some name => exact .inr ⟨name, rfl, bne_iff_ne.1 h⟩

/-- The texts of the states have UTF-8 forms. -/
theorem Transition.writable_states {kind : Kind} {t : Transition} (h : t ∈ ofKind kind)
    (u : Text.Surrogates) : u.Writable t.source ∧ u.Writable t.target := by
  have plain {text : String} (low : text.toList.all (·.toNat < 0xf0000) = true) : u.Writable text :=
    Text.Surrogates.writable_of_lt low
  rcases cases_ofKind h with rfl | rfl | rfl <;> exact ⟨plain (by decide), plain (by decide)⟩

/-- What holds of the target, the actor, the time and an empty cell holds of every value of a
transition. -/
theorem Transition.forall_assignments (t : Transition) {P : Cell → Prop} {actor : Option String}
    {now : Int} (target : P (.text t.target)) (named : P (Cell.ofText? actor)) (time : P (.int now))
    (empty : P .null) : ∀ v ∈ t.assignments actor now, P v.2 := by
  -- Pairs are put into the values one after the other, so this is for any values put before.
  have audits {name moment : Cell} (hname : P name) (hmoment : P moment) (ps : List String) :
      ∀ values : List (String × Cell), (∀ v ∈ values, P v.2) →
        ∀ v ∈ ps.foldl (fun vs p => putAudit p name moment vs) values, P v.2 := by
    induction ps with
    | nil => exact fun _ h => h
    | cons p ps ih =>
      intro values h
      have named := Named.forall_put P (p ++ "_by") h hname
      exact ih _ (Named.forall_put P (p ++ "_at") named hmoment)
  have state : ∀ v ∈ [("state", Cell.text t.target)], P v.2 := List.forall_mem_singleton.2 target
  exact Named.forall_put P _
    (audits empty empty t.clears _ (audits named time t.stamps _ state)) time

/-- A transition that is not stamped writes the same in everybody's name. -/
theorem Transition.assignments_of_unstamped {t : Transition} (h : t.stamps = [])
    (actor : Option String) (now : Int) : t.assignments actor now = t.assignments none now := by
  simp only [assignments, h, List.foldl_nil]

/-- The values of a transition can all be parameters, in the name of an actor whom the store takes
and at a time that fits. -/
theorem Transition.bindable_assignments {kind : Kind} {t : Transition} (h : t ∈ ofKind kind)
    {u : Text.Surrogates} {actor : Option String} (taken : t.Takes u actor) {now : Int}
    (hn : fits now = true) : ∀ v ∈ t.assignments actor now, v.2.Bindable u := by
  have target : (Cell.text t.target).Bindable u := Cell.bindable_text.2 (writable_states h u).2
  have time : (Cell.int now).Bindable u := Cell.bindable_int.2 hn
  have empty : Cell.null.Bindable u := Cell.bindable_null
  rcases taken with unstamped | named
  · rw [assignments_of_unstamped unstamped]
    exact t.forall_assignments target empty time empty
  · exact t.forall_assignments target (Cell.bindable_ofText?.2 named) time empty

/-- A transition that is stamped writes the state first and then who makes it, so a name without a
UTF-8 form is the first value that is refused. -/
theorem Transition.refused_assignments {kind : Kind} {t : Transition} (h : t ∈ ofKind kind)
    (stamped : t.stamps ≠ []) {u : Text.Surrogates} {name : String} {fault : Text.EncodeFault}
    (refused : u.fault? name = some fault) (now : Int) :
    ((t.assignments (some name) now).map (·.2)).findSome? (Cell.refusal? u) =
      some (.unwritable fault) := by
  have target : (Cell.text t.target).refusal? u = none :=
    Cell.bindable_text.2 (writable_states h u).2
  have actor : (Cell.text name).refusal? u = some (.unwritable fault) := by
    simp [Cell.refusal?, refused]
  obtain ⟨rest, heq⟩ : ∃ rest, (t.assignments (some name) now).map (·.2) =
      .text t.target :: .text name :: rest := by
    rcases cases_ofKind h with rfl | rfl | rfl
    · exact ⟨_, rfl⟩
    · exact absurd rfl stamped
    · exact ⟨_, rfl⟩
  rw [heq, List.findSome?_cons, target, List.findSome?_cons, actor]

/-! ## What both kinds of tickets have in common -/

/-- The assignments are ones that the columns of the rows can take, and what they make of a row is
again a row of the ticket. -/
structure Transition.Fitting (ρ : Type) {ε : Type} [Ticket ρ ε] (t : Transition)
    (values : List (String × Cell)) : Prop extends Accepted ρ values where
  id (r : ρ) : Ticket.id (setAll values r) = Ticket.id r
  state (r : ρ) : Ticket.state (setAll values r) = t.target
  read (r : ρ) : read? (setAll values r) ≠ none

/-- What transitions rely on, whichever kind of tickets they are of. -/
class LawfulTicket (ρ : Type) {ε : Type} [Ticket ρ ε] : Prop where
  table_setTable (t : Table ρ) (s : Store) : table (setTable t s) = t
  setTable_table (s : Store) : setTable (table (ρ := ρ) s) s = s
  numbered {s : Store} (h : s.WellFormed) : (table (ρ := ρ) s).Numbered Ticket.id
  readable {s : Store} (h : s.WellFormed) : ∀ r ∈ (table (ρ := ρ) s).rows, read? r ≠ none
  modified {s : Store} {p : ρ → Bool} {f : ρ → ρ} (h : s.WellFormed)
    (id : ∀ r, Ticket.id (f r) = Ticket.id r) (read : ∀ r, read? (f r) ≠ none) :
    (setTable ((table s).modify p f) s).WellFormed
  stateText {r : ρ} {e : ε} (h : read? r = some e) : Ticket.stateText ρ e = state r
  fitting {t : Transition} (ht : t ∈ Transition.ofKind (kind ρ)) {actor : Option String}
    (now : Int) (ha : t.Admits actor) : t.Fitting ρ (t.assignments actor now)
  restored {s : Store} {r : ρ} {actor actor' : Option String} {now now' : Int} (h : s.Audited)
    (hr : r ∈ (table s).rows) (hopen : state r = "open")
    (ha : Transition.closing.Admits actor) :
    setAll (Transition.reopening.assignments actor' now')
        (setAll (Transition.closing.assignments actor now) r) =
      setAll [("updated_at", .int now')] r

instance : LawfulTicket StoredIssue where
  table_setTable _ _ := rfl
  setTable_table _ := rfl
  numbered h := h.issues
  readable h := h.issueStates
  modified h id read :=
    { h with
      issues := h.issues.modify id
      issueStates := Table.forall_modify h.issueStates fun r _ _ _ => read r }
  stateText {r e} h := by
    obtain ⟨state, hs, rfl⟩ := Option.map_eq_some_iff.1 (show r.read? = some e from h)
    have htext := List.find?_some hs
    exact eq_of_beq htext
  fitting {t} ht actor now ha := by
    have row (r : StoredIssue) := Transition.setAll_issue ht actor now r ha
    have ident (r : StoredIssue) := congrArg Ticket.id (row r)
    have repo (r : StoredIssue) := congrArg Ticket.repoId (row r)
    have goes (r : StoredIssue) := congrArg Ticket.state (row r)
    rcases Transition.mem_ofKind_issue.1 ht with rfl | rfl
    · obtain ⟨name, rfl⟩ := ha.named rfl
      exact ⟨⟨rfl, rfl, rfl, fun _ => rfl, repo⟩, ident, goes, fun _ => nofun⟩
    · exact ⟨⟨rfl, rfl, rfl, fun _ => rfl, repo⟩, ident, goes, fun _ => nofun⟩
  restored {s r actor actor' now now'} h hr hopen ha := by
    obtain ⟨closedBy, closedAt⟩ := (h.issues r hr).of_open hopen
    rw [Transition.setAll_issue (Transition.closing_mem _) actor now r ha,
      Transition.setAll_issue (Transition.reopening_mem _) actor' now' _ (.inl rfl)]
    show ({ r with state := "open", closedBy := none, closedAt := none, updatedAt := now' } :
      StoredIssue) = { r with updatedAt := now' }
    rw [← closedBy, ← closedAt, ← show r.state = "open" from hopen]

instance : LawfulTicket StoredMergeRequest where
  table_setTable _ _ := rfl
  setTable_table _ := rfl
  numbered h := h.mergeRequests
  readable h := h.requestStates
  modified h id read :=
    { h with
      mergeRequests := h.mergeRequests.modify id
      requestStates := Table.forall_modify h.requestStates fun r _ _ _ => read r }
  stateText {r e} h := by
    obtain ⟨state, hs, rfl⟩ := Option.map_eq_some_iff.1 (show r.read? = some e from h)
    have htext := List.find?_some hs
    exact eq_of_beq htext
  fitting {t} ht actor now ha := by
    have row (r : StoredMergeRequest) := Transition.setAll_mergeRequest ht actor now r ha
    have ident (r : StoredMergeRequest) := congrArg Ticket.id (row r)
    have repo (r : StoredMergeRequest) := congrArg Ticket.repoId (row r)
    have goes (r : StoredMergeRequest) := congrArg Ticket.state (row r)
    rcases Transition.mem_ofKind_mergeRequest.1 ht with rfl | rfl | rfl
    · obtain ⟨name, rfl⟩ := ha.named rfl
      exact ⟨⟨rfl, rfl, rfl, fun _ => rfl, repo⟩, ident, goes, fun _ => nofun⟩
    · exact ⟨⟨rfl, rfl, rfl, fun _ => rfl, repo⟩, ident, goes, fun _ => nofun⟩
    · obtain ⟨name, rfl⟩ := ha.named rfl
      exact ⟨⟨rfl, rfl, rfl, fun _ => rfl, repo⟩, ident, goes, fun _ => nofun⟩
  restored {s r actor actor' now now'} h hr hopen ha := by
    obtain ⟨-, -, closedBy, closedAt⟩ := (h.mergeRequests r hr).of_open hopen
    rw [Transition.setAll_mergeRequest (Transition.closing_mem _) actor now r ha,
      Transition.setAll_mergeRequest (Transition.reopening_mem _) actor' now' _ (.inl rfl)]
    show ({ r with state := "open", closedBy := none, closedAt := none, updatedAt := now' } :
      StoredMergeRequest) = { r with updatedAt := now' }
    rw [← closedBy, ← closedAt, ← show r.state = "open" from hopen]

/-! ## The row of a repository and an id -/

section Row

variable {ρ ε : Type} [Ticket ρ ε] {s : Store} {repoId id : Int} {r r' : ρ}

/-- The row is the ticket of this repository and id in the store. -/
structure Ticket.RowAt (repoId id : Int) (r : ρ) (s : Store) : Prop where
  mem : r ∈ (table s).rows
  repo : Ticket.repoId r = repoId
  ident : Ticket.id r = id

theorem Ticket.RowAt.isAt (h : RowAt repoId id r s) : Ticket.isAt repoId id r = true :=
  isAt_iff.2 ⟨h.repo, h.ident⟩

variable [LawfulTicket ρ]

theorem Ticket.RowAt.unique (hs : s.WellFormed) (h : RowAt repoId id r s)
    (h' : RowAt repoId id r' s) : r' = r :=
  (LawfulTicket.numbered hs).eq_of_id_eq h'.mem h.mem (h'.ident.trans h.ident.symm)

theorem Ticket.RowAt.found (hs : s.WellFormed) (h : RowAt repoId id r s) :
    (table s).rows.find? (Ticket.isAt (ρ := ρ) repoId id) = some r := by
  refine (LawfulTicket.numbered hs).find?_eq_some h.mem h.isAt fun b _ hb => ?_
  rw [(isAt_iff.1 hb).2, h.ident]

end Row

/-! ## Statements that are let run -/

section Statements

variable {ρ ε : Type} [Ticket ρ ε] {s : Store} {repoId id : Int}

theorem Ticket.fails_get_of_missing (hw : tableName ρ ∉ s.withdrawn) (h₁ : fits repoId = true)
    (h₂ : fits id = true) (hnone : (table s).rows.find? (isAt (ρ := ρ) repoId id) = none) :
    (get ρ repoId id : Transaction ε).Fails s (.notFound (.ticket (kind ρ) id)) := by
  refine fails_bind.2 (.inr ⟨none, s, ?_, fails_fail.2 rfl⟩)
  simp only [find?, returns_bind, returns_useTable, returns_bindAll, returns_view]
  refine ⟨(), s, ⟨hw, rfl⟩, (), s, ⟨?_, rfl⟩, _, s, ⟨rfl, rfl⟩, ?_⟩
  · simpa using ⟨h₁, h₂⟩
  · rw [hnone]
    exact returns_pure.2 ⟨rfl, rfl⟩

end Statements

/-! ## Swapping -/

namespace Lifecycle

variable {ρ ε : Type} [Ticket ρ ε] {s : Store} {t : Transition} {now repoId id : Int}
  {actor : Option String}

/-- How a transition on the ticket of a repository and an id can end on a store, and which store is
left: it goes through, or finds the ticket in another state, or does not find it. -/
inductive Swap (ρ : Type) {ε : Type} [Ticket ρ ε] (t : Transition) (now repoId id : Int)
    (actor : Option String) (s : Store) : Except Error ε → Store → Prop
  | made {r : ρ} {e : ε} (row : RowAt repoId id r s) (source : state r = t.source)
      (reads : read? (setAll (t.assignments actor now) r) = some e) :
      Swap ρ t now repoId id actor s (.ok e) (setTable ((table s).modify
        (isSource (ρ := ρ) t repoId id) (setAll (t.assignments actor now))) s)
  | refused {r : ρ} (row : RowAt repoId id r s) (other : state r ≠ t.source) :
      Swap ρ t now repoId id actor s
        (.error (.invalidState t.name (kind ρ) id (state r) t.source)) s
  | missing (none : ∀ r : ρ, ¬ RowAt repoId id r s) :
      Swap ρ t now repoId id actor s (.error (.notFound (.ticket (kind ρ) id))) s

variable [LawfulTicket ρ]

theorem isSource_iff (hs : s.WellFormed) {r : ρ} (row : RowAt repoId id r s) {b : ρ}
    (hb : b ∈ (table s).rows) :
    isSource t repoId id b = true ↔ b = r ∧ state r = t.source := by
  constructor
  · intro h
    obtain ⟨hat, hstate⟩ := Bool.and_eq_true_iff.1 h
    obtain ⟨repo, ident⟩ := isAt_iff.1 hat
    obtain rfl := row.unique hs ⟨hb, repo, ident⟩
    exact ⟨rfl, eq_of_beq hstate⟩
  · rintro ⟨rfl, hstate⟩
    rw [isSource, row.isAt, hstate, beq_self_eq_true]
    rfl

section Follow

variable (hs : s.WellFormed) (hv : t.Fitting ρ (t.assignments actor now))
  (ha : (t.stamps.isEmpty || hasActor actor) = true)
  (hb : ∀ c ∈ guardedParameters repoId id t.source (t.assignments actor now),
    c.Bindable s.surrogates)
  (h₁ : fits repoId = true) (h₂ : fits id = true)

theorem modified_row (hv : t.Fitting ρ (t.assignments actor now)) {r : ρ}
    (row : RowAt repoId id r s) (source : state r = t.source) :
    RowAt repoId id (setAll (t.assignments actor now) r) (setTable ((table s).modify
      (isSource (ρ := ρ) t repoId id) (setAll (t.assignments actor now))) s) where
  mem := by
    rw [LawfulTicket.table_setTable]
    refine Table.mem_modify.2 ⟨r, row.mem, if_pos ?_⟩
    rw [isSource, row.isAt, source, beq_self_eq_true]
    rfl
  repo := (hv.repoId r).trans row.repo
  ident := (hv.id r).trans row.ident

include hs hv ha hb h₁ h₂

theorem follow_of_source {r : ρ} {e : ε} (row : RowAt repoId id r s) (source : state r = t.source)
    (reads : read? (setAll (t.assignments actor now) r) = some e) :
    (follow ρ t now repoId id actor).Returns s e (setTable ((table s).modify
      (isSource (ρ := ρ) t repoId id) (setAll (t.assignments actor now))) s) := by
  have wf := LawfulTicket.modified (p := isSource (ρ := ρ) t repoId id) hs hv.id hv.read
  have present : tableName ρ ∉ s.withdrawn := hs.present ▸ List.not_mem_nil
  have present' := wf.present.symm ▸ List.not_mem_nil (a := tableName ρ)
  have matched : (table s).count (isSource (ρ := ρ) t repoId id) ≠ 0 := by
    refine Nat.ne_of_gt (List.countP_pos_iff.2 ⟨r, row.mem, ?_⟩)
    exact (isSource_iff hs row row.mem).2 ⟨rfl, source⟩
  refine returns_bind.2 ⟨(), s, returns_ensure.2 ⟨ha, rfl⟩, returns_bind.2
    ⟨_, _, hv.toAccepted.returns present hb, ?_⟩⟩
  rw [if_neg matched]
  exact returns_get.2
    ⟨present', h₁, h₂, rfl, _, (modified_row hv row source).found wf, reads⟩

omit h₁ h₂ in
/-- If no row matches, the store is as it was when the ticket is looked at again. -/
theorem follow_of_unmatched {error : Error}
    (none : ∀ r ∈ (table (ρ := ρ) s).rows, isSource t repoId id r = false)
    (again : (do
      let current ← get ρ repoId id
      fail (.invalidState t.name (kind ρ) id (stateText ρ current) t.source) :
        Transaction ε).Fails s error) :
    (follow ρ t now repoId id actor : Transaction ε).Fails s error := by
  have present : tableName ρ ∉ s.withdrawn := hs.present ▸ List.not_mem_nil
  have matched : (table s).count (isSource (ρ := ρ) t repoId id) = 0 := by
    refine List.countP_eq_zero.2 fun r hr => ?_
    rw [none r hr]
    exact Bool.false_ne_true
  have updated := hv.toAccepted.returns present hb
  rw [Table.modify_eq_self none, LawfulTicket.setTable_table] at updated
  refine fails_bind.2 (.inr ⟨(), s, returns_ensure.2 ⟨ha, rfl⟩, fails_bind.2
    (.inr ⟨_, s, updated, ?_⟩)⟩)
  rw [if_pos matched]
  exact again

theorem follow_of_other {r : ρ} (row : RowAt repoId id r s) (other : state r ≠ t.source) :
    (follow ρ t now repoId id actor : Transaction ε).Fails s
      (.invalidState t.name (kind ρ) id (state r) t.source) := by
  have present : tableName ρ ∉ s.withdrawn := hs.present ▸ List.not_mem_nil
  obtain ⟨e, he⟩ := Option.ne_none_iff_exists'.1 (LawfulTicket.readable hs r row.mem)
  refine follow_of_unmatched hs hv ha hb (fun b hb => ?_) ?_
  · rw [Bool.eq_false_iff]
    intro h
    exact other ((isSource_iff hs row hb).1 h).2
  · refine fails_bind.2 (.inr ⟨e, s, ?_, ?_⟩)
    · exact returns_get.2 ⟨present, h₁, h₂, rfl, r, row.found hs, he⟩
    · rw [LawfulTicket.stateText he]
      exact fails_fail.2 rfl

theorem follow_of_missing (none : ∀ r : ρ, ¬ RowAt repoId id r s) :
    (follow ρ t now repoId id actor : Transaction ε).Fails s
      (.notFound (.ticket (kind ρ) id)) := by
  have present : tableName ρ ∉ s.withdrawn := hs.present ▸ List.not_mem_nil
  have notAt (b : ρ) (hb : b ∈ (table s).rows) : isAt repoId id b = false := by
    rw [Bool.eq_false_iff]
    intro h
    obtain ⟨repo, ident⟩ := isAt_iff.1 h
    exact none b ⟨hb, repo, ident⟩
  refine follow_of_unmatched hs hv ha hb (fun b hb => ?_) ?_
  · rw [isSource, notAt b hb, Bool.false_and]
  · refine fails_bind.2 (.inl (fails_get_of_missing present h₁ h₂ ?_))
    exact List.find?_eq_none.2 fun b hb => Bool.eq_false_iff.1 (notAt b hb)

end Follow

/-- A transition that is stamped, in a name that has no UTF-8 form, is refused for that. -/
theorem follow_of_unwritable (hs : s.WellFormed) (ht : t ∈ Transition.ofKind (kind ρ))
    (stamped : t.stamps ≠ []) {name : String} {fault : Text.EncodeFault}
    (refused : s.surrogates.fault? name = some fault) :
    (follow ρ t now repoId id (some name) : Transaction ε).Fails s (.unwritable fault) := by
  have named : name ≠ "" := by
    rintro rfl
    cases refused
  have admits : t.Admits (some name) := .inr ⟨name, rfl, named⟩
  have present : tableName ρ ∉ s.withdrawn := hs.present ▸ List.not_mem_nil
  refine fails_bind.2 (.inr ⟨(), s, returns_ensure.2 ⟨admits.hasActor, rfl⟩,
    fails_bind.2 (.inl ?_)⟩)
  refine (LawfulTicket.fitting (ρ := ρ) ht now admits).toAccepted.fails present ?_
  rw [guardedParameters, List.findSome?_append,
    Transition.refused_assignments ht stamped refused now]
  rfl

/-- A transition of a table, by an actor who may make it and whom the store takes, and with numbers
that fit, ends in a swap or in one of the two refusals. -/
theorem swap (hs : s.WellFormed) (ht : t ∈ Transition.ofKind (kind ρ)) (ha : t.Admits actor)
    (taken : t.Takes s.surrogates actor) (hn : fits now = true) (h₁ : fits repoId = true)
    (h₂ : fits id = true) :
    Swap ρ t now repoId id actor s ((apply ρ now repoId id t.name actor).commit s).1
      ((apply ρ now repoId id t.name actor).commit s).2 := by
  have hv := LawfulTicket.fitting (ρ := ρ) ht now ha
  have source := (Transition.writable_states ht s.surrogates).1
  have hb := bindable_guardedParameters.2
    ⟨Transition.bindable_assignments ht taken hn, h₁, h₂, source⟩
  unfold apply
  rw [Transition.named?_name ht]
  by_cases hrow : ∃ r : ρ, RowAt repoId id r s
  · obtain ⟨r, row⟩ := hrow
    by_cases source : state r = t.source
    · obtain ⟨e, reads⟩ := Option.ne_none_iff_exists'.1 (hv.read r)
      rw [commit_of_returns (follow_of_source hs hv ha.hasActor hb h₁ h₂ row source reads)]
      exact .made row source reads
    · rw [commit_of_fails (follow_of_other hs hv ha.hasActor hb h₁ h₂ row source)]
      exact .refused row source
  · have none (r : ρ) (row : RowAt repoId id r s) : False := hrow ⟨r, row⟩
    rw [commit_of_fails (follow_of_missing hs hv ha.hasActor hb h₁ h₂ none)]
    exact .missing none

end Lifecycle

end Forge
