import Forge.Proofs.Frame.Deed
import Forge.Proofs.Independence.Alike
import Forge.Proofs.Independence.Patch

/-!
# Transactions that make the same patch

A transaction is `Steered` within a reach if it ends alike in two stores and, where it returns, has
made one and the same patch of both, within the reach. All transactions that change a ticket or a
dependency are steered, within any reach to which the tickets that they name belong, in stores that
agree on what is within it.
-/

namespace Forge

open Transaction Ticket

/-! ## Patches of tickets -/

/-- Tables of tickets that patches can change. -/
class PatchedTicket (ρ : Type) {ε : outParam Type} [Ticket ρ ε] where
  patch : (ρ → Option ρ) → Patch
  on_patch (h : ρ → Option ρ) (s : Store) : (patch h).on s = setTable ((table s).rewrite h) s
  within {reach : Reach} {h : ρ → Option ρ} (s : Store)
    (confines : Table.Confines (reach (kind ρ)) h) : (patch h).Within reach s
  rows {reach : Reach} {s s' : Store} (same : SameTickets reach s s') {repoId id : Int}
    (near : reach (kind ρ) repoId id) :
    (table (ρ := ρ) s').rows.filter (isAt repoId id) = (table s).rows.filter (isAt repoId id)
  edited (title : String) (description : Option String) (now : Int) (r : ρ) :
    let r' := setAll [("title", .text title), ("description", Cell.ofText? description),
      ("updated_at", .int now)] r
    Ticket.repoId r' = Ticket.repoId r ∧ Ticket.id r' = Ticket.id r

instance : PatchedTicket StoredIssue where
  patch h := { Patch.idle with issues := h }
  on_patch h s := by
    simp [Patch.on, Patch.idle, EdgeChange.on, Table.remove, setTable, table]
  within s confines := { Patch.within_idle _ s with issues := confines }
  rows same _ _ near := same.issues _ _ near
  edited _ description _ _ := by
    cases description <;> exact ⟨rfl, rfl⟩

instance : PatchedTicket StoredMergeRequest where
  patch h := { Patch.idle with mergeRequests := h }
  on_patch h s := by
    simp [Patch.on, Patch.idle, EdgeChange.on, Table.remove, setTable, table]
  within s confines := { Patch.within_idle _ s with mergeRequests := confines }
  rows same _ _ near := same.mergeRequests _ _ near
  edited _ description _ _ := by
    cases description <;> exact ⟨rfl, rfl⟩

namespace Table

variable {ρ ε : Type} [Ticket ρ ε] {within : Int → Int → Prop} {repoIdent ident : Int}
  {p : ρ → Bool} {f : ρ → ρ}

theorem confines_modify (near : within repoIdent ident)
    (hp : ∀ r, p r = true → isAt repoIdent ident r = true)
    (hf : ∀ r, Ticket.repoId (f r) = Ticket.repoId r ∧ Ticket.id (f r) = Ticket.id r) :
    Confines within fun r => some (if p r then f r else r) where
  outside r far := by
    split
    · obtain ⟨rfl, rfl⟩ := isAt_iff.1 (hp r ‹_›)
      exact absurd near far
    · rfl
  keyed r r' changed := by
    split at changed <;> cases changed
    · exact hf r
    · exact ⟨rfl, rfl⟩

theorem confines_remove (near : within repoIdent ident) :
    Confines within fun r : ρ => if isAt repoIdent ident r then none else some r where
  outside r far := by
    split
    · obtain ⟨rfl, rfl⟩ := isAt_iff.1 ‹_›
      exact absurd near far
    · rfl
  keyed r r' kept := by
    split at kept <;> cases kept
    exact ⟨rfl, rfl⟩

end Table

/-! ## Transactions that make the same patch -/

section Steered

variable {α β : Type} {t : Transaction α} {k : α → Transaction β} {reach : Reach} {s s' : Store}

/-- The transaction ends alike in both stores, and what it returns it leaves with one patch of both
within the reach. -/
structure Transaction.Steered (reach : Reach) (t : Transaction α) (s s' : Store) : Prop where
  alike : Alike t t s s'
  patched : ∀ a d d', t.Returns s a d → t.Returns s' a d' →
    ∃ P : Patch, P.Within reach s ∧ d = P.on s ∧ d' = P.on s'

namespace Transaction.Steered

/-- What is read first and is the same makes no difference. -/
theorem after (h : Alike t t s s') (reads : ∀ s a d, t.Returns s a d → d = s)
    (next : ∀ a, t.Returns s a s → (k a).Steered reach s s') : (t >>= k).Steered reach s s' where
  alike := by
    refine h.bind fun a d d' hd hd' => ?_
    obtain rfl := reads _ _ _ hd
    obtain rfl := reads _ _ _ hd'
    exact (next a hd).alike
  patched b e e' hb hb' := by
    obtain ⟨a, d, hd, he⟩ := returns_bind.1 hb
    obtain ⟨a', d', hd', he'⟩ := returns_bind.1 hb'
    obtain rfl := h.value_eq hd hd'
    obtain rfl := reads _ _ _ hd
    obtain rfl := reads _ _ _ hd'
    exact (next _ hd).patched b e e' he he'

/-- What is read afterwards does not change what has been patched. -/
theorem before (h : t.Steered reach s s')
    (reads : ∀ a s b d, (k a).Returns s b d → d = s)
    (next : ∀ a (P : Patch), P.Within reach s → Alike (k a) (k a) (P.on s) (P.on s')) :
    (t >>= k).Steered reach s s' where
  alike := by
    refine h.alike.bind fun a d d' hd hd' => ?_
    obtain ⟨P, within, rfl, rfl⟩ := h.patched a d d' hd hd'
    exact next a P within
  patched b e e' hb hb' := by
    obtain ⟨a, d, hd, he⟩ := returns_bind.1 hb
    obtain ⟨a', d', hd', he'⟩ := returns_bind.1 hb'
    obtain rfl := h.alike.value_eq hd hd'
    rw [reads _ _ _ _ he, reads _ _ _ _ he']
    exact h.patched _ _ _ hd hd'

/-- A committed transaction has made the same patch of both stores, which is idle if it failed. -/
theorem commit (h : t.Steered reach s s') : ∃ (x : Except Error α) (P : Patch),
    P.Within reach s ∧ t.commit s = (x, P.on s) ∧ t.commit s' = (x, P.on s') := by
  rcases h.alike.cases with ⟨e, he, he'⟩ | ⟨a, d, d', hd, hd'⟩
  · refine ⟨.error e, .idle, Patch.within_idle reach s, ?_, ?_⟩
    · rw [commit_of_fails he, Patch.on_idle]
    · rw [commit_of_fails he', Patch.on_idle]
  · obtain ⟨P, within, rfl, rfl⟩ := h.patched a d d' hd hd'
    exact ⟨.ok a, P, within, commit_of_returns hd, commit_of_returns hd'⟩

end Transaction.Steered

end Steered

/-! ## Changes of tickets -/

section Tickets

variable {ρ ε : Type} [Ticket ρ ε] [PatchedTicket ρ] {reach : Reach} {s s' : Store}
  {now repoIdent ident : Int}

theorem PatchedTicket.on_modify (p : ρ → Bool) (f : ρ → ρ) (s : Store) :
    setTable ((table s).modify p f) s =
      (patch fun r => some (if p r then f r else r)).on s := by
  rw [Table.modify_eq_rewrite, on_patch]

variable (same : SameTickets reach s s') (near : reach (kind ρ) repoIdent ident)

include same near

theorem Ticket.steered_update (title : String) (description : Option String) :
    (update ρ now repoIdent ident title description).Steered reach s s' where
  alike := alike_update same.withdrawn (PatchedTicket.rows same near) same.repos same.surrogates
    title description
  patched _ d d' hd hd' := by
    obtain ⟨cleaned, clean, -, rfl, -⟩ := returns_update hd
    obtain ⟨cleaned', clean', -, rfl, -⟩ := returns_update hd'
    obtain rfl := Except.ok.inj (clean.symm.trans clean')
    refine ⟨_, ?_, PatchedTicket.on_modify _ _ s, PatchedTicket.on_modify _ _ s'⟩
    exact PatchedTicket.within s
      (Table.confines_modify near (fun _ h => h) (PatchedTicket.edited cleaned description now))

/-- A transition is steered: what it sets is neither the repository nor the id of a ticket. -/
theorem Lifecycle.steered_follow [LawfulTicket ρ] {t : Transition} {actor : Option String}
    (ht : t ∈ Transition.ofKind (kind ρ)) :
    (follow ρ t now repoIdent ident actor : Transaction ε).Steered reach s s' := by
  have within (passed : (t.stamps.isEmpty || hasActor actor) = true) :
      (PatchedTicket.patch fun r : ρ => some (if isSource t repoIdent ident r then
        setAll (t.assignments actor now) r else r)).Within reach s := by
    have fitting := LawfulTicket.fitting (ρ := ρ) ht now (.of_hasActor passed)
    exact PatchedTicket.within s (Table.confines_modify near
      (fun _ h => (Bool.and_eq_true_iff.1 h).1) fun r => ⟨fitting.repoId r, fitting.id r⟩)
  constructor
  · refine .ensure fun passed => ?_
    refine (alike_guardedUpdate same.withdrawn (PatchedTicket.rows same near) same.repos
      same.surrogates _ _).bind fun matched d d' hd hd' => ?_
    obtain ⟨-, rfl⟩ := returns_guardedUpdate hd
    obtain ⟨-, rfl⟩ := returns_guardedUpdate hd'
    rw [PatchedTicket.on_modify, PatchedTicket.on_modify]
    have moved := same.on (within passed)
    have got := alike_get (ρ := ρ) moved.withdrawn (PatchedTicket.rows moved near)
    split
    · exact got.bind fun _ _ _ _ _ => rfl
    · exact got
  · intro _ d d' hd hd'
    obtain ⟨passed, -, rfl, -⟩ := returns_follow hd
    obtain ⟨-, -, rfl, -⟩ := returns_follow hd'
    exact ⟨_, within passed, PatchedTicket.on_modify _ _ s, PatchedTicket.on_modify _ _ s'⟩

theorem Lifecycle.steered_apply [LawfulTicket ρ] (name : String) (actor : Option String) :
    (apply ρ now repoIdent ident name actor : Transaction ε).Steered reach s s' := by
  unfold apply
  split
  · exact steered_follow same near (List.mem_of_find?_eq_some ‹_›)
  · exact ⟨rfl, fun _ _ _ hd _ => absurd hd returns_fail⟩

end Tickets

/-! ## Removals and dependencies -/

namespace Store

variable {reach : Reach} {s s' : Store} {now repoId id a b : Int}

theorem alike_repositoryNamed (same : SameTickets reach s s') (name : String) :
    Alike (repositoryNamed name) (repositoryNamed name) s s' := by
  refine .ofExcept fun key _ =>
    .useTable same.withdrawn (.bindCells same.surrogates (.view ?_))
  rw [same.repos]
  split <;> rfl

section Tickets

variable (same : SameTickets reach s s')

include same

theorem steered_deleteMergeRequest (near : reach .mergeRequest repoId id) :
    (Ticket.delete StoredMergeRequest repoId id).Steered reach s s' where
  alike := alike_delete same.withdrawn (same.mergeRequests _ _ near)
  patched _ d d' hd hd' := by
    have removed (s : Store) : { s with mergeRequests := s.mergeRequests.remove (isAt repoId id) } =
        (PatchedTicket.patch fun r : StoredMergeRequest =>
          if isAt repoId id r then none else some r).on s := by
      rw [Table.remove_eq_rewrite, PatchedTicket.on_patch]
      rfl
    obtain ⟨-, rfl⟩ := does_deleteMergeRequest hd
    obtain ⟨-, rfl⟩ := does_deleteMergeRequest hd'
    exact ⟨_, PatchedTicket.within s (Table.confines_remove near), removed s, removed s'⟩

/-- Whatever dependencies go with an issue have it at an end. -/
theorem steered_deleteIssue (near : reach .issue repoId id) :
    (deleteIssue repoId id).Steered reach s s' where
  alike := by
    refine (alike_delete same.withdrawn (same.issues _ _ near)).bind fun _ d d' hd hd' => ?_
    obtain ⟨-, rfl⟩ := Ticket.returns_delete hd
    obtain ⟨-, rfl⟩ := Ticket.returns_delete hd'
    exact .useTable same.withdrawn (.useParent same.withdrawn rfl)
  patched _ d d' hd hd' := by
    obtain ⟨there, rfl⟩ := does_deleteIssue hd
    obtain ⟨-, rfl⟩ := does_deleteIssue hd'
    let P : Patch := ⟨fun r => if isAt repoId id r then none else some r, some,
      .drop (StoredDependency.touches id)⟩
    have removed (s : Store) : s.withoutIssue repoId id = P.on s := by
      simp only [withoutIssue, Patch.on, P, Table.remove_eq_rewrite s.issues, Table.rewrite_some]
      rfl
    have edges : P.edges.Within reach s := by
      intro d touched
      refine ⟨repoId, id, near, hasIssueAt_of_rowAt there, ?_⟩
      simpa [StoredDependency.touches] using touched
    exact ⟨P, ⟨Table.confines_remove near, Table.confines_some, edges⟩, removed s, removed s'⟩

theorem alike_requireIssue (near : reach .issue repoId id) :
    Alike (requireIssue repoId id) (requireIssue repoId id) s s' := by
  refine (alike_isThere same.withdrawn (same.issues _ _ near)).bind fun there _ _ _ _ => ?_
  unfold Transaction.ensure
  split <;> rfl

end Tickets

section Dependencies

/-- The store with a change of dependencies alone. -/
theorem on_edges (c : EdgeChange) (s : Store) :
    { s with dependencies := c.on s.dependencies } =
      ({ Patch.idle with edges := c } : Patch).on s := by
  simp [Patch.on, Patch.idle]

variable (agree : Agree reach s s') (first : reach .issue repoId a) (second : reach .issue repoId b)

include agree first second

theorem steered_addDependency :
    (addDependency now repoId a b).Steered reach s s' where
  alike := by
    refine (alike_requireIssue agree.toSameTickets first).bind fun _ d d' hd hd' => ?_
    obtain ⟨rfl, there⟩ := returns_requireIssue hd
    obtain ⟨rfl, there'⟩ := returns_requireIssue hd'
    refine (alike_requireIssue agree.toSameTickets second).bind fun _ e e' he he' => ?_
    obtain ⟨rfl, other⟩ := returns_requireIssue he
    obtain ⟨rfl, other'⟩ := returns_requireIssue he'
    refine .ensure fun _ => .useTable agree.withdrawn (.useParent agree.withdrawn ?_)
    refine .ensure fun _ => .required fun issueId hi => .required fun dependsOnId hj => ?_
    cases hi
    cases hj
    refine .ensure fun _ => .view ?_
    rw [agree.edges _ _ _ first second there, HasIssueAt.hasIssue there, HasIssueAt.hasIssue there',
      HasIssueAt.hasIssue other, HasIssueAt.hasIssue other']
    exact .ensure fun _ => .ensure fun _ => rfl
  patched _ d d' hd hd' := by
    obtain ⟨there, other, -, -, rfl, rfl⟩ := returns_addDependency hd
    obtain ⟨-, -, -, -, -, rfl⟩ := returns_addDependency hd'
    refine ⟨_, ?_, on_edges (.add ⟨a, b, now⟩) s, on_edges (.add ⟨a, b, now⟩) s'⟩
    exact { Patch.within_idle reach s with edges := ⟨repoId, ⟨first, there⟩, second, other⟩ }

theorem steered_removeDependency : (removeDependency repoId a b).Steered reach s s' where
  alike := by
    refine (alike_requireIssue agree.toSameTickets first).bind fun _ d d' hd hd' => ?_
    obtain ⟨rfl, there⟩ := returns_requireIssue hd
    obtain ⟨rfl, there'⟩ := returns_requireIssue hd'
    refine .useTable agree.withdrawn (.useParent agree.withdrawn (.ensure fun _ => .view ?_))
    rw [agree.edges _ _ _ first second there]
    rfl
  patched _ d d' hd hd' := by
    obtain ⟨there, rfl⟩ := returns_removeDependency hd
    obtain ⟨-, rfl⟩ := returns_removeDependency hd'
    refine ⟨_, ?_, on_edges (.drop (isEdge a b)) s, on_edges (.drop (isEdge a b)) s'⟩
    have edges : (EdgeChange.drop (isEdge a b)).Within reach s := fun d edge =>
      ⟨repoId, a, first, there, .inl (eq_of_beq (Bool.and_eq_true_iff.1 edge).1)⟩
    exact { Patch.within_idle reach s with edges }

end Dependencies

end Store

end Forge
