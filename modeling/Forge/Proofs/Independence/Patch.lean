import Forge.Proofs.Dependency.Pairs

/-!
# Patches

What an operation on tickets does to the store is a `Patch`: some rows of the tables of tickets are
replaced or removed, and dependencies are removed or one is added. A patch stays within a reach, the
tickets that it may change, if it leaves all others alone and changes dependencies at issues of the
reach only. Patches within disjoint reaches can be made in either order, and neither changes what
can be read within the reach of the other.
-/

namespace Forge

open Ticket (isAt isAt_iff)

/-! ## Tables -/

/-- Tickets, by their kind, their repository and their id. -/
abbrev Reach := Kind → Int → Int → Prop

/-- No ticket is within both. -/
def Reach.Apart (near far : Reach) : Prop :=
  ∀ kind repoId id, near kind repoId id → ¬ far kind repoId id

theorem Reach.Apart.symm {near far : Reach} (h : near.Apart far) : far.Apart near :=
  fun kind repoId id inside outside => h kind repoId id outside inside

/-- The table with every row replaced by what `h` makes of it, or removed if that is nothing. -/
def Table.rewrite {ρ : Type} (h : ρ → Option ρ) (t : Table ρ) : Table ρ :=
  ⟨t.rows.filterMap h, t.lastId⟩

namespace Table

variable {ρ ε : Type} {t : Table ρ} {g h : ρ → Option ρ}

@[simp] theorem rewrite_some (t : Table ρ) : t.rewrite some = t := by
  simp [rewrite]

theorem modify_eq_rewrite (t : Table ρ) (p : ρ → Bool) (f : ρ → ρ) :
    t.modify p f = t.rewrite fun r => some (if p r then f r else r) := by
  simp [modify, rewrite]

theorem remove_eq_rewrite (t : Table ρ) (p : ρ → Bool) :
    t.remove p = t.rewrite fun r => if p r then none else some r := by
  rw [remove, rewrite, ← List.filterMap_eq_filter]
  congr 2
  funext r
  cases hp : p r <;> simp [hp, Option.guard]

theorem rewrite_comm (swap : ∀ r, (g r).bind h = (h r).bind g) :
    (t.rewrite g).rewrite h = (t.rewrite h).rewrite g := by
  simp only [rewrite, List.filterMap_filterMap, swap]

/-- Only rows of tickets within the reach are changed, and none becomes another ticket. -/
structure Confines [Ticket ρ ε] (within : Int → Int → Prop) (h : ρ → Option ρ) : Prop where
  outside : ∀ r : ρ, ¬ within (Ticket.repoId r) (Ticket.id r) → h r = some r
  keyed : ∀ r r' : ρ, h r = some r' →
    Ticket.repoId r' = Ticket.repoId r ∧ Ticket.id r' = Ticket.id r

section Confines

variable [Ticket ρ ε] {within other : Int → Int → Prop} {repoIdent ident : Int}

theorem confines_some : Confines within (some : ρ → Option ρ) where
  outside _ _ := rfl
  keyed _ _ same := by
    cases same
    exact ⟨rfl, rfl⟩

/-- A row cannot be within two disjoint reaches, so one of the changes leaves it alone. -/
theorem Confines.comm (hg : Confines within g) (hh : Confines other h)
    (apart : ∀ repoId id, within repoId id → ¬ other repoId id) (r : ρ) :
    (g r).bind h = (h r).bind g := by
  by_cases inside : within (Ticket.repoId r) (Ticket.id r)
  · rw [hh.outside r (apart _ _ inside), Option.bind_some]
    cases shape : g r with
    | none => rfl
    | some r' =>
      obtain ⟨repo, same⟩ := hg.keyed r r' shape
      rw [Option.bind_some, hh.outside r' (by rw [repo, same]; exact apart _ _ inside)]
  · rw [hg.outside r inside, Option.bind_some]
    cases shape : h r with
    | none => rfl
    | some r' =>
      obtain ⟨repo, same⟩ := hh.keyed r r' shape
      rw [Option.bind_some, hg.outside r' (by rwa [repo, same])]

/-- What becomes of the rows of a ticket depends on these alone. -/
theorem Confines.filter_rewrite (hh : Confines within h) :
    (t.rewrite h).rows.filter (isAt repoIdent ident) =
      (t.rows.filter (isAt repoIdent ident)).filterMap h := by
  rw [rewrite, List.filter_filterMap, List.filterMap_filter]
  refine List.filterMap_congr fun r _ => ?_
  cases shape : h r with
  | none => simp
  | some r' =>
    obtain ⟨repo, same⟩ := hh.keyed r r' shape
    have key : isAt repoIdent ident r' = isAt repoIdent ident r := by simp [isAt, repo, same]
    cases at? : isAt repoIdent ident r <;> simp [key, at?]

theorem Confines.filter_rewrite_outside (hh : Confines within h)
    (outside : ¬ within repoIdent ident) :
    (t.rewrite h).rows.filter (isAt repoIdent ident) = t.rows.filter (isAt repoIdent ident) := by
  rw [hh.filter_rewrite]
  refine (List.filterMap_congr fun r mem => ?_).trans List.filterMap_some
  obtain ⟨repo, same⟩ := isAt_iff.1 (List.mem_filter.1 mem).2
  exact hh.outside r (by rwa [repo, same])

end Confines

end Table

/-! ## Patches -/

/-- A change of the table of dependencies. -/
inductive EdgeChange where
  | drop (q : StoredDependency → Bool)
  | add (d : Dependency)

/-- The table after a change. -/
def EdgeChange.on : EdgeChange → Table StoredDependency → Table StoredDependency
  | .drop q, t => t.remove q
  | .add d, t => t.insert fun id => ⟨d, id⟩

/-- A change of the rows of tickets and of the table of dependencies. -/
structure Patch where
  issues : StoredIssue → Option StoredIssue
  mergeRequests : StoredMergeRequest → Option StoredMergeRequest
  edges : EdgeChange

namespace Patch

/-- The store after a patch. -/
def on (P : Patch) (s : Store) : Store :=
  { s with
    issues := s.issues.rewrite P.issues
    mergeRequests := s.mergeRequests.rewrite P.mergeRequests
    dependencies := P.edges.on s.dependencies }

/-- The patch that changes nothing. -/
def idle : Patch := ⟨some, some, .drop fun _ => false⟩

theorem on_idle (s : Store) : idle.on s = s := by
  simp [idle, on, EdgeChange.on, Table.remove]

end Patch

/-- The dependencies that are removed have an issue of the reach at an end, the one that is added
at both. -/
def EdgeChange.Within (reach : Reach) (s : Store) : EdgeChange → Prop
  | .drop q => ∀ d, q d = true → ∃ repoId id, reach .issue repoId id ∧ s.HasIssueAt repoId id ∧
      (d.issueId = id ∨ d.dependsOnId = id)
  | .add d => ∃ repoId, (reach .issue repoId d.issueId ∧ s.HasIssueAt repoId d.issueId) ∧
      reach .issue repoId d.dependsOnId ∧ s.HasIssueAt repoId d.dependsOnId

/-- The patch changes only what is within the reach. -/
structure Patch.Within (reach : Reach) (s : Store) (P : Patch) : Prop where
  issues : Table.Confines (reach .issue) P.issues
  mergeRequests : Table.Confines (reach .mergeRequest) P.mergeRequests
  edges : P.edges.Within reach s

theorem Patch.within_idle (reach : Reach) (s : Store) : idle.Within reach s where
  issues := Table.confines_some
  mergeRequests := Table.confines_some
  edges _ := nofun

/-! ## What can be read within a reach -/

/-- The rows of the tickets within the reach are the same in both stores. -/
structure SameTickets (reach : Reach) (s s' : Store) : Prop where
  repos : s'.repos = s.repos
  withdrawn : s'.withdrawn = s.withdrawn
  surrogates : s'.surrogates = s.surrogates
  issues : ∀ repoId id, reach .issue repoId id →
    s'.issues.rows.filter (isAt repoId id) = s.issues.rows.filter (isAt repoId id)
  mergeRequests : ∀ repoId id, reach .mergeRequest repoId id →
    s'.mergeRequests.rows.filter (isAt repoId id) = s.mergeRequests.rows.filter (isAt repoId id)

/-- And so are the dependencies between issues within the reach. -/
structure Agree (reach : Reach) (s s' : Store) : Prop extends SameTickets reach s s' where
  edges : ∀ repoId a b, reach .issue repoId a → reach .issue repoId b → s.HasIssueAt repoId a →
    s'.dependencies.any (Store.isEdge a b) = s.dependencies.any (Store.isEdge a b)

theorem Agree.refl (reach : Reach) (s : Store) : Agree reach s s :=
  ⟨⟨rfl, rfl, rfl, fun _ _ _ => rfl, fun _ _ _ => rfl⟩, fun _ _ _ _ _ _ => rfl⟩

section Within

variable {reach other : Reach} {s s' : Store} {P Q : Patch} {c c' : EdgeChange}
  {repoId repoId' a b id : Int}

/-- The same patch of both stores leaves the tickets within its reach the same. -/
theorem SameTickets.on (same : SameTickets reach s s') (within : P.Within reach s) :
    SameTickets reach (P.on s) (P.on s') where
  repos := same.repos
  withdrawn := same.withdrawn
  surrogates := same.surrogates
  issues repoId id near := by
    simp only [Patch.on]
    rw [within.issues.filter_rewrite, within.issues.filter_rewrite, same.issues _ _ near]
  mergeRequests repoId id near := by
    simp only [Patch.on]
    rw [within.mergeRequests.filter_rewrite, within.mergeRequests.filter_rewrite,
      same.mergeRequests _ _ near]

variable (hs : s.WellFormed) (hr : s.Related)

include hs in
theorem Store.WellFormed.repoId_eq_of_hasIssueAt (h : s.HasIssueAt repoId id)
    (h' : s.HasIssueAt repoId' id) : repoId = repoId' := by
  obtain ⟨i, hi, rfl, hid⟩ := h
  obtain ⟨j, hj, rfl, hjd⟩ := h'
  rw [hs.issues.eq_of_id_eq hi hj (hid.trans hjd.symm)]

include hs in
/-- An issue is not within two disjoint reaches. -/
theorem Reach.Apart.issue_ne (apart : Reach.Apart reach other) (near : reach .issue repoId a)
    (there : s.HasIssueAt repoId a) (far : other .issue repoId' b)
    (there' : s.HasIssueAt repoId' b) : a ≠ b := by
  rintro rfl
  obtain rfl := hs.repoId_eq_of_hasIssueAt there there'
  exact apart _ _ _ near far

include hr in
/-- The other end of a dependency of an issue is an issue of the same repository. -/
theorem Store.Related.hasIssueAt_dependsOn {d : StoredDependency} (hs : s.WellFormed)
    (mem : d ∈ s.dependencies.rows) (there : s.HasIssueAt repoId d.issueId) :
    s.HasIssueAt repoId d.dependsOnId := by
  obtain ⟨i, hi, j, hj, hid, hjd, same⟩ := hr.joined d mem
  obtain rfl := hs.repoId_eq_of_hasIssueAt ⟨i, hi, rfl, hid⟩ there
  exact ⟨j, hj, same.symm, hjd⟩

include hs hr in
/-- A change within one reach does not touch the dependencies between issues of another. -/
theorem EdgeChange.Within.any_on (within : c.Within reach s) (apart : Reach.Apart reach other)
    (first : other .issue repoId a) (second : other .issue repoId b)
    (there : s.HasIssueAt repoId a) :
    (c.on s.dependencies).any (Store.isEdge a b) = s.dependencies.any (Store.isEdge a b) := by
  cases c with
  | drop q =>
    have kept : ∀ d ∈ s.dependencies.rows, Store.isEdge a b d = true → q d = false := by
      intro d mem edge
      obtain ⟨rfl, rfl⟩ : d.issueId = a ∧ d.dependsOnId = b := by simpa [Store.isEdge] using edge
      refine Bool.eq_false_iff.2 fun gone => ?_
      obtain ⟨_, _, near, present, rfl | rfl⟩ := within d gone
      · exact apart.issue_ne hs near present first there rfl
      · exact apart.issue_ne hs near present second (hr.hasIssueAt_dependsOn hs mem there) rfl
    show (s.dependencies.remove q).any _ = _
    rw [Bool.eq_iff_iff, Table.any, Table.any, List.any_eq_true, List.any_eq_true]
    constructor
    · rintro ⟨d, mem, edge⟩
      exact ⟨d, (Table.mem_remove.1 mem).1, edge⟩
    · rintro ⟨d, mem, edge⟩
      exact ⟨d, Table.mem_remove.2 ⟨mem, kept d mem edge⟩, edge⟩
  | add d =>
    obtain ⟨_, ⟨near, present⟩, -⟩ := within
    have new := apart.issue_ne hs near present first there
    simp [EdgeChange.on, Table.insert, Table.any, Store.isEdge, new]

include hs hr in
/-- **Frame.** A patch within one reach changes nothing that can be read within another. -/
theorem Patch.Within.agree (within : P.Within reach s) (apart : Reach.Apart reach other) :
    Agree other s (P.on s) where
  repos := rfl
  withdrawn := rfl
  surrogates := rfl
  issues _ _ far := within.issues.filter_rewrite_outside fun near => apart _ _ _ near far
  mergeRequests _ _ far :=
    within.mergeRequests.filter_rewrite_outside fun near => apart _ _ _ near far
  edges _ _ _ first second there := within.edges.any_on hs hr apart first second there

/-! ## Either order -/

/-- The contents of the stores are the same, if the ids of dependencies are not counted. -/
structure Store.SameUpToIds (s s' : Store) : Prop where
  repos : s'.repos = s.repos
  issues : s'.issues = s.issues
  mergeRequests : s'.mergeRequests = s.mergeRequests
  dependencies : (s'.dependencies.rows.map (·.toDependency)).Perm
    (s.dependencies.rows.map (·.toDependency))
  lastId : s'.dependencies.lastId = s.dependencies.lastId
  withdrawn : s'.withdrawn = s.withdrawn
  surrogates : s'.surrogates = s.surrogates

include hs in
/-- What is removed within one reach is not what is added within another. -/
theorem EdgeChange.Within.not_drop {q : StoredDependency → Bool} {d : Dependency}
    (drops : (EdgeChange.drop q).Within reach s) (adds : (EdgeChange.add d).Within other s)
    (apart : Reach.Apart reach other) (rowId : Int) : q ⟨d, rowId⟩ = false := by
  obtain ⟨_, ⟨first, there⟩, second, there'⟩ := adds
  refine Bool.eq_false_iff.2 fun gone => ?_
  obtain ⟨_, _, near, present, same | same⟩ := drops _ gone
  · exact apart.issue_ne hs near present first there same.symm
  · exact apart.issue_ne hs near present second there' same.symm

theorem EdgeChange.drop_add {q : StoredDependency → Bool} {d : Dependency}
    (kept : ∀ rowId, q ⟨d, rowId⟩ = false) (t : Table StoredDependency) :
    (EdgeChange.drop q).on ((EdgeChange.add d).on t) =
      (EdgeChange.add d).on ((EdgeChange.drop q).on t) := by
  simp [EdgeChange.on, Table.remove, Table.insert, kept, Table.nextId]

include hs in
/-- Changes within disjoint reaches leave the same dependencies in either order. -/
theorem EdgeChange.Within.comm (within : c.Within reach s) (within' : c'.Within other s)
    (apart : Reach.Apart reach other) (t : Table StoredDependency) :
    ((c.on (c'.on t)).rows.map (·.toDependency)).Perm
        ((c'.on (c.on t)).rows.map (·.toDependency)) ∧
      (c.on (c'.on t)).lastId = (c'.on (c.on t)).lastId := by
  have equal (same : c.on (c'.on t) = c'.on (c.on t)) :
      ((c.on (c'.on t)).rows.map (·.toDependency)).Perm
          ((c'.on (c.on t)).rows.map (·.toDependency)) ∧
        (c.on (c'.on t)).lastId = (c'.on (c.on t)).lastId := by
    rw [same]
    exact ⟨.refl _, rfl⟩
  cases c with
  | drop q =>
    cases c' with
    | drop q' =>
      refine equal (congrArg (Table.mk · _) ?_)
      simp only [EdgeChange.on, Table.remove, List.filter_filter, Bool.and_comm]
    | add d' => exact equal (EdgeChange.drop_add (within.not_drop hs within' apart) t)
  | add d =>
    cases c' with
    | drop q' => exact equal (EdgeChange.drop_add (within'.not_drop hs within apart.symm) t).symm
    | add d' =>
      refine ⟨?_, rfl⟩
      simp only [EdgeChange.on, Table.insert, List.map_append, List.append_assoc]
      exact (List.Perm.swap _ _ []).append_left _

include hs in
/-- **Order.** Patches within disjoint reaches can be made in either order. -/
theorem Patch.Within.comm (within : P.Within reach s) (within' : Q.Within other s)
    (apart : Reach.Apart reach other) : (P.on (Q.on s)).SameUpToIds (Q.on (P.on s)) where
  repos := rfl
  issues := Table.rewrite_comm (within.issues.comm within'.issues (apart _))
  mergeRequests :=
    Table.rewrite_comm (within.mergeRequests.comm within'.mergeRequests (apart _))
  dependencies := (within'.edges.comm hs within.edges apart.symm _).1
  lastId := (within'.edges.comm hs within.edges apart.symm _).2
  withdrawn := rfl
  surrogates := rfl

end Within

end Forge
