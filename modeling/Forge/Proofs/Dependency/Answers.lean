import Forge.Proofs.Dependency.Pairs
import Forge.Proofs.Listing.Rows

/-!
# What the operations on dependencies answer

The statements that add, remove, look for and list dependencies each filter the table in their own
way, some by the repository of one end, some by that of the other, some by none. What they answer is
nevertheless what a set of pairs would answer, for all of them the same set: that of
`World.pairs`.
-/

namespace Forge

open Transaction Ticket Forge.Action

variable {τ : Type} {s s' : Store} {r : Repository} {now repoId a b : Int}

/-! ## A client that is alone -/

/-- Surroundings that answer a client who is alone with a store that refuses nothing. -/
structure Alone (τ : Type) where
  answer {β : Type} : Request τ β → Store → β × Store
  fair {β : Type} (q : Request τ β) (s : Store) :
    q.AnsweredAlone s (answer q s).1 (answer q s).2

theorem Program.Obeys.run {α : Type} {p : Program τ α} {post : α → Store → Prop}
    (h : p.Obeys Terms.alone post s) (alone : Alone τ) :
    post (p.run alone.answer s).1 (p.run alone.answer s).2 := by
  induction p generalizing s with
  | done x => exact Program.obeys_done.1 h
  | ask q next ih => exact ih _ ((Program.obeys_step.1 h).2 _ _ (alone.fair q s))

theorem Action.Obeys.alone {α : Type} {x : Action τ α} {P : Except Error α × Store → Prop}
    (h : x.Obeys Terms.alone (fun a s' => P (.ok a, s')) (fun e s' => P (.error e, s')) s)
    (alone : Alone τ) : P (x.run.run alone.answer s) := by
  have ends : x.run.Obeys Terms.alone (fun a s' => P (a, s')) s := by
    refine (Action.obeys_run.1 h).mono fun a s' ha => ?_
    cases a with
    | ok a => exact ha
    | error e => exact ha
  exact ends.run alone

/-- What an operation ends in, and the store that it leaves. -/
def Operation.outcome [TimeScale τ] (op : Operation τ) (policy : Policy τ) (alone : Alone τ)
    (s : Store) : Except Error Answer × Store :=
  (op.action policy).run.run alone.answer s

/-- An operation of one transaction on a repository ends as the transaction does, since what that
returns or fails with is determined. -/
theorem Workflow.obeys_sessionOn {α : Type} {name : String} {write : Bool}
    {body : Int → Repository → Transaction α} {ok : α → Store → Prop}
    {err : Error → Store → Prop} (named : (Store.repositoryNamed name).Returns s r s)
    (h : ∀ now, fits now = true → (∃ x s', (body now r).Returns s x s' ∧ ok x s') ∨
      ∃ e, (body now r).Fails s e ∧ err e.classified s) :
    (sessionOn write name body : Action τ α).Obeys Terms.alone ok err s := by
  refine obeys_session_iff.2 fun now hn => ⟨fun x s' hx => ?_, fun e he => ?_⟩
  · obtain ⟨r', s₁, hr, hb⟩ := returns_bind.1 hx
    obtain ⟨rfl, rfl⟩ := returns_unique named hr
    rcases h now hn with ⟨x', s₂, hb', hok⟩ | ⟨e, he, -⟩
    · obtain ⟨rfl, rfl⟩ := returns_unique hb' hb
      exact hok
    · exact absurd he (not_fails_of_returns hb)
  · rcases fails_bind.1 he with hr | ⟨r', s₁, hr, hb⟩
    · exact absurd hr (not_fails_of_returns named)
    · obtain ⟨rfl, rfl⟩ := returns_unique named hr
      rcases h now hn with ⟨x, s', hb', -⟩ | ⟨e', hb', herr⟩
      · exact absurd hb (not_fails_of_returns hb')
      · have same : e' = e := Except.error.inj (Eq.trans (Eq.symm hb') hb)
        exact same ▸ herr

/-! ## Statements -/

namespace Store

/-- Whether the repository of an id has an issue of an id. -/
def hasIssueAt (s : Store) (repoId issueId : Int) : Bool :=
  s.issues.any fun i => i.repoId == repoId && i.id == issueId

theorem hasIssueAt_iff {issueId : Int} :
    s.hasIssueAt repoId issueId = true ↔ s.HasIssueAt repoId issueId := by
  simp [hasIssueAt, HasIssueAt, Table.any]

section Statements

variable (hs : s.WellFormed) (hrepo : fits repoId = true)

include hs

theorem WellFormed.not_withdrawn (name : TableName) : name ∉ s.withdrawn := by
  rw [hs.present]
  exact List.not_mem_nil

include hrepo

theorem isThere_returns (ha : fits a = true) :
    (isThere StoredIssue repoId a).Returns s (s.hasIssueAt repoId a) s := by
  have fit : ∀ i ∈ [repoId, a], fits i = true := by simp [hrepo, ha]
  simp only [isThere, returns_bind, returns_useTable, returns_bindAll, returns_view, returns_pure]
  exact ⟨(), s, ⟨hs.not_withdrawn _, rfl⟩, (), s, ⟨fit, rfl⟩, _, s, ⟨rfl, rfl⟩, rfl, rfl⟩

theorem requireIssue_returns (ha : fits a = true) (there : s.hasIssueAt repoId a = true) :
    (requireIssue repoId a).Returns s () s :=
  returns_bind.2 ⟨_, s, isThere_returns hs hrepo ha, returns_ensure.2 ⟨there, rfl⟩⟩

theorem requireIssue_fails (ha : fits a = true) (missing : s.hasIssueAt repoId a = false) :
    (requireIssue repoId a).Fails s (.notFound (.ticket .issue a)) :=
  fails_bind.2 (.inr ⟨_, s, isThere_returns hs hrepo ha, fails_ensure.2 ⟨missing, rfl⟩⟩)

end Statements

/-- A row is added unless it is there. -/
theorem insertDependency_cases (hs : s.WellFormed) (hn : fits now = true) (ha : fits a = true)
    (hb : fits b = true) (distinct : a ≠ b) (first : s.hasIssueAt repoId a = true)
    (second : s.hasIssueAt repoId b = true) :
    s.dependencies.any (isEdge a b) = false ∧
        (insertDependency now (some a) (some b)).Returns s ⟨a, b, now⟩
          { s with dependencies := s.dependencies.insert fun id => ⟨⟨a, b, now⟩, id⟩ } ∨
      s.dependencies.any (isEdge a b) = true ∧
        (insertDependency now (some a) (some b)).Fails s (.engine (.violated .dependencyPair)) := by
  have there {issueId : Int} (h : s.hasIssueAt repoId issueId = true) :
      s.hasIssue issueId = true :=
    (hasIssueAt_iff.1 h).hasIssue
  have fit : ∀ i ∈ now :: (some a).toList ++ (some b).toList, fits i = true := by
    simp [hn, ha, hb]
  cases hedge : s.dependencies.any (isEdge a b) with
  | false =>
    refine .inl ⟨rfl, ?_⟩
    simp only [insertDependency, returns_bind, returns_useTable, returns_useParent,
      returns_bindAll, returns_required, returns_check, returns_whole, returns_change,
      returns_pure]
    exact ⟨(), s, ⟨hs.not_withdrawn _, rfl⟩, (), s, ⟨hs.not_withdrawn _, rfl⟩, (), s, ⟨fit, rfl⟩,
      a, s, ⟨rfl, rfl⟩, b, s, ⟨rfl, rfl⟩, (), s, ⟨bne_iff_ne.2 distinct, rfl⟩, s, s, ⟨rfl, rfl⟩,
      (), s, ⟨by rw [hedge]; rfl, rfl⟩, (), s,
      ⟨Bool.and_eq_true_iff.2 ⟨there first, there second⟩, rfl⟩, (), _, rfl, rfl, rfl⟩
  | true =>
    refine .inr ⟨rfl, ?_⟩
    unfold insertDependency
    refine fails_bind.2 (.inr ⟨(), s, returns_useTable.2 ⟨hs.not_withdrawn _, rfl⟩, ?_⟩)
    refine fails_bind.2 (.inr ⟨(), s, returns_useParent.2 ⟨hs.not_withdrawn _, rfl⟩, ?_⟩)
    refine fails_bind.2 (.inr ⟨(), s, returns_bindAll.2 ⟨fit, rfl⟩, ?_⟩)
    refine fails_bind.2 (.inr ⟨a, s, returns_required.2 ⟨rfl, rfl⟩, ?_⟩)
    refine fails_bind.2 (.inr ⟨b, s, returns_required.2 ⟨rfl, rfl⟩, ?_⟩)
    refine fails_bind.2 (.inr ⟨(), s, returns_check.2 ⟨bne_iff_ne.2 distinct, rfl⟩, ?_⟩)
    refine fails_bind.2 (.inr ⟨s, s, returns_whole.2 ⟨rfl, rfl⟩, ?_⟩)
    exact fails_bind.2 (.inl (fails_check.2 ⟨by rw [hedge]; rfl, rfl⟩))

/-- Why one issue cannot be made to depend on another, where these pairs do already. -/
def linkRefusal? (s : Store) (pairs : Finset (Int × Int)) (repoId a b : Int) : Option Error :=
  if s.hasIssueAt repoId a = false then some (.notFound (.ticket .issue a))
  else if s.hasIssueAt repoId b = false then some (.notFound (.ticket .issue b))
  else if a = b then some (.invalidArgument .selfDependency)
  else if (a, b) ∈ pairs then some (.conflict .dependency)
  else none

section Outcomes

variable {pairs : Finset (Int × Int)} (hs : s.WellFormed) (hrepo : fits repoId = true)
  (ha : fits a = true)
  (hpairs : s.hasIssueAt repoId a = true →
    s.dependencies.any (isEdge a b) = decide ((a, b) ∈ pairs))

include hs hrepo ha hpairs

theorem addDependency_cases (hn : fits now = true) (hb : fits b = true) :
    (∃ d s', (addDependency now repoId a b).Returns s d s' ∧
      s.linkRefusal? pairs repoId a b = none ∧ d = ⟨a, b, now⟩ ∧
      s' = { s with dependencies := s.dependencies.insert fun id => ⟨d, id⟩ }) ∨
    ∃ e, (addDependency now repoId a b).Fails s e ∧
      s.linkRefusal? pairs repoId a b = some e.classified := by
  cases first : s.hasIssueAt repoId a with
  | false =>
    have missing := requireIssue_fails hs hrepo ha first
    exact .inr ⟨_, fails_bind.2 (.inl missing), by simp [linkRefusal?, first, Error.classified]⟩
  | true =>
    have found := requireIssue_returns hs hrepo ha first
    cases second : s.hasIssueAt repoId b with
    | false =>
      have missing := requireIssue_fails hs hrepo hb second
      exact .inr ⟨_, fails_bind.2 (.inr ⟨_, s, found, fails_bind.2 (.inl missing)⟩),
        by simp [linkRefusal?, first, second, Error.classified]⟩
    | true =>
      have found' := requireIssue_returns hs hrepo hb second
      by_cases same : a = b
      · subst same
        have refused : (ensure (a != a) (.invalidArgument .selfDependency)).Fails s
            (.invalidArgument .selfDependency) :=
          fails_ensure.2 ⟨bne_self_eq_false a, rfl⟩
        exact .inr ⟨_, fails_bind.2 (.inr ⟨_, s, found, fails_bind.2 (.inr ⟨_, s, found',
          fails_bind.2 (.inl refused)⟩)⟩), by simp [linkRefusal?, first, Error.classified]⟩
      · have passed : (ensure (a != b) (.invalidArgument .selfDependency)).Returns s () s :=
          returns_ensure.2 ⟨bne_iff_ne.2 same, rfl⟩
        rcases insertDependency_cases hs hn ha hb same first second with ⟨free, hr⟩ | ⟨taken, hf⟩
        · have new : (a, b) ∉ pairs := of_decide_eq_false ((hpairs first).symm.trans free)
          exact .inl ⟨_, _, returns_bind.2 ⟨_, s, found, returns_bind.2 ⟨_, s, found',
            returns_bind.2 ⟨_, s, passed, hr⟩⟩⟩,
            by simp [linkRefusal?, first, second, same, new], rfl, rfl⟩
        · have old : (a, b) ∈ pairs := of_decide_eq_true ((hpairs first).symm.trans taken)
          have classified : (Error.engine (.violated .dependencyPair)).classified =
              .conflict .dependency := by decide +kernel
          exact .inr ⟨_, fails_bind.2 (.inr ⟨_, s, found, fails_bind.2 (.inr ⟨_, s, found',
            fails_bind.2 (.inr ⟨_, s, passed, hf⟩)⟩)⟩),
            by simp [linkRefusal?, first, second, same, old, classified]⟩

theorem removeDependency_cases (hb : fits b = true) :
    (s.hasIssueAt repoId a = true ∧ (removeDependency repoId a b).Returns s
      (decide ((a, b) ∈ pairs))
      { s with dependencies := s.dependencies.remove (isEdge a b) }) ∨
    s.hasIssueAt repoId a = false ∧
      (removeDependency repoId a b).Fails s (.notFound (.ticket .issue a)) := by
  cases first : s.hasIssueAt repoId a with
  | false => exact .inr ⟨rfl, fails_bind.2 (.inl (requireIssue_fails hs hrepo ha first))⟩
  | true =>
    have found := requireIssue_returns hs hrepo ha first
    have fit : ∀ i ∈ [a, b], fits i = true := by simp [ha, hb]
    refine .inl ⟨rfl, ?_⟩
    rw [← hpairs first]
    simp only [removeDependency, removeDependencies, returns_bind, returns_useTable,
      returns_useParent, returns_bindAll, returns_view, returns_change, returns_pure]
    exact ⟨(), s, found, (), s, ⟨hs.not_withdrawn _, rfl⟩, (), s, ⟨hs.not_withdrawn _, rfl⟩, (), s,
      ⟨fit, rfl⟩, _, s, ⟨rfl, rfl⟩, (), _, rfl, rfl, rfl⟩

theorem hasDependency_cases (hb : fits b = true) :
    (s.hasIssueAt repoId a = true ∧
      (hasDependency repoId a b).Returns s (decide ((a, b) ∈ pairs)) s) ∨
    s.hasIssueAt repoId a = false ∧
      (hasDependency repoId a b).Fails s (.notFound (.ticket .issue a)) := by
  cases first : s.hasIssueAt repoId a with
  | false => exact .inr ⟨rfl, fails_bind.2 (.inl (requireIssue_fails hs hrepo ha first))⟩
  | true =>
    have found := requireIssue_returns hs hrepo ha first
    have fit : ∀ i ∈ [a, b], fits i = true := by simp [ha, hb]
    refine .inl ⟨rfl, ?_⟩
    rw [← hpairs first]
    simp only [hasDependency, returns_bind, returns_useTable, returns_bindAll, returns_view,
      returns_pure]
    exact ⟨(), s, found, (), s, ⟨hs.not_withdrawn _, rfl⟩, (), s, ⟨fit, rfl⟩, _, s, ⟨rfl, rfl⟩,
      rfl, rfl⟩

end Outcomes

/-! ## Lists of issues -/

/-- The issues with these ids, as they are in the store, the newest first. -/
structure Lists (s : Store) (repoId : Int) (ids : Int → Prop) (es : List Issue) : Prop where
  ids : ∀ issueId, issueId ∈ es.map (·.id) ↔ ids issueId
  rows : ∀ e ∈ es, ∃ row : StoredIssue, RowAt repoId e.id row s ∧ row.read? = some e
  newest : es.Pairwise fun x y =>
    y.createdAt < x.createdAt ∨ y.createdAt = x.createdAt ∧ y.id < x.id

variable (repoId) in
/-- The rows at the far ends of the dependencies of an issue: each is there once. -/
theorem joined_nodup (hs : s.WellFormed) {p : StoredDependency → Bool}
    {far : StoredDependency → Int}
    (apart : (s.dependencies.rows.filter p).Pairwise fun d e => far d ≠ far e) :
    ((s.joined repoId p far).map (·.id)).Nodup := by
  refine List.pairwise_map.2 (List.pairwise_flatMap.2 ⟨fun d _ => ?_, apart.imp ?_⟩)
  · exact (hs.issues.ascending.imp fun h => Int.ne_of_lt h).filter _
  · intro d e hne x hx y hy same
    have hx := (Bool.and_eq_true_iff.1 (List.mem_filter.1 hx).2).1
    have hy := (Bool.and_eq_true_iff.1 (List.mem_filter.1 hy).2).1
    exact hne ((eq_of_beq hx).symm.trans (same.trans (eq_of_beq hy)))

theorem mem_joined {p : StoredDependency → Bool} {far : StoredDependency → Int}
    {row : StoredIssue} : row ∈ s.joined repoId p far ↔
      ∃ d ∈ s.dependencies.rows, p d = true ∧ RowAt repoId (far d) row s := by
  simp only [joined, List.mem_flatMap, List.mem_filter, Bool.and_eq_true, beq_iff_eq]
  constructor
  · rintro ⟨d, ⟨hd, hp⟩, hrow, hid, hrepo⟩
    exact ⟨d, hd, hp, hrow, hrepo, hid⟩
  · rintro ⟨d, hd, hp, hrow, hrepo, hid⟩
    exact ⟨d, ⟨hd, hp⟩, hrow, hid, hrepo⟩

variable (repoId) in
/-- Reading them lists the issues at the far ends. -/
theorem readRows_joined (hs : s.WellFormed) {p : StoredDependency → Bool}
    {far : StoredDependency → Int}
    (apart : (s.dependencies.rows.filter p).Pairwise fun d e => far d ≠ far e) :
    ∃ es, (readRows (newestFirst (s.joined repoId p far)) :
        Transaction (List Issue)).Returns s es s ∧
      s.Lists repoId (fun issueId => s.HasIssueAt repoId issueId ∧
        ∃ d ∈ s.dependencies.rows, p d = true ∧ far d = issueId) es := by
  have mem {row : StoredIssue} : row ∈ newestFirst (s.joined repoId p far) ↔
      ∃ d ∈ s.dependencies.rows, p d = true ∧ RowAt repoId (far d) row s :=
    (Cli.latestFirst_perm ..).mem_iff.trans mem_joined
  have readable : ∀ row ∈ newestFirst (s.joined repoId p far), row.read? ≠ none := by
    intro row hrow
    obtain ⟨d, -, -, hrow⟩ := mem.1 hrow
    exact hs.issueStates row hrow.mem
  obtain ⟨es, hes, reads⟩ := readRows_returns (s := s) readable
  have same {row : StoredIssue} {e : Issue} (h : row.read? = some e) :
      e.createdAt = row.createdAt ∧ e.id = row.id := by
    obtain ⟨state, -, rfl⟩ := Option.map_eq_some_iff.1 h
    exact ⟨rfl, rfl⟩
  refine ⟨es, hes, fun issueId => ?_, fun e he => ?_, ?_⟩
  · rw [List.mem_map]
    constructor
    · rintro ⟨e, he, rfl⟩
      obtain ⟨row, hrow, hread⟩ := reads.mem_iff.1 he
      obtain ⟨d, hd, hp, hat⟩ := mem.1 hrow
      have hid : e.id = far d := (same hread).2.trans hat.ident
      exact ⟨⟨row, hat.mem, hat.repo, (same hread).2.symm⟩, d, hd, hp, hid.symm⟩
    · rintro ⟨⟨row, hrow, hrepo, hid⟩, d, hd, hp, rfl⟩
      obtain ⟨e, he⟩ := Option.ne_none_iff_exists'.1 (hs.issueStates row hrow)
      have listed := mem.2 ⟨d, hd, hp, hrow, hrepo, hid⟩
      exact ⟨e, reads.mem_iff.2 ⟨row, listed, he⟩, (same he).2.trans hid⟩
  · obtain ⟨row, hrow, hread⟩ := reads.mem_iff.1 he
    obtain ⟨d, -, -, hat⟩ := mem.1 hrow
    exact ⟨row, ⟨hat.mem, hat.repo, (same hread).2.symm⟩, hread⟩
  · exact reads.newest (joined_nodup repoId hs apart) fun _ _ he => same he

theorem Lists.congr {ids ids' : Int → Prop} {es : List Issue} (h : s.Lists repoId ids es)
    (same : ∀ issueId, ids issueId ↔ ids' issueId) : s.Lists repoId ids' es :=
  { h with ids := fun issueId => (h.ids issueId).trans (same issueId) }

/-- The issues at the far ends of the dependencies of an issue, if that is there. -/
def listJoined (repoId issueId : Int) (p : StoredDependency → Bool)
    (far : StoredDependency → Int) : Transaction (List Issue) := do
  requireIssue repoId issueId
  useTable .dependencies
  let s ← whole
  readRows (newestFirst (s.joined repoId p far))

theorem listJoined_cases (hs : s.WellFormed) (hrepo : fits repoId = true) (ha : fits a = true)
    {p : StoredDependency → Bool} {far : StoredDependency → Int} {ids : Int → Prop}
    (apart : (s.dependencies.rows.filter p).Pairwise fun d e => far d ≠ far e)
    (hids : s.HasIssueAt repoId a → ∀ issueId, (s.HasIssueAt repoId issueId ∧
      ∃ d ∈ s.dependencies.rows, p d = true ∧ far d = issueId) ↔ ids issueId) :
    (s.hasIssueAt repoId a = true ∧ ∃ es, (listJoined repoId a p far).Returns s es s ∧
      s.Lists repoId ids es) ∨
    s.hasIssueAt repoId a = false ∧
      (listJoined repoId a p far).Fails s (.notFound (.ticket .issue a)) := by
  cases first : s.hasIssueAt repoId a with
  | false => exact .inr ⟨rfl, fails_bind.2 (.inl (requireIssue_fails hs hrepo ha first))⟩
  | true =>
    obtain ⟨es, hes, lists⟩ := readRows_joined repoId hs apart
    refine .inl ⟨rfl, es, ?_, lists.congr (hids (hasIssueAt_iff.1 first))⟩
    refine returns_bind.2 ⟨(), s, requireIssue_returns hs hrepo ha first, ?_⟩
    refine returns_bind.2 ⟨(), s, returns_useTable.2 ⟨hs.not_withdrawn _, rfl⟩, ?_⟩
    exact returns_bind.2 ⟨s, s, returns_whole.2 ⟨rfl, rfl⟩, hes⟩

/-! ## One set of pairs for all of them -/

section Pairs

variable {pairs : Finset (Int × Int)} (hmem : r ∈ s.repos.rows)
  (hpairs : ∀ p, p ∈ pairs ↔ s.Links r.name p)

include hmem hpairs

theorem any_isEdge (first : s.hasIssueAt r.id a = true) :
    s.dependencies.any (isEdge a b) = decide ((a, b) ∈ pairs) := by
  rw [Bool.eq_iff_iff, decide_eq_true_iff, hpairs, Table.any, List.any_eq_true]
  constructor
  · rintro ⟨d, hd, hedge⟩
    obtain ⟨hissue, hdepends⟩ := Bool.and_eq_true_iff.1 hedge
    exact ⟨r, hmem, rfl, hasIssueAt_iff.1 first, d, hd, eq_of_beq hissue, eq_of_beq hdepends⟩
  · rintro ⟨-, -, -, -, d, hd, hissue, hdepends⟩
    exact ⟨d, hd, Bool.and_eq_true_iff.2 ⟨beq_iff_eq.2 hissue, beq_iff_eq.2 hdepends⟩⟩

variable (hs : s.WellFormed) (hr : s.Related)

include hs hr

theorem mem_pairs_iff {p : Int × Int} : p ∈ pairs ↔
    (s.HasIssueAt r.id p.1 ∧ s.HasIssueAt r.id p.2) ∧
      ∃ d ∈ s.dependencies.rows, d.issueId = p.1 ∧ d.dependsOnId = p.2 := by
  rw [hpairs]
  constructor
  · intro h
    obtain ⟨r', hmem', hname, ends⟩ := h.within hs hr
    obtain rfl := hs.eq_of_name_eq hmem' hmem hname
    obtain ⟨-, -, -, -, edge⟩ := h
    exact ⟨ends, edge⟩
  · rintro ⟨⟨first, -⟩, edge⟩
    exact ⟨r, hmem, rfl, first, edge⟩

variable (hrepo : fits r.id = true) (ha : fits a = true)

include hrepo ha

theorem dependenciesOf_cases :
    (s.hasIssueAt r.id a = true ∧ ∃ es, (dependenciesOf r.id a).Returns s es s ∧
      s.Lists r.id (fun b => (a, b) ∈ pairs) es) ∨
    s.hasIssueAt r.id a = false ∧
      (dependenciesOf r.id a).Fails s (.notFound (.ticket .issue a)) := by
  refine listJoined_cases hs hrepo ha ?_ fun first b => ?_
  · refine List.pairwise_filter.2 (hr.pairs.imp fun {d e} h hd he same => h ⟨?_, same⟩)
    exact (eq_of_beq hd).trans (eq_of_beq he).symm
  · rw [mem_pairs_iff hmem hpairs hs hr, and_iff_right first]
    simp only [beq_iff_eq]

theorem dependentsOf_cases :
    (s.hasIssueAt r.id a = true ∧ ∃ es, (dependentsOf r.id a).Returns s es s ∧
      s.Lists r.id (fun b => (b, a) ∈ pairs) es) ∨
    s.hasIssueAt r.id a = false ∧
      (dependentsOf r.id a).Fails s (.notFound (.ticket .issue a)) := by
  refine listJoined_cases hs hrepo ha ?_ fun first b => ?_
  · refine List.pairwise_filter.2 (hr.pairs.imp fun {d e} h hd he same => h ⟨same, ?_⟩)
    exact (eq_of_beq hd).trans (eq_of_beq he).symm
  · rw [mem_pairs_iff hmem hpairs hs hr, and_iff_left first]
    simp only [beq_iff_eq, and_comm]

end Pairs

end Store

/-! ## Operations -/

/-- What the operations on dependencies answer for a repository, named by a text, on a store: what
a set of pairs does. -/
structure AnswersAs (answer : Operation τ → Except Error Answer × Store) (text : String)
    (pairs : Finset (Int × Int)) (r : Repository) (s : Store) : Prop where
  refused : ∀ a b e, fits a = true → fits b = true → s.linkRefusal? pairs r.id a b = some e →
    answer (.addDependency text a b) = (.error e, s)
  added : ∀ a b, fits a = true → fits b = true → s.linkRefusal? pairs r.id a b = none →
    ∃ now, answer (.addDependency text a b) = (.ok (.dependency ⟨a, b, now⟩),
      { s with dependencies := s.dependencies.insert fun id => ⟨⟨a, b, now⟩, id⟩ })
  removed : ∀ a b, fits a = true → fits b = true → s.hasIssueAt r.id a = true →
    answer (.removeDependency text a b) = (.ok (.flag (decide ((a, b) ∈ pairs))),
      { s with dependencies := s.dependencies.remove (Store.isEdge a b) })
  has : ∀ a b, fits a = true → fits b = true → s.hasIssueAt r.id a = true →
    answer (.hasDependency text a b) = (.ok (.flag (decide ((a, b) ∈ pairs))), s)
  dependencies : ∀ a, fits a = true → s.hasIssueAt r.id a = true →
    ∃ es, answer (.dependenciesOf text a) = (.ok (.issues es), s) ∧
      s.Lists r.id (fun b => (a, b) ∈ pairs) es
  dependents : ∀ a, fits a = true → s.hasIssueAt r.id a = true →
    ∃ es, answer (.dependentsOf text a) = (.ok (.issues es), s) ∧
      s.Lists r.id (fun b => (b, a) ∈ pairs) es
  unknown : ∀ a b, fits a = true → fits b = true → s.hasIssueAt r.id a = false →
    ∀ op ∈ [.removeDependency text a b, .hasDependency text a b, .dependenciesOf text a,
      .dependentsOf text a], answer op = (.error (.notFound (.ticket .issue a)), s)

namespace Operation

variable [TimeScale τ] {pairs : Finset (Int × Int)} {text : String}

/-- What ends in just this for a client that is alone has this outcome. -/
theorem outcome_of_obeys {op : Operation τ} {policy : Policy τ}
    {P : Except Error Answer × Store → Prop}
    (h : (op.action policy).Obeys Terms.alone (fun x s' => P (.ok x, s'))
      (fun e s' => P (.error e, s')) s) (alone : Alone τ) : P (op.outcome policy alone s) :=
  h.alone alone

/-- An operation that does something good about an issue that is there, and else misses it. -/
theorem outcome_cases {α : Type} {op : Operation τ} {policy : Policy τ} {write there : Bool}
    {t : Int → Repository → Transaction α} {f : α → Answer}
    {P : Except Error Answer × Store → Prop} {what : Missing}
    (hop : op.action policy = f <$> Workflow.sessionOn write text t)
    (named : (Store.repositoryNamed text).Returns s r s)
    (h : ∀ now, (there = true ∧ ∃ x s', (t now r).Returns s x s' ∧ P (.ok (f x), s')) ∨
      there = false ∧ (t now r).Fails s (.notFound what)) (alone : Alone τ) :
    (there = true → P (op.outcome policy alone s)) ∧
      (there = false → op.outcome policy alone s = (.error (.notFound what), s)) := by
  refine outcome_of_obeys (P := fun out => (there = true → P out) ∧
    (there = false → out = (.error (.notFound what), s))) ?_ alone
  rw [hop]
  refine obeys_map.2 (Workflow.obeys_sessionOn named fun now _ => ?_)
  rcases h now with ⟨yes, x, s', hx, does⟩ | ⟨no, hf⟩
  · exact .inl ⟨x, s', hx, .intro (fun _ => does) fun no => nomatch no.symm.trans yes⟩
  · exact .inr ⟨_, hf, .intro (fun yes => nomatch yes.symm.trans no) fun _ => rfl⟩

section Outcomes

variable (hs : s.WellFormed) (hmem : r ∈ s.repos.rows)
  (hpairs : ∀ p, p ∈ pairs ↔ s.Links r.name p) (hrepo : fits r.id = true)
  (clean : Repository.cleanName text = .ok r.name) (policy : Policy τ) (alone : Alone τ)
  (ha : fits a = true)

include hs hmem hpairs hrepo clean ha

theorem outcome_addDependency (hb : fits b = true) :
    (∃ now, s.linkRefusal? pairs r.id a b = none ∧
      outcome (.addDependency text a b) policy alone s = (.ok (.dependency ⟨a, b, now⟩),
        { s with dependencies := s.dependencies.insert fun id => ⟨⟨a, b, now⟩, id⟩ })) ∨
    ∃ e, s.linkRefusal? pairs r.id a b = some e ∧
      outcome (.addDependency text a b) policy alone s = (.error e, s) := by
  refine outcome_of_obeys (P := fun out => (∃ now, s.linkRefusal? pairs r.id a b = none ∧
    out = (.ok (.dependency ⟨a, b, now⟩),
      { s with dependencies := s.dependencies.insert fun id => ⟨⟨a, b, now⟩, id⟩ })) ∨
    ∃ e, s.linkRefusal? pairs r.id a b = some e ∧ out = (.error e, s)) ?_ alone
  refine obeys_map.2 (obeys_bind.2 ?_)
  refine Workflow.obeys_sessionOn (hs.named hmem clean) fun now hn => ?_
  rcases Store.addDependency_cases hs hrepo ha (Store.any_isEdge hmem hpairs) hn hb with
    ⟨d, s', hd, free, rfl, rfl⟩ | ⟨e, he, refused⟩
  · refine .inl ⟨_, _, hd, obeys_bind.2 (obeys_log.2 ⟨trivial, ?_⟩)⟩
    rintro _ _ rfl
    exact obeys_pure.2 (.inl ⟨now, free, rfl⟩)
  · exact .inr ⟨e, he, .inr ⟨_, refused, rfl⟩⟩

theorem outcome_removeDependency (hb : fits b = true) :
    (s.hasIssueAt r.id a = true → outcome (.removeDependency text a b) policy alone s =
      (.ok (.flag (decide ((a, b) ∈ pairs))),
        { s with dependencies := s.dependencies.remove (Store.isEdge a b) })) ∧
    (s.hasIssueAt r.id a = false → outcome (.removeDependency text a b) policy alone s =
      (.error (.notFound (.ticket .issue a)), s)) := by
  refine outcome_cases (P := fun out => out = _) (f := .flag)
    (t := fun _ r => Store.removeDependency r.id a b) rfl (hs.named hmem clean) (fun _ => ?_) alone
  exact (Store.removeDependency_cases hs hrepo ha (Store.any_isEdge hmem hpairs) hb).imp_left
    fun ⟨there, removed⟩ => ⟨there, _, _, removed, rfl⟩

theorem outcome_hasDependency (hb : fits b = true) :
    (s.hasIssueAt r.id a = true → outcome (.hasDependency text a b) policy alone s =
      (.ok (.flag (decide ((a, b) ∈ pairs))), s)) ∧
    (s.hasIssueAt r.id a = false → outcome (.hasDependency text a b) policy alone s =
      (.error (.notFound (.ticket .issue a)), s)) := by
  refine outcome_cases (P := fun out => out = _) (f := .flag)
    (t := fun _ r => Store.hasDependency r.id a b) rfl (hs.named hmem clean) (fun _ => ?_) alone
  exact (Store.hasDependency_cases hs hrepo ha (Store.any_isEdge hmem hpairs) hb).imp_left
    fun ⟨there, looked⟩ => ⟨there, _, _, looked, rfl⟩

variable (hr : s.Related)

include hr

theorem outcome_dependenciesOf :
    (s.hasIssueAt r.id a = true → ∃ es, outcome (.dependenciesOf text a) policy alone s =
      (.ok (.issues es), s) ∧ s.Lists r.id (fun b => (a, b) ∈ pairs) es) ∧
    (s.hasIssueAt r.id a = false → outcome (.dependenciesOf text a) policy alone s =
      (.error (.notFound (.ticket .issue a)), s)) := by
  refine outcome_cases (P := fun out => ∃ es, out = (.ok (.issues es), s) ∧
    s.Lists r.id (fun b => (a, b) ∈ pairs) es) (f := .issues)
    (t := fun _ r => Store.dependenciesOf r.id a) rfl (hs.named hmem clean) (fun _ => ?_) alone
  exact (Store.dependenciesOf_cases hmem hpairs hs hr hrepo ha).imp_left
    fun ⟨there, es, listed, lists⟩ => ⟨there, es, s, listed, es, rfl, lists⟩

theorem outcome_dependentsOf :
    (s.hasIssueAt r.id a = true → ∃ es, outcome (.dependentsOf text a) policy alone s =
      (.ok (.issues es), s) ∧ s.Lists r.id (fun b => (b, a) ∈ pairs) es) ∧
    (s.hasIssueAt r.id a = false → outcome (.dependentsOf text a) policy alone s =
      (.error (.notFound (.ticket .issue a)), s)) := by
  refine outcome_cases (P := fun out => ∃ es, out = (.ok (.issues es), s) ∧
    s.Lists r.id (fun b => (b, a) ∈ pairs) es) (f := .issues)
    (t := fun _ r => Store.dependentsOf r.id a) rfl (hs.named hmem clean) (fun _ => ?_) alone
  exact (Store.dependentsOf_cases hmem hpairs hs hr hrepo ha).imp_left
    fun ⟨there, es, listed, lists⟩ => ⟨there, es, s, listed, es, rfl, lists⟩

end Outcomes

/-- **The operations on dependencies answer as the pairs do.** -/
theorem answersAs (hs : s.WellFormed) (hr : s.Related) (hmem : r ∈ s.repos.rows)
    (hpairs : ∀ p, p ∈ pairs ↔ s.Links r.name p) (hrepo : fits r.id = true)
    (clean : Repository.cleanName text = .ok r.name) (policy : Policy τ) (alone : Alone τ) :
    AnswersAs (fun op => op.outcome policy alone s) text pairs r s where
  refused a b e ha hb refused := by
    rcases outcome_addDependency hs hmem hpairs hrepo clean policy alone ha hb with
      ⟨now, free, -⟩ | ⟨e', refused', ends⟩
    · cases refused.symm.trans free
    · cases refused.symm.trans refused'
      exact ends
  added a b ha hb free := by
    rcases outcome_addDependency hs hmem hpairs hrepo clean policy alone ha hb with
      ⟨now, -, ends⟩ | ⟨e, refused, -⟩
    · exact ⟨now, ends⟩
    · cases free.symm.trans refused
  removed a b ha hb := (outcome_removeDependency hs hmem hpairs hrepo clean policy alone ha hb).1
  has a b ha hb := (outcome_hasDependency hs hmem hpairs hrepo clean policy alone ha hb).1
  dependencies a ha := (outcome_dependenciesOf hs hmem hpairs hrepo clean policy alone ha hr).1
  dependents a ha := (outcome_dependentsOf hs hmem hpairs hrepo clean policy alone ha hr).1
  unknown a b ha hb missing := by
    refine List.forall_mem_cons.2 ⟨?_, List.forall_mem_cons.2 ⟨?_, List.forall_mem_cons.2 ⟨?_,
      List.forall_mem_singleton.2 ?_⟩⟩⟩
    · exact (outcome_removeDependency hs hmem hpairs hrepo clean policy alone ha hb).2 missing
    · exact (outcome_hasDependency hs hmem hpairs hrepo clean policy alone ha hb).2 missing
    · exact (outcome_dependenciesOf hs hmem hpairs hrepo clean policy alone ha hr).2 missing
    · exact (outcome_dependentsOf hs hmem hpairs hrepo clean policy alone ha hr).2 missing

end Operation

/-! ## Worlds -/

namespace World

variable [TimeScale τ] {directory : Option String} {faults : Error → Prop} {w : World τ}

/-- The operations on dependencies implement sets of pairs, one for each repository: those that the
calls which have succeeded leave, each with the one transaction that it has made for it. -/
structure Paired (w : World τ) : Prop where
  known : ∀ e ∈ w.log, ∃ c, w.calls[e.call]? = some c ∧ c.operation = e.operation
  once : w.log.Pairwise fun e e' => e.call = e'.call → e.wrote = false ∨ e'.wrote = false
  ended : ∀ (i : Nat) (c : Call τ) (x : Except Error Answer), w.calls[i]? = some c →
    c.rest = .done x → ((∃ e ∈ w.log, e.call = i ∧ e.wrote = true) ↔
      x.isOk = true ∧ c.operation.writes = true)
  answers : ∀ r ∈ w.store.repos.rows, fits r.id = true →
    ∀ text, Repository.cleanName text = .ok r.name → ∀ (policy : Policy τ) (alone : Alone τ),
      AnswersAs (fun op => op.outcome policy alone w.store) text (w.pairs r.name) r w.store

/-- **Dependencies are pairs**, at every point of every run. -/
theorem dependencies_are_pairs (h : w.Attained directory faults) : w.Paired where
  known e he := by
    obtain ⟨c, hc, hop, -⟩ := h.booked.known e he
    exact ⟨c, hc, hop⟩
  once := h.booked.once
  ended i c x hc hdone := h.wrote_iff hc hdone
  answers r hmem hid text clean policy alone :=
    Operation.answersAs h.orderly.wellFormed h.orderly.related hmem (fun _ => h.mem_pairs) hid
      clean policy alone

end World

/-- The answer where nothing goes wrong and no time passes. -/
def Request.hoped [TimeScale τ] : {β : Type} → Request τ β → Store → β × Store
  | _, .clock, s => (TimeScale.zero, s)
  | _, .transact _ _ body, s => (body 0).commit s
  | _, .openTree _, s => ((), s)
  | _, .tree call, s => (.ok call.hoped, s)
  | _, .process _, s => (.timedOut, s)
  | _, .takeLock _ _, s => (.ok true, s)
  | _, .dropLock _, s => ((), s)
  | _, .takeFile _ _, s => (.ok true, s)
  | _, .dropFile _, s => ((), s)
  | _, .log _, s => ((), s)

theorem Request.hoped_fair [TimeScale τ] {β : Type} (q : Request τ β) (s : Store) :
    q.AnsweredAlone s (q.hoped s).1 (q.hoped s).2 := by
  have kept (e : Error) (h : (Except.ok true : Except Error Bool) = .error e) : False := nomatch h
  cases q with
  | transact write limit body => exact ⟨0, (rfl : fits 0 = true), rfl⟩
  | tree call => exact ⟨fun _ he => (nomatch he), rfl⟩
  | takeLock repoId limit => exact ⟨fun e he => (kept e he).elim, rfl⟩
  | clock => exact (rfl : s = s)
  | openTree repo => exact (rfl : s = s)
  | process call => exact (rfl : s = s)
  | dropLock repoId => exact (rfl : s = s)
  | takeFile repoId deadline => exact ⟨fun e he => (kept e he).elim, rfl⟩
  | dropFile repoId => exact (rfl : s = s)
  | log record => exact (rfl : s = s)

/-- Surroundings in which nothing goes wrong and no time passes. -/
def Alone.hoped [TimeScale τ] : Alone τ :=
  ⟨Request.hoped, Request.hoped_fair⟩

namespace World

/-- What an operation does in a world for a client that is alone, if nothing goes wrong. -/
def ask (op : Operation Binary64) (w : World Binary64) : Except Error Answer × Store :=
  op.outcome ⟨none, none, none⟩ .hoped w.store

/-- The law at a world in which dependencies were added and removed in all ways: one of two
repositories is left, with two issues that depend on each other. -/
theorem dependencies_are_pairs_of_cascades : cascadesWorld.Reachable none ∧
    cascadesWorld.pairs "one" = {(1, 2), (2, 1)} ∧ cascadesWorld.pairs "two" = ∅ ∧
    cascadesWorld.Paired ∧
    cascadesWorld.ask (.addDependency "One.git" 1 2) =
      (.error (.conflict .dependency), cascadesWorld.store) ∧
    cascadesWorld.ask (.hasDependency "one" 1 1) = (.ok (.flag false), cascadesWorld.store) ∧
    ∃ es, cascadesWorld.ask (.dependentsOf "one" 2) = (.ok (.issues es), cascadesWorld.store) ∧
      ∀ issueId, issueId ∈ es.map (·.id) ↔ issueId = 1 := by
  have reached : cascadesWorld.Reachable none := replay_reachable cascades
  have attained : cascadesWorld.Attained none fun _ => False := reached.attained
  have paired := dependencies_are_pairs attained
  have pairs : cascadesWorld.pairs "one" = {(1, 2), (2, 1)} := by decide +kernel
  have one : (⟨1, "one", "/one", 0⟩ : Repository) ∈ cascadesWorld.store.repos.rows := by
    decide +kernel
  have answers (text : String) (clean : Repository.cleanName text = .ok "one") :=
    paired.answers _ one rfl text clean ⟨none, none, none⟩ .hoped
  have refused : cascadesWorld.store.linkRefusal? (cascadesWorld.pairs "one") 1 1 2 =
      some (.conflict .dependency) := by decide +kernel
  refine ⟨reached, pairs, by decide +kernel, paired, ?_, ?_, ?_⟩
  · exact (answers "One.git" (by decide +kernel)).refused 1 2 _ rfl rfl refused
  · have looked := (answers "one" (by decide +kernel)).has 1 1 rfl rfl (by decide +kernel)
    rw [show decide (((1, 1) : Int × Int) ∈ cascadesWorld.pairs "one") = false by
      decide +kernel] at looked
    exact looked
  · obtain ⟨es, ends, lists⟩ :=
      (answers "one" (by decide +kernel)).dependents 2 rfl (by decide +kernel)
    refine ⟨es, ends, fun issueId => (lists.ids issueId).trans ?_⟩
    rw [pairs]
    simp

end World

end Forge
