import Forge.Proofs.Frame.Ledger
import Mathlib.Data.Finset.Basic
import Mathlib.Data.Finset.Filter

/-!
# Dependencies as sets of pairs

A client that remembers which operations have succeeded can tell from these alone which issues
depend on each other: adding and removing a dependency, deleting an issue and removing a repository
each change a set of pairs (`Operation.relink`), and all other operations do not. `World.pairs`
replays the operations of a world so. The table of dependencies, which is cleared by cascades and
whose rows do not say to which repository they belong, holds just these pairs
(`Attained.mem_pairs`).
-/

namespace Forge

open Transaction Ticket

variable {τ : Type} {s s' : Store} {now : Int} {r : Repository} {key : String}
  {p : Int × Int}

/-! ## Pairs of a repository -/

namespace Operation

/-- The name of the repository that an operation is about, as it is recorded. -/
def key? (op : Operation τ) : Option String :=
  op.text?.bind fun text => (Repository.cleanName text).toOption

/-- What an operation that has succeeded makes of the pairs of its repository. -/
def relink : Operation τ → Finset (Int × Int) → Finset (Int × Int)
  | .addDependency _ a b, pairs => insert (a, b) pairs
  | .removeDependency _ a b, pairs => pairs.erase (a, b)
  | .deleteIssue _ gone, pairs => pairs.filter fun p => p.1 ≠ gone ∧ p.2 ≠ gone
  | .removeRepository _, _ => ∅
  | _, pairs => pairs

/-- What it makes of the pairs of the repository of a name. -/
def relinkAt (key : String) (op : Operation τ) (pairs : Finset (Int × Int)) :
    Finset (Int × Int) :=
  if op.key? = some key then op.relink pairs else pairs

end Operation

namespace World

/-- The operations of a log that have written, the last one first. -/
def succeeded (log : List (Event τ)) : List (Operation τ) :=
  (log.filter Event.wrote).map (·.operation)

/-- The pairs of the repository of a name, by what has succeeded. -/
def pairs (key : String) (w : World τ) : Finset (Int × Int) :=
  (succeeded w.log).foldr (Operation.relinkAt key) ∅

theorem succeeded_cons {e : Event τ} {log : List (Event τ)} :
    succeeded (e :: log) = if e.wrote then e.operation :: succeeded log else succeeded log := by
  unfold succeeded
  rw [List.filter_cons]
  split <;> rfl

end World

/-! ## Rows that are such pairs -/

namespace Store

/-- The repository of an id has an issue of an id. -/
def HasIssueAt (s : Store) (repoId issueId : Int) : Prop :=
  ∃ i ∈ s.issues.rows, i.repoId = repoId ∧ i.id = issueId

/-- The store has a row for the pair, whose first issue is of the repository of the name. -/
def Links (s : Store) (key : String) (p : Int × Int) : Prop :=
  ∃ r ∈ s.repos.rows, r.name = key ∧ s.HasIssueAt r.id p.1 ∧
    ∃ d ∈ s.dependencies.rows, d.issueId = p.1 ∧ d.dependsOnId = p.2

theorem hasIssueAt_of_rowAt {repoId issueId : Int}
    (h : ∃ i : StoredIssue, RowAt repoId issueId i s) : s.HasIssueAt repoId issueId := by
  obtain ⟨i, hi⟩ := h
  exact ⟨i, hi.mem, hi.repo, hi.ident⟩

theorem HasIssueAt.hasIssue {repoId issueId : Int} (h : s.HasIssueAt repoId issueId) :
    s.hasIssue issueId = true := by
  obtain ⟨i, hi, -, hid⟩ := h
  exact List.any_eq_true.2 ⟨i, hi, beq_iff_eq.2 hid⟩

/-- Both issues of a pair are of the repository. -/
theorem Links.within (h : s.Links key p) (hs : s.WellFormed) (hr : s.Related) :
    ∃ r ∈ s.repos.rows, r.name = key ∧ s.HasIssueAt r.id p.1 ∧ s.HasIssueAt r.id p.2 := by
  obtain ⟨r, hmem, hname, ⟨i, hi, repo, hid⟩, d, hd, hissue, hdepends⟩ := h
  obtain ⟨a, ha, b, hb, haid, hbid, same⟩ := hr.joined d hd
  obtain rfl := hs.issues.eq_of_id_eq ha hi (haid.trans (hissue.trans hid.symm))
  exact ⟨r, hmem, hname, ⟨a, hi, repo, hid⟩, b, hb, same.symm.trans repo, hbid.trans hdepends⟩

/-- An issue belongs to one repository. -/
theorem WellFormed.eq_of_hasIssueAt (hs : s.WellFormed) {r' : Repository} {issueId : Int}
    (hr : r ∈ s.repos.rows) (hr' : r' ∈ s.repos.rows) (h : s.HasIssueAt r.id issueId)
    (h' : s.HasIssueAt r'.id issueId) : r = r' := by
  obtain ⟨i, hi, repo, hid⟩ := h
  obtain ⟨i', hi', repo', hid'⟩ := h'
  obtain rfl := hs.issues.eq_of_id_eq hi hi' (hid.trans hid'.symm)
  exact hs.repos.eq_of_id_eq hr hr' (repo.symm.trans repo')

/-- The repository of a pair is that of the issues at its ends. -/
theorem Links.name_eq (h : s.Links key p) (hs : s.WellFormed) (hr : s.Related)
    (hmem : r ∈ s.repos.rows) {issueId : Int} (there : s.HasIssueAt r.id issueId)
    (hend : p.1 = issueId ∨ p.2 = issueId) : r.name = key := by
  obtain ⟨r', hmem', rfl, first, second⟩ := h.within hs hr
  rcases hend with rfl | rfl
  · rw [hs.eq_of_hasIssueAt hmem hmem' there first]
  · rw [hs.eq_of_hasIssueAt hmem hmem' there second]

/-! ## What becomes of them -/

/-- Pairs stay what they are while repositories and dependencies do. -/
theorem links_congr (hs : s.WellFormed) (hr : s.Related) (hr' : s'.Related)
    (evolves : s.Evolves s') (repos : s'.repos = s.repos)
    (dependencies : s'.dependencies = s.dependencies) : s'.Links key p ↔ s.Links key p := by
  have old {i' : StoredIssue} {d : StoredDependency} (hi' : i' ∈ s'.issues.rows)
      (hd : d ∈ s.dependencies.rows) (hid : i'.id = d.issueId) :
      ∃ i ∈ s.issues.rows, SameIssue i i' := by
    obtain ⟨a, ha, b, -, haid, -⟩ := hr.joined d hd
    refine evolves.issues.old i' hi' ?_
    rw [hid, ← haid]
    exact hs.issues.le_last a ha
  constructor
  · rintro ⟨r, hmem, hname, ⟨i', hi', repo, hid⟩, d, hd, hissue, hdepends⟩
    rw [repos] at hmem
    rw [dependencies] at hd
    obtain ⟨i, hi, same⟩ := old hi' hd (hid.trans hissue.symm)
    exact ⟨r, hmem, hname, ⟨i, hi, same.repoId.symm.trans repo, same.id.symm.trans hid⟩,
      d, hd, hissue, hdepends⟩
  · rintro ⟨r, hmem, hname, ⟨i, hi, repo, hid⟩, d, hd, hissue, hdepends⟩
    obtain ⟨i', hi', b, -, hid', -⟩ := hr'.joined d (dependencies ▸ hd)
    obtain ⟨i₀, hi₀, same⟩ := old hi' hd hid'
    obtain rfl := hs.issues.eq_of_id_eq hi₀ hi
      (same.id.symm.trans (hid'.trans (hissue.trans hid.symm)))
    exact ⟨r, repos ▸ hmem, hname, ⟨i', hi', same.repoId.trans repo, hid'.trans hissue⟩,
      d, dependencies ▸ hd, hissue, hdepends⟩

theorem links_addDependency {a b : Int} {build : Int → StoredDependency}
    (hbuild : ∀ id, (build id).issueId = a ∧ (build id).dependsOnId = b) (hs : s.WellFormed)
    (hmem : r ∈ s.repos.rows) (there : s.HasIssueAt r.id a) :
    Links { s with dependencies := s.dependencies.insert build } key p ↔
      s.Links key p ∨ r.name = key ∧ p = (a, b) := by
  obtain ⟨hissue, hdepends⟩ := hbuild s.dependencies.nextId
  constructor
  · rintro ⟨r', hmem', hname, hi, d, hd, ha, hb⟩
    rcases Table.mem_insert.1 hd with hd | rfl
    · exact .inl ⟨r', hmem', hname, hi, d, hd, ha, hb⟩
    · have first : p.1 = a := ha.symm.trans hissue
      have owned : s.HasIssueAt r'.id a := first ▸ hi
      rw [hs.eq_of_hasIssueAt hmem hmem' there owned]
      exact .inr ⟨hname, Prod.ext first (hb.symm.trans hdepends)⟩
  · rintro (⟨r', hmem', hname, hi, d, hd, ha, hb⟩ | ⟨hname, rfl⟩)
    · exact ⟨r', hmem', hname, hi, d, Table.mem_insert.2 (.inl hd), ha, hb⟩
    · exact ⟨r, hmem, hname, there, _, Table.mem_insert.2 (.inr rfl), hissue, hdepends⟩

theorem links_removeDependency {a b : Int} :
    Links { s with dependencies := s.dependencies.remove (isEdge a b) } key p ↔
      s.Links key p ∧ p ≠ (a, b) := by
  have kept (d : StoredDependency) (hp : d.issueId = p.1 ∧ d.dependsOnId = p.2) :
      isEdge a b d = false ↔ p ≠ (a, b) := by
    rw [Bool.eq_false_iff, Ne, isEdge, Bool.and_eq_true, beq_iff_eq, beq_iff_eq, hp.1, hp.2,
      Ne, Prod.ext_iff]
  constructor
  · rintro ⟨r, hmem, hname, hi, d, hd, hp⟩
    obtain ⟨hd, left⟩ := Table.mem_remove.1 hd
    exact ⟨⟨r, hmem, hname, hi, d, hd, hp⟩, (kept d hp).1 left⟩
  · rintro ⟨⟨r, hmem, hname, hi, d, hd, hp⟩, other⟩
    exact ⟨r, hmem, hname, hi, d, Table.mem_remove.2 ⟨hd, (kept d hp).2 other⟩, hp⟩

theorem links_withoutIssue {repoId gone : Int} :
    (s.withoutIssue repoId gone).Links key p ↔ s.Links key p ∧ p.1 ≠ gone ∧ p.2 ≠ gone := by
  have kept (d : StoredDependency) (hp : d.issueId = p.1 ∧ d.dependsOnId = p.2) :
      d.touches gone = false ↔ p.1 ≠ gone ∧ p.2 ≠ gone := by
    rw [StoredDependency.touches, Bool.or_eq_false_iff, beq_eq_false_iff_ne, beq_eq_false_iff_ne,
      hp.1, hp.2]
  constructor
  · rintro ⟨r, hmem, hname, ⟨i, hi, at'⟩, d, hd, hp⟩
    obtain ⟨hd, left⟩ := Table.mem_remove.1 hd
    exact ⟨⟨r, hmem, hname, ⟨i, (Table.mem_remove.1 hi).1, at'⟩, d, hd, hp⟩, (kept d hp).1 left⟩
  · rintro ⟨⟨r, hmem, hname, ⟨i, hi, repo, hid⟩, d, hd, hp⟩, others⟩
    have other : isAt repoId gone i = false :=
      Bool.eq_false_iff.2 fun hat => others.1 (hid.symm.trans (isAt_iff.1 hat).2)
    exact ⟨r, hmem, hname, ⟨i, Table.mem_remove.2 ⟨hi, other⟩, repo, hid⟩, d,
      Table.mem_remove.2 ⟨hd, (kept d hp).2 others⟩, hp⟩

theorem links_without (hs : s.WellFormed) (hr : s.Related) (hmem : r ∈ s.repos.rows) :
    (s.without r).Links key p ↔ s.Links key p ∧ r.name ≠ key := by
  have isolated := Isolated.without r s
  constructor
  · rintro ⟨r', hmem', hname, ⟨i, hi, at'⟩, d, hd, hp⟩
    obtain ⟨hmem', left⟩ := Table.mem_remove.1 hmem'
    refine ⟨⟨r', hmem', hname, ⟨i, (Table.mem_remove.1 hi).1, at'⟩, d, (Table.mem_remove.1 hd).1,
      hp⟩, fun same => ?_⟩
    rw [hs.eq_of_name_eq hmem' hmem (hname.trans same.symm), beq_self_eq_true] at left
    cases left
  · rintro ⟨links, hne⟩
    -- What is at issues of another repository is none of what goes.
    have other {issueId : Int} (hend : p.1 = issueId ∨ p.2 = issueId) (i : StoredIssue)
        (hi : i ∈ s.issues.rows) (repo : i.repoId = r.id) : issueId ≠ i.id := by
      rintro rfl
      exact hne (links.name_eq hs hr hmem ⟨i, hi, repo, rfl⟩ hend)
    obtain ⟨r', hmem', rfl, ⟨i, hi, repo, hid⟩, d, hd, hissue, hdepends⟩ := links
    have far : r'.id ≠ r.id := fun same => hne (by rw [hs.repos.eq_of_id_eq hmem' hmem same])
    have repository : r' ∈ s.repos.rows.filter fun r' => r'.id != r.id :=
      List.mem_filter.2 ⟨hmem', bne_iff_ne.2 far⟩
    have issue : i ∈ s.issues.rows.filter fun i => i.repoId != r.id :=
      List.mem_filter.2 ⟨hi, bne_iff_ne.2 (repo ▸ far)⟩
    have edge : d ∈ s.dependencies.rows.filter fun d => !s.reaches r d := by
      refine List.mem_filter.2 ⟨hd, not_reaches_iff.2 fun i hi repo => ?_⟩
      rw [hissue, hdepends]
      exact ⟨other (.inl rfl) i hi repo, other (.inr rfl) i hi repo⟩
    rw [← isolated.repos] at repository
    rw [← isolated.issues] at issue
    rw [← isolated.dependencies] at edge
    exact ⟨r', (List.mem_filter.1 repository).1, rfl, ⟨i, (List.mem_filter.1 issue).1, repo, hid⟩,
      d, (List.mem_filter.1 edge).1, hissue, hdepends⟩

theorem links_registerRepository (hid : r.id = s.repos.nextId) (hs : s.WellFormed)
    (hr : s.Related) :
    Links { s with repos := s.repos.insert fun _ => r } key p ↔ s.Links key p := by
  constructor
  · rintro ⟨r', hmem, hname, ⟨i, hi, repo, hissue⟩, edge⟩
    rcases Table.mem_insert.1 hmem with hmem | rfl
    · exact ⟨r', hmem, hname, ⟨i, hi, repo, hissue⟩, edge⟩
    · -- No issue refers to a repository that is not there yet.
      obtain ⟨r₀, hmem, same⟩ := hr.issues i hi
      have last := hs.repos.le_last r₀ hmem
      rw [same, repo, hid, Table.nextId] at last
      omega
  · rintro ⟨r', hmem, hname, hi, edge⟩
    exact ⟨r', Table.mem_insert.2 (.inl hmem), hname, hi, edge⟩

end Store

/-! ## One operation -/

namespace Operation

variable {op : Operation τ} {pairs : Finset (Int × Int)}

/-- Whether an operation changes the repositories or the dependencies. -/
def relinks : Operation τ → Bool
  | .registerRepository .. | .removeRepository _ | .deleteIssue .. | .addDependency ..
  | .removeDependency .. => true
  | _ => false

theorem Does.aside (h : op.Does now r s s') (hop : op.relinks = false) :
    s'.repos = s.repos ∧ s'.dependencies = s.dependencies := by
  cases op with
  | registerRepository | removeRepository | deleteIssue | addDependency | removeDependency =>
    cases hop
  | createIssue | createMergeRequest =>
    obtain ⟨_, -, -, rfl⟩ := h
    exact ⟨rfl, rfl⟩
  | deleteMergeRequest =>
    obtain ⟨-, rfl⟩ := h
    exact ⟨rfl, rfl⟩
  | updateIssue | updateMergeRequest =>
    obtain ⟨_, _, _, _, -, -, rfl⟩ := h
    exact ⟨rfl, rfl⟩
  | closeIssue | closeMergeRequest | merge =>
    obtain ⟨_, -, _, _, -, -, rfl⟩ := h
    exact ⟨rfl, rfl⟩
  | reopenIssue | reopenMergeRequest =>
    obtain ⟨_, _, -, -, rfl⟩ := h
    exact ⟨rfl, rfl⟩
  | _ => exact h.elim

/-- If the rows were the pairs of the repositories before an operation, they are afterwards: those
of its own repository as it relinks them, and those of others as they were. -/
theorem Does.links (h : op.Does now r s s') (known : op.registers = false → r ∈ s.repos.rows)
    (hs : s.WellFormed) (hr : s.Related) (hr' : s'.Related) (evolves : s.Evolves s')
    (hpairs : p ∈ pairs ↔ s.Links key p) :
    (r.name = key → (p ∈ op.relink pairs ↔ s'.Links key p)) ∧
      (r.name ≠ key → (p ∈ pairs ↔ s'.Links key p)) := by
  have unchanged (h : s'.Links key p ↔ s.Links key p) :
      (r.name = key → (p ∈ pairs ↔ s'.Links key p)) ∧
        (r.name ≠ key → (p ∈ pairs ↔ s'.Links key p)) :=
    ⟨fun _ => hpairs.trans h.symm, fun _ => hpairs.trans h.symm⟩
  cases op with
  | registerRepository name path =>
    obtain ⟨-, hid, rfl⟩ := h
    exact unchanged (Store.links_registerRepository hid hs hr)
  | removeRepository name =>
    obtain ⟨rfl, -⟩ := h
    have links : (s.without r).Links key p ↔ s.Links key p ∧ r.name ≠ key :=
      Store.links_without hs hr (known rfl)
    refine ⟨fun same => ?_, fun other => ?_⟩
    · exact ⟨fun h => absurd h (Finset.notMem_empty p), fun h => absurd same (links.1 h).2⟩
    · rw [links, hpairs]
      exact ⟨fun h => ⟨h, other⟩, And.left⟩
  | deleteIssue repo gone =>
    obtain ⟨there, rfl⟩ := h
    have links : (s.withoutIssue r.id gone).Links key p ↔
        s.Links key p ∧ p.1 ≠ gone ∧ p.2 ≠ gone := Store.links_withoutIssue
    refine ⟨fun _ => ?_, fun other => ?_⟩
    · rw [links, relink, Finset.mem_filter, hpairs]
    · -- The issue is of this repository, so it stands at no pair of another.
      have owned := Store.hasIssueAt_of_rowAt there
      rw [links, hpairs]
      refine ⟨fun h => ⟨h, fun hend => ?_, fun hend => ?_⟩, And.left⟩
      · exact other (h.name_eq hs hr (known rfl) owned (.inl hend))
      · exact other (h.name_eq hs hr (known rfl) owned (.inr hend))
  | addDependency repo a b =>
    obtain ⟨there, -, -, -, rfl⟩ := h
    have links : Store.Links { s with
        dependencies := s.dependencies.insert fun id => ⟨⟨a, b, now⟩, id⟩ } key p ↔
          s.Links key p ∨ r.name = key ∧ p = (a, b) :=
      Store.links_addDependency (fun _ => ⟨rfl, rfl⟩) hs (known rfl)
        (Store.hasIssueAt_of_rowAt there)
    refine ⟨fun same => ?_, fun other => ?_⟩
    · rw [links, relink, Finset.mem_insert, hpairs, or_comm, and_iff_right same]
    · rw [links, hpairs]
      exact ⟨.inl, fun h => h.resolve_right fun h => other h.1⟩
  | removeDependency repo a b =>
    obtain ⟨there, rfl⟩ := h
    have links : Store.Links { s with
        dependencies := s.dependencies.remove (Store.isEdge a b) } key p ↔
          s.Links key p ∧ p ≠ (a, b) := Store.links_removeDependency
    refine ⟨fun _ => ?_, fun other => ?_⟩
    · rw [links, relink, Finset.mem_erase, hpairs, and_comm]
    · rw [links, hpairs]
      refine ⟨fun h => ⟨h, ?_⟩, And.left⟩
      rintro rfl
      exact other (h.name_eq hs hr (known rfl) (Store.hasIssueAt_of_rowAt there) (.inl rfl))
  | _ =>
    obtain ⟨repos, dependencies⟩ := h.aside rfl
    exact unchanged (Store.links_congr hs hr hr' evolves repos dependencies)

theorem Deed.links (h : op.Deed now r s s') (hs : s.WellFormed) (hr : s.Related)
    (hr' : s'.Related) (evolves : s.Evolves s') (hpairs : p ∈ pairs ↔ s.Links key p) :
    p ∈ op.relinkAt key pairs ↔ s'.Links key p := by
  obtain ⟨text, htext, clean⟩ := h.named
  have hkey : op.key? = some r.name := by
    rw [key?, htext, Option.bind_some, clean]
    rfl
  obtain ⟨own, others⟩ := h.does.links h.known hs hr hr' evolves hpairs
  unfold relinkAt
  split
  · rename_i same
    exact own (Option.some.inj (hkey.symm.trans same))
  · rename_i other
    exact others fun same => other (hkey.trans (congrArg some same))

end Operation

/-! ## Worlds -/

namespace World

variable [TimeScale τ] {directory : Option String} {faults : Error → Prop} {w : World τ}

/-- **The table holds the pairs that the operations have left**, at any time. -/
theorem Attained.mem_pairs (h : w.Attained directory faults) :
    p ∈ w.pairs key ↔ w.store.Links key p := by
  obtain ⟨u, turns⟩ := h
  induction turns with
  | refl =>
    refine ⟨fun h => absurd h (Finset.notMem_empty p), fun h => ?_⟩
    obtain ⟨r, hr, -⟩ := h
    exact absurd hr List.not_mem_nil
  | @tail w w' hturns ht ih =>
    have orderly := Attained.orderly ⟨u, hturns⟩
    obtain ⟨now, effect⟩ := ht.effect orderly
    cases ht with
    | begin => exact ih
    | @answer k c β r next b s l call asks reply grant =>
      obtain ⟨silent, deed⟩ :=
        (orderly.inCourse call asks).answered (orderly.calls k c call).1 reply
      unfold pairs
      rw [succeeded_cons]
      split
      · rename_i hb
        obtain ⟨-, now, effect, repo, done⟩ := deed hb
        exact done.links orderly.wellFormed orderly.related
          (effect.related orderly.wellFormed orderly.related) effect.evolves ih
      · rename_i hb
        obtain rfl := silent (Bool.eq_false_iff.2 hb)
        exact ih

end World

end Forge
