import Forge.Proofs.Lifecycle.Swap
import Mathlib.Data.List.Forall2

/-!
# What a transition sets

A transition puts its assignments together in rounds, of which a later one writes over an earlier
one: the state, the audit fields that are stamped, those that are cleared, and the time of the
update. `Transition.get?_assignments` says what is left under each name. Whatever the stamps and
clears are, this is a well-defined update (`Transition.Assigns`), and a guarded update carries it
out on the rows that match, column by column (`Transition.SetsExactly`).

Two things are settled by the store and not by the transition. Names that differ in the case of
ASCII letters only are of one column, which gets the last of their values; and an update with a
number of more than 64 bits or a text without a UTF-8 form is refused. So not every assignment is
what its column has afterwards.
-/

namespace Forge

open Transaction Ticket

/-! ## Names of audit fields -/

namespace Column

/-- Names with ends of one length are of one column if their beginnings and their ends are. -/
theorem same_append_iff {p q d e : String} (length : (folded d).length = (folded e).length) :
    same (p ++ d) (q ++ e) = true ↔ folded p = folded q ∧ folded d = folded e := by
  rw [same_iff, folded_append, folded_append]
  constructor
  · intro h
    exact List.append_inj' h length
  · rintro ⟨hp, hd⟩
    rw [hp, hd]

/-- Names with ends of one length are different if their ends are. -/
theorem append_ne_append {d e : String} (length : (folded d).length = (folded e).length)
    (apart : folded d ≠ folded e) (p q : String) : p ++ d ≠ q ++ e := by
  intro h
  have same : same (p ++ d) (q ++ e) = true := by
    rw [h]
    exact same_iff.2 rfl
  exact apart ((same_append_iff length).1 same).2

end Column

namespace Transition

variable {t : Transition} {actor : Option String} {now : Int} {p : String} {ps : List String}

theorem by_ne_at (p q : String) : p ++ "_by" ≠ q ++ "_at" :=
  Column.append_ne_append (by decide) (by decide) p q

theorem state_ne_by (p : String) : "state" ≠ p ++ "_by" :=
  Column.append_ne_append (d := "ate") (by decide) (by decide) "st" p

theorem state_ne_at (p : String) : "state" ≠ p ++ "_at" :=
  Column.append_ne_append (d := "ate") (by decide) (by decide) "st" p

theorem updated_ne_by (p : String) : "updated_at" ≠ p ++ "_by" :=
  (by_ne_at p "updated").symm

theorem updated_eq_at_iff : "updated_at" = p ++ "_at" ↔ p = "updated" := by
  show "updated" ++ "_at" = p ++ "_at" ↔ _
  rw [String.append_left_inj, eq_comm]

theorem by_mem_map : p ++ "_by" ∈ ps.map (· ++ "_by") ↔ p ∈ ps := by
  simp [String.append_left_inj]

theorem at_mem_map : p ++ "_at" ∈ ps.map (· ++ "_at") ↔ p ∈ ps := by
  simp [String.append_left_inj]

theorem at_notMem_by : p ++ "_at" ∉ ps.map (· ++ "_by") := by
  simp [by_ne_at]

theorem by_notMem_at : p ++ "_by" ∉ ps.map (· ++ "_at") := by
  simp [(by_ne_at _ _).symm]

theorem state_notMem_by : "state" ∉ ps.map (· ++ "_by") := by
  simp [(state_ne_by _).symm]

theorem state_notMem_at : "state" ∉ ps.map (· ++ "_at") := by
  simp [(state_ne_at _).symm]

/-! ## What stands under each name -/

section Audits

variable {values : List (String × Cell)}

/-- A round of audit fields writes over what was there before it. -/
theorem get?_audits (name moment : Cell) (ps : List String) (values : List (String × Cell))
    (c : String) :
    Named.get? c (ps.foldl (fun vs p => putAudit p name moment vs) values) =
      if c ∈ ps.map (· ++ "_by") then some name
      else if c ∈ ps.map (· ++ "_at") then some moment
      else Named.get? c values := by
  induction ps generalizing values with
  | nil => rfl
  | cons p ps ih =>
    rw [List.foldl_cons, ih, putAudit, Named.get?_put, Named.get?_put]
    simp only [List.map_cons, List.mem_cons]
    by_cases later : c ∈ ps.map (· ++ "_by")
    · rw [if_pos later, if_pos (.inr later)]
    · by_cases later' : c ∈ ps.map (· ++ "_at")
      · have other : c ≠ p ++ "_by" := fun h => by_notMem_at (h ▸ later')
        rw [if_neg later, if_pos later', if_neg (not_or.2 ⟨other, later⟩), if_pos (.inr later')]
      · have apart := by_ne_at p p
        grind

theorem nodup_audits (name moment : Cell) (ps : List String)
    (distinct : (Named.names values).Nodup) :
    (Named.names (ps.foldl (fun vs p => putAudit p name moment vs) values)).Nodup := by
  induction ps generalizing values with
  | nil => exact distinct
  | cons p ps ih => exact ih (Named.nodup_names_put (Named.nodup_names_put distinct))

end Audits

theorem nodup_assignments (t : Transition) (actor : Option String) (now : Int) :
    (Named.names (t.assignments actor now)).Nodup :=
  Named.nodup_names_put (nodup_audits _ _ _ (nodup_audits _ _ _ (List.nodup_singleton "state")))

/-- The rounds, the last one first. -/
theorem get?_assignments (t : Transition) (actor : Option String) (now : Int) (c : String) :
    Named.get? c (t.assignments actor now) =
      if "updated_at" = c then some (.int now)
      else if c ∈ t.clears.map (· ++ "_by") then some .null
      else if c ∈ t.clears.map (· ++ "_at") then some .null
      else if c ∈ t.stamps.map (· ++ "_by") then some (Cell.ofText? actor)
      else if c ∈ t.stamps.map (· ++ "_at") then some (.int now)
      else if "state" = c then some (.text t.target)
      else none := by
  rw [assignments, Named.get?_put, get?_audits, get?_audits]
  rfl

/-- The values are what the transition sets in the name of an actor at some time. -/
structure Assigns (t : Transition) (actor : Option String) (now : Int)
    (values : List (String × Cell)) : Prop where
  /-- No name comes up twice. -/
  distinct : (Named.names values).Nodup
  state : Named.get? "state" values = some (.text t.target)
  updated : Named.get? "updated_at" values = some (.int now)
  /-- Audit fields that are cleared are emptied, also where they are stamped. -/
  cleared : ∀ p ∈ t.clears, Named.get? (p ++ "_by") values = some .null ∧
    (p ≠ "updated" → Named.get? (p ++ "_at") values = some .null)
  /-- All others that are stamped name the actor and the time. -/
  stamped : ∀ p ∈ t.stamps, p ∉ t.clears →
    Named.get? (p ++ "_by") values = some (Cell.ofText? actor) ∧
      Named.get? (p ++ "_at") values = some (.int now)
  /-- There is nothing else. -/
  only : ∀ name ∈ Named.names values, name = "state" ∨ name = "updated_at" ∨
    ∃ p ∈ t.stamps ++ t.clears, name = p ++ "_by" ∨ name = p ++ "_at"

theorem assigns (t : Transition) (actor : Option String) (now : Int) :
    t.Assigns actor now (t.assignments actor now) where
  distinct := t.nodup_assignments actor now
  state := by
    rw [get?_assignments, if_neg (by decide), if_neg state_notMem_by, if_neg state_notMem_at,
      if_neg state_notMem_by, if_neg state_notMem_at, if_pos rfl]
  updated := by
    rw [get?_assignments, if_pos rfl]
  cleared p hp := by
    constructor
    · rw [get?_assignments, if_neg (updated_ne_by p), if_pos (by_mem_map.2 hp)]
    · intro other
      rw [get?_assignments, if_neg (mt updated_eq_at_iff.1 other), if_neg at_notMem_by,
        if_pos (at_mem_map.2 hp)]
  stamped p hp kept := by
    constructor
    · rw [get?_assignments, if_neg (updated_ne_by p), if_neg (mt by_mem_map.1 kept),
        if_neg by_notMem_at, if_pos (by_mem_map.2 hp)]
    · rw [get?_assignments, if_neg at_notMem_by, if_neg (mt at_mem_map.1 kept),
        if_neg at_notMem_by, if_pos (at_mem_map.2 hp), ite_self]
  only name hname := by
    obtain ⟨v, hv, rfl⟩ := List.mem_map.1 hname
    have found := Named.get?_of_mem (t.nodup_assignments actor now) hv
    rw [get?_assignments] at found
    by_contra absent
    obtain ⟨state, updated, audit⟩ : v.1 ≠ "state" ∧ v.1 ≠ "updated_at" ∧
        ∀ p ∈ t.stamps ++ t.clears, v.1 ≠ p ++ "_by" ∧ v.1 ≠ p ++ "_at" := by
      simpa only [not_or, not_exists, not_and] using absent
    have other {ps : List String} (hps : ∀ p ∈ ps, p ∈ t.stamps ++ t.clears) :
        v.1 ∉ ps.map (· ++ "_by") ∧ v.1 ∉ ps.map (· ++ "_at") := by
      simp only [List.mem_map, not_exists, not_and]
      exact ⟨fun p hp same => (audit p (hps p hp)).1 same.symm,
        fun p hp same => (audit p (hps p hp)).2 same.symm⟩
    obtain ⟨stampBy, stampAt⟩ := other fun p hp => List.mem_append_left _ hp
    obtain ⟨clearBy, clearAt⟩ := other fun p hp => List.mem_append_right _ hp
    rw [if_neg updated.symm, if_neg clearBy, if_neg clearAt, if_neg stampBy, if_neg stampAt,
      if_neg state.symm] at found
    cases found

namespace Assigns

variable {values : List (String × Cell)} (h : t.Assigns actor now values)

include h

theorem mem_audit (hp : p ∈ t.stamps ++ t.clears) :
    (∃ o, (p ++ "_by", Cell.ofText? o) ∈ values) ∧ ∃ o, (p ++ "_at", Cell.ofInt? o) ∈ values := by
  by_cases clear : p ∈ t.clears
  · obtain ⟨by_, at_⟩ := h.cleared p clear
    refine ⟨⟨none, Named.mem_of_get? by_⟩, ?_⟩
    by_cases update : p = "updated"
    · subst update
      exact ⟨some now, Named.mem_of_get? h.updated⟩
    · exact ⟨none, Named.mem_of_get? (at_ update)⟩
  · obtain ⟨by_, at_⟩ := h.stamped p ((List.mem_append.1 hp).resolve_right clear) clear
    exact ⟨⟨actor, Named.mem_of_get? by_⟩, some now, Named.mem_of_get? at_⟩

theorem eq_of_mem {name : String} {c c' : Cell} (hc : (name, c) ∈ values)
    (hc' : (name, c') ∈ values) : c = c' :=
  Option.some.inj ((Named.get?_of_mem h.distinct hc).symm.trans (Named.get?_of_mem h.distinct hc'))

end Assigns

end Transition

/-! ## Columns for audit fields -/

/-- A table has the columns that every transition sets, and its audit fields come in pairs. -/
class AuditColumns (ρ : Type) {ε : Type} [Ticket ρ ε] : Prop extends SeparateColumns ρ where
  state : ∃ f, column? ρ "state" = some f ∧ ∀ s, f.2.Holds (.text s)
  updated : ∃ f, column? ρ "updated_at" = some f ∧ ∀ i, f.2.Holds (.int i)
  audit (p : String) (h : (column? ρ (p ++ "_by")).isSome = true) :
    (∃ f, column? ρ (p ++ "_by") = some f ∧ ∀ o, f.2.Holds (Cell.ofText? o)) ∧
      ∃ f, column? ρ (p ++ "_at") = some f ∧ ∀ o, f.2.Holds (Cell.ofInt? o)

/-- A name with an end that few columns have begins like the name of one of these. -/
theorem Ticket.exists_of_column? {ρ ε : Type} [Ticket ρ ε] {p e : String}
    (beginnings : List String) (h : (column? ρ (p ++ e)).isSome = true)
    (ends : ∀ name ∈ (fields (ρ := ρ)).map Prod.fst, Column.folded e <:+ Column.folded name →
      ∃ q ∈ beginnings, Column.folded name = Column.folded (q ++ e)) :
    ∃ q ∈ beginnings, Column.folded p = Column.folded q := by
  obtain ⟨f, hf, same⟩ := column?_isSome_iff.1 h
  rw [Column.same_iff] at same
  have ending : Column.folded e <:+ Column.folded f.1 := by
    rw [same, Column.folded_append]
    exact List.suffix_append _ _
  obtain ⟨q, hq, name⟩ := ends f.1 (List.mem_map_of_mem hf) ending
  rw [same, Column.folded_append, Column.folded_append] at name
  exact ⟨q, hq, List.append_cancel_right name⟩

theorem Ticket.column?_append {ρ ε : Type} [Ticket ρ ε] {p q : String}
    (h : Column.folded p = Column.folded q) (e : String) :
    column? ρ (p ++ e) = column? ρ (q ++ e) := by
  refine column?_congr ?_
  rw [Column.folded_append, Column.folded_append, h]

instance : AuditColumns StoredIssue where
  state := ⟨_, rfl, fun s => ⟨s, rfl⟩⟩
  updated := ⟨_, rfl, fun i => ⟨i, rfl⟩⟩
  audit p h := by
    obtain ⟨q, hq, same⟩ := exists_of_column? ["closed"] h (by decide)
    obtain rfl := List.mem_singleton.1 hq
    rw [column?_append same, column?_append same]
    exact ⟨⟨_, rfl, fun o => ⟨o, rfl⟩⟩, _, rfl, fun o => ⟨o, rfl⟩⟩

instance : AuditColumns StoredMergeRequest where
  state := ⟨_, rfl, fun s => ⟨s, rfl⟩⟩
  updated := ⟨_, rfl, fun i => ⟨i, rfl⟩⟩
  audit p h := by
    obtain ⟨q, hq, same⟩ := exists_of_column? ["merged", "closed"] h (by decide)
    rw [column?_append same, column?_append same]
    rcases List.mem_pair.1 hq with rfl | rfl
    · exact ⟨⟨_, rfl, fun o => ⟨o, rfl⟩⟩, _, rfl, fun o => ⟨o, rfl⟩⟩
    · exact ⟨⟨_, rfl, fun o => ⟨o, rfl⟩⟩, _, rfl, fun o => ⟨o, rfl⟩⟩

/-! ## Carrying the assignments out -/

/-- The later table is the earlier one in which the rows that satisfy `p` are as `R` says. -/
def Table.Updates {ρ : Type} (p : ρ → Bool) (R : ρ → ρ → Prop) (t t' : Table ρ) : Prop :=
  List.Forall₂ (fun r r' => (p r = true → R r r') ∧ (p r = false → r' = r)) t.rows t'.rows ∧
    t'.lastId = t.lastId

theorem Table.updates_modify {ρ : Type} {p : ρ → Bool} {f : ρ → ρ} {R : ρ → ρ → Prop}
    (h : ∀ r, R r (f r)) (t : Table ρ) : t.Updates p R (t.modify p f) := by
  refine ⟨List.forall₂_map_right_iff.2 (List.forall₂_same.2 fun r _ => ⟨?_, ?_⟩), rfl⟩
  · intro here
    rw [if_pos here]
    exact h r
  · intro elsewhere
    rw [elsewhere]
    rfl

section Update

variable {ρ ε : Type} [Ticket ρ ε] {t : Transition} {actor : Option String} {now : Int}
  {values : List (String × Cell)}

/-- All values stand under names of columns. -/
def Ticket.Knows (ρ : Type) {ε : Type} [Ticket ρ ε] (values : List (String × Cell)) : Prop :=
  ∀ v ∈ values, (column? ρ v.1).isSome = true

instance {values : List (String × Cell)} : Decidable (Ticket.Knows ρ values) :=
  inferInstanceAs (Decidable (∀ v ∈ values, (column? ρ v.1).isSome = true))

/-- Each column of the row has the value that stands under its name. -/
def Ticket.HasEach (values : List (String × Cell)) (r : ρ) : Prop :=
  ∀ v ∈ values, ∀ f, column? ρ v.1 = some f → f.2.read r = v.2

theorem Transition.Assigns.held [AuditColumns ρ] (h : t.Assigns actor now values)
    (known : Knows ρ values) : Held ρ values := by
  rintro ⟨name, c⟩ hv
  rcases h.only name (Named.mem_names_of_mem hv) with rfl | rfl | ⟨p, hp, name⟩
  · obtain ⟨f, hf, holds⟩ : ∃ f, column? ρ "state" = some f ∧ ∀ s, f.2.Holds (.text s) :=
      AuditColumns.state
    obtain rfl := h.eq_of_mem hv (Named.mem_of_get? h.state)
    exact ⟨f, hf, holds _⟩
  · obtain ⟨f, hf, holds⟩ : ∃ f, column? ρ "updated_at" = some f ∧ ∀ i, f.2.Holds (.int i) :=
      AuditColumns.updated
    obtain rfl := h.eq_of_mem hv (Named.mem_of_get? h.updated)
    exact ⟨f, hf, holds _⟩
  · -- The fields of a pair are both named, so the table has both of them.
    obtain ⟨⟨who, by_⟩, moment, at_⟩ := h.mem_audit hp
    have there : (column? ρ (p ++ "_by")).isSome = true := known (p ++ "_by", Cell.ofText? who) by_
    obtain ⟨⟨f, hf, holds⟩, g, hg, holds'⟩ := AuditColumns.audit p there
    rcases name with rfl | rfl
    · obtain rfl := h.eq_of_mem hv by_
      exact ⟨f, hf, holds who⟩
    · obtain rfl := h.eq_of_mem hv at_
      exact ⟨g, hg, holds' moment⟩

theorem Transition.Assigns.inside (h : t.Assigns actor now values) :
    Column.given? repoColumn values = none := by
  refine Column.given?_eq_none fun v hv => ?_
  have apart {p e : String} (length : (Column.folded e).length = (Column.folded "_id").length)
      (ends : Column.folded e ≠ Column.folded "_id") : Column.same (p ++ e) repoColumn = false :=
    Bool.eq_false_iff.2 fun same => ends ((Column.same_append_iff (q := "repo") length).1 same).2
  rcases h.only v.1 (Named.mem_names_of_mem hv) with name | name | ⟨p, -, name | name⟩
  · rw [name]
    rfl
  · rw [name]
    rfl
  · rw [name]
    exact apart (by decide) (by decide)
  · rw [name]
    exact apart (by decide) (by decide)

theorem Transition.Assigns.accepted [AuditColumns ρ] (h : t.Assigns actor now values)
    (known : Knows ρ values) : Accepted ρ values := by
  refine (h.held known).accepted (Bool.eq_false_iff.2 fun none => ?_) h.inside
  have state := Named.mem_of_get? h.state
  rw [List.isEmpty_iff.1 none] at state
  cases state

/-- The transition writes who makes it. -/
def Transition.NamesActor (t : Transition) : Prop :=
  ∃ p ∈ t.stamps, p ∉ t.clears

theorem Transition.Assigns.value (h : t.Assigns actor now values) {v : String × Cell}
    (hv : v ∈ values) : v.2 = .null ∨ v.2 = .text t.target ∨ v.2 = .int now ∨
      v.2 = Cell.ofText? actor ∧ t.NamesActor := by
  obtain ⟨name, c⟩ := v
  rcases h.only name (Named.mem_names_of_mem hv) with rfl | rfl | ⟨p, hp, audit⟩
  · exact .inr (.inl (h.eq_of_mem hv (Named.mem_of_get? h.state)))
  · exact .inr (.inr (.inl (h.eq_of_mem hv (Named.mem_of_get? h.updated))))
  · by_cases clear : p ∈ t.clears
    · obtain ⟨by_, at_⟩ := h.cleared p clear
      rcases audit with rfl | rfl
      · exact .inl (h.eq_of_mem hv (Named.mem_of_get? by_))
      · by_cases update : p = "updated"
        · subst update
          exact .inr (.inr (.inl (h.eq_of_mem hv (Named.mem_of_get? h.updated))))
        · exact .inl (h.eq_of_mem hv (Named.mem_of_get? (at_ update)))
    · have stamped := (List.mem_append.1 hp).resolve_right clear
      obtain ⟨by_, at_⟩ := h.stamped p stamped clear
      rcases audit with rfl | rfl
      · exact .inr (.inr (.inr ⟨h.eq_of_mem hv (Named.mem_of_get? by_), p, stamped, clear⟩))
      · exact .inr (.inr (.inl (h.eq_of_mem hv (Named.mem_of_get? at_))))

/-- The store takes all values exactly if it takes the state, the time, and the actor where the
transition writes who makes it. -/
theorem Transition.Assigns.bindable_iff (h : t.Assigns actor now values) {u : Text.Surrogates} :
    (∀ v ∈ values, v.2.Bindable u) ↔ u.Writable t.target ∧ fits now = true ∧
      (t.NamesActor → ∀ name, actor = some name → u.Writable name) := by
  constructor
  · intro all
    refine ⟨Cell.bindable_text.1 (all _ (Named.mem_of_get? h.state)),
      Cell.bindable_int.1 (all _ (Named.mem_of_get? h.updated)), fun ⟨p, hp, kept⟩ => ?_⟩
    exact Cell.bindable_ofText?.1 (all _ (Named.mem_of_get? (h.stamped p hp kept).1))
  · rintro ⟨target, time, named⟩ v hv
    rcases h.value hv with none | state | moment | ⟨who, names⟩
    · exact none ▸ Cell.bindable_null
    · exact state ▸ Cell.bindable_text.2 target
    · exact moment ▸ Cell.bindable_int.2 time
    · exact who ▸ Cell.bindable_ofText?.2 (named names)

namespace Transition

/-- A guarded update with the assignments of the transition does to tickets what they say, if their
table has all the columns that they name. -/
structure SetsExactly (ρ : Type) {ε : Type} [Ticket ρ ε] (t : Transition) (actor : Option String)
    (now : Int) : Prop where
  /-- The store takes all parameters exactly if the time and the ids fit into 64 bits and the states
  have UTF-8 forms, and so has the actor where it is written. -/
  takes : ∀ (u : Text.Surrogates) (repoId id : Int) (expected : String),
    (∀ c ∈ guardedParameters repoId id expected (t.assignments actor now), c.Bindable u) ↔
      (fits now = true ∧ fits repoId = true ∧ fits id = true) ∧
        (u.Writable t.target ∧ u.Writable expected) ∧
          (t.NamesActor → ∀ name, actor = some name → u.Writable name)
  /-- Then the rows that match are written and no others, and their number is answered. -/
  sets : Knows ρ (t.assignments actor now) →
    ∀ (s : Store) (repoId id : Int) (expected : String), tableName ρ ∉ s.withdrawn →
      (∀ c ∈ guardedParameters repoId id expected (t.assignments actor now),
        c.Bindable s.surrogates) →
        ∃ rows : Table ρ,
          (guardedUpdate ρ repoId id expected (t.assignments actor now)).commit s =
            (.ok ((table s).count (isIn (ρ := ρ) expected repoId id)), setTable rows s) ∧
          (table s).Updates (isIn expected repoId id) (Written (t.assignments actor now)) rows
  /-- In a row that is written, each column has the value that stands under its name, if no two of
  the names are of one column. -/
  each : ((t.assignments actor now).map fun v => Column.folded v.1).Nodup →
    ∀ r r' : ρ, Written (t.assignments actor now) r r' → HasEach (t.assignments actor now) r'
  /-- Otherwise it fails as the first parameter that is not taken does, and nothing changes. -/
  refuses : Knows ρ (t.assignments actor now) →
    ∀ (s : Store) (repoId id : Int) (expected : String) (error : Error),
      tableName ρ ∉ s.withdrawn →
        (guardedParameters repoId id expected (t.assignments actor now)).findSome?
            (Cell.refusal? s.surrogates) = some error →
          (guardedUpdate ρ repoId id expected (t.assignments actor now)).commit s =
            (.error error, s)

theorem setsExactly [AuditColumns ρ] (t : Transition) (actor : Option String) (now : Int) :
    t.SetsExactly ρ actor now where
  takes u repoId id expected := by
    rw [bindable_guardedParameters, (t.assigns actor now).bindable_iff]
    tauto
  sets known s repoId id expected hw bound := by
    have assigns := t.assigns actor now
    exact ⟨_, commit_of_returns ((assigns.accepted known).returns hw bound),
      Table.updates_modify (assigns.held known).written _⟩
  each distinct r r' written v hv f hf := by
    obtain ⟨member, names⟩ := column?_eq_some_iff.1 hf
    refine written.listed f member v.2 (Column.given?_of_distinct distinct hv ?_)
    exact Column.same_iff.2 (Column.same_iff.1 names).symm
  refuses known s repoId id expected error hw refused :=
    commit_of_fails (((t.assigns actor now).accepted known).fails hw refused)

end Transition

end Update

/-! ## The law -/

namespace Transition

/-- **The assignments of a transition are a well-defined update**, whatever is stamped and cleared,
and a guarded update carries them out on tickets of both kinds. -/
theorem assignments_set_exactly (t : Transition) (actor : Option String) (now : Int) :
    t.Assigns actor now (t.assignments actor now) ∧
      t.SetsExactly StoredIssue actor now ∧ t.SetsExactly StoredMergeRequest actor now :=
  ⟨t.assigns actor now, t.setsExactly actor now, t.setsExactly actor now⟩

/-- Stamps that come twice, in other letters than those of the table, and one that is cleared. -/
def overlapping : Transition :=
  ⟨"merge", "open", "merged", ["Merged", "closed", "Merged"], ["closed"]⟩

/-- A merge request that waits. -/
def waiting : StoredMergeRequest :=
  ⟨2, 1, "Fix", "", "hotfix", "main", "open", "ann", none, none, none, none, 0, 0⟩

/-- A store with an open issue and two open merge requests, of which the first has audit fields left
over. -/
def leftOver : Store :=
  { Store.empty with
    repos := ⟨[⟨1, "one", "/one", 0⟩], 1⟩
    issues := ⟨[⟨1, 1, "First", "", "open", "ann", none, none, 0, 0⟩], 1⟩
    mergeRequests := ⟨[⟨1, 1, "Add", "", "feature", "main", "open", "ann", none, none, some "eve",
      some 3, 0, 3⟩, waiting], 2⟩ }

/-- The law at the first of the merge requests, at a time that does not fit, and in a name that has
no UTF-8 form. -/
theorem assignments_set_exactly_of_overlapping :
    Knows StoredMergeRequest (overlapping.assignments (some "bob") 7) ∧
      (∃ r : StoredMergeRequest,
        (guardedUpdate StoredMergeRequest 1 1 "open"
          (overlapping.assignments (some "bob") 7)).commit leftOver =
            (.ok 1, { leftOver with mergeRequests := ⟨[r, waiting], 2⟩ }) ∧
        Cell.ofText? r.mergedBy = .text "bob" ∧ Cell.ofText? r.closedBy = .null ∧
          r.title = "Add") ∧
      (guardedUpdate StoredMergeRequest 1 1 "open"
        (overlapping.assignments (some "bob") 9223372036854775808)).commit leftOver =
          (.error .integerTooWide, leftOver) ∧
      (guardedUpdate StoredMergeRequest 1 1 "open"
        (overlapping.assignments (some Text.loneByte) 7)).commit leftOver =
          (.error (.unwritable ⟨0, 1, 0xdcff⟩), leftOver) := by
  have known : Knows StoredMergeRequest (overlapping.assignments (some "bob") 7) := by decide
  obtain ⟨-, -, law⟩ := assignments_set_exactly overlapping (some "bob") 7
  obtain ⟨-, -, law'⟩ := assignments_set_exactly overlapping (some "bob") 9223372036854775808
  obtain ⟨-, -, law''⟩ := assignments_set_exactly overlapping (some Text.loneByte) 7
  refine ⟨known, ?_,
    law'.refuses (by decide) leftOver 1 1 "open" _ List.not_mem_nil (by decide +kernel),
    law''.refuses (by decide) leftOver 1 1 "open" _ List.not_mem_nil (by decide +kernel)⟩
  have bound := (law.takes leftOver.surrogates 1 1 "open").2 ⟨⟨rfl, rfl, rfl⟩, ⟨rfl, rfl⟩,
    fun _ name hname => Option.some.inj hname ▸ Text.Surrogates.writable_of_lt (by decide)⟩
  obtain ⟨⟨rows, last⟩, done, updated, rfl⟩ :=
    law.sets known leftOver 1 1 "open" List.not_mem_nil bound
  obtain ⟨r, later, written, others, rfl⟩ := List.forall₂_cons_left_iff.1 updated
  obtain ⟨w, none, same, nobody, rfl⟩ := List.forall₂_cons_left_iff.1 others
  obtain rfl := List.forall₂_nil_left_iff.1 nobody
  obtain rfl : w = waiting := same.2 rfl
  have written := written.1 rfl
  have each := law.each (by decide) _ r written
  refine ⟨r, done, ?_, ?_, ?_⟩
  · exact each ("Merged_by", .text "bob") (by decide) _ rfl
  · exact each ("closed_by", .null) (by decide) _ rfl
  · exact Cell.text.inj (written.others _ (List.mem_cons_of_mem _ List.mem_cons_self) rfl)

/-- A guarded update with the assignments succeeds, and in the rows that match each column has the
value that stands under its name. -/
def LeavesEach (ρ : Type) {ε : Type} [Ticket ρ ε] (t : Transition) (actor : Option String)
    (now : Int) (s : Store) (repoId id : Int) (expected : String) : Prop :=
  ∃ (n : Nat) (rows : Table ρ),
    (guardedUpdate ρ repoId id expected (t.assignments actor now)).commit s =
      (.ok n, setTable rows s) ∧
    (table s).Updates (isIn expected repoId id)
      (fun _ r' => HasEach (t.assignments actor now) r') rows

/-- A closing that stamps, in other letters, what it clears. -/
def recased : Transition := ⟨"close", "open", "closed", ["CLOSED"], ["closed"]⟩

/-- No issue is closed at a time that does not fit into 64 bits, or in a name that has no UTF-8
form. By `recased` it is closed, but by nobody: the name `CLOSED_by` is of the column `closed_by`,
which is emptied after it. -/
theorem not_always_each :
    (Knows StoredIssue (closing.assignments (some "bob") 9223372036854775808) ∧
      ¬ closing.LeavesEach StoredIssue (some "bob") 9223372036854775808 leftOver 1 1 "open") ∧
    (Knows StoredIssue (closing.assignments (some Text.loneByte) 7) ∧
      ¬ closing.LeavesEach StoredIssue (some Text.loneByte) 7 leftOver 1 1 "open") ∧
    Knows StoredIssue (recased.assignments (some "bob") 7) ∧
      ¬ recased.LeavesEach StoredIssue (some "bob") 7 leftOver 1 1 "open" := by
  refine ⟨⟨by decide, ?_⟩, ⟨by decide, ?_⟩, by decide, ?_⟩
  · rintro ⟨n, rows, done, -⟩
    cases congrArg Prod.fst done
  · rintro ⟨n, rows, done, -⟩
    cases congrArg Prod.fst done
  · rintro ⟨n, rows, done, updated⟩
    obtain rfl : _ = rows := congrArg (Store.issues ∘ Prod.snd) done
    have each := (List.forall₂_cons.1 updated.1).1.1 rfl
    cases each ("CLOSED_by", .text "bob") (by decide) _ rfl

end Transition

end Forge
