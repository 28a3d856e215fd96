import Forge.Proofs.Store.Outcome
import Mathlib.Data.List.Nodup

/-!
# Setting columns by name

A statement that sets columns goes over its values one after the other. What is in the row
afterwards is said column by column: a column that is named has the value that was given to it last,
and every other one has what it had (`Ticket.Written`). This holds of a table whose columns are
separate, which is that each stands at a place of its own among the cells of a row
(`SeparateColumns`), and of values that their columns hold as they are given (`Field.Holds`).
-/

namespace Forge

open Transaction

/-! ## Names of columns -/

namespace Column

variable {column name : String} {c : Cell} {values : List (String × Cell)}

theorem same_iff {a b : String} : same a b = true ↔ folded a = folded b :=
  beq_iff_eq

theorem folded_append (a b : String) : folded (a ++ b) = folded a ++ folded b := by
  simp [folded]

theorem given?_cons (v : String × Cell) (values : List (String × Cell)) :
    given? column (v :: values) =
      (given? column values).or (if same v.1 column then some v.2 else none) := by
  rw [given?]
  cases given? column values <;> rfl

/-- What a column is given stands somewhere under a name of it. -/
theorem exists_of_given? (h : given? column values = some c) :
    ∃ v ∈ values, same v.1 column = true ∧ v.2 = c := by
  induction values with
  | nil => cases h
  | cons v values ih =>
    rw [given?_cons] at h
    rcases Option.or_eq_some_iff.1 h with later | ⟨-, first⟩
    · obtain ⟨w, hw, names, rfl⟩ := ih later
      exact ⟨w, List.mem_cons_of_mem v hw, names, rfl⟩
    · by_cases names : same v.1 column = true
      · rw [if_pos names] at first
        exact ⟨v, List.mem_cons_self, names, Option.some.inj first⟩
      · rw [if_neg names] at first
        cases first

theorem given?_eq_none (h : ∀ v ∈ values, same v.1 column = false) :
    given? column values = none := by
  refine Option.eq_none_iff_forall_ne_some.2 fun c given => ?_
  obtain ⟨v, hv, names, -⟩ := exists_of_given? given
  rw [h v hv] at names
  cases names

/-- Under names of different columns, each value is the one that its column is given. -/
theorem given?_of_distinct (distinct : (values.map fun v => folded v.1).Nodup)
    {v : String × Cell} (hv : v ∈ values) (names : same v.1 column = true) :
    given? column values = some v.2 := by
  induction values with
  | nil => cases hv
  | cons w values ih =>
    obtain ⟨apart, distinct⟩ := List.nodup_cons.1 distinct
    rw [given?_cons]
    rcases List.mem_cons.1 hv with rfl | later
    · have last : given? column values = none := by
        refine given?_eq_none fun w hw => Bool.eq_false_iff.2 fun other => apart ?_
        exact List.mem_map.2 ⟨w, hw, (same_iff.1 other).trans (same_iff.1 names).symm⟩
      rw [last, if_pos names, Option.none_or]
    · rw [ih distinct later, Option.some_or]

end Column

/-! ## Columns of a table -/

/-- The column holds the cell as it is given, without a change of type. -/
def Field.Holds {ρ : Type} : Field ρ → Cell → Prop
  | .text _ _, c => ∃ s, c = .text s
  | .optionalText _ _, c => ∃ o, c = Cell.ofText? o
  | .int _ _, c => ∃ i, c = .int i
  | .optionalInt _ _, c => ∃ o, c = Cell.ofInt? o

theorem Cell.asText?_ofText? (o : Option String) : (Cell.ofText? o).asText? = o := by
  cases o <;> rfl

theorem Cell.asInt?_ofInt? (o : Option Int) : (Cell.ofInt? o).asInt? = o := by
  cases o <;> rfl

/-- The cells of a row, in the order of the columns of its table. -/
def Ticket.cells {ρ ε : Type} [Ticket ρ ε] (r : ρ) : List Cell :=
  (Ticket.fields (ρ := ρ)).map fun f => f.2.read r

section Places

variable {ρ ε : Type} [Ticket ρ ε] {i : Nat}

/-- The column is the one at a place of its table: setting it to what it holds changes the cell at
this place, and nothing else of the row. -/
def Field.StandsAt (f : Field ρ) (i : Nat) : Prop :=
  ∀ c r, f.Holds c → ∃ r', f.write? c r = some r' ∧
    Ticket.cells r' = (Ticket.cells r).set i c ∧ Ticket.id r' = Ticket.id r

theorem Field.standsAt_text {get : ρ → String} {set : String → ρ → ρ}
    (h : ∀ v r, Ticket.cells (set v r) = (Ticket.cells r).set i (.text v) ∧
      Ticket.id (set v r) = Ticket.id r) : (Field.text get set).StandsAt i := by
  rintro _ r ⟨v, rfl⟩
  exact ⟨set v r, rfl, h v r⟩

theorem Field.standsAt_optionalText {get : ρ → Option String} {set : Option String → ρ → ρ}
    (h : ∀ v r, Ticket.cells (set v r) = (Ticket.cells r).set i (Cell.ofText? v) ∧
      Ticket.id (set v r) = Ticket.id r) : (Field.optionalText get set).StandsAt i := by
  rintro _ r ⟨v, rfl⟩
  exact ⟨set v r, by rw [write?, Cell.asText?_ofText?], h v r⟩

theorem Field.standsAt_int {get : ρ → Int} {set : Int → ρ → ρ}
    (h : ∀ v r, Ticket.cells (set v r) = (Ticket.cells r).set i (.int v) ∧
      Ticket.id (set v r) = Ticket.id r) : (Field.int get set).StandsAt i := by
  rintro _ r ⟨v, rfl⟩
  exact ⟨set v r, rfl, h v r⟩

theorem Field.standsAt_optionalInt {get : ρ → Option Int} {set : Option Int → ρ → ρ}
    (h : ∀ v r, Ticket.cells (set v r) = (Ticket.cells r).set i (Cell.ofInt? v) ∧
      Ticket.id (set v r) = Ticket.id r) : (Field.optionalInt get set).StandsAt i := by
  rintro _ r ⟨v, rfl⟩
  exact ⟨set v r, by rw [write?, Cell.asInt?_ofInt?], h v r⟩

theorem Field.stand_cons {f : String × Field ρ} {fs : List (String × Field ρ)}
    (first : f.2.StandsAt i) (others : ∀ p ∈ fs.zipIdx (i + 1), p.1.2.StandsAt p.2) :
    ∀ p ∈ (f :: fs).zipIdx i, p.1.2.StandsAt p.2 :=
  List.forall_mem_cons.2 ⟨first, others⟩

end Places

/-- The columns of a table of tickets have different names, and each has its own place. -/
class SeparateColumns (ρ : Type) {ε : Type} [Ticket ρ ε] : Prop where
  distinct : ((Ticket.fields (ρ := ρ)).map fun f => Column.folded f.1).Nodup
  stands : ∀ p ∈ (Ticket.fields (ρ := ρ)).zipIdx, p.1.2.StandsAt p.2
  repository : ∃ set, (repoColumn, Field.int Ticket.repoId set) ∈ Ticket.fields (ρ := ρ)

open Forge.Field in
instance : SeparateColumns StoredIssue where
  distinct := by decide
  stands :=
    stand_cons (standsAt_int fun _ _ => ⟨rfl, rfl⟩) <|
    stand_cons (standsAt_text fun _ _ => ⟨rfl, rfl⟩) <|
    stand_cons (standsAt_text fun _ _ => ⟨rfl, rfl⟩) <|
    stand_cons (standsAt_text fun _ _ => ⟨rfl, rfl⟩) <|
    stand_cons (standsAt_text fun _ _ => ⟨rfl, rfl⟩) <|
    stand_cons (standsAt_optionalText fun _ _ => ⟨rfl, rfl⟩) <|
    stand_cons (standsAt_optionalInt fun _ _ => ⟨rfl, rfl⟩) <|
    stand_cons (standsAt_int fun _ _ => ⟨rfl, rfl⟩) <|
    stand_cons (standsAt_int fun _ _ => ⟨rfl, rfl⟩) nofun
  repository := ⟨_, List.mem_cons_self⟩

open Forge.Field in
instance : SeparateColumns StoredMergeRequest where
  distinct := by decide
  stands :=
    stand_cons (standsAt_int fun _ _ => ⟨rfl, rfl⟩) <|
    stand_cons (standsAt_text fun _ _ => ⟨rfl, rfl⟩) <|
    stand_cons (standsAt_text fun _ _ => ⟨rfl, rfl⟩) <|
    stand_cons (standsAt_text fun _ _ => ⟨rfl, rfl⟩) <|
    stand_cons (standsAt_text fun _ _ => ⟨rfl, rfl⟩) <|
    stand_cons (standsAt_text fun _ _ => ⟨rfl, rfl⟩) <|
    stand_cons (standsAt_text fun _ _ => ⟨rfl, rfl⟩) <|
    stand_cons (standsAt_optionalText fun _ _ => ⟨rfl, rfl⟩) <|
    stand_cons (standsAt_optionalInt fun _ _ => ⟨rfl, rfl⟩) <|
    stand_cons (standsAt_optionalText fun _ _ => ⟨rfl, rfl⟩) <|
    stand_cons (standsAt_optionalInt fun _ _ => ⟨rfl, rfl⟩) <|
    stand_cons (standsAt_int fun _ _ => ⟨rfl, rfl⟩) <|
    stand_cons (standsAt_int fun _ _ => ⟨rfl, rfl⟩) nofun
  repository := ⟨_, List.mem_cons_self⟩

namespace Ticket

variable {ρ ε : Type} [Ticket ρ ε] {name : String} {f g : String × Field ρ} {r : ρ} {c : Cell}
  {values : List (String × Cell)}

theorem column?_congr {name' : String} (h : Column.folded name = Column.folded name') :
    column? ρ name = column? ρ name' := by
  simp only [column?, Column.same, h]

theorem column?_isSome_iff :
    (column? ρ name).isSome = true ↔ ∃ f ∈ fields (ρ := ρ), Column.same f.1 name = true :=
  List.find?_isSome

section Separate

variable [SeparateColumns ρ]

theorem column_inj (hf : f ∈ fields (ρ := ρ)) (hg : g ∈ fields (ρ := ρ))
    (h : Column.folded f.1 = Column.folded g.1) : f = g :=
  List.inj_on_of_nodup_map SeparateColumns.distinct hf hg h

/-- A name is of one column at most. -/
theorem column?_eq_some_iff :
    column? ρ name = some f ↔ f ∈ fields (ρ := ρ) ∧ Column.same f.1 name = true := by
  constructor
  · intro h
    have names := List.find?_some h
    exact ⟨List.mem_of_find?_eq_some h, names⟩
  · rintro ⟨hf, names⟩
    obtain ⟨g, hg⟩ := Option.isSome_iff_exists.1 (column?_isSome_iff.2 ⟨f, hf, names⟩)
    have names' := List.find?_some hg
    rw [hg, column_inj (List.mem_of_find?_eq_some hg) hf
      ((Column.same_iff.1 names').trans (Column.same_iff.1 names).symm)]

/-! ## Rows whose columns are set -/

/-- The values stand under names of columns that hold them. -/
def Held (ρ : Type) {ε : Type} [Ticket ρ ε] (values : List (String × Cell)) : Prop :=
  ∀ v ∈ values, ∃ f, column? ρ v.1 = some f ∧ f.2.Holds v.2

theorem Held.holds (held : Held ρ values) {v : String × Cell} (hv : v ∈ values)
    (hf : f ∈ fields (ρ := ρ)) (names : Column.same v.1 f.1 = true) : f.2.Holds v.2 := by
  obtain ⟨g, hg, holds⟩ := held v hv
  have same := Column.same_iff.2 (Column.same_iff.1 names).symm
  obtain rfl := Option.some.inj (hg.symm.trans (column?_eq_some_iff.2 ⟨hf, same⟩))
  exact holds

/-- Setting one column by name leaves the others, and the id, as they were. -/
theorem read_setOne (hg : column? ρ name = some g) (holds : g.2.Holds c) :
    id (setOne r (name, c)) = id r ∧ ∀ f ∈ fields (ρ := ρ),
      f.2.read (setOne r (name, c)) = if Column.same name f.1 then c else f.2.read r := by
  obtain ⟨member, names⟩ := column?_eq_some_iff.1 hg
  obtain ⟨i, hi, rfl⟩ := List.getElem_of_mem member
  obtain ⟨r', write, hcells, ident⟩ := SeparateColumns.stands (ρ := ρ) (fields[i], i)
    (List.mem_zipIdx_iff_getElem?.2 (List.getElem?_eq_getElem hi)) c r holds
  have set : setOne r (name, c) = r' := by
    simp [setOne, hg, write]
  rw [set]
  refine ⟨ident, fun f hf => ?_⟩
  obtain ⟨j, hj, rfl⟩ := List.getElem_of_mem hf
  -- Both sides are the cell at the place of the column that is read.
  have cell := congrArg (·[j]?) hcells
  simp only [cells, List.getElem?_set, List.getElem?_map, List.getElem?_eq_getElem hj,
    Option.map_some, List.length_map, hi, if_true] at cell
  by_cases place : i = j
  · subst place
    rw [if_pos rfl] at cell
    rw [if_pos (Column.same_iff.2 (Column.same_iff.1 names).symm)]
    exact Option.some.inj cell
  · rw [if_neg place] at cell
    rw [if_neg fun other => place ?_]
    · exact Option.some.inj cell
    · have same := (Column.same_iff.1 names).trans (Column.same_iff.1 other)
      exact (List.Nodup.getElem_inj_iff (List.Nodup.of_map _ SeparateColumns.distinct)).1
        (column_inj member hf same)

/-- What a column of the row has afterwards: what it is given, else what it had. -/
theorem read_setAll (held : Held ρ values) (hf : f ∈ fields (ρ := ρ)) (r : ρ) :
    f.2.read (setAll values r) = (Column.given? f.1 values).getD (f.2.read r) := by
  induction values generalizing r with
  | nil => rfl
  | cons v values ih =>
    obtain ⟨g, hg, holds⟩ := held v List.mem_cons_self
    have later := ih (fun w hw => held w (List.mem_cons_of_mem v hw)) (setOne r v)
    rw [show setAll (v :: values) r = setAll values (setOne r v) from rfl, later,
      (read_setOne hg holds).2 f hf, Column.given?_cons]
    by_cases names : Column.same v.1 f.1 = true
    · rw [if_pos names, if_pos names]
      cases Column.given? f.1 values <;> rfl
    · rw [if_neg names, if_neg names, Option.or_none]

theorem id_setAll (held : Held ρ values) (r : ρ) : id (setAll values r) = id r := by
  induction values generalizing r with
  | nil => rfl
  | cons v values ih =>
    obtain ⟨g, hg, holds⟩ := held v List.mem_cons_self
    have later := ih (fun w hw => held w (List.mem_cons_of_mem v hw)) (setOne r v)
    exact later.trans (read_setOne hg holds).1

/-- The row `r'` is the row `r` with the columns set that the values name: each has what it is
given, and all else is as it was. -/
structure Written (values : List (String × Cell)) (r r' : ρ) : Prop where
  listed : ∀ f ∈ fields (ρ := ρ), ∀ c, Column.given? f.1 values = some c → f.2.read r' = c
  others : ∀ f ∈ fields (ρ := ρ), Column.given? f.1 values = none → f.2.read r' = f.2.read r
  ident : id r' = id r

theorem Held.written (held : Held ρ values) (r : ρ) : Written values r (setAll values r) where
  listed f hf c given := by
    rw [read_setAll held hf, given, Option.getD_some]
  others f hf given := by
    rw [read_setAll held hf, given, Option.getD_none]
  ident := id_setAll held r

end Separate

/-! ## Guarded updates that are let through -/

/-- Values that a guarded update takes wherever the table is there, numbers of more than 64 bits
apart: all names are of columns, and required columns and the repository are left alone. -/
structure Accepted (ρ : Type) {ε : Type} [Ticket ρ ε] (values : List (String × Cell)) : Prop where
  some : values.isEmpty = false
  known : values.find? (isUnknown ρ) = none
  inside : (Column.given? repoColumn values).isSome = false
  filled (r : ρ) : emptied? values r = none
  repoId (r : ρ) : Ticket.repoId (setAll values r) = Ticket.repoId r

theorem Held.accepted [SeparateColumns ρ] (held : Held ρ values) (some : values.isEmpty = false)
    (inside : Column.given? repoColumn values = none) : Accepted ρ values where
  some := some
  known := by
    refine List.find?_eq_none.2 fun v hv => ?_
    obtain ⟨f, hf, -⟩ := held v hv
    simp [isUnknown, hf]
  inside := by
    rw [inside]
    rfl
  filled r := by
    refine Option.map_eq_none_iff.2 (List.find?_eq_none.2 fun f hf => ?_)
    cases given : Column.given? f.1 values with
    | none => exact Bool.false_ne_true
    | some c =>
      obtain ⟨v, hv, names, rfl⟩ := Column.exists_of_given? given
      obtain ⟨i, hi, rfl⟩ := List.getElem_of_mem hf
      obtain ⟨r', write, -⟩ := SeparateColumns.stands (ρ := ρ) (fields[i], i)
        (List.mem_zipIdx_iff_getElem?.2 (List.getElem?_eq_getElem hi)) v.2 r
        (held.holds hv hf names)
      simp [write]
  repoId r := by
    obtain ⟨set, member⟩ : ∃ set, (repoColumn, Field.int Ticket.repoId set) ∈ fields (ρ := ρ) :=
      SeparateColumns.repository
    exact Cell.int.inj ((held.written r).others _ member inside)

section Statement

variable {s : Store} {repoId id : Int} {expected : String}

/-- Whether a row is the ticket of this repository and id, in an expected state. -/
abbrev isIn (expected : String) (repoId id : Int) (r : ρ) : Bool :=
  isAt repoId id r && state r == expected

/-- A guarded update whose parameters are taken goes through, whether a row matches or not. -/
theorem Accepted.returns (h : Accepted ρ values) (hw : tableName ρ ∉ s.withdrawn)
    (bound : ∀ c ∈ guardedParameters repoId id expected values, c.Bindable s.surrogates) :
    (guardedUpdate ρ repoId id expected values).Returns s
      ((table s).count (isIn (ρ := ρ) expected repoId id))
      (setTable ((table s).modify (isIn (ρ := ρ) expected repoId id) (setAll values)) s) := by
  have accepted : (updateWhere (isIn (ρ := ρ) expected repoId id) values).Returns s
      ((table s).count (isIn (ρ := ρ) expected repoId id))
      (setTable ((table s).modify (isIn (ρ := ρ) expected repoId id) (setAll values)) s) := by
    refine returns_updateWhere.2 ⟨?_, ?_, rfl, rfl⟩
    · exact List.findSome?_eq_none_iff.2 fun r _ => h.filled r
    · refine List.all_eq_true.2 fun r _ => ?_
      rw [h.repoId r, beq_self_eq_true, Bool.true_or]
  unfold guardedUpdate
  rw [h.known, h.some]
  simp only [h.inside, Bool.false_eq_true, if_false, returns_bind, returns_ensure,
    returns_useTable, returns_bindCells]
  exact ⟨(), s, ⟨rfl, rfl⟩, (), s, ⟨hw, rfl⟩, (), s, ⟨bound, rfl⟩, accepted⟩

/-- A guarded update with a parameter that is refused fails as the first of these does. -/
theorem Accepted.fails {fault : Error} (h : Accepted ρ values) (hw : tableName ρ ∉ s.withdrawn)
    (refused : (guardedParameters repoId id expected values).findSome?
      (Cell.refusal? s.surrogates) = Option.some fault) :
    (guardedUpdate ρ repoId id expected values : Transaction Nat).Fails s fault := by
  unfold guardedUpdate
  rw [h.known, h.some]
  simp only [h.inside, Bool.false_eq_true, if_false, fails_bind, returns_ensure, returns_useTable,
    fails_ensure, fails_bindCells]
  exact .inr ⟨(), s, ⟨rfl, rfl⟩, .inr ⟨(), s, ⟨hw, rfl⟩, .inl refused⟩⟩

end Statement

end Ticket

end Forge
