import Forge.Branch
import Forge.Proofs.Text.Parts
import Mathlib.Tactic.MkIffOfInductiveProp
import Mathlib.Tactic.Tauto

/-!
# Branch names and the format of references

Git has rules for the components of a reference, which stand between slashes, and rules for the
reference as a whole. `Branch.isValid` looks at whole names only, at their ends and at what stands
next to a slash, and comes to the same verdict on all rules but one: it forbids the ending of lock
files to the last component alone.
-/

namespace Forge.Branch

/-- The components of a name. -/
def components (name : String) : List (List Char) :=
  name.toList.splitOn '/'

/-- The components before the last one. -/
def folders (name : String) : List (List Char) :=
  (components name).dropLast

/-- The last component. -/
def leaf (name : String) : List Char :=
  (components name).getLast (List.splitOn_ne_nil '/' name.toList)

/-- The component has the ending of lock files. -/
def IsLock (part : List Char) : Prop :=
  ".lock".toList <:+ part

/-- The character is an ASCII control, the blank, or one with a meaning in expressions. -/
def IsSpecial (c : Char) : Prop :=
  c.toNat < 0x20 ∨ c.toNat = 0x7f ∨ c ∈ [' ', '~', '^', ':', '?', '*', '[', '\\']

/-- The rules of references but for the one on lock files. -/
@[mk_iff]
structure Regular (name : String) : Prop where
  noEmpty : ∀ part ∈ components name, part ≠ []
  noHidden : ∀ part ∈ components name, ¬ ".".toList <+: part
  noOption : ¬ "-".toList <+: name.toList
  noStop : ¬ ".".toList <:+ name.toList
  noHead : name ≠ "@"
  noRange : ¬ "..".toList <:+: name.toList
  noLog : ¬ "@\x7b".toList <:+: name.toList
  plain : ∀ c ∈ name.toList, ¬ IsSpecial c

/-- The rules of references. -/
structure WellFormed (name : String) : Prop extends Regular name where
  noLock : ∀ part ∈ components name, ¬ IsLock part

variable {name : String}

/-! ## Rules on components -/

theorem components_eq (name : String) : components name = folders name ++ [leaf name] :=
  (List.dropLast_concat_getLast _).symm

theorem noEmpty_iff : (∀ part ∈ components name, part ≠ []) ↔
    name ≠ "" ∧ Text.startsWith "/" name = false ∧ Text.endsWith "/" name = false ∧
      Text.hasPart "//" name = false := by
  have empty : [] ∈ components name ↔ name = "" ∨ Text.startsWith "/" name = true ∨
      Text.endsWith "/" name = true ∨ Text.hasPart "//" name = true := by
    rw [Text.startsWith_iff, Text.endsWith_iff, Text.hasPart_iff, ← String.toList_eq_nil_iff]
    exact Text.nil_mem_splitOn_iff
  have absent : (∀ part ∈ components name, part ≠ []) ↔ [] ∉ components name :=
    ⟨fun h mem => h [] mem rfl, fun h _ mem nil => h (nil ▸ mem)⟩
  simp only [absent, empty, not_or, Bool.not_eq_true, ne_eq]

theorem noHidden_iff : (∀ part ∈ components name, ¬ ".".toList <+: part) ↔
    Text.startsWith "." name = false ∧ Text.hasPart "/." name = false := by
  have hidden : (∃ part ∈ components name, ".".toList <+: part) ↔
      Text.startsWith "." name = true ∨ Text.hasPart "/." name = true := by
    rw [Text.startsWith_iff, Text.hasPart_iff]
    exact Text.exists_prefix_iff (by decide)
  simp only [← Bool.not_eq_true, ← not_or, ← hidden, not_exists, not_and]

theorem isLock_leaf_iff : IsLock (leaf name) ↔ Text.endsWith ".lock" name = true := by
  rw [Text.endsWith_iff]
  exact Text.suffix_getLast_iff (by decide)

/-! ## Rules on characters -/

theorem isForbidden_iff {c : Char} : isForbidden c = true ↔ IsSpecial c := by
  have blank : c = ' ' ↔ c.toNat = 0x20 := Char.toNat_inj.symm
  simp only [isForbidden, IsSpecial, Bool.or_eq_true, decide_eq_true_eq, beq_iff_eq, List.mem_cons,
    List.not_mem_nil, or_false, blank, Nat.le_iff_lt_or_eq]
  tauto

theorem plain_iff : (∀ c ∈ name.toList, ¬ IsSpecial c) ↔ name.toList.any isForbidden = false := by
  rw [List.any_eq_false]
  exact forall₂_congr fun c _ => not_congr isForbidden_iff.symm

/-! ## The verdict -/

/-- A name is valid if and only if it keeps all rules but that on lock files, and its last component
keeps that one too. -/
theorem isValid_iff : isValid name = true ↔ Regular name ∧ ¬ IsLock (leaf name) := by
  rw [regular_iff, noEmpty_iff, noHidden_iff, plain_iff, isLock_leaf_iff, ← Text.startsWith_iff,
    ← Text.endsWith_iff, ← Text.hasPart_iff, ← Text.hasPart_iff]
  simp only [isValid, Bool.and_eq_true, Bool.not_eq_true', Bool.or_eq_false_iff, bne_iff_ne,
    Bool.not_eq_true]
  tauto

theorem wellFormed_iff :
    WellFormed name ↔ isValid name = true ∧ ∀ part ∈ folders name, ¬ IsLock part := by
  rw [isValid_iff]
  constructor
  · intro h
    have locks := h.noLock
    rw [components_eq, List.forall_mem_append] at locks
    exact ⟨⟨h.toRegular, locks.2 _ (List.mem_singleton_self _)⟩, locks.1⟩
  · rintro ⟨⟨regular, last⟩, before⟩
    refine ⟨regular, ?_⟩
    rw [components_eq, List.forall_mem_append, List.forall_mem_singleton]
    exact ⟨before, last⟩

/-- **Which names are accepted.** A name is valid if and only if it keeps the rules of references,
with that on lock files for its last component only; so the verdict is that of the rules unless the
name is valid and has the ending of lock files on a component before the last one. -/
theorem isValid_iff_wellFormed_iff (name : String) :
    (isValid name = true ↔ Regular name ∧ ¬ IsLock (leaf name)) ∧
      ((isValid name = true ↔ WellFormed name) ↔
        ¬ (isValid name = true ∧ ∃ part ∈ folders name, IsLock part)) := by
  refine ⟨isValid_iff, ?_⟩
  rw [wellFormed_iff]
  simp only [not_and, not_exists]
  tauto

/-- The rules of references refuse a name that is accepted. -/
theorem not_wellFormed_of_lockFolder : ¬ (isValid "a.lock/b" = true ↔ WellFormed "a.lock/b") := by
  intro same
  have formed : WellFormed "a.lock/b" := same.1 (by decide)
  exact formed.noLock "a.lock".toList (by decide) ⟨['a'], rfl⟩

end Forge.Branch
