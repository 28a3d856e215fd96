import Forge.Named
import Mathlib.Data.List.Infix
import Mathlib.Data.List.Nodup

/-!
# Setting a named value

`Named.put` gives a name that is there its new value in its old place, and sets a new name at the
end. So the names stay as they are or grow at their end, and every other name keeps its value.
-/

namespace Forge.Named

variable {β : Type} {name : String} {value v : β} {l a b : List (String × β)}

/-- The names, in their order. -/
def names (l : List (String × β)) : List String := l.map Prod.fst

@[simp] theorem names_nil : names ([] : List (String × β)) = [] := rfl

@[simp] theorem names_cons (m : String × β) (l : List (String × β)) :
    names (m :: l) = m.1 :: names l := rfl

@[simp] theorem names_append (a b : List (String × β)) : names (a ++ b) = names a ++ names b :=
  List.map_append

theorem mem_names_of_mem (h : (name, v) ∈ l) : name ∈ names l :=
  List.mem_map_of_mem h

theorem notMem_names_cons {m : String × β} (h : name ∉ names (m :: l)) :
    m.1 ≠ name ∧ name ∉ names l :=
  ⟨fun same => h (same ▸ List.mem_cons_self), fun mem => h (List.mem_cons_of_mem _ mem)⟩

theorem mem_of_get? (h : get? name l = some value) : (name, value) ∈ l := by
  induction l with
  | nil => contradiction
  | cons m l ih =>
    rw [get?] at h
    split at h
    · next here =>
      obtain rfl := Option.some.inj h
      exact here ▸ List.mem_cons_self
    · exact List.mem_cons_of_mem m (ih h)

theorem put_of_notMem (h : name ∉ names l) : put name value l = l ++ [(name, value)] := by
  induction l with
  | nil => rfl
  | cons m l ih =>
    obtain ⟨other, later⟩ := notMem_names_cons h
    rw [put, if_neg other, ih later, List.cons_append]

theorem put_append_cons (h : name ∉ names a) (v : β) :
    put name value (a ++ (name, v) :: b) = a ++ (name, value) :: b := by
  induction a with
  | nil => rw [List.nil_append, put, if_pos rfl, List.nil_append]
  | cons m a ih =>
    obtain ⟨other, later⟩ := notMem_names_cons h
    rw [List.cons_append, put, if_neg other, ih later, List.cons_append]

/-- What holds of all values and of a new one holds of all values afterwards. -/
theorem forall_put (P : β → Prop) (name : String) {value : β} (h : ∀ v ∈ l, P v.2)
    (hv : P value) : ∀ v ∈ put name value l, P v.2 := by
  induction l with
  | nil =>
    intro v hmem
    rw [List.mem_singleton.1 hmem]
    exact hv
  | cons a l ih =>
    intro v hmem
    unfold put at hmem
    split at hmem
    · rcases List.mem_cons.1 hmem with rfl | hmem
      · exact hv
      · exact h v (List.mem_cons_of_mem a hmem)
    · rcases List.mem_cons.1 hmem with rfl | hmem
      · exact h a List.mem_cons_self
      · exact ih (fun v hv => h v (List.mem_cons_of_mem a hv)) v hmem

/-- A name that is there stands somewhere for the first time. -/
theorem exists_of_mem_names (h : name ∈ names l) :
    ∃ a v b, l = a ++ (name, v) :: b ∧ name ∉ names a := by
  induction l with
  | nil => exact absurd h List.not_mem_nil
  | cons m l ih =>
    by_cases first : m.1 = name
    · exact ⟨[], m.2, l, by rw [← first]; rfl, List.not_mem_nil⟩
    · obtain ⟨a, v, b, rfl, fresh⟩ := ih ((List.mem_cons.1 h).resolve_left (Ne.symm first))
      refine ⟨m :: a, v, b, rfl, fun mem => ?_⟩
      rcases List.mem_cons.1 mem with same | mem
      · exact first same.symm
      · exact fresh mem

theorem names_put_of_mem (h : name ∈ names l) : names (put name value l) = names l := by
  obtain ⟨a, v, b, rfl, fresh⟩ := exists_of_mem_names h
  rw [put_append_cons fresh]
  simp only [names_append, names_cons]

theorem names_put_of_notMem (h : name ∉ names l) :
    names (put name value l) = names l ++ [name] := by
  rw [put_of_notMem h, names_append, names_cons, names_nil]

theorem nodup_names_put (distinct : (names l).Nodup) : (names (put name value l)).Nodup := by
  by_cases h : name ∈ names l
  · rwa [names_put_of_mem h]
  · rw [names_put_of_notMem h]
    exact distinct.append (List.nodup_singleton name) (List.disjoint_singleton.2 h)

theorem get?_put (n : String) :
    get? n (put name value l) = if name = n then some value else get? n l := by
  induction l with
  | nil => rfl
  | cons m l ih =>
    by_cases first : m.1 = name
    · by_cases here : name = n <;> simp [put, get?, first, here]
    · rw [put, if_neg first, get?, get?, ih]
      by_cases here : m.1 = n
      · rw [if_pos here, if_pos here, if_neg fun same => first (here.trans same.symm)]
      · rw [if_neg here, if_neg here]

/-- Among distinct names, the new value stands under its name and all others are as they were. -/
theorem mem_put {m : String × β} (distinct : (names l).Nodup) :
    m ∈ put name value l ↔ m = (name, value) ∨ m ∈ l ∧ m.1 ≠ name := by
  by_cases h : name ∈ names l
  · obtain ⟨a, v, b, rfl, before⟩ := exists_of_mem_names h
    have after : name ∉ names b := by
      rw [names_append, names_cons] at distinct
      exact (List.nodup_cons.1 (List.nodup_append.1 distinct).2.1).1
    have others {l : List (String × β)} (hl : name ∉ names l) : m ∈ l ↔ m ∈ l ∧ m.1 ≠ name :=
      ⟨fun mem => ⟨mem, fun same => hl (same ▸ mem_names_of_mem mem)⟩, And.left⟩
    rw [put_append_cons before, List.mem_append, List.mem_cons, List.mem_append, List.mem_cons,
      others before, others after]
    grind
  · have absent : m ∈ l → m.1 ≠ name := fun mem same => h (same ▸ mem_names_of_mem mem)
    rw [put_of_notMem h, List.mem_append, List.mem_singleton, or_comm, and_iff_left_of_imp absent]

/-- A name that has the value already keeps it. -/
theorem put_eq_self (distinct : (names l).Nodup) (h : (name, value) ∈ l) :
    put name value l = l := by
  obtain ⟨a, v, b, rfl, fresh⟩ := exists_of_mem_names (mem_names_of_mem h)
  have same := List.inj_on_of_nodup_map distinct h
    (List.mem_append_right a (List.mem_cons_self (a := (name, v)) (l := b))) rfl
  rw [put_append_cons fresh, (Prod.mk.inj same).2]

/-- Among distinct names, a value is found under its own name. -/
theorem get?_of_mem (distinct : (names l).Nodup) (h : (name, value) ∈ l) :
    get? name l = some value := by
  rw [← put_eq_self distinct h, get?_put, if_pos rfl]

end Forge.Named
