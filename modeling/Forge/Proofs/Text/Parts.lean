import Forge.Text.Search
import Mathlib.Data.List.Infix

/-!
# Parts and components of texts

A text is a part of another one if its characters stand there as a run. Between separators are the
components of a text. Rules on how components may start and end come down to runs at the ends of the
text and next to its separators.
-/

namespace Forge.Text

theorem hasRun_iff {part cs : List Char} : hasRun part cs = true ↔ part <:+: cs := by
  induction cs with
  | nil =>
    rw [hasRun, List.isPrefixOf_iff_prefix, List.prefix_nil, List.infix_nil]
  | cons c cs ih =>
    rw [hasRun, Bool.or_eq_true, List.isPrefixOf_iff_prefix, ih, List.infix_cons_iff]

theorem hasPart_iff {part s : String} : hasPart part s = true ↔ part.toList <:+: s.toList :=
  hasRun_iff

theorem startsWith_iff {start s : String} :
    startsWith start s = true ↔ start.toList <+: s.toList :=
  List.isPrefixOf_iff_prefix

theorem endsWith_iff {last s : String} : endsWith last s = true ↔ last.toList <:+ s.toList :=
  List.isSuffixOf_iff_suffix

/-! ## Runs around a separator -/

variable {α : Type} {sep : α} {a b l x : List α}

theorem prefix_append_cons_iff (hx : sep ∉ x) : x <+: a ++ sep :: b ↔ x <+: a := by
  refine ⟨fun h => ?_, fun h => h.trans (List.prefix_append a _)⟩
  rw [List.append_cons] at h
  rcases List.prefix_or_prefix_of_prefix h (List.prefix_append (a ++ [sep]) b) with short | long
  · rcases List.prefix_concat_iff.1 short with rfl | short
    · exact absurd (List.mem_append_right a List.mem_cons_self) hx
    · exact short
  · exact absurd (long.subset (List.mem_append_right a List.mem_cons_self)) hx

theorem suffix_append_cons_iff (hx : sep ∉ x) : x <:+ a ++ sep :: b ↔ x <:+ b := by
  rw [← List.reverse_prefix, List.reverse_append, List.reverse_cons, List.append_assoc,
    List.singleton_append, prefix_append_cons_iff (by simpa using hx), List.reverse_prefix]

theorem cons_prefix_append_cons_iff (ha : sep ∉ a) :
    sep :: x <+: a ++ sep :: b ↔ a = [] ∧ x <+: b := by
  cases a with
  | nil => simp
  | cons c a =>
    have other : sep ≠ c := fun he => ha (he ▸ List.mem_cons_self)
    simp [other]

/-- A run that starts with the separator starts at the first one or after it. -/
theorem cons_infix_append_cons_iff (ha : sep ∉ a) :
    sep :: x <:+: a ++ sep :: b ↔ x <+: b ∨ sep :: x <:+: b := by
  induction a with
  | nil => rw [List.nil_append, List.infix_cons_iff, List.cons_prefix_cons, and_iff_right rfl]
  | cons c a ih =>
    have later : ¬ sep :: x <+: c :: a ++ sep :: b := fun h =>
      nomatch ((cons_prefix_append_cons_iff ha).1 h).1
    rw [List.cons_append, List.infix_cons_iff, ← List.cons_append, or_iff_right later,
      ih fun h => ha (List.mem_cons_of_mem c h)]

theorem not_cons_infix_of_notMem (h : sep ∉ l) : ¬ sep :: x <:+: l :=
  fun run => h (run.subset List.mem_cons_self)

/-! ## Components -/

variable [DecidableEq α]

theorem splitOn_of_notMem (h : sep ∉ l) : l.splitOn sep = [l] :=
  List.splitOnP_eq_singleton fun _ hc => beq_false_of_ne (ne_of_mem_of_not_mem hc h)

theorem splitOn_append_cons (h : sep ∉ a) : (a ++ sep :: b).splitOn sep = a :: b.splitOn sep :=
  List.splitOnP_append_cons_of_forall_mem
    (fun _ hc => beq_false_of_ne (ne_of_mem_of_not_mem hc h)) sep (beq_self_eq_true sep) b

/-- What holds of every list without separators, and still holds when a component is put in front,
holds of every list. -/
@[elab_as_elim]
theorem components_induction (sep : α) {motive : List α → Prop}
    (single : ∀ l, sep ∉ l → motive l)
    (step : ∀ a b, sep ∉ a → motive b → motive (a ++ sep :: b)) (l : List α) : motive l := by
  induction hn : l.length using Nat.strongRecOn generalizing l with
  | _ n ih =>
    by_cases h : sep ∈ l
    · obtain ⟨a, b, rfl, ha⟩ := List.eq_append_cons_of_mem h
      refine step a b ha (ih b.length ?_ b rfl)
      simp only [← hn, List.length_append, List.length_cons]
      omega
    · exact single l h

/-- Some component is empty if and only if the list is, or a separator stands at one of its ends or
next to another one. -/
theorem nil_mem_splitOn_iff :
    [] ∈ l.splitOn sep ↔ l = [] ∨ [sep] <+: l ∨ [sep] <:+ l ∨ [sep, sep] <:+: l := by
  induction l using components_induction sep with
  | single l h =>
    have first : ¬ [sep] <+: l := fun run => h (run.subset List.mem_cons_self)
    have last : ¬ [sep] <:+ l := fun run => h (run.subset List.mem_cons_self)
    rw [splitOn_of_notMem h, List.mem_singleton, eq_comm, or_iff_left]
    exact fun runs => runs.elim first (Or.elim · last (not_cons_infix_of_notMem h))
  | step a b ha ih =>
    have first : [sep] <+: a ++ sep :: b ↔ [] = a := by
      rw [cons_prefix_append_cons_iff ha, and_iff_left List.nil_prefix, eq_comm]
    have last : [sep] <:+ a ++ sep :: b ↔ b = [] ∨ [sep] <:+ b := by
      rw [List.singleton_suffix_iff_getLast?_eq_some, List.singleton_suffix_iff_getLast?_eq_some,
        List.getLast?_append_cons]
      cases b with
      | nil => exact ⟨fun _ => .inl rfl, fun _ => rfl⟩
      | cons c b => rw [List.getLast?_cons_cons, or_iff_right (List.cons_ne_nil c b)]
    rw [splitOn_append_cons ha, List.mem_cons, ih, cons_infix_append_cons_iff ha, last, first]
    simp only [List.append_eq_nil_iff, List.cons_ne_nil, and_false, false_or]
    tauto

/-- Some component starts with a run if and only if the list does, or the run follows a separator. -/
theorem exists_prefix_iff (hx : sep ∉ x) :
    (∃ part ∈ l.splitOn sep, x <+: part) ↔ x <+: l ∨ sep :: x <:+: l := by
  induction l using components_induction sep with
  | single l h =>
    rw [splitOn_of_notMem h, or_iff_left (not_cons_infix_of_notMem h)]
    simp
  | step a b ha ih =>
    rw [splitOn_append_cons ha, List.exists_mem_cons_iff, ih, prefix_append_cons_iff hx,
      cons_infix_append_cons_iff ha]

/-- The last component ends with a run if and only if the list does. -/
theorem suffix_getLast_iff (hx : sep ∉ x) :
    x <:+ (l.splitOn sep).getLast (List.splitOn_ne_nil sep l) ↔ x <:+ l := by
  induction l using components_induction sep with
  | single l h => simp only [splitOn_of_notMem h, List.getLast_singleton]
  | step a b ha ih =>
    simp only [splitOn_append_cons ha, List.getLast_cons (List.splitOn_ne_nil sep b)]
    rw [ih, suffix_append_cons_iff hx]

end Forge.Text
