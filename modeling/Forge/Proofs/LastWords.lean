import Forge.Program.Process
import Forge.Proofs.Text.Lines
import Forge.Proofs.Text.Trim

/-!
# The last words of a command

A command that failed is represented by its last line. Two sets of separators meet there: a text is
first freed of the blanks around it and then cut at the ends of lines. Every end of a line is a
blank, so what is left ends with a line that says something, and that line is the last one of the
whole text that does (`Text.getLast?_lines_strip`).

Which of the two texts of a command is cut is decided before the blanks are taken off. An error text
of blanks alone is therefore preferred to an output that says something
(`CommandFailure.detail_last_words`).
-/

namespace Forge.Text

/-! ## Line ends and blanks -/

theorem isBlank_of_isLineEnd {c : Char} (h : isLineEnd c = true) : isBlank c = true := by
  simp only [isLineEnd, isBlank, Bool.or_eq_true, Bool.and_eq_true, decide_eq_true_eq,
    beq_iff_eq] at h ⊢
  omega

theorem not_isLineEnd_of_not_isBlank {c : Char} (h : isBlank c = false) : isLineEnd c = false :=
  Bool.eq_false_iff.2 fun he => Bool.false_ne_true (h ▸ isBlank_of_isLineEnd he)

/-! ## Blanks at the ends -/

variable {l r u b : List Char}

theorem rdropWhile_append_of_pos {p : Char → Bool} {b : List Char} (hb : ∀ c ∈ b, p c = true) :
    (l ++ b).rdropWhile p = l.rdropWhile p := by
  have before : ∀ c ∈ b.reverse, p c = true := fun c hc => hb c (List.mem_reverse.1 hc)
  rw [List.rdropWhile, List.reverse_append, List.dropWhile_append_of_pos before, List.rdropWhile]

theorem rdropWhile_eq_self {p : Char → Bool} (h : ∃ c ∈ l.getLast?, p c = false) :
    l.rdropWhile p = l := by
  obtain ⟨c, hc, loud⟩ := h
  obtain ⟨x, rfl⟩ := List.getLast?_eq_some_iff.1 hc
  exact List.rdropWhile_concat_neg p x c (by simp [loud])

theorem getLast?_dropWhile {p : Char → Bool} (left : l.dropWhile p ≠ []) :
    (l.dropWhile p).getLast? = l.getLast? := by
  rw [← List.getLast?_append_of_ne_nil (l.takeWhile p) left, List.takeWhile_append_dropWhile]

theorem trim_append_eq_right {p : Char → Bool} {a : List Char} (ha : ∀ c ∈ a, p c = true) :
    trim p (a ++ l) = trim p l := by
  rw [trim, List.dropWhile_append_of_pos ha, trim]

theorem trim_append_eq_left {p : Char → Bool} {b : List Char} (hb : ∀ c ∈ b, p c = true) :
    trim p (l ++ b) = trim p l := by
  simp only [trim, dropEndWhile_eq, List.dropWhile_append]
  split
  · next gone =>
    rw [List.isEmpty_iff.1 gone, List.dropWhile_eq_nil_iff.2 hb]
  · exact rdropWhile_append_of_pos hb

/-! ## The last line that says something -/

/-- The text `before ++ words ++ after`, of which `words` is the end of a line that says something
and `after` says nothing. -/
structure EndsIn (before words after : List Char) : Prop where
  ended : ∀ e ∈ before.getLast?, isLineEnd e = true
  within : ∀ c ∈ words, isLineEnd c = false
  said : ∃ c ∈ words.getLast?, isBlank c = false
  silent : ∀ c ∈ after, isBlank c = true

open List in
theorem exists_endsIn (h : cs.all isBlank = false) :
    ∃ u l b, cs = u ++ (l ++ b) ∧ EndsIn u l b := by
  have loud : (cs.reverse.find? fun c => !isBlank c).isSome = true := by
    rw [find?_isSome]
    obtain ⟨c, mem, hc⟩ := all_eq_false.1 h
    exact ⟨c, mem_reverse.2 mem, by simpa using hc⟩
  obtain ⟨c, found⟩ := Option.isSome_iff_exists.1 loud
  obtain ⟨hc, b, x, split, blank⟩ := find?_eq_some_iff_append.1 found
  have cut : cs = x.reverse ++ c :: b.reverse := by
    rw [← reverse_reverse cs, split, reverse_append, reverse_cons, append_assoc, singleton_append]
  refine ⟨x.reverse.rdropWhile (!isLineEnd ·), x.reverse.rtakeWhile (!isLineEnd ·) ++ [c],
    b.reverse, ?_, ?_, ?_, ⟨c, getLast?_concat, by simpa using hc⟩, ?_⟩
  · rw [cut, append_assoc, singleton_append, ← append_assoc, rdropWhile_append_rtakeWhile]
  · intro e he
    obtain ⟨ne, rfl⟩ := mem_getLast?_eq_getLast he
    simpa using rdropWhile_last_not _ _ ne
  · intro d hd
    rcases mem_append.1 hd with hd | hd
    · simpa using mem_rtakeWhile_imp hd
    · rw [mem_singleton.1 hd]
      exact not_isLineEnd_of_not_isBlank (by simpa using hc)
  · intro d hd
    simpa using blank d (mem_reverse.1 hd)

namespace EndsIn

variable {b : List Char}

theorem ne_nil (h : EndsIn u l b) : l ≠ [] := by
  rintro rfl
  obtain ⟨c, hc, -⟩ := h.said
  cases hc

/-- The words end a line, and of what follows them the rest of this line and further ones. -/
theorem linesOf_eq (h : EndsIn u l b) : linesOf (u ++ (l ++ b)) =
    linesOf u ++ (l ++ (linesOf b).headD []) :: (linesOf b).tail := by
  obtain ⟨c, r, rfl⟩ := List.exists_cons_of_ne_nil h.ne_nil
  rw [List.cons_append, linesOf_append h.ended (h.within c List.mem_cons_self),
    ← List.cons_append, linesOf_append_of_within h.within, foldr_consFirst h.ne_nil]

/-- What follows the words in their line says nothing. -/
theorem silent_rest (h : EndsIn u l b) : ∀ c ∈ (linesOf b).headD [], isBlank c = true := by
  cases hb : linesOf b with
  | nil => exact List.forall_mem_nil _
  | cons k ks =>
    have first : k ∈ linesOf b := hb ▸ List.mem_cons_self
    exact fun c hc => h.silent c (subset_of_mem_linesOf first hc)

/-- No line after the words says anything. -/
theorem silent_later (h : EndsIn u l b) {k : List Char} (hk : k ∈ (linesOf b).tail) :
    k.all isBlank = true :=
  List.all_eq_true.2 fun c hc =>
    h.silent c (subset_of_mem_linesOf (List.mem_of_mem_tail hk) hc)

/-- Without the blanks around it a text ends in the same words, but for blanks in front of them. -/
theorem trim_eq (h : EndsIn u l b) :
    ∃ u' l', trim isBlank (u ++ (l ++ b)) = u' ++ l' ∧ EndsIn u' l' [] ∧
      ∃ a, l = a ++ l' ∧ ∀ c ∈ a, isBlank c = true := by
  obtain ⟨c, hc, loud⟩ := h.said
  rw [trim, dropEndWhile_eq]
  by_cases hu : ∀ d ∈ u, isBlank d = true
  · have left : l.dropWhile isBlank ≠ [] := by
      rw [ne_eq, List.dropWhile_eq_nil_iff]
      exact fun blank => Bool.false_ne_true (loud ▸ blank c (List.mem_of_mem_getLast? hc))
    have last : c ∈ (l.dropWhile isBlank).getLast? := by
      rwa [getLast?_dropWhile left]
    refine ⟨[], l.dropWhile isBlank, ?_, ⟨fun e he => absurd he (Option.not_mem_none e), ?_,
      ⟨c, last, loud⟩, List.forall_mem_nil _⟩,
      l.takeWhile isBlank, List.takeWhile_append_dropWhile.symm, ?_⟩
    · rw [List.dropWhile_append_of_pos hu, List.dropWhile_append, if_neg (by simpa using left),
        rdropWhile_append_of_pos h.silent, rdropWhile_eq_self ⟨c, last, loud⟩, List.nil_append]
    · exact fun d hd => h.within d ((List.dropWhile_sublist isBlank).subset hd)
    · exact fun d hd => List.mem_takeWhile_imp hd
  · have left : u.dropWhile isBlank ≠ [] := by
      rwa [ne_eq, List.dropWhile_eq_nil_iff]
    refine ⟨u.dropWhile isBlank, l, ?_, ⟨?_, h.within, h.said, List.forall_mem_nil _⟩, [], rfl,
      List.forall_mem_nil _⟩
    · rw [List.dropWhile_append, if_neg (by simpa using left), ← List.append_assoc,
        rdropWhile_append_of_pos h.silent,
        rdropWhile_eq_self ⟨c, List.mem_getLast?_append_of_mem_getLast? hc, loud⟩]
    · intro e he
      rw [getLast?_dropWhile left] at he
      exact h.ended e he

end EndsIn

/-! ## Texts -/

/-- The last line of a text that is not blank. -/
def lastLine? (s : String) : Option String :=
  ((lines s).filter fun line => !allBlank line).getLast?

theorem allBlank_ofList (cs : List Char) : allBlank (String.ofList cs) = cs.all isBlank := by
  rw [allBlank, String.toList_ofList]

/-- **The last line.** A text that is not blank has a last line that is not, and freed of the blanks
around it the text is not empty and ends with this line, up to blanks around it. -/
theorem getLast?_lines_strip {s : String} (h : allBlank s = false) :
    strip s ≠ "" ∧ ∃ line last, lastLine? s = some line ∧
      (lines (strip s)).getLast? = some last ∧ strip last = strip line := by
  obtain ⟨u, l, b, split, ends⟩ := exists_endsIn h
  obtain ⟨u', l', trimmed, ends', a, rfl, ha⟩ := ends.trim_eq
  have rest := ends.silent_rest
  have loud : (a ++ l' ++ (linesOf b).headD []).all isBlank = false := by
    obtain ⟨c, hc, loud⟩ := ends.said
    exact List.all_eq_false.2
      ⟨c, List.mem_append_left _ (List.mem_of_mem_getLast? hc), by simp [loud]⟩
  have none_later : (linesOf b).tail.filter (fun line => !line.all isBlank) = [] :=
    List.filter_eq_nil_iff.2 fun k hk => by simp [ends.silent_later hk]
  have stripped : (strip s).toList = u' ++ (l' ++ []) := by
    rw [toList_strip, split, trimmed, List.append_nil]
  refine ⟨fun empty => ?_, String.ofList (a ++ l' ++ (linesOf b).headD []), String.ofList l',
    ?_, ?_, ?_⟩
  · rw [empty] at stripped
    exact ends'.ne_nil (by simpa using (List.append_eq_nil_iff.1 stripped.symm).2)
  · have filtered : (fun line => !allBlank line) ∘ String.ofList = fun line => !line.all isBlank :=
      funext fun line => by rw [Function.comp, allBlank_ofList]
    rw [lastLine?, lines, List.filter_map, filtered, split, ends.linesOf_eq, List.filter_append,
      List.filter_cons_of_pos (by rw [loud]; rfl), none_later, List.map_append,
      List.map_singleton, List.getLast?_concat]
  · rw [lines, stripped, ends'.linesOf_eq, List.map_append]
    simp [linesOf]
  · rw [strip, strip, String.toList_ofList, String.toList_ofList, List.append_assoc,
      trim_append_eq_right ha, trim_append_eq_left rest]

theorem strip_eq_empty {s : String} (h : allBlank s = true) : strip s = "" := by
  rw [← String.toList_eq_nil_iff, toList_strip, trim,
    List.dropWhile_eq_nil_iff.2 (List.all_eq_true.1 h)]
  rfl

end Forge.Text

namespace Forge.CommandFailure

open Text

/-- The words are those of the last line of a text that is not blank, up to blanks around them. -/
def EndsWith (s words : String) : Prop :=
  ∃ line, lastLine? s = some line ∧ strip words = strip line

/-- The command has the last word: the detail is the last line of its error text or, if that is
blank, of its output, and only if both are blank it is the failure in words. -/
def Speaks (f : CommandFailure) : Prop :=
  if allBlank f.err = false then EndsWith f.err f.detail
  else if allBlank f.out = false then EndsWith f.out f.detail
  else f.detail = f.message

/-- The text that is cut into lines: the error text if there is any, else the output. -/
def heard (f : CommandFailure) : String :=
  if f.err = "" then f.out else f.err

/-- The output of the command goes unheard: there is an error text, but it is blank, and the output
is not. -/
def Unheard (f : CommandFailure) : Prop :=
  f.err ≠ "" ∧ allBlank f.err = true ∧ allBlank f.out = false

/-- The detail of a command that is heard is a line that is there, the last one of what is heard. -/
theorem detail_of_heard {f : CommandFailure} (h : allBlank f.heard = false) :
    (lines (strip f.heard)).getLast? = some f.detail ∧ EndsWith f.heard f.detail := by
  obtain ⟨left, line, last, found, cut, same⟩ := getLast?_lines_strip h
  have detail : f.detail = last := by
    rw [heard] at left cut
    rw [CommandFailure.detail, if_neg left, List.getLastD_eq_getLast?, cut, Option.getD_some]
  rw [detail]
  exact ⟨cut, line, found, same⟩

theorem detail_of_silent {f : CommandFailure} (h : allBlank f.heard = true) :
    f.detail = f.message :=
  if_pos (strip_eq_empty h)

theorem speaks_of_unheard {f : CommandFailure} (h : f.Unheard) :
    f.Speaks ↔ EndsWith f.out f.message := by
  obtain ⟨some_err, blank, loud⟩ := h
  have silent : allBlank f.heard = true := by rwa [heard, if_neg some_err]
  rw [Speaks, if_neg (by simp [blank]), if_pos loud, detail_of_silent silent]

theorem speaks_of_not_unheard {f : CommandFailure} (h : ¬ f.Unheard) : f.Speaks := by
  unfold Speaks
  by_cases err : allBlank f.err = false
  · have heard_err : f.heard = f.err := if_neg fun empty => by
      rw [empty] at err
      cases err
    rw [if_pos err, ← heard_err]
    exact (detail_of_heard (heard_err ▸ err)).2
  · rw [if_neg err]
    have blank : allBlank f.err = true := eq_true_of_ne_false err
    by_cases out : allBlank f.out = false
    · have none_err : f.err = "" := not_not.1 fun some_err => h ⟨some_err, blank, out⟩
      have heard_out : f.heard = f.out := if_pos none_err
      rw [if_pos out, ← heard_out]
      exact (detail_of_heard (heard_out ▸ out)).2
    · rw [if_neg out]
      refine detail_of_silent ?_
      rw [heard]
      split
      · exact eq_true_of_ne_false out
      · exact blank

/-- **The last words of a command.** Unless what is heard of a command is blank, cutting it into
lines leaves one, and the last of them is the detail, which is the last line that is not blank; else
the detail is the failure in words. So the command has the last word, unless its output goes unheard
and does not itself end with that failure. -/
theorem detail_last_words (f : CommandFailure) :
    (allBlank f.heard = false →
      (lines (strip f.heard)).getLast? = some f.detail ∧ EndsWith f.heard f.detail) ∧
    (allBlank f.heard = true → f.detail = f.message) ∧
    (f.Speaks ↔ (f.Unheard → EndsWith f.out f.message)) := by
  refine ⟨detail_of_heard, detail_of_silent, ?_⟩
  by_cases h : f.Unheard
  · rw [speaks_of_unheard h, imp_iff_right h]
  · exact iff_of_true (speaks_of_not_unheard h) fun unheard => absurd unheard h

/-- A conflict that is told on the output goes unheard after an empty line of error text. -/
theorem not_speaks_of_emptyLine :
    ¬ (CommandFailure.mk ["git", "merge"] 1 "CONFLICT\n" "\n").Speaks := by
  rw [speaks_of_unheard ⟨by decide, by decide, by decide⟩]
  rintro ⟨line, found, same⟩
  have last : lastLine? "CONFLICT\n" = some "CONFLICT" := by decide
  rw [last, Option.some.injEq] at found
  subst found
  exact absurd same (by decide)

end Forge.CommandFailure
