import Forge.Proofs.Merge.History
import Forge.Proofs.Noted
import Forge.Proofs.Replay
import Mathlib.Algebra.GroupWithZero.Nat

/-!
# Merges happen once

However the steps of merges and other operations are interleaved, the calls of two merges on the
working tree of one repository never overlap, a merge request is merged successfully at most once,
and no merge touches the working tree after it could have seen that. Where branches are merged in
the working tree more often than that, somebody has been told: all such merges but one have raised
the error that they are not recorded, or have been refused for the name of who merges, if that has
no UTF-8 form.
-/

namespace Forge

variable {τ : Type}

/-! ## Raised errors -/

/-- Whatever a program is answered from now on, it ends in a value with the property. -/
def Program.EndsIn {α : Type} (P : α → Prop) : Program τ α → Prop
  | .done a => P a
  | .ask _ next => ∀ b, (next b).EndsIn P

/-- The error that the merge request `id` is not recorded. -/
def isUnrecordedOf (id : Int) (result : Except Error Answer) : Prop :=
  ∃ name request reason, result = .error (.unrecorded name request reason) ∧ request.id = id

/-- The call has raised the error that the merge request is not recorded: it ends in it, whatever
it still has to give back. -/
def Call.Raised (id : Int) (c : Call τ) : Prop :=
  c.rest.EndsIn (isUnrecordedOf id)

/-- The call is one of a merge by someone whose name has no UTF-8 form, and ends in the error that
says so. -/
def Call.Unnameable (surrogates : Text.Surrogates) (c : Call τ) : Prop :=
  ∃ name id actor limit merger fault, c.operation = .merge name id actor limit ∧
    cleanActor actor = .ok merger ∧ surrogates.fault? merger = some fault ∧
    c.rest.EndsIn fun result => result = .error (.unwritable fault)

theorem Program.EndsIn.mono {α : Type} {P Q : α → Prop} {p : Program τ α} (h : p.EndsIn P)
    (sub : ∀ a, P a → Q a) : p.EndsIn Q := by
  induction p with
  | done a => exact sub a h
  | ask r next ih => exact fun b => ih b (h b)

namespace Merge

variable {directory : Option String} {id : Int} {j j' : Journal}

/-- The second journal has the transactions of the first, and gives up as that does. -/
structure SameEnd (j j' : Journal) : Prop where
  commits : j'.commits = j.commits
  lost : j'.lost = j.lost
  reported : j.reported = true → j'.reported = true

theorem SameEnd.refl (j : Journal) : SameEnd j j :=
  ⟨rfl, rfl, fun h => h⟩

theorem SameEnd.trans {j'' : Journal} (h : SameEnd j j') (h' : SameEnd j' j'') : SameEnd j j'' :=
  ⟨h'.commits.trans h.commits, h'.lost.trans h.lost, h'.reported ∘ h.reported⟩

theorem SameEnd.givenUp (h : SameEnd j j') (hj : j.givenUp = true) : j'.givenUp = true :=
  Bool.or_eq_true_iff.2 ((Bool.or_eq_true_iff.1 hj).imp h.reported h.lost.trans)

/-- A merge that has given up asks only for what is answered at once, whatever the answer is. -/
theorem May.answer_of_givenUp [TimeScale τ] {β : Type} {r : Request τ β} (hm : May directory id j r)
    (hj : j.givenUp = true) (s : Store) :
    Nonempty β ∧ ∀ b, Exchange r b s s ∧ SameEnd j (j.note r b s s) := by
  cases r with
  | clock => exact ⟨⟨TimeScale.zero⟩, fun _ => ⟨rfl, .refl j⟩⟩
  | process call => exact hm.elim
  | transact write limit body =>
    cases write with
    | false => exact (nomatch hm.2.1.symm.trans hj)
    | true => exact (nomatch hm.2.2.2.1.symm.trans hj)
  | openTree repo => exact (nomatch hm.2.2.2.2.1.symm.trans hj)
  | tree call => exact (nomatch hm.2.2.1.symm.trans hj)
  | takeLock repoId limit => exact (nomatch hm.2.2.2.1.symm.trans hj)
  | takeFile repoId deadline => exact (nomatch hm.2.2.2.2.1.symm.trans hj)
  | dropLock repoId => exact ⟨⟨()⟩, fun _ => ⟨rfl, rfl, rfl, fun h => h⟩⟩
  | dropFile repoId => exact ⟨⟨()⟩, fun _ => ⟨rfl, rfl, rfl, fun h => h⟩⟩
  | log record => exact ⟨⟨()⟩, fun _ => ⟨rfl, rfl, rfl, fun h => by simp [Journal.note, h]⟩⟩

variable [TimeScale τ] {actor : Option String} {p : Program τ (Except Error Answer)}

/-- However a merge that has given up ends, its last journal is like the one that it has now; and
there is a way in which it ends. -/
theorem ends_of_givenUp (h : p.Obeys (terms directory id) (Ends id actor) j)
    (hj : j.givenUp = true) :
    p.EndsIn (fun result => ∃ j', SameEnd j j' ∧ Ends id actor result j') ∧
      ∃ result j', SameEnd j j' ∧ Ends id actor result j' := by
  induction p generalizing j with
  | done a =>
    rw [Program.obeys_done] at h
    exact ⟨⟨j, .refl j, h⟩, a, j, .refl j, h⟩
  | ask r next ih =>
    rw [Program.obeys_step] at h
    obtain ⟨hm, h⟩ := h
    -- Which store answers does not matter any more, so an empty one will do.
    obtain ⟨⟨b₀⟩, answers⟩ := hm.answer_of_givenUp hj (.empty default)
    have rest (b) := ih b (h b _ ⟨_, _, .empty default, (answers b).1, rfl⟩)
      ((answers b).2.givenUp hj)
    refine ⟨fun b => (rest b).1.mono fun result ⟨j', same, ends⟩ =>
      ⟨j', (answers b).2.trans same, ends⟩, ?_⟩
    obtain ⟨result, j', same, ends⟩ := (rest b₀).2
    exact ⟨result, j', (answers b₀).2.trans same, ends⟩

/-- A merge that the store has refused for the name of who merges ends in the error that says so. -/
theorem endsIn_of_lost {surrogates : Text.Surrogates}
    (h : p.Obeys (terms directory id) (Ends id actor) j) (hj : j.lost = true)
    (seen : ∀ c ∈ j.commits, c.2.surrogates = surrogates) :
    ∃ merger fault, cleanActor actor = .ok merger ∧ surrogates.fault? merger = some fault ∧
      p.EndsIn fun result => result = .error (.unwritable fault) := by
  have refusal {result : Except Error Answer} {j' : Journal} (same : SameEnd j j')
      (ends : Ends id actor result j') : ∃ merger fault, cleanActor actor = .ok merger ∧
        surrogates.fault? merger = some fault ∧ result = .error (.unwritable fault) := by
    have lost : j'.lost = true := same.lost.trans hj
    cases result with
    | ok a =>
      obtain ⟨m, merger, -, -, success⟩ := ends
      exact nomatch (not_lost_of_givenUp success.givenUp).symm.trans lost
    | error e =>
      cases (show Failure id actor e j' from ends) with
      | unrecorded _ _ _ kept => exact nomatch kept.symm.trans lost
      | unwritable clean refused mem =>
        rw [same.commits] at mem
        exact ⟨_, _, clean, seen _ mem ▸ refused, rfl⟩
      | refused _ _ _ givenUp => exact nomatch (not_lost_of_givenUp givenUp).symm.trans lost
  obtain ⟨all, result, j', same, ends⟩ :=
    ends_of_givenUp h (Bool.or_eq_true_iff.2 (.inr hj))
  obtain ⟨merger, fault, clean, refused, -⟩ := refusal same ends
  refine ⟨merger, fault, clean, refused, all.mono fun result ⟨j', same, ends⟩ => ?_⟩
  obtain ⟨merger', fault', clean', refused', rfl⟩ := refusal same ends
  obtain rfl := Except.ok.inj (clean.symm.trans clean')
  obtain rfl := Option.some.inj (refused.symm.trans refused')
  rfl

/-- A merge that has been reported as not recorded, and that the store has not refused for a name,
ends in the error that it is not recorded. -/
theorem endsIn_of_reported (h : p.Obeys (terms directory id) (Ends id actor) j)
    (hj : j.reported = true) (kept : j.lost = false) : p.EndsIn (isUnrecordedOf id) := by
  have givenUp : j.givenUp = true := Bool.or_eq_true_iff.2 (.inl hj)
  refine (ends_of_givenUp h givenUp).1.mono fun result ⟨j', same, ends⟩ => ?_
  cases result with
  | ok a =>
    obtain ⟨m, merger, -, -, success⟩ := ends
    exact nomatch success.givenUp.symm.trans (same.givenUp givenUp)
  | error e =>
    cases (show Failure id actor e j' from ends) with
    | unrecorded found => exact ⟨_, _, _, rfl, found⟩
    | unwritable _ _ _ _ lost => exact nomatch lost.symm.trans (same.lost.trans kept)
    | refused _ _ _ kept => exact nomatch kept.symm.trans (same.givenUp givenUp)

end Merge

/-! ## Counting -/

section Counting

variable {α : Type _} {f : α → Nat} {q : α → Prop} [DecidablePred q] {l : List α}

theorem sum_le_countP (h : ∀ a ∈ l, f a ≤ 1) (hq : ∀ a ∈ l, f a ≠ 0 → q a) :
    (l.map f).sum ≤ l.countP fun a => q a := by
  induction l with
  | nil => exact Nat.le_refl 0
  | cons a l ih =>
    have hl := ih (fun b hb => h b (List.mem_cons_of_mem a hb))
      fun b hb => hq b (List.mem_cons_of_mem a hb)
    have ha := h a List.mem_cons_self
    rw [List.map_cons, List.sum_cons, List.countP_cons]
    by_cases hz : f a = 0
    · omega
    · rw [if_pos (by simpa using hq a List.mem_cons_self hz)]
      omega

/-- If at most one element that counts lacks the property, the sum exceeds the number of those
that have it by at most one. -/
theorem sum_le_succ_countP (h : ∀ a ∈ l, f a ≤ 1)
    (hq : l.Pairwise fun a b => f a ≠ 0 → f b ≠ 0 → q a ∨ q b) :
    (l.map f).sum ≤ 1 + l.countP fun a => q a := by
  induction l with
  | nil => exact Nat.zero_le _
  | cons a l ih =>
    have hl (b : α) (hb : b ∈ l) := h b (List.mem_cons_of_mem a hb)
    have ha := h a List.mem_cons_self
    obtain ⟨hab, hpair⟩ := List.pairwise_cons.1 hq
    rw [List.map_cons, List.sum_cons, List.countP_cons]
    by_cases hqa : q a
    · have := ih hl hpair
      rw [if_pos (by simpa using hqa)]
      omega
    · by_cases hz : f a = 0
      · have := ih hl hpair
        omega
      · have := sum_le_countP hl fun b hb hb' => (hab b hb hz hb').resolve_left hqa
        omega

theorem countP_le_add {q' q'' : α → Prop} [DecidablePred q'] [DecidablePred q'']
    (h : ∀ a ∈ l, q a → q' a ∨ q'' a) :
    (l.countP fun a => q a) ≤ (l.countP fun a => q' a) + l.countP fun a => q'' a := by
  induction l with
  | nil => exact Nat.zero_le _
  | cons a l ih =>
    have hl := ih fun b hb => h b (List.mem_cons_of_mem a hb)
    have ha := h a List.mem_cons_self
    simp only [List.countP_cons, decide_eq_true_eq]
    split <;> split <;> split <;> first | omega | simp_all

end Counting

namespace World

/-- The calls that merge a merge request. -/
def mergesOf (id : Int) (w : World τ) : List (Call τ) :=
  w.calls.filter fun c => c.operation.mergeId? == some id

/-- How often a merge of the branches of a merge request has returned in a working tree. -/
def returns (id : Int) (w : World τ) : Nat :=
  ((w.mergesOf id).map fun c => c.journal.merges.countP Except.isOk).sum

open Classical in
/-- How many calls have raised the error that the merge request is not recorded. -/
noncomputable def raises (id : Int) (w : World τ) : Nat :=
  (w.mergesOf id).countP fun c => c.Raised id

open Classical in
/-- How many calls have been refused for the name of who merges. -/
noncomputable def refusals (id : Int) (w : World τ) : Nat :=
  (w.mergesOf id).countP fun c => c.Unnameable w.store.surrogates

end World

/-! ## Two merges of one merge request -/

namespace World

variable {directory : Option String} {w : World τ} {i k : Nat} {c c' : Call τ} {id : Int}

/-- A merge that has given up has raised the error, or was refused for the name of who merges. -/
theorem Sound.told_of_givenUp [TimeScale τ] (h : w.Sound directory) (hlog : w.Chronicle)
    (hc : w.calls[i]? = some c) (hm : c.operation.mergeId? = some id)
    (hj : c.journal.givenUp = true) : c.Raised id ∨ c.Unnameable w.store.surrogates := by
  obtain ⟨name, actor, limit, hop⟩ := Operation.eq_merge hm
  have obeys := (Call.sound_merge hop).1 (h.calls i c hc)
  cases lost : c.journal.lost with
  | false =>
    have reported : c.journal.reported = true := by
      simpa [Journal.givenUp, lost] using hj
    exact .inl (Merge.endsIn_of_reported obeys reported lost)
  | true =>
    refine .inr ?_
    obtain ⟨merger, fault, clean, refused, ends⟩ :=
      Merge.endsIn_of_lost obeys lost (hlog.surrogates hc)
    exact ⟨name, id, actor, limit, merger, fault, hop, clean, refused, ends⟩

/-- A merge that has returned in the working tree has given up, has marked its merge request, or
still holds the locks of the repository that it has seen it open in. -/
theorem Guarded.merged_cases (h : w.Guarded directory) (hc : w.calls[i]? = some c)
    (hm : c.operation.mergeId? = some id) (hmerged : c.journal.Merged) :
    c.journal.givenUp = true ∨ c.journal.wrote = true ∨ c.journal.Holds directory ∧
      ∃ repo s, c.journal.opened = some repo ∧ c.journal.read = some s ∧ s.OpenAt repo.id id := by
  have careful := (h.held i c id hc hm).careful
  rcases careful.merged hmerged with hh | hw | hg
  · refine .inr (.inr ⟨hh, careful.worked (Bool.of_not_eq_false fun hw => ?_)⟩)
    exact Merge.not_merged_of_nil (careful.idle hw) hmerged
  · exact .inr (.inl hw)
  · exact .inl hg

/-- Of two merges of one merge request that have returned in a working tree, one has given up. -/
theorem Guarded.givenUp_of_merged (h : w.Guarded directory) (hik : i ≠ k)
    (hc : w.calls[i]? = some c) (hc' : w.calls[k]? = some c')
    (hm : c.operation.mergeId? = some id) (hm' : c'.operation.mergeId? = some id)
    (hmerged : c.journal.Merged) (hmerged' : c'.journal.Merged) :
    c.journal.givenUp = true ∨ c'.journal.givenUp = true := by
  have apart := h.apart i k c c' id hik hc hc' hm hm'
  have apart' := h.apart k i c' c id hik.symm hc' hc hm' hm
  rcases h.merged_cases hc hm hmerged with hg | hw | ⟨hh, repo, s, ho, hread, hopen⟩
  · exact .inl hg
  · rcases h.merged_cases hc' hm' hmerged' with hg' | hw' | ⟨hh', repo', s', ho', hread', hopen'⟩
    · exact .inr hg'
    · exact (nomatch (apart.once hw).symm.trans hw')
    · exact (nomatch (apart'.unwritten hh' repo' s' ho' hread' hopen').symm.trans hw)
  · rcases h.merged_cases hc' hm' hmerged' with hg' | hw' | ⟨hh', repo', s', ho', hread', hopen'⟩
    · exact .inr hg'
    · exact (nomatch (apart.unwritten hh repo s ho hread hopen).symm.trans hw')
    -- Both still hold the locks of the one repository that the merge request belongs to.
    · have hid := apart.agree s s' repo.id repo'.id hread hopen hread' hopen'
      have hi := h.held i c id hc hm
      exact absurd (hi.eq_of_holds (h.held k c' id hc' hm') hh hh' ho ho' hid) hik

/-- Merges that have returned in a working tree are at most one more than those that their callers
have been told of. -/
theorem Guarded.returns_le [TimeScale τ] (h : w.Guarded directory) (hlog : w.Chronicle) (id : Int) :
    w.returns id ≤ 1 + w.raises id + w.refusals id := by
  classical
  have merged {c : Call τ} (hz : c.journal.merges.countP Except.isOk ≠ 0) : c.journal.Merged := by
    obtain ⟨a, ha, hok⟩ := List.countP_pos_iff.1 (Nat.pos_of_ne_zero hz)
    cases a with
    | ok commit => exact ⟨commit, ha⟩
    | error e => cases hok
  have isMerge {c : Call τ} (hc : c ∈ w.mergesOf id) :
      c ∈ w.calls ∧ c.operation.mergeId? = some id := by
    simpa [mergesOf] using hc
  have givenUp : w.returns id ≤ 1 + (w.mergesOf id).countP fun c => c.journal.givenUp = true := by
    refine sum_le_succ_countP (fun c hc => ?_) ?_
    · obtain ⟨hc, hm⟩ := isMerge hc
      obtain ⟨i, hi⟩ := List.mem_iff_getElem?.1 hc
      exact Nat.le_trans List.countP_le_length (h.held i c id hi hm).careful.merges
    -- Calls at different places of the list are different calls, and stay so in the list of merges.
    · have pairs : w.calls.Pairwise fun c c' => c.operation.mergeId? = some id →
          c'.operation.mergeId? = some id → c.journal.Merged → c'.journal.Merged →
            c.journal.givenUp = true ∨ c'.journal.givenUp = true :=
        List.pairwise_iff_getElem.2 fun i k hi hk hik hm hm' =>
          h.givenUp_of_merged (Nat.ne_of_lt hik) (List.getElem?_eq_getElem hi)
            (List.getElem?_eq_getElem hk) hm hm'
      refine (pairs.filter _).imp_of_mem fun hc hc' himp hz hz' => ?_
      exact himp (isMerge hc).2 (isMerge hc').2 (merged hz) (merged hz')
  have told : ((w.mergesOf id).countP fun c => c.journal.givenUp = true) ≤
      w.raises id + w.refusals id := by
    refine countP_le_add fun c hc hj => ?_
    obtain ⟨hc, hm⟩ := isMerge hc
    obtain ⟨i, hi⟩ := List.mem_iff_getElem?.1 hc
    exact h.toSound.told_of_givenUp hlog hi hm hj
  omega

end World

/-! ## The law -/

/-- The call is at a call on the working tree, which goes on until it is answered. -/
def Call.AtTree (c : Call τ) : Prop :=
  match c.rest with
  | .ask r _ => r.isTreeCall = true
  | .done _ => False

namespace World

/-- Two merges that are at a call on the working tree are so in different repositories. -/
theorem Guarded.ne_of_atTree {directory : Option String} {w : World τ} (h : w.Guarded directory)
    {i k : Nat} {c c' : Call τ} {id id' : Int} {repo repo' : Repository} (hik : i ≠ k)
    (hc : w.calls[i]? = some c) (hc' : w.calls[k]? = some c')
    (hm : c.operation.mergeId? = some id) (hm' : c'.operation.mergeId? = some id')
    (ht : c.AtTree) (ht' : c'.AtTree) (ho : c.journal.opened = some repo)
    (ho' : c'.journal.opened = some repo') : repo.id ≠ repo'.id := by
  intro hid
  have holds {n : Nat} {d : Call τ} {x : Int} (hd : w.calls[n]? = some d)
      (hx : d.operation.mergeId? = some x) (ht : d.AtTree) : d.journal.Holds directory := by
    unfold Call.AtTree at ht
    split at ht
    · exact (Merge.may_work (h.may hd ‹_› hx) ht).1
    · exact ht.elim
  exact hik ((h.held i c id hc hm).eq_of_holds (h.held k c' id' hc' hm') (holds hc hm ht)
    (holds hc' hm' ht') ho ho' hid)

/-- A merge that is late is not at the working tree, and never was. -/
theorem Recorded.away_of_late {directory : Option String} {w : World τ} (h : w.Recorded directory)
    {i : Nat} {c : Call τ} {id : Int} (hc : w.calls[i]? = some c)
    (hm : c.operation.mergeId? = some id) (hlate : Merge.Late id c.journal) :
    ¬ c.AtTree ∧ ∀ e ∈ w.log, e.call = i → e.request.isTreeCall = false := by
  constructor
  · intro ht
    unfold Call.AtTree at ht
    split at ht
    · exact (nomatch (hlate.not_work (h.may hc ‹_› hm)).symm.trans ht)
    · exact ht
  · rintro e he rfl
    refine Bool.eq_false_iff.2 fun ht => ?_
    have worked := (h.worked e he ht c id hc hm).1
    exact (nomatch hlate.1.symm.trans worked)

end World

namespace Merge

/-- What merges do at most once, in a world. -/
structure ExactlyOnce (w : World τ) : Prop where
  /-- Two merges are never at a call on the working tree of one repository at the same time. -/
  disjoint : ∀ (i k : Nat) (c c' : Call τ) (repo repo' : Repository), i ≠ k →
    w.calls[i]? = some c → w.calls[k]? = some c' →
      c.operation.mergeId? ≠ none → c'.operation.mergeId? ≠ none → c.AtTree → c'.AtTree →
        c.journal.opened = some repo → c'.journal.opened = some repo' → repo.id ≠ repo'.id
  /-- Between two calls of one merge on a working tree there is none of another merge. -/
  unbroken : ∀ (repoId : Int) (l₁ l₂ l₃ : List (Event τ)) (a b : Event τ),
    w.log = l₁ ++ a :: (l₂ ++ b :: l₃) → a.WorksOn repoId → b.WorksOn repoId → a.call = b.call →
      ∀ e ∈ l₂, e.WorksOn repoId → e.call = a.call
  /-- At most one merge of a merge request succeeds. -/
  succeeds : ∀ (i k : Nat) (c c' : Call τ) (id : Int) (a a' : Answer),
    w.calls[i]? = some c → w.calls[k]? = some c' →
      c.operation.mergeId? = some id → c'.operation.mergeId? = some id →
        c.rest = .done (.ok a) → c'.rest = .done (.ok a') → i = k
  /-- No merge works after it has looked at a store that has the merge request marked merged. -/
  late : ∀ (l₁ l₂ : List (Event τ)) (e : Event τ) (c : Call τ) (id : Int),
    w.log = l₁ ++ e :: l₂ → e.request.isLook = true → w.calls[e.call]? = some c →
      c.operation.mergeId? = some id → (∃ e' ∈ l₂, e'.after.HasMerged id) →
        ¬ c.AtTree ∧ ∀ e' ∈ w.log, e'.call = e.call → e'.request.isTreeCall = false
  /-- A merge request is merged in working trees once, and once more for each error that it is not
  recorded, and for each merge that was refused for a name without a UTF-8 form. -/
  counted : ∀ id, w.returns id ≤ 1 + w.raises id + w.refusals id

/-- **Merges happen once.** In every reachable world, with any number of calls at any point of
their programs, what merges do once is done at most once. -/
theorem exactlyOnce [TimeScale τ] {directory : Option String} {w : World τ}
    (h : w.Reachable directory) : ExactlyOnce w where
  disjoint i k c c' repo repo' hik hc hc' hm hm' ht ht' ho ho' := by
    obtain ⟨id, hid⟩ := Option.ne_none_iff_exists'.1 hm
    obtain ⟨id', hid'⟩ := Option.ne_none_iff_exists'.1 hm'
    exact h.guarded.ne_of_atTree hik hc hc' hid hid' ht ht' ho ho'
  unbroken repoId l₁ l₂ l₃ a b hlog ha hb hcall :=
    h.recorded.spans repoId l₁ a l₂ b l₃ hlog ha hb hcall
  succeeds i k c c' id a a' hc hc' hm hm' hr hr' := by
    have wrote := h.sound.wrote hc hm hr
    have wrote' := h.sound.wrote hc' hm' hr'
    by_contra hik
    have once := (h.guarded.apart i k c c' id hik hc hc' hm hm').once wrote
    exact (nomatch once.symm.trans wrote')
  -- A merge that has looked at the store after its merge request was marked merged is late.
  late l₁ l₂ e c id hlog hl hc hm hlate :=
    h.recorded.away_of_late hc hm (h.recorded.late l₁ e l₂ hlog hl c id hc hm hlate)
  counted := h.guarded.returns_le h.chronicle

/-- A schedule in which two callers rush to merge one merge request. -/
def rushedMerges : List (Move Binary64) :=
  [.call (.registerRepository "one" "/one"), .serve 0 50,
    .call (.createMergeRequest "one" (some "ann") "Add a feature" "feature" "main" (some "")),
    .serve 1 50, .call (.merge "one" 1 (some "bob") none), .call (.merge "one" 1 (some "eve") none),
    .serve 2 6, .serve 3 50, .serve 2 50, .serve 3 50]

/-- The world after it. -/
def rushedWorld : World Binary64 :=
  (World.fresh .empty).replay rushedMerges

/-- The law at two merges that have met: the one has succeeded, the other was refused. -/
theorem exactlyOnce_of_rushedMerges : rushedWorld.Reachable none ∧
    (∃ m, rushedWorld.answered 2 = some (.merge "one" 1 (some "bob") none, .ok (.mergeRequest m))) ∧
    (∃ e, rushedWorld.answered 3 = some (.merge "one" 1 (some "eve") none, .error e)) ∧
    rushedWorld.returns 1 = 1 ∧ ExactlyOnce rushedWorld := by
  have reached := World.replay_reachable rushedMerges
  exact ⟨reached, ⟨_, rfl⟩, ⟨_, rfl⟩, rfl, exactlyOnce reached⟩

/-- A schedule in which somebody whose name has no UTF-8 form merges one merge request twice. -/
def namelessMerges : List (Move Binary64) :=
  [.call (.registerRepository "one" "/one"), .serve 0 50,
    .call (.createMergeRequest "one" (some "ann") "Add a feature" "feature" "main" (some "")),
    .serve 1 50, .call (.merge "one" 1 (some Text.loneByte) none), .serve 2 50,
    .call (.merge "one" 1 (some Text.loneByte) none), .serve 3 50]

/-- The world after it. -/
def namelessWorld : World Binary64 :=
  (World.fresh .empty).replay namelessMerges

/-- The branches have been merged twice, and no error has said that this is not recorded. -/
theorem not_counted_of_namelessMerges : namelessWorld.Reachable none ∧
    namelessWorld.returns 1 = 2 ∧ namelessWorld.raises 1 = 0 := by
  have refused : (namelessWorld.mergesOf 1).map (·.rest) =
      [.done (.error (.unwritable ⟨0, 1, 0xdcff⟩)), .done (.error (.unwritable ⟨0, 1, 0xdcff⟩))] :=
    rfl
  refine ⟨World.replay_reachable namelessMerges, rfl, List.countP_eq_zero.2 fun c hc raised => ?_⟩
  have rest := List.mem_map_of_mem (f := (·.rest)) hc
  rw [refused] at rest
  have done : c.rest = .done (.error (.unwritable ⟨0, 1, 0xdcff⟩)) := by simpa using rest
  have raised : c.Raised 1 := by simpa using raised
  rw [Call.Raised, done] at raised
  obtain ⟨name, request, reason, unrecorded, -⟩ := raised
  cases unrecorded

end Merge

end Forge
