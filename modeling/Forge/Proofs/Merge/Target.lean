import Forge.Proofs.Merge.History

/-!
# Merges in the checked-out branch

A merge goes into whatever branch is checked out in the working tree, so it goes where it should
only if nobody has checked out another branch there since the merge did. `World.OnTarget` says so
of all merges of a world. It holds as long as there are only merges, no two of which can work in one
tree for different repositories.
-/

namespace Forge

open Transaction (fits)

variable {τ : Type} {directory : Option String}

/-! ## Checkouts -/

/-- The branch that a request checks out. -/
def Request.checkout? : {β : Type} → Request τ β → Option String
  | _, .tree (.checkout branch _) => some branch
  | _, _ => none

/-- Whether a request is a merge in the working tree. -/
def Request.isTreeMerge : {β : Type} → Request τ β → Bool
  | _, .tree (.merge ..) => true
  | _, _ => false

namespace World

variable {w : World τ} {i k : Nat}

end World

/-! ## What merges leave of a store -/

namespace Store

/-- There is an open merge request of the repository, and the two have ids that the store can be
asked for. -/
def Mergeable (repo : Repository) (s : Store) : Prop :=
  ∃ id, s.OpenAt repo.id id ∧ fits repo.id = true ∧ fits id = true

/-- The later store has the repositories of the earlier one, and open merge requests only where
there have been some. -/
structure Narrows (s s' : Store) : Prop where
  repos : s'.repos = s.repos
  openAt : ∀ repoId id, s'.OpenAt repoId id → s.OpenAt repoId id

theorem Narrows.refl (s : Store) : s.Narrows s :=
  ⟨rfl, fun _ _ h => h⟩

theorem Narrows.trans {s s' s'' : Store} (h : s.Narrows s') (h' : s'.Narrows s'') :
    s.Narrows s'' :=
  ⟨h'.repos.trans h.repos, fun repoId id ho => h.openAt repoId id (h'.openAt repoId id ho)⟩

theorem narrows_markMerged (now repoId id : Int) (actor : String) (s : Store) :
    s.Narrows (Lifecycle.markMerged now repoId id actor s) := by
  refine ⟨rfl, fun x y ho => ?_⟩
  obtain ⟨r, hr, hrepo, hid, hopen⟩ := ho
  obtain ⟨r₀, hr₀, rfl⟩ := Table.mem_modify.1 hr
  split at hopen
  · have merged : "merged" = "open" := hopen
    exact absurd merged (by decide)
  · rename_i hn
    rw [if_neg hn] at hrepo hid
    exact ⟨r₀, hr₀, hrepo, hid, hopen⟩

theorem Narrows.mergeable {s s' : Store} {repo : Repository} (h : s.Narrows s')
    (hm : s'.Mergeable repo) : s.Mergeable repo := by
  obtain ⟨id, ho, hfit⟩ := hm
  exact ⟨id, h.openAt repo.id id ho, hfit⟩

end Store

/-- Whatever a merge is answered, the store is left as it was or with the merge request marked. -/
theorem Merge.narrows {β : Type} {id : Int} {j : Journal} {r : Request τ β} {b : β} {s s' : Store}
    (hm : Merge.May directory id j r) (hx : Exchange r b s s') : s.Narrows s' := by
  cases r with
  | transact write limit body =>
    rcases hx.transact with ⟨-, rfl⟩ | ⟨now, -, ⟨a, -, ha⟩ | ⟨-, -, rfl, -⟩⟩
    · exact .refl s'
    · cases write with
      | false =>
        obtain ⟨-, -, hread⟩ := hm
        exact hread now a s s' ha ▸ .refl s
      | true =>
        obtain ⟨-, -, -, -, repo, merger, -, hmark⟩ := hm
        obtain ⟨-, rfl⟩ := hmark now a s s' ha
        exact Store.narrows_markMerged ..
    · exact .refl s'
  | tree call => exact hx.2 ▸ .refl s
  | takeLock repoId limit => exact hx.2 ▸ .refl s
  | clock => exact hx ▸ .refl s
  | openTree repo => exact hx ▸ .refl s
  | process call => exact hm.elim
  | dropLock repoId => exact hx ▸ .refl s
  | takeFile repoId deadline => exact hx.2 ▸ .refl s
  | dropFile repoId => exact hx ▸ .refl s
  | log record => exact hx ▸ .refl s

/-! ## The invariant -/

/-- A request changes what its call has checked out only if it is a checkout. -/
theorem Journal.checkedOut_note {β : Type} (j : Journal) (r : Request τ β) (b : β)
    (s s' : Store) : (j.note r b s s').checkedOut = r.checkout?.or j.checkedOut := by
  cases r with
  | transact write limit body => cases write <;> rfl
  | tree call => cases call <;> rfl
  | takeLock repoId limit =>
    match b with
    | .ok true => rfl
    | .ok false => rfl
    | .error e => rfl
  | takeFile repoId deadline => rcases b with e | _ | _ <;> rfl
  | _ => rfl

namespace World

/-- The journals and the log agree on the last checkout of each call. -/
def Faithful (w : World τ) : Prop :=
  ∀ (i : Nat) (c : Call τ) (branch : String), w.calls[i]? = some c →
    c.journal.checkedOut = some branch → ∃ l₁ e l₂, w.log = l₁ ++ e :: l₂ ∧ e.call = i ∧
      e.request.checkout? = some branch ∧ ∀ e' ∈ l₁, e'.call = i → e'.request.checkout? = none

/-- What holds of a world in which only merges have been called, since the store was `s`. -/
structure Merging (directory : Option String) (s : Store) (w : World τ) : Prop extends
    Recorded directory w where
  faithful : w.Faithful
  merges : ∀ (i : Nat) (c : Call τ), w.calls[i]? = some c → c.operation.mergeId? ≠ none
  narrows : s.Narrows w.store
  seen : ∀ (i : Nat) (c : Call τ), w.calls[i]? = some c →
    ∀ s', c.journal.read = some s' → s.Narrows s'
  opened : ∀ (i : Nat) (c : Call τ), w.calls[i]? = some c →
    ∀ repo, c.journal.opened = some repo → repo ∈ s.repos.rows
  working : ∀ e ∈ w.log, e.request.isTreeCall = true →
    ∃ repo, e.opened = some repo ∧ repo ∈ s.repos.rows ∧ s.Mergeable repo

section Answer

variable {w : World τ} {n : Nat} {c₀ : Call τ} {β : Type} {r : Request τ β}
  {next : β → Program τ (Except Error Answer)} {b : β} {s s₀ : Store} {l : Locks}

theorem Faithful.answer (h : w.Faithful) (call : w.calls[n]? = some c₀) :
    Faithful ⟨s, l, w.calls.set n (w.answeredCall c₀ next r b s),
      answerEvent w n c₀ r b s :: w.log⟩ := by
  intro i c branch hc hout
  rcases call_of_set hc with ⟨rfl, rfl⟩ | ⟨hi, hc⟩
  · rw [Journal.checkedOut_note] at hout
    cases hr : r.checkout? with
    | some branch' =>
      rw [hr] at hout
      exact ⟨[], answerEvent w i c₀ r b s, w.log, rfl, rfl, hr.trans hout,
        fun _ he => absurd he List.not_mem_nil⟩
    | none =>
      -- The checkout that the journal keeps is further back in the log.
      rw [hr] at hout
      obtain ⟨l₁, e, l₂, hlog, hcall, he, hl⟩ := h i c₀ branch call hout
      refine ⟨answerEvent w i c₀ r b s :: l₁, e, l₂, congrArg _ hlog, hcall, he, ?_⟩
      intro e' he' hcall'
      rcases List.mem_cons.1 he' with rfl | he'
      · exact hr
      · exact hl e' he' hcall'
  · obtain ⟨l₁, e, l₂, hlog, hcall, he, hl⟩ := h i c branch hc hout
    refine ⟨answerEvent w n c₀ r b s :: l₁, e, l₂, congrArg _ hlog, hcall, he, ?_⟩
    intro e' he' hcall'
    rcases List.mem_cons.1 he' with rfl | he'
    · exact absurd hcall'.symm hi
    · exact hl e' he' hcall'

theorem Faithful.begin (h : w.Faithful) {c' : Call τ} (hj : c'.journal = {}) :
    Faithful { w with calls := w.calls ++ [c'] } := by
  intro i c branch hc hout
  rcases call_of_concat hc with hc | ⟨-, rfl⟩
  · exact h i c branch hc hout
  · rw [hj] at hout
    cases hout

/-- What a merge has open is a repository of the store. -/
theorem Merging.opened_answer (h : w.Merging directory s₀) (call : w.calls[n]? = some c₀)
    (asks : c₀.rest = .ask r next) {repo : Repository}
    (ho : (c₀.journal.note r b w.store s).opened = some repo) : repo ∈ s₀.repos.rows := by
  obtain ⟨id, hm⟩ := Option.ne_none_iff_exists'.1 (h.merges n c₀ call)
  have hmay := h.may call asks hm
  have old := h.opened n c₀ call
  cases r with
  | openTree r =>
    obtain ⟨-, -, -, -, -, s', hread, hr⟩ := hmay
    obtain rfl := Option.some.inj ho
    rw [← (h.seen n c₀ call s' hread).repos]
    exact hr
  | transact write limit body => cases write <;> exact old repo ho
  | tree treeCall =>
    obtain ⟨out, before, merges, after, heq⟩ := c₀.journal.noteTree_eq treeCall b
    rw [show c₀.journal.note (.tree treeCall) b w.store s = _ from heq] at ho
    exact old repo ho
  | takeLock repoId limit =>
    match b with
    | .ok true => exact old repo ho
    | .ok false => exact old repo ho
    | .error e => exact old repo ho
  | takeFile repoId deadline => rcases b with e | _ | _ <;> exact old repo ho
  | clock => exact old repo ho
  | process call => exact hmay.elim
  | dropLock repoId => exact old repo ho
  | dropFile repoId => exact old repo ho
  | log record => exact old repo ho

theorem Merging.answer (h : w.Merging directory s₀) (call : w.calls[n]? = some c₀)
    (asks : c₀.rest = .ask r next) (exchange : Exchange r b w.store s)
    (hr : Recorded directory ⟨s, l, w.calls.set n (w.answeredCall c₀ next r b s),
      answerEvent w n c₀ r b s :: w.log⟩) :
    Merging directory s₀ ⟨s, l, w.calls.set n (w.answeredCall c₀ next r b s),
      answerEvent w n c₀ r b s :: w.log⟩ := by
  obtain ⟨id, hm⟩ := Option.ne_none_iff_exists'.1 (h.merges n c₀ call)
  have hmay := h.may call asks hm
  refine { hr with
    faithful := h.faithful.answer call
    merges := fun i c hc => ?_
    narrows := h.narrows.trans (Merge.narrows hmay exchange)
    seen := fun i c hc s' hread => ?_
    opened := fun i c hc repo ho => ?_
    working := fun e he ht => ?_ }
  · rcases call_of_set hc with ⟨-, rfl⟩ | ⟨-, hc⟩
    · exact h.merges n c₀ call
    · exact h.merges i c hc
  · rcases call_of_set hc with ⟨-, rfl⟩ | ⟨-, hc⟩
    · rcases Merge.read_note hmay hread with ⟨rfl, -⟩ | ⟨hread, -⟩
      · exact h.narrows
      · exact h.seen n c₀ call s' hread
    · exact h.seen i c hc s' hread
  · rcases call_of_set hc with ⟨-, rfl⟩ | ⟨-, hc⟩
    · exact h.opened_answer call asks ho
    · exact h.opened i c hc repo ho
  · rcases List.mem_cons.1 he with rfl | he
    · cases r with
      | tree treeCall =>
        obtain ⟨-, -, -, repo, s', hopen, hread, ho, hfit, -⟩ := hmay
        exact ⟨repo, hopen, h.opened n c₀ call repo hopen,
          (h.seen n c₀ call s' hread).mergeable ⟨id, ho, hfit⟩⟩
      | _ => cases ht
    · exact h.working e he ht

end Answer

variable [TimeScale τ] {w w' : World τ} {s : Store}

theorem Step.merging (h : Step directory (fun op => op.mergeId? ≠ none) w w')
    (hw : w.Merging directory s) : w'.Merging directory s := by
  have hr := h.recorded hw.toRecorded
  cases h with
  | begin ok =>
    refine { hr with
      faithful := hw.faithful.begin rfl
      merges := fun i c hc => ?_
      narrows := hw.narrows
      seen := fun i c hc s' hread => ?_
      opened := fun i c hc repo ho => ?_
      working := hw.working }
    · rcases call_of_concat hc with hc | ⟨-, rfl⟩
      · exact hw.merges i c hc
      · exact ok
    · rcases call_of_concat hc with hc | ⟨-, rfl⟩
      · exact hw.seen i c hc s' hread
      · cases hread
    · rcases call_of_concat hc with hc | ⟨-, rfl⟩
      · exact hw.opened i c hc repo ho
      · cases ho
  | answer call asks exchange => exact hw.answer call asks exchange hr

theorem Run.merging (h : Run directory (fun op => op.mergeId? ≠ none) w w')
    (hw : w.Merging directory s) : w'.Merging directory s := by
  induction h with
  | refl => exact hw
  | tail _ hs ih => exact hs.merging ih

end World

/-! ## The law where trees are apart -/

end Forge
