import Forge.Proofs.Merge.Exclusive

/-!
# What the log of a world shows

`World.Recorded` ties the answered requests of a reachable world to its calls: who has worked on a
working tree still says so, nobody else works on the tree of a repository between two calls on it of
one merge, and a merge that has looked at the store after its merge request was marked merged does
not work at all.
-/

namespace Forge

variable {τ : Type} {directory : Option String}

/-- Whether a request is a call on a working tree. -/
def Request.isTreeCall : {β : Type} → Request τ β → Bool
  | _, .tree _ => true
  | _, _ => false

/-- Whether a request is a look at the store: a transaction that only reads. -/
def Request.isLook : {β : Type} → Request τ β → Bool
  | _, .transact write _ _ => !write
  | _, _ => false

namespace Event

/-- The event is a call of a merge on the working tree of a repository. -/
def WorksOn (repoId : Int) (e : Event τ) : Prop :=
  e.request.isTreeCall = true ∧ e.operation.mergeId? ≠ none ∧
    ∃ repo, e.opened = some repo ∧ repo.id = repoId

end Event

/-- The store has the merge request of this id marked merged. -/
def Store.HasMerged (id : Int) (s : Store) : Prop :=
  ∃ r ∈ s.mergeRequests.rows, r.id = id ∧ r.state = "merged"

theorem Store.HasMerged.settled {s : Store} {id : Int} (hs : s.WellFormed) (h : s.HasMerged id) :
    s.Settled id := by
  obtain ⟨r, hr, hid, hm⟩ := h
  refine ⟨hid ▸ hs.mergeRequests.le_last r hr, fun r' hr' hid' => ?_⟩
  rw [hs.mergeRequests.eq_of_id_eq hr' hr (hid'.trans hid.symm)]
  exact hm

namespace World

/-- What the log of a reachable world says of its calls. -/
structure Recorded (directory : Option String) (w : World τ) : Prop extends
    Guarded directory w where
  known : ∀ e ∈ w.log, ∃ c : Call τ, w.calls[e.call]? = some c ∧ c.operation = e.operation
  worked : ∀ e ∈ w.log, e.request.isTreeCall = true → ∀ (c : Call τ) (id : Int),
    w.calls[e.call]? = some c → c.operation.mergeId? = some id →
      c.journal.worked = true ∧ c.journal.opened = e.opened
  settled : ∀ e ∈ w.log, ∀ id, e.after.HasMerged id → w.store.Settled id
  late : ∀ l₁ (e : Event τ) l₂, w.log = l₁ ++ e :: l₂ → e.request.isLook = true →
    ∀ (c : Call τ) (id : Int), w.calls[e.call]? = some c → c.operation.mergeId? = some id →
      (∃ e' ∈ l₂, e'.after.HasMerged id) →
        c.journal.worked = false ∧ ∀ s, c.journal.read = some s → s.Settled id
  exclusive : ∀ l₁ (e : Event τ) l₂, w.log = l₁ ++ e :: l₂ → e.request.isTreeCall = true →
    ∀ (c : Call τ) (id : Int), w.calls[e.call]? = some c → c.operation.mergeId? = some id →
      c.journal.Holds directory → ∀ repo, e.opened = some repo →
        ∀ e' ∈ l₁, e'.WorksOn repo.id → e'.call = e.call
  spans : ∀ repoId l₁ (a : Event τ) l₂ b l₃, w.log = l₁ ++ a :: (l₂ ++ b :: l₃) →
    a.WorksOn repoId → b.WorksOn repoId → a.call = b.call →
      ∀ e ∈ l₂, e.WorksOn repoId → e.call = a.call

theorem recorded_fresh {s : Store} (hs : s.WellFormed) : (fresh s : World τ).Recorded directory :=
  { guarded_fresh hs with
    known := fun _ he => absurd he List.not_mem_nil
    worked := fun _ he => absurd he List.not_mem_nil
    settled := fun _ he => absurd he List.not_mem_nil
    late := fun l₁ e l₂ h => by simp [fresh] at h
    exclusive := fun l₁ e l₂ h => by simp [fresh] at h
    spans := fun _ l₁ a l₂ b l₃ h => by simp [fresh] at h }

end World

/-! ## One more event -/

section Answer

variable {w : World τ} {n : Nat} {c₀ : Call τ} {β : Type} {r : Request τ β}
  {next : β → Program τ (Except Error Answer)} {b : β} {s : Store} {l : Locks} {id : Int}

/-- A merge that has worked keeps the locks it holds and the tree it has opened. -/
theorem Merge.holds_of_note {j : Journal} {s t : Store} (hm : Merge.May directory id j r)
    (hw : j.worked = true) :
    (j.note r b s t).opened = j.opened ∧ (j.note r b s t).worked = true ∧
      ((j.note r b s t).Holds directory → j.Holds directory) := by
  cases r with
  | transact write limit body => cases write <;> exact ⟨rfl, hw, fun hh => hh⟩
  | tree call =>
    obtain ⟨out, before, merges, after, heq⟩ := j.noteTree_eq call b
    rw [show j.note (.tree call) b s t = _ from heq]
    exact ⟨rfl, rfl, fun hh => hh⟩
  | takeLock repoId limit => exact (nomatch hm.2.2.1.symm.trans hw)
  | takeFile repoId deadline => exact (nomatch hm.2.2.2.1.symm.trans hw)
  | clock => exact ⟨rfl, hw, fun hh => hh⟩
  | process call => exact hm.elim
  | openTree repo => exact (nomatch hm.2.2.2.1.symm.trans hw)
  | dropLock repoId => exact ⟨rfl, hw, fun hh => (nomatch hh.1)⟩
  | dropFile repoId => exact ⟨rfl, hw, fun hh => ⟨hh.1, fun _ => hm.1⟩⟩
  | log record => exact ⟨rfl, hw, fun hh => hh⟩

/-- A merge begins to work by a call on the working tree, having seen its merge request open. -/
theorem Merge.worked_note {j : Journal} {s s' : Store} (hm : Merge.May directory id j r)
    (hw : (j.note r b s s').worked = true) :
    j.worked = true ∨ r.isTreeCall = true := by
  cases r with
  | transact write limit body => cases write <;> exact .inl hw
  | tree call => exact .inr rfl
  | takeLock repoId limit =>
    match b with
    | .ok true => exact .inl hw
    | .ok false => exact .inl hw
    | .error e => exact .inl hw
  | takeFile repoId deadline => rcases b with e | _ | _ <;> exact .inl hw
  | clock => exact .inl hw
  | process call => exact .inl hw
  | openTree repo => exact .inl hw
  | dropLock repoId => exact .inl hw
  | dropFile repoId => exact .inl hw
  | log record => exact .inl hw

/-- A merge may call the working tree only as `May` says. -/
theorem Merge.may_work {j : Journal} (hm : Merge.May directory id j r)
    (hr : r.isTreeCall = true) :
    j.Holds directory ∧
      ∃ repo s, j.opened = some repo ∧ j.read = some s ∧ s.OpenAt repo.id id := by
  cases r with
  | tree call =>
    obtain ⟨holds, -, -, repo, s, hopen, hread, hs, -⟩ := hm
    exact ⟨holds, repo, s, hopen, hread, hs⟩
  | _ => cases hr

/-- A look of a merge comes before its work, and is kept in its journal. -/
theorem Merge.may_look {j : Journal} {s t : Store} (hm : Merge.May directory id j r)
    (hr : r.isLook = true) : (j.note r b s t).worked = false ∧ (j.note r b s t).read = some s := by
  cases r with
  | transact write limit body =>
    cases write with
    | false => exact ⟨hm.1, rfl⟩
    | true => cases hr
  | _ => cases hr

/-- A merge that has not worked yet, and that has seen its merge request, if at all, when it was
already settled. -/
def Merge.Late (id : Int) (j : Journal) : Prop :=
  j.worked = false ∧ ∀ s, j.read = some s → s.Settled id

/-- A merge that is late may not work any more. -/
theorem Merge.Late.not_work {j : Journal} (h : Late id j) (hm : Merge.May directory id j r) :
    r.isTreeCall = false := by
  refine Bool.eq_false_iff.2 fun ht => ?_
  obtain ⟨-, repo, s, -, hread, hopen⟩ := Merge.may_work hm ht
  exact (h.2 s hread).not_openAt hopen

theorem Merge.Late.note {j : Journal} {s t : Store} (h : Late id j)
    (hm : Merge.May directory id j r) (hs : s.Settled id) : Late id (j.note r b s t) := by
  refine ⟨Bool.eq_false_iff.2 fun hw => ?_, fun s₀ hs₀ => ?_⟩
  · rcases Merge.worked_note hm hw with hw | ht
    · exact (nomatch h.1.symm.trans hw)
    · exact (nomatch (h.not_work hm).symm.trans ht)
  · rcases Merge.read_note hm hs₀ with ⟨rfl, -⟩ | ⟨hs₀, -⟩
    · exact hs
    · exact h.2 s₀ hs₀

end Answer

namespace World

variable {w w' : World τ} {n : Nat} {c₀ : Call τ} {β : Type} {r : Request τ β}
  {next : β → Program τ (Except Error Answer)} {b : β} {s : Store} {l : Locks}

/-- The call and the event after an answered request. -/
abbrev answeredCall (w : World τ) (c : Call τ) (next : β → Program τ (Except Error Answer))
    (r : Request τ β) (b : β) (s : Store) : Call τ :=
  { c with rest := next b, journal := c.journal.note r b w.store s }

theorem Recorded.known_lt (h : w.Recorded directory) {e : Event τ} (he : e ∈ w.log) :
    e.call < w.calls.length := by
  obtain ⟨c, hc, -⟩ := h.known e he
  exact (List.getElem?_eq_some_iff.1 hc).1

/-- A call that an event of the log is of is not one that has just begun. -/
theorem Recorded.call_of_concat (h : w.Recorded directory) {e : Event τ} (he : e ∈ w.log)
    {c c' : Call τ} (hc : (w.calls ++ [c'])[e.call]? = some c) : w.calls[e.call]? = some c := by
  rcases World.call_of_concat hc with hc | ⟨hl, -⟩
  · exact hc
  · exact absurd (h.known_lt he) (by omega)

theorem mem_of_log {l₁ l₂ : List (Event τ)} {e : Event τ} (h : w.log = l₁ ++ e :: l₂) :
    e ∈ w.log := by
  rw [h]
  exact List.mem_append_right _ List.mem_cons_self

theorem Recorded.begin (h : w.Recorded directory) {c' : Call τ}
    (hg : Guarded directory { w with calls := w.calls ++ [c'] }) :
    Recorded directory { w with calls := w.calls ++ [c'] } :=
  { hg with
    known := fun e he => by
      obtain ⟨c, hc, hop⟩ := h.known e he
      exact ⟨c, (List.getElem?_append_left (h.known_lt he)).trans hc, hop⟩
    worked := fun e he ht c id hc => h.worked e he ht c id (h.call_of_concat he hc)
    settled := h.settled
    late := fun l₁ e l₂ hlog hl c id hc =>
      h.late l₁ e l₂ hlog hl c id (h.call_of_concat (mem_of_log hlog) hc)
    exclusive := fun l₁ e l₂ hlog ht c id hc =>
      h.exclusive l₁ e l₂ hlog ht c id (h.call_of_concat (mem_of_log hlog) hc)
    spans := h.spans }

section Answer

variable (call : w.calls[n]? = some c₀) (asks : c₀.rest = .ask r next)

/-- The event of an answered request. -/
abbrev answerEvent (w : World τ) (n : Nat) (c : Call τ) (r : Request τ β) (b : β) (s : Store) :
    Event τ :=
  ⟨n, c.operation, c.journal.opened, r, b, w.store, s⟩

include call asks

theorem Recorded.worked_answer (h : w.Recorded directory) {e : Event τ}
    (he : e ∈ answerEvent w n c₀ r b s :: w.log) (ht : e.request.isTreeCall = true) {c : Call τ}
    {id : Int} (hc : (w.calls.set n (w.answeredCall c₀ next r b s))[e.call]? = some c)
    (hm : c.operation.mergeId? = some id) :
    c.journal.worked = true ∧ c.journal.opened = e.opened := by
  rcases List.mem_cons.1 he with rfl | he
  · rcases call_of_set hc with ⟨-, rfl⟩ | ⟨hne, -⟩
    · have hmay := h.may call asks hm
      cases r with
      | tree call =>
        obtain ⟨out, before, merges, after, heq⟩ := c₀.journal.noteTree_eq call b
        show (c₀.journal.noteTree call b).worked = true ∧ (c₀.journal.noteTree call b).opened = _
        rw [heq]
        exact ⟨rfl, rfl⟩
      | _ => cases ht
    · exact absurd rfl hne
  · rcases call_of_set hc with ⟨hn, rfl⟩ | ⟨-, hc⟩
    · obtain ⟨hw, ho⟩ := h.worked e he ht c₀ id (hn ▸ call) hm
      obtain ⟨ho', hw', -⟩ := Merge.holds_of_note (b := b) (s := w.store) (t := s)
        (h.may call asks hm) hw
      exact ⟨hw', ho'.trans ho⟩
    · exact h.worked e he ht c id hc hm

theorem Recorded.late_answer (h : w.Recorded directory) {l₁ l₂ : List (Event τ)} {e : Event τ}
    (hlog : answerEvent w n c₀ r b s :: w.log = l₁ ++ e :: l₂) (hl : e.request.isLook = true)
    {c : Call τ} {id : Int}
    (hc : (w.calls.set n (w.answeredCall c₀ next r b s))[e.call]? = some c)
    (hm : c.operation.mergeId? = some id) (hlate : ∃ e' ∈ l₂, e'.after.HasMerged id) :
    c.journal.worked = false ∧ ∀ s, c.journal.read = some s → s.Settled id := by
  have hsettled : w.store.Settled id := by
    obtain ⟨e', he', hmerged⟩ := hlate
    refine h.settled e' ?_ id hmerged
    cases l₁ with
    | nil => exact (List.cons.inj hlog).2 ▸ he'
    | cons x l₁ =>
      rw [(List.cons.inj hlog).2]
      exact List.mem_append_right _ (List.mem_cons_of_mem _ he')
  cases l₁ with
  | nil =>
    obtain ⟨rfl, rfl⟩ := List.cons.inj hlog
    rcases call_of_set hc with ⟨-, rfl⟩ | ⟨hne, -⟩
    · obtain ⟨hw, hr⟩ := Merge.may_look (b := b) (s := w.store) (t := s) (h.may call asks hm) hl
      exact ⟨hw, fun s₀ hs₀ => Option.some.inj (hr.symm.trans hs₀) ▸ hsettled⟩
    · exact absurd rfl hne
  | cons x l₁ =>
    have hlog := (List.cons.inj hlog).2
    rcases call_of_set hc with ⟨hn, rfl⟩ | ⟨-, hc⟩
    · have late : Merge.Late id c₀.journal := h.late l₁ e l₂ hlog hl c₀ id (hn ▸ call) hm hlate
      exact late.note (h.may call asks hm) hsettled
    · exact h.late l₁ e l₂ hlog hl c id hc hm hlate

/-- While a merge holds its locks, nobody else works on the tree that it has worked on. -/
theorem Recorded.exclusive_answer (h : w.Recorded directory) {l₁ l₂ : List (Event τ)}
    {e : Event τ} (hlog : answerEvent w n c₀ r b s :: w.log = l₁ ++ e :: l₂)
    (ht : e.request.isTreeCall = true) {c : Call τ} {id : Int}
    (hc : (w.calls.set n (w.answeredCall c₀ next r b s))[e.call]? = some c)
    (hm : c.operation.mergeId? = some id) (hh : c.journal.Holds directory) {repo : Repository}
    (ho : e.opened = some repo) : ∀ e' ∈ l₁, e'.WorksOn repo.id → e'.call = e.call := by
  cases l₁ with
  | nil => exact fun _ he' => absurd he' List.not_mem_nil
  | cons x l₁ =>
    obtain ⟨hx, old⟩ := List.cons.inj hlog
    -- The call as it was before, which held its locks as well.
    obtain ⟨c', hc', hm', hh'⟩ : ∃ c' : Call τ, w.calls[e.call]? = some c' ∧
        c'.operation.mergeId? = some id ∧ c'.journal.Holds directory := by
      rcases call_of_set hc with ⟨hn, rfl⟩ | ⟨-, hc⟩
      · have hw := (h.worked e (mem_of_log old) ht c₀ id (hn ▸ call) hm).1
        exact ⟨c₀, hn ▸ call, hm, (Merge.holds_of_note (h.may call asks hm) hw).2.2 hh⟩
      · exact ⟨c, hc, hm, hh⟩
    intro e' he' hw
    rcases List.mem_cons.1 he' with rfl | he'
    · obtain ⟨ht', hop', repo', ho', hid⟩ := hx ▸ hw
      obtain ⟨id', hm₀⟩ := Option.ne_none_iff_exists'.1 hop'
      have hh₀ := (Merge.may_work (h.may call asks hm₀) ht').1
      have ho := (h.worked e (mem_of_log old) ht c' id hc' hm').2.trans ho
      rw [← hx]
      exact (h.held n c₀ id' call hm₀).eq_of_holds (h.held e.call c' id hc' hm') hh₀ hh' ho' ho hid
    · exact h.exclusive l₁ e l₂ old ht c' id hc' hm' hh' repo ho e' he' hw

theorem Recorded.spans_answer (h : w.Recorded directory) {repoId : Int}
    {l₁ l₂ l₃ : List (Event τ)} {e₁ e₂ : Event τ}
    (hlog : answerEvent w n c₀ r b s :: w.log = l₁ ++ e₁ :: (l₂ ++ e₂ :: l₃))
    (h₁ : e₁.WorksOn repoId) (h₂ : e₂.WorksOn repoId) (hcall : e₁.call = e₂.call) :
    ∀ e ∈ l₂, e.WorksOn repoId → e.call = e₁.call := by
  cases l₁ with
  | nil =>
    obtain ⟨rfl, old⟩ := List.cons.inj hlog
    obtain ⟨ht, hop, -⟩ := h₁
    obtain ⟨id, hm⟩ := Option.ne_none_iff_exists'.1 hop
    obtain ⟨ht₂, -, repo, ho₂, rfl⟩ := h₂
    have hh := (Merge.may_work (h.may call asks hm) ht).1
    rw [hcall]
    exact h.exclusive l₂ e₂ l₃ old ht₂ c₀ id (hcall ▸ call) hm hh repo ho₂
  | cons x l₁ => exact h.spans repoId l₁ e₁ l₂ e₂ l₃ (List.cons.inj hlog).2 h₁ h₂ hcall

theorem Recorded.answer (h : w.Recorded directory)
    (hg : Guarded directory ⟨s, l, w.calls.set n (w.answeredCall c₀ next r b s),
      answerEvent w n c₀ r b s :: w.log⟩) (he : w.store.Evolves s) :
    Recorded directory ⟨s, l, w.calls.set n (w.answeredCall c₀ next r b s),
      answerEvent w n c₀ r b s :: w.log⟩ :=
  { hg with
    known := fun e he => by
      rcases List.mem_cons.1 he with rfl | he
      · exact ⟨_, List.getElem?_set_self (List.getElem?_eq_some_iff.1 call).1, rfl⟩
      · have hlt := h.known_lt he
        obtain ⟨c, hc, hop⟩ := h.known e he
        by_cases hn : n = e.call
        · subst hn
          obtain rfl := Option.some.inj (call.symm.trans hc)
          exact ⟨_, List.getElem?_set_self hlt, hop⟩
        · exact ⟨c, (List.getElem?_set_ne hn).trans hc, hop⟩
    worked := fun e he ht c id hc hm => h.worked_answer call asks he ht hc hm
    settled := fun e he' id hm => by
      rcases List.mem_cons.1 he' with rfl | he'
      · exact Store.HasMerged.settled hg.store hm
      · exact (h.settled e he' id hm).evolves he
    late := fun l₁ e l₂ hlog hl c id hc hm hlate => h.late_answer call asks hlog hl hc hm hlate
    exclusive := fun l₁ e l₂ hlog ht c id hc hm hh repo ho =>
      h.exclusive_answer call asks hlog ht hc hm hh ho
    spans := fun repoId l₁ e₁ l₂ e₂ l₃ hlog h₁ h₂ hcall =>
      h.spans_answer call asks hlog h₁ h₂ hcall }

end Answer

variable [TimeScale τ] {allowed : Operation τ → Prop}

theorem Step.recorded (h : Step directory allowed w w') (hw : w.Recorded directory) :
    w'.Recorded directory := by
  have hg := h.guarded hw.toGuarded
  obtain ⟨now, heffect⟩ := h.effect hw.toSound
  cases h with
  | begin => exact hw.begin hg
  | answer call asks => exact hw.answer call asks hg heffect.evolves

theorem Run.recorded (h : Run directory allowed w w') (hw : w.Recorded directory) :
    w'.Recorded directory := by
  induction h with
  | refl => exact hw
  | tail _ hs ih => exact hs.recorded ih

theorem Reachable.recorded (h : Reachable directory w) : w.Recorded directory :=
  let ⟨u, run⟩ := h
  run.recorded (recorded_fresh (.empty u))

end World

end Forge
