import Forge.Proofs.Frame.Owner

/-!
# Calls that fail leave no trace

A call can be left out of a world, its result and its answered requests included
(`World.without`). The steps of the other calls are then steps of the smaller world, as long as none
of them is turned away at a lock that the call holds; and the steps of a call that does not write
are no steps of it at all. So a run with a call that has failed goes on as the run without it.
-/

namespace Forge

variable {τ : Type} {faults : Error → Prop}

/-! ## Numbers of calls -/

/-- The number that call `k` has where call `i` is left out. -/
def skip (i k : Nat) : Option Nat :=
  if k < i then some k else if k = i then none else some (k - 1)

theorem skip_self (i : Nat) : skip i i = none := by
  simp [skip]

theorem skip_of_lt {i k : Nat} (h : k < i) : skip i k = some k :=
  if_pos h

theorem skip_of_gt {i k : Nat} (h : i < k) : skip i k = some (k - 1) := by
  rw [skip, if_neg (Nat.lt_asymm h), if_neg (Nat.ne_of_gt h)]

theorem exists_skip {i k : Nat} (h : k ≠ i) : ∃ k', skip i k = some k' := by
  rcases Nat.lt_or_gt_of_ne h with h | h
  · exact ⟨k, skip_of_lt h⟩
  · exact ⟨k - 1, skip_of_gt h⟩

theorem exists_skip_eq (i k' : Nat) : ∃ k, skip i k = some k' := by
  by_cases h : k' < i
  · exact ⟨k', skip_of_lt h⟩
  · exact ⟨k' + 1, skip_of_gt (by omega)⟩

theorem skip_cases {i k k' : Nat} (h : skip i k = some k') :
    k < i ∧ k' = k ∨ i < k ∧ k = k' + 1 := by
  unfold skip at h
  split at h
  · exact .inl ⟨‹_›, (Option.some.inj h).symm⟩
  · split at h
    · cases h
    · have := Option.some.inj h
      omega

section Lists

variable {α : Type*} {i k k' : Nat} (h : skip i k = some k') (cs : List α)

include h

theorem getElem?_eraseIdx_skip : (cs.eraseIdx i)[k']? = cs[k]? := by
  rcases skip_cases h with ⟨hlt, rfl⟩ | ⟨hlt, rfl⟩
  · exact List.getElem?_eraseIdx_of_lt hlt
  · exact List.getElem?_eraseIdx_of_ge (by omega)

theorem eraseIdx_set_skip (c : α) : (cs.set k c).eraseIdx i = (cs.eraseIdx i).set k' c := by
  rcases skip_cases h with ⟨hlt, rfl⟩ | ⟨hlt, rfl⟩
  · exact List.eraseIdx_set_gt hlt
  · exact List.eraseIdx_set_lt hlt

omit h in
theorem eraseIdx_concat_length (c : α) :
    (cs ++ [c]).eraseIdx cs.length = cs.eraseIdx cs.length := by
  rw [List.eraseIdx_append_of_length_le le_rfl, Nat.sub_self, List.eraseIdx_of_length_le le_rfl]
  exact List.append_nil cs

omit h in
theorem eraseIdx_concat_of_ne (hi : i ≠ cs.length) (c : α) :
    (cs ++ [c]).eraseIdx i = cs.eraseIdx i ++ [c] := by
  rcases Nat.lt_or_gt_of_ne hi with hi | hi
  · exact List.eraseIdx_append_of_lt_length hi [c]
  · have longer : (cs ++ [c]).length ≤ i := by
      rw [List.length_append]
      exact hi
    rw [List.eraseIdx_of_length_le longer, List.eraseIdx_of_length_le (Nat.le_of_lt hi)]

end Lists

/-! ## Locks -/

namespace Locks

/-- Some lock of the repository is held by the call. -/
def HeldBy (l : Locks) (i : Nat) (repoId : Int) : Prop :=
  (∃ process, l.held (process, repoId) = some i) ∨ l.files repoId = some i

/-- The locks that are left if a call is left out. -/
def without (i : Nat) (l : Locks) : Locks :=
  ⟨fun key => (l.held key).bind (skip i), fun repoId => (l.files repoId).bind (skip i)⟩

end Locks

section Owners

variable {κ : Type} [DecidableEq κ] {owner owner' : κ → Option Nat} {i k : Nat}

omit [DecidableEq κ] in
theorem bind_skip_eq_none {o : Option Nat} (h : o ≠ some i) :
    o.bind (skip i) = none ↔ o = none := by
  cases o with
  | none => exact ⟨fun _ => rfl, fun _ => rfl⟩
  | some k =>
    obtain ⟨k', hk⟩ := exists_skip fun hki => h (congrArg some hki)
    rw [Option.bind_some, hk]
    exact ⟨nofun, nofun⟩

theorem bind_skip_update (owner : κ → Option Nat) (key : κ) (o : Option Nat) :
    (fun key' => (Function.update owner key o key').bind (skip i)) =
      Function.update (fun key' => (owner key').bind (skip i)) key (o.bind (skip i)) :=
  Function.comp_update (fun o : Option Nat => o.bind (skip i)) owner key o

theorem update_eq_some {key key' : κ} {o : Option Nat}
    (h : Function.update owner key o key' = some i) :
    key' = key ∧ o = some i ∨ owner key' = some i := by
  rw [Function.update_apply] at h
  split at h
  · exact .inl ⟨‹_›, h⟩
  · exact .inr h

/-- What a call does to its own locks is not seen where it is left out. -/
theorem Handover.unseen {mine mine' : Option κ} (step : Handover i owner owner' mine mine')
    (held : ∀ key, mine = some key → owner key = some i) :
    (fun key => (owner' key).bind (skip i)) = fun key => (owner key).bind (skip i) := by
  cases step with
  | keep => rfl
  | @take key free =>
    rw [bind_skip_update, Option.bind_some, skip_self, Function.update_eq_self_iff, free]
    rfl
  | @drop key =>
    rw [bind_skip_update, Function.update_eq_self_iff, held key rfl, Option.bind_some, skip_self]
    rfl

end Owners

/-- The repository at one of whose locks a caller is turned away with an answer. -/
def Request.turnedAway? : {β : Type} → Request τ β → β → Option Int
  | _, .takeLock repoId _, .ok false => some repoId
  | _, .takeFile repoId _, .ok false => some repoId
  | _, _, _ => none

/-- The repository one of whose locks is taken with an answer. -/
def Request.takes? : {β : Type} → Request τ β → β → Option Int
  | _, .takeLock repoId _, .ok true => some repoId
  | _, .takeFile repoId _, .ok true => some repoId
  | _, _, _ => none

namespace Locks

variable {i k k' process : Nat} {β : Type} {r : Request τ β} {b : β} {l l' m : Locks}

theorem without_held (l : Locks) (key : Nat × Int) (o : Option Nat) :
    without i { l with held := Function.update l.held key o } =
      { l.without i with held := Function.update (l.without i).held key (o.bind (skip i)) } :=
  congrArg (Locks.mk · _) (bind_skip_update l.held key o)

theorem without_files (l : Locks) (repoId : Int) (o : Option Nat) :
    without i { l with files := Function.update l.files repoId o } =
      { l.without i with files := Function.update (l.without i).files repoId (o.bind (skip i)) } :=
  congrArg (Locks.mk _) (bind_skip_update l.files repoId o)

/-- Other calls are given the same answers, unless they are turned away for the sake of the one that
is left out. -/
theorem Grants.without (grant : l.Grants k process r b l') (hk : skip i k = some k')
    (fair : ∀ repoId, r.turnedAway? b = some repoId → ¬l.HeldBy i repoId) :
    (l.without i).Grants k' process r b (l'.without i) := by
  cases r with
  | takeLock repoId limit =>
    rcases b with e | _ | _
    · exact congrArg (Locks.without i) grant
    · obtain ⟨busy, limited, rfl⟩ := grant
      refine ⟨fun free => busy ?_, limited, rfl⟩
      exact (bind_skip_eq_none fun held => fair repoId rfl (.inl ⟨process, held⟩)).1 free
    · obtain ⟨free, rfl⟩ := grant
      refine ⟨congrArg (fun o : Option Nat => o.bind (skip i)) free, ?_⟩
      rw [without_held, Option.bind_some, hk]
  | takeFile repoId deadline =>
    rcases b with e | _ | _
    · exact congrArg (Locks.without i) grant
    · obtain ⟨busy, limited, rfl⟩ := grant
      refine ⟨fun free => busy ?_, limited, rfl⟩
      exact (bind_skip_eq_none fun held => fair repoId rfl (.inr held)).1 free
    · obtain ⟨free, rfl⟩ := grant
      refine ⟨congrArg (fun o : Option Nat => o.bind (skip i)) free, ?_⟩
      rw [without_files, Option.bind_some, hk]
  | dropLock repoId => exact (congrArg (Locks.without i) grant).trans (without_held l _ _)
  | dropFile repoId => exact (congrArg (Locks.without i) grant).trans (without_files l _ _)
  | _ => exact congrArg (Locks.without i) grant

/-- Answers that are given where a call is left out that holds nothing, are given beside it too. -/
theorem Grants.of_without (grant : (l.without i).Grants k' process r b m)
    (hk : skip i k = some k') (idle : ∀ repoId, ¬l.HeldBy i repoId) :
    ∃ l', l.Grants k process r b l' ∧ l'.without i = m := by
  have held (key : Nat × Int) : (l.held key).bind (skip i) = none ↔ l.held key = none :=
    bind_skip_eq_none fun held => idle key.2 (.inl ⟨key.1, held⟩)
  have files (repoId : Int) : (l.files repoId).bind (skip i) = none ↔ l.files repoId = none :=
    bind_skip_eq_none fun held => idle repoId (.inr held)
  cases r with
  | takeLock repoId limit =>
    rcases b with e | _ | _
    · exact ⟨l, rfl, Eq.symm grant⟩
    · obtain ⟨busy, limited, rfl⟩ := grant
      exact ⟨l, ⟨fun free => busy ((held _).2 free), limited, rfl⟩, rfl⟩
    · obtain ⟨free, rfl⟩ := grant
      refine ⟨_, ⟨(held _).1 free, rfl⟩, ?_⟩
      rw [without_held, Option.bind_some, hk]
  | takeFile repoId deadline =>
    rcases b with e | _ | _
    · exact ⟨l, rfl, Eq.symm grant⟩
    · obtain ⟨busy, limited, rfl⟩ := grant
      exact ⟨l, ⟨fun free => busy ((files _).2 free), limited, rfl⟩, rfl⟩
    · obtain ⟨free, rfl⟩ := grant
      refine ⟨_, ⟨(files _).1 free, rfl⟩, ?_⟩
      rw [without_files, Option.bind_some, hk]
  | dropLock repoId => exact ⟨_, rfl, (without_held l _ _).trans (Eq.symm grant)⟩
  | dropFile repoId => exact ⟨_, rfl, (without_files l _ _).trans (Eq.symm grant)⟩
  | _ => exact ⟨l, rfl, Eq.symm grant⟩

/-- A lock that is held afterwards was held before or has been taken. -/
theorem Grants.heldBy {repoId : Int} (grant : l.Grants k process r b l')
    (held : l'.HeldBy i repoId) :
    l.HeldBy i repoId ∨ k = i ∧ r.takes? b = some repoId := by
  cases grant.shift {} .empty .empty with
  | keep | openTree => exact .inl held
  | takeLock =>
    rcases held with ⟨process', held⟩ | held
    · rcases update_eq_some held with ⟨hkey, taken⟩ | held
      · obtain ⟨-, rfl⟩ := Prod.mk.inj hkey
        exact .inr ⟨Option.some.inj taken, rfl⟩
      · exact .inl (.inl ⟨process', held⟩)
    · exact .inl (.inr held)
  | dropLock =>
    rcases held with ⟨process', held⟩ | held
    · rcases update_eq_some held with ⟨-, dropped⟩ | held
      · cases dropped
      · exact .inl (.inl ⟨process', held⟩)
    · exact .inl (.inr held)
  | takeFile =>
    rcases held with held | held
    · exact .inl (.inl held)
    · rcases update_eq_some held with ⟨rfl, taken⟩ | held
      · exact .inr ⟨Option.some.inj taken, rfl⟩
      · exact .inl (.inr held)
  | dropFile =>
    rcases held with held | held
    · exact .inl (.inl held)
    · rcases update_eq_some held with ⟨-, dropped⟩ | held
      · cases dropped
      · exact .inl (.inr held)

end Locks

/-! ## Worlds -/

/-- The repository at one of whose locks the caller was turned away. -/
def Event.turnedAway? (e : Event τ) : Option Int :=
  e.request.turnedAway? e.answer

/-- The repository one of whose locks the caller has taken. -/
def Event.takes? (e : Event τ) : Option Int :=
  e.request.takes? e.answer

/-- The event, if it is not one of the call that is left out. -/
def Event.without (i : Nat) (e : Event τ) : Option (Event τ) :=
  (skip i e.call).map fun k => { e with call := k }

/-- Whether an event is one of another call. -/
def Event.ofOther (i : Nat) (e : Event τ) : Bool :=
  e.call != i

/-- Events, the newest first, lead from the first store to the second: each begins where the one
before it has ended. -/
def Store.Leads (s : Store) : List (Event τ) → Store → Prop
  | [], s' => s' = s
  | e :: l, s' => s' = e.after ∧ s.Leads l e.before

/-- No other call was turned away at a lock of a repository one of whose locks the call took. -/
def Undisturbed (i : Nat) (l : List (Event τ)) : Prop :=
  ∀ e ∈ l, ∀ e' ∈ l, e'.call = i → e.call ≠ i → ∀ repoId, e.turnedAway? = some repoId →
    e'.takes? ≠ some repoId

theorem Undisturbed.tail {i : Nat} {e : Event τ} {l : List (Event τ)}
    (h : Undisturbed i (e :: l)) : Undisturbed i l :=
  fun e he e' he' => h e (List.mem_cons_of_mem _ he) e' (List.mem_cons_of_mem _ he')

namespace World

/-- The world without one of its calls. -/
def without (i : Nat) (w : World τ) : World τ where
  store := w.store
  locks := w.locks.without i
  calls := w.calls.eraseIdx i
  log := w.log.filterMap (Event.without i)

variable [TimeScale τ] {directory : Option String} {p q w w' : World τ} {i : Nat}

/-- A world that has not heard of a call is the same without it. -/
theorem Attained.without_eq (h : w.Attained directory faults) (hi : w.calls[i]? = none) :
    w.without i = w := by
  have hlen : w.calls.length ≤ i := List.getElem?_eq_none_iff.1 hi
  have known {k : Nat} {c : Call τ} (hc : w.calls[k]? = some c) : skip i k = some k :=
    skip_of_lt (Nat.lt_of_lt_of_le (List.getElem?_eq_some_iff.1 hc).1 hlen)
  have owner {κ : Type} {owner : κ → Option Nat} {f : Call τ → Option κ}
      (ho : Matches owner fun k => w.calls[k]?.bind f) (key : κ) :
      (owner key).bind (skip i) = owner key := by
    cases hk : owner key with
    | none => rfl
    | some k =>
      obtain ⟨c, hc, -⟩ := Option.bind_eq_some_iff.1 ((ho key k).1 hk)
      exact known hc
  have log : w.log.filterMap (Event.without i) = w.log := by
    refine (List.filterMap_congr fun e he => ?_).trans List.filterMap_some
    obtain ⟨c, hc, -⟩ := h.booked.known e he
    rw [Event.without, known hc]
    rfl
  have locks : w.locks.without i = w.locks :=
    congrArg₂ Locks.mk (funext (owner h.owned.held)) (funext (owner h.owned.files))
  unfold without
  rw [log, locks, List.eraseIdx_of_length_le hlen]

/-! ## Steps of the call and of others -/

section Answer

variable {k : Nat} {c : Call τ} {β : Type} {r : Request τ β}
  {next : β → Program τ (Except Error Answer)} {b : β} {s : Store} {l : Locks}

omit [TimeScale τ] in
theorem without_answer_eq {k' : Nat} (hk : skip i k = some k') : without i
      { store := s
        locks := l
        calls := w.calls.set k { c with rest := next b, journal := c.journal.note r b w.store s }
        log := ⟨k, c.operation, c.journal.opened, r, b, w.store, s⟩ :: w.log } =
      { store := s
        locks := l.without i
        calls := (w.without i).calls.set k'
          { c with rest := next b, journal := c.journal.note r b w.store s }
        log := ⟨k', c.operation, c.journal.opened, r, b, w.store, s⟩ :: (w.without i).log } := by
  have event : Event.without i ⟨k, c.operation, c.journal.opened, r, b, w.store, s⟩ =
      some ⟨k', c.operation, c.journal.opened, r, b, w.store, s⟩ := by
    rw [Event.without, hk]
    rfl
  unfold without
  rw [eraseIdx_set_skip hk, List.filterMap_cons_some event]

/-- The step of another call is one of the world without the call. -/
theorem without_answer {k' : Nat} (hk : skip i k = some k') (call : w.calls[k]? = some c)
    (asks : c.rest = .ask r next) (reply : Reply faults r b w.store s)
    (grant : w.locks.Grants k c.process r b l)
    (fair : ∀ repoId, r.turnedAway? b = some repoId → ¬w.locks.HeldBy i repoId) :
    Turn directory faults (w.without i) (without i
      { store := s
        locks := l
        calls := w.calls.set k { c with rest := next b, journal := c.journal.note r b w.store s }
        log := ⟨k, c.operation, c.journal.opened, r, b, w.store, s⟩ :: w.log }) := by
  rw [without_answer_eq hk]
  exact .answer (w := w.without i) ((getElem?_eraseIdx_skip hk w.calls).trans call) asks reply
    (grant.without hk fair)

omit [TimeScale τ] in
/-- A step of the call that writes nothing is not seen where the call is left out. -/
theorem without_answer_self (ho : w.Owned) (may : r.InCourse c.operation c.journal)
    (call : w.calls[i]? = some c) (grant : w.locks.Grants i c.process r b l)
    (same : s = w.store) : without i
      { store := s
        locks := l
        calls := w.calls.set i { c with rest := next b, journal := c.journal.note r b w.store s }
        log := ⟨i, c.operation, c.journal.opened, r, b, w.store, s⟩ :: w.log } = w.without i := by
  have event : Event.without i ⟨i, c.operation, c.journal.opened, r, b, w.store, s⟩ = none := by
    rw [Event.without, skip_self]
    rfl
  have mine {κ : Type} {f : Call τ → Option κ} {key : κ} (hkey : f c = some key) :
      w.calls[i]?.bind f = some key := by
    rw [call]
    exact hkey
  have shift := grant.shift c.journal w.store s
  have held := (shift.held may).unseen fun key hkey => (ho.held key i).2 (mine hkey)
  have files := (shift.files may).unseen fun key hkey => (ho.files key i).2 (mine hkey)
  unfold without
  rw [List.eraseIdx_set_eq, List.filterMap_cons_none event, same,
    show l.without i = w.locks.without i from congrArg₂ Locks.mk held files]

end Answer

/-- Another call begins in the world without the call too, and the call itself does not. -/
theorem without_begin {process : Nat} {policy : Policy τ} {op : Operation τ}
    (shared : policy.lockDirectory = directory) (alone : directory = none → process = 0) :
    Turns directory faults (w.without i)
      (without i { w with calls := w.calls ++ [⟨process, op, (op.action policy).run, {}⟩] }) := by
  have begins : Turn directory faults (w.without i) { w.without i with
      calls := (w.without i).calls ++ [⟨process, op, (op.action policy).run, {}⟩] } :=
    .begin shared alone
  unfold without at begins ⊢
  by_cases hi : i = w.calls.length
  · rw [hi, eraseIdx_concat_length]
    exact .refl
  · rw [eraseIdx_concat_of_ne _ hi]
    exact .single begins

/-! ## Runs with the call and without -/

/-- The call, if it is there, has not written. -/
def Silent (i : Nat) (w : World τ) : Prop :=
  ∀ c, w.calls[i]? = some c → c.journal.wrote = false

/-- What a call that does not write does between two worlds, and what is left without it. -/
structure Between (directory : Option String) (faults : Error → Prop) (i : Nat) (p w : World τ)
    (l : List (Event τ)) : Prop where
  log : w.log = l ++ p.log
  took : ∀ repoId, w.locks.HeldBy i repoId → ∃ e ∈ l, e.call = i ∧ e.takes? = some repoId
  leads : w.Silent i → p.store.Leads (l.filter (Event.ofOther i)) w.store
  without : w.Silent i → Undisturbed i l → Turns directory faults (p.without i) (w.without i)

theorem Turn.silent (h : Turn directory faults w w') (silent : w'.Silent i) : w.Silent i := by
  intro c hc
  obtain ⟨c', hc', -, kept⟩ := h.keeps hc
  cases wrote : c.journal.wrote with
  | false => rfl
  | true => exact (kept wrote).symm.trans (silent c' hc')

theorem Turn.between {l : List (Event τ)} (h : Turn directory faults w w') (hw : w.Orderly)
    (ho : w.Owned) (hl : Between directory faults i p w l) :
    ∃ l', Between directory faults i p w' l' := by
  have before := h.silent (i := i)
  cases h with
  | begin shared alone =>
    exact ⟨l, hl.log, hl.took, fun silent => hl.leads (before silent), fun silent fair =>
      (hl.without (before silent) fair).trans (without_begin shared alone)⟩
  | @answer k c β r next b s m call asks reply grant =>
    have may := hw.inCourse call asks
    have took (e : Event τ) (he : e.call = k ∧ e.takes? = r.takes? b) (repoId : Int)
        (held : m.HeldBy i repoId) : ∃ e' ∈ e :: l, e'.call = i ∧ e'.takes? = some repoId := by
      rcases grant.heldBy held with held | ⟨rfl, took⟩
      · obtain ⟨e', he', mine⟩ := hl.took repoId held
        exact ⟨e', List.mem_cons_of_mem _ he', mine⟩
      · exact ⟨e, List.mem_cons_self, he.1, he.2.trans took⟩
    by_cases hk : k = i
    · subst hk
      have same (silent : (c.journal.note r b w.store s).wrote = false) : s = w.store := by
        rw [c.journal.wrote_note, Bool.or_eq_false_iff] at silent
        exact (may.answered (hw.calls k c call).1 reply).1 silent.2
      have hlt : k < w.calls.length := (List.getElem?_eq_some_iff.1 call).1
      refine ⟨_ :: l, congrArg _ hl.log, took _ ⟨rfl, rfl⟩, fun silent => ?_,
        fun silent fair => ?_⟩
      · rw [List.filter_cons_of_neg (by simp [Event.ofOther])]
        exact same (silent _ (List.getElem?_set_self hlt)) ▸ hl.leads (before silent)
      · rw [without_answer_self ho may call grant (same (silent _ (List.getElem?_set_self hlt)))]
        exact hl.without (before silent) fair.tail
    · obtain ⟨k', hk'⟩ := exists_skip hk
      refine ⟨_ :: l, congrArg _ hl.log, took _ ⟨rfl, rfl⟩, fun silent => ?_,
        fun silent fair => ?_⟩
      · rw [List.filter_cons_of_pos (by simpa [Event.ofOther] using hk)]
        exact ⟨rfl, hl.leads (before silent)⟩
      · refine (hl.without (before silent) fair.tail).tail
          (without_answer hk' call asks reply grant fun repoId turned held => ?_)
        -- The lock was taken by an event of the call, which the other one may not disturb.
        obtain ⟨e, he, mine, takes⟩ := hl.took repoId held
        exact fair _ List.mem_cons_self e (List.mem_cons_of_mem _ he) mine hk repoId turned takes

theorem Turns.between (h : Turns directory faults p w) (hp : p.Attained directory faults)
    (hi : p.calls[i]? = none) : ∃ l, Between directory faults i p w l := by
  induction h with
  | refl =>
    refine ⟨[], rfl, fun repoId held => ?_, fun _ => rfl, fun _ _ => .refl⟩
    have none {κ : Type} {f : Call τ → Option κ} {key : κ} (h : p.calls[i]?.bind f = some key) :
        False := by
      rw [hi] at h
      cases h
    rcases held with ⟨process, held⟩ | filed
    · exact (none ((hp.owned.held _ i).1 held)).elim
    · exact (none ((hp.owned.files _ i).1 filed)).elim
  | tail hturns ht ih =>
    obtain ⟨l, hl⟩ := ih
    have attained := hp.turns hturns
    exact ht.between attained.orderly attained.owned hl

/-! ## Going on without a call that has ended -/

section Ended

variable {c : Call τ} {a : Except Error Answer} (hc : w.calls[i]? = some c)
  (ended : c.rest = .done a)

include hc ended

omit [TimeScale τ] in
theorem ne_of_asks {k : Nat} {c' : Call τ} {β : Type} {r : Request τ β}
    {next : β → Program τ (Except Error Answer)} (call : w.calls[k]? = some c')
    (asks : c'.rest = .ask r next) : k ≠ i := by
  rintro rfl
  obtain rfl := Option.some.inj (call.symm.trans hc)
  rw [ended] at asks
  cases asks

/-- A call that has ended stays as it is. -/
theorem Turn.stays (h : Turn directory faults w w') : w'.calls[i]? = some c := by
  cases h with
  | begin => exact (List.getElem?_append_left (List.getElem?_eq_some_iff.1 hc).1).trans hc
  | answer call asks => exact (List.getElem?_set_ne (ne_of_asks hc ended call asks)).trans hc

theorem Attained.idle (h : w.Attained directory faults) (repoId : Int) :
    ¬w.locks.HeldBy i repoId := by
  obtain ⟨held, files⟩ := h.done_frees hc ended
  rintro (⟨process, mine⟩ | mine)
  · exact held _ mine
  · exact files _ mine

theorem Turn.without (hw : w.Attained directory faults) (h : Turn directory faults w w') :
    Turns directory faults (w.without i) (w'.without i) := by
  cases h with
  | begin shared alone => exact without_begin shared alone
  | answer call asks reply grant =>
    obtain ⟨k', hk⟩ := exists_skip (ne_of_asks hc ended call asks)
    exact .single (without_answer hk call asks reply grant fun repoId _ =>
      hw.idle hc ended repoId)

theorem Turn.of_without {v : World τ} (hw : w.Attained directory faults)
    (h : Turn directory faults (w.without i) v) :
    ∃ w', Turn directory faults w w' ∧ w'.without i = v := by
  cases h with
  | @begin process policy op shared alone =>
    refine ⟨{ w with calls := w.calls ++ [⟨process, op, (op.action policy).run, {}⟩] },
      .begin shared alone, ?_⟩
    have hi : i ≠ w.calls.length := Nat.ne_of_lt (List.getElem?_eq_some_iff.1 hc).1
    unfold World.without
    rw [eraseIdx_concat_of_ne _ hi]
  | @answer k' c' β r next b s m call asks reply grant =>
    obtain ⟨k, hk⟩ := exists_skip_eq i k'
    have call : w.calls[k]? = some c' := (getElem?_eraseIdx_skip hk w.calls).symm.trans call
    obtain ⟨l, grant', rfl⟩ := Locks.Grants.of_without grant hk (hw.idle hc ended)
    exact ⟨_, .answer call asks reply grant', without_answer_eq hk⟩

theorem Turns.without (hw : w.Attained directory faults) (h : Turns directory faults w w') :
    Turns directory faults (w.without i) (w'.without i) ∧ w'.calls[i]? = some c := by
  induction h with
  | refl => exact ⟨.refl, hc⟩
  | tail hturns ht ih =>
    obtain ⟨run, hc⟩ := ih
    exact ⟨run.trans (ht.without hc ended (hw.turns hturns)), ht.stays hc ended⟩

theorem Turns.of_without {v : World τ} (hw : w.Attained directory faults)
    (h : Turns directory faults (w.without i) v) :
    ∃ w', Turns directory faults w w' ∧ w'.calls[i]? = some c ∧ w'.without i = v := by
  induction h with
  | refl => exact ⟨w, .refl, hc, rfl⟩
  | tail _ ht ih =>
    obtain ⟨u, hu, hc, rfl⟩ := ih
    obtain ⟨w', hw', rfl⟩ := Turn.of_without hc ended (hw.turns hu) ht
    exact ⟨w', hu.tail hw', hw'.stays hc ended, rfl⟩

end Ended

/-! ## The law -/

/-- A call has left no trace between two worlds, the events between which are given: none of its own
has changed the store, those of others account for it, and all goes on as without it. If the call
has disturbed nobody, the world without it is one that might have come instead. -/
structure Traceless (directory : Option String) (faults : Error → Prop) (i : Nat) (p q : World τ)
    (l : List (Event τ)) : Prop where
  log : q.log = l ++ p.log
  silent : ∀ e ∈ l, e.call = i → e.after = e.before
  others : p.store.Leads (l.filter (Event.ofOther i)) q.store
  instead : Undisturbed i l → Turns directory faults p (q.without i)
  goesOn : ∀ w, Turns directory faults q w → Turns directory faults (q.without i) (w.without i)
  conversely : ∀ v, Turns directory faults (q.without i) v →
    ∃ w, Turns directory faults q w ∧ w.without i = v

/-- **A call that fails is invisible**, in every world that is attained from the empty store by any
calls in any interleaving, however working trees fail. -/
theorem failure_is_traceless (hp : p.Attained directory faults) (hq : Turns directory faults p q)
    (new : p.calls[i]? = none) {c : Call τ} (hc : q.calls[i]? = some c) {e : Error}
    (failed : c.rest = .done (.error e)) : ∃ l, Traceless directory faults i p q l := by
  obtain ⟨l, between⟩ := hq.between hp new
  have attained := hp.turns hq
  have closed : Journal.Closed false c.journal := by
    have ends := (attained.orderly.calls i c hc).2
    rwa [failed, Program.obeys_done] at ends
  have silent : q.Silent i := by
    intro c' hc'
    obtain rfl := Option.some.inj (hc.symm.trans hc')
    exact closed.wrote
  refine ⟨l, between.log, fun e he hcall => ?_, between.leads silent, fun fair => ?_,
    fun w hw => (hw.without hc failed attained).1, fun v hv => ?_⟩
  · have hlog : e ∈ q.log := between.log ▸ List.mem_append_left _ he
    refine (attained.booked.lawful e hlog).silent ?_
    obtain ⟨c', hc', -, wrote⟩ := attained.booked.known e hlog
    rw [hcall] at hc'
    cases hwrote : e.wrote with
    | false => rfl
    | true => exact (wrote hwrote).symm.trans (silent c' hc')
  · exact (hp.without_eq new) ▸ between.without silent fair
  · obtain ⟨w, hw, -, rfl⟩ := Turns.of_without hc failed attained hv
    exact ⟨w, hw, rfl⟩

/-- A schedule in which a merge request is made. -/
def proposal : List (Move Binary64) :=
  [.call (.registerRepository "one" "/one"), .serve 0 50,
    .call (.createMergeRequest "one" (some "ann") "Add a feature" "feature" "main" (some "")),
    .serve 1 50]

/-- One that goes on with a merge of it, which another client closes while the branches are merged
in the working tree. -/
def withdrawal : List (Move Binary64) :=
  [.call (.merge "one" 1 (some "bob") none), .serve 2 14,
    .call (.closeMergeRequest "one" 1 (some "eve")), .serve 3 50, .serve 2 50]

/-- The world between the two schedules. -/
def proposedWorld : World Binary64 :=
  (fresh .empty).replay proposal

/-- The world after them. -/
def withdrawnWorld : World Binary64 :=
  proposedWorld.replay withdrawal

/-- The law at the merge, which fails after the branches have been merged: what is left is what the
other client has done. -/
theorem failure_is_traceless_of_withdrawal : proposedWorld.Attained none (fun _ => False) ∧
    Turns none (fun _ => False) proposedWorld withdrawnWorld ∧
    ([2, 3].map fun i => (withdrawnWorld.answered i).map fun a => a.2.isOk) =
      [some false, some true] ∧
    withdrawnWorld.store.mergeRequests.rows.map (·.state) = ["closed"] ∧
    ∃ l, Traceless none (fun _ => False) 2 proposedWorld withdrawnWorld l := by
  have hp : proposedWorld.Reachable none := replay_reachable proposal
  have hq : proposedWorld.Run none (fun _ => True) withdrawnWorld := replay_run fun _ _ => trivial
  have failed : ∃ e, withdrawnWorld.calls[2]?.map (·.rest) = some (.done (.error e)) := ⟨_, rfl⟩
  obtain ⟨e, failed⟩ := failed
  obtain ⟨c, hc, done⟩ := Option.map_eq_some_iff.1 failed
  exact ⟨hp.attained, hq.turns, by decide +kernel, by decide +kernel,
    failure_is_traceless hp.attained hq.turns rfl hc done⟩

end World

end Forge
