import Forge.Proofs.Reachable

/-!
# Merges exclude each other

The steps of any number of merges and of other operations come in any order. `Careful` is what the
journal of one merge says of it, `Held` ties it to the store and the locks, and `Apart` keeps two
merges of one merge request apart; each answered request keeps all three, whichever call made it.
`World.Guarded` collects them, for all calls of a reachable world.
-/

namespace Forge

namespace Merge

variable {τ : Type} {directory : Option String} {id : Int}

/-! ## One merge -/

/-- What the journal of a merge of the merge request `id` always says. -/
structure Careful (directory : Option String) (id : Int) (j : Journal) : Prop where
  merges : j.merges.length ≤ 1
  idle : j.worked = false → j.merges = []
  merged : j.Merged → j.Holds directory ∨ j.wrote = true ∨ j.givenUp = true
  worked : j.worked = true →
    ∃ repo s, j.opened = some repo ∧ j.read = some s ∧ s.OpenAt repo.id id

theorem Careful.empty : Careful directory id {} where
  merges := Nat.zero_le _
  idle _ := rfl
  merged h := by
    obtain ⟨commit, hc⟩ := h
    cases hc
  worked h := nomatch h

/-- Before the working tree is called, a journal may change in all that is not about that. -/
theorem Careful.of_idle {j j' : Journal} (h : Careful directory id j) (hw : j.worked = false)
    (hw' : j'.worked = false) (hm : j'.merges = j.merges) : Careful directory id j' := by
  have nil : j'.merges = [] := hm.trans (h.idle hw)
  exact
    { merges := by simp [nil]
      idle := fun _ => nil
      merged := fun hmerged => absurd hmerged (not_merged_of_nil nil)
      worked := fun ht => (nomatch hw'.symm.trans ht) }

theorem Careful.noteTree {α : Type} {j : Journal} {call : TreeCall τ α} {b : Except Error α}
    (h : Careful directory id j) (hm : May directory id j (.tree call)) :
    Careful directory id (j.noteTree call b) := by
  obtain ⟨holds, -, -, repo, s, hopen, hread, hs, -, hcall⟩ := hm
  cases call with
  | branchExists branch => exact hcall.elim
  | contains branch ancestor limit =>
    exact ⟨h.merges, fun hw => absurd hw Bool.false_ne_true.symm, h.merged,
      fun _ => ⟨repo, s, hopen, hread, hs⟩⟩
  | checkout branch limit =>
    exact ⟨h.merges, fun hw => absurd hw Bool.false_ne_true.symm, h.merged,
      fun _ => ⟨repo, s, hopen, hread, hs⟩⟩
  | merge branch message author limit =>
    refine ⟨?_, fun hw => absurd hw Bool.false_ne_true.symm, fun _ => .inl holds,
      fun _ => ⟨repo, s, hopen, hread, hs⟩⟩
    simp [Journal.noteTree, hcall.1]
  | abortMerge =>
    exact ⟨h.merges, fun hw => absurd hw Bool.false_ne_true.symm, h.merged,
      fun _ => ⟨repo, s, hopen, hread, hs⟩⟩

theorem Journal.givenUp_log {j : Journal} {record : LogRecord} {u : Unit} {s s' : Store}
    (h : j.givenUp = true) : (j.note (.log record : Request τ Unit) u s s').givenUp = true := by
  rcases Bool.or_eq_true_iff.1 h with h | h
  · simp [Journal.givenUp, Journal.note, h]
  · simp [Journal.givenUp, Journal.note, h]

/-- An answered request leaves a merge careful. -/
theorem Careful.note {β : Type} {j : Journal} {r : Request τ β} {b : β} {s s' : Store}
    (h : Careful directory id j) (hm : May directory id j r) :
    Careful directory id (j.note r b s s') := by
  cases r with
  | clock => exact h
  | process call => exact h
  | tree call => exact h.noteTree hm
  | transact write limit body =>
    cases write with
    | false => exact h.of_idle hm.1 hm.1 rfl
    | true => exact ⟨h.merges, h.idle, fun _ => .inl hm.1, h.worked⟩
  | openTree repo =>
    obtain ⟨-, -, -, hw, -⟩ := hm
    exact h.of_idle hw hw rfl
  | takeLock repoId limit =>
    obtain ⟨-, -, hw, -⟩ := hm
    match b with
    | .ok true => exact h.of_idle hw hw rfl
    | .ok false => exact h
    | .error e => exact h
  | dropLock repoId =>
    exact ⟨h.merges, h.idle, fun hm' => .inr (hm.2.2.1 hm'), h.worked⟩
  | takeFile repoId deadline =>
    obtain ⟨-, -, -, hw, -⟩ := hm
    match b with
    | .ok true => exact h.of_idle hw hw rfl
    | .ok false => exact h
    | .error e => exact h
  | dropFile repoId =>
    exact ⟨h.merges, h.idle, fun hm' => .inr (hm.2.1 hm'), h.worked⟩
  | log record =>
    refine ⟨h.merges, h.idle, fun hm' => ?_, h.worked⟩
    rcases h.merged hm' with hh | hw | hr
    · exact .inl hh
    · exact .inr (.inl hw)
    · exact .inr (.inr (Journal.givenUp_log hr))

/-! ## A merge, the store and the locks -/

/-- What the store and the locks say of call `i`, a merge of the merge request `id`. -/
structure Held (directory : Option String) (id : Int) (s : Store) (l : Locks) (i : Nat)
    (c : Call τ) : Prop where
  careful : Careful directory id c.journal
  alone : directory = none → c.process = 0
  locked : c.journal.locked = true →
    ∃ repo, c.journal.opened = some repo ∧ l.held (c.process, repo.id) = some i
  filed : c.journal.filed = true →
    ∃ repo, c.journal.opened = some repo ∧ l.files repo.id = some i
  settled : c.journal.wrote = true → s.Settled id
  owned : ∀ s₀ repoId, c.journal.read = some s₀ → s₀.OpenAt repoId id → s.Owned repoId id

/-- Two calls that hold the locks of one repository are one call. -/
theorem Held.eq_of_holds {s : Store} {l : Locks} {i k : Nat} {c c' : Call τ} {id' : Int}
    {repo repo' : Repository} (h : Held directory id s l i c) (h' : Held directory id' s l k c')
    (hh : c.journal.Holds directory) (hh' : c'.journal.Holds directory)
    (ho : c.journal.opened = some repo) (ho' : c'.journal.opened = some repo')
    (hid : repo.id = repo'.id) : i = k := by
  cases hd : directory with
  | none =>
    -- Without lock files all calls are of one process, and so is the lock within it.
    obtain ⟨r, hr, hl⟩ := h.locked hh.1
    obtain ⟨r', hr', hl'⟩ := h'.locked hh'.1
    obtain rfl := Option.some.inj (ho.symm.trans hr)
    obtain rfl := Option.some.inj (ho'.symm.trans hr')
    rw [h.alone hd, hid] at hl
    rw [h'.alone hd, hl] at hl'
    exact Option.some.inj hl'
  | some dir =>
    have shared : directory.isSome = true := by
      rw [hd]
      rfl
    obtain ⟨r, hr, hl⟩ := h.filed (hh.2 shared)
    obtain ⟨r', hr', hl'⟩ := h'.filed (hh'.2 shared)
    obtain rfl := Option.some.inj (ho.symm.trans hr)
    obtain rfl := Option.some.inj (ho'.symm.trans hr')
    rw [hid, hl'] at hl
    exact (Option.some.inj hl).symm

/-- A merge request that has been marked merged is settled. -/
theorem settled_of_marked {s : Store} {now repoId : Int} {actor : String} (hs : s.WellFormed)
    (ho : s.OpenAt repoId id) : (Lifecycle.markMerged now repoId id actor s).Settled id := by
  refine ⟨?_, fun r hr hid => (marked hs ho hr hid).1⟩
  obtain ⟨r, hr, -, hid, -⟩ := ho
  exact hid ▸ hs.mergeRequests.le_last r hr

/-- What a writing transaction of a merge has done if it has returned. -/
theorem marked_of_write {α : Type} {j : Journal} {limit : Option τ} {body : Int → Transaction α}
    {a : α} {s s' : Store} (hm : May directory id j (.transact true limit body))
    (hx : Exchange (.transact true limit body) (.ok a) s s') :
    ∃ repo now actor, j.opened = some repo ∧ s.OpenAt repo.id id ∧
      s' = Lifecycle.markMerged now repo.id id actor s := by
  obtain ⟨-, -, -, -, repo, actor, hopen, hmark⟩ := hm
  rcases hx.transact with ⟨⟨report, hb⟩, -⟩ | ⟨now, -, ⟨a', -, ha⟩ | ⟨e, hb, -⟩⟩
  · cases hb
  · obtain ⟨ho, rfl⟩ := hmark now a' s s' ha
    exact ⟨repo, now, actor, hopen, ho, rfl⟩
  · cases hb

section Own

variable {s s' : Store} {l l' : Locks} {i : Nat} {c : Call τ} {β : Type} {r : Request τ β} {b : β}

theorem Held.locked_note (h : Held directory id s l i c) (hm : May directory id c.journal r)
    (hg : l.Grants i c.process r b l') (hl : (c.journal.note r b s s').locked = true) :
    ∃ repo, (c.journal.note r b s s').opened = some repo ∧
      l'.held (c.process, repo.id) = some i := by
  have shift := hg.shift c.journal s s'
  generalize c.journal.note r b s s' = j' at hl shift ⊢
  cases shift with
  | keep locked _ opened =>
    rw [opened]
    exact h.locked (locked ▸ hl)
  | openTree => exact (nomatch hm.2.1.symm.trans hl)
  | takeLock =>
    obtain ⟨-, -, -, -, repo, hopen, rfl⟩ := hm
    exact ⟨repo, hopen, Function.update_self ..⟩
  | dropLock => cases hl
  | takeFile | dropFile => exact h.locked hl

theorem Held.filed_note (h : Held directory id s l i c) (hm : May directory id c.journal r)
    (hg : l.Grants i c.process r b l') (hl : (c.journal.note r b s s').filed = true) :
    ∃ repo, (c.journal.note r b s s').opened = some repo ∧ l'.files repo.id = some i := by
  have shift := hg.shift c.journal s s'
  generalize c.journal.note r b s s' = j' at hl shift ⊢
  cases shift with
  | keep _ filed opened =>
    rw [opened]
    exact h.filed (filed ▸ hl)
  | openTree => exact (nomatch hm.2.2.1.symm.trans hl)
  | takeLock => exact h.filed hl
  | dropLock => exact (nomatch hm.2.1.symm.trans hl)
  | takeFile =>
    obtain ⟨-, -, -, -, -, repo, hopen, rfl⟩ := hm
    exact ⟨repo, hopen, Function.update_self ..⟩
  | dropFile => cases hl

/-- A merge that has written has written before, or marks its merge request just now. -/
theorem wrote_note {j : Journal} (hm : May directory id j r) (hx : Exchange r b s s')
    (hw : (j.note r b s s').wrote = true) :
    j.wrote = true ∨ ∃ repo now actor, j.opened = some repo ∧ j.Holds directory ∧
      s.OpenAt repo.id id ∧ s' = Lifecycle.markMerged now repo.id id actor s := by
  rcases Bool.or_eq_true_iff.1 ((j.wrote_note r b s s').symm.trans hw) with before | saves
  · exact .inl before
  · cases r with
    | transact write limit body =>
      obtain ⟨rfl, returned⟩ := Bool.and_eq_true_iff.1 saves
      cases b with
      | ok a =>
        obtain ⟨repo, now, actor, hopen, ho, rfl⟩ := marked_of_write hm hx
        exact .inr ⟨repo, now, actor, hopen, hm.1, ho, rfl⟩
      | error e => cases returned
    | _ => cases saves

/-- The last look at the store is a look at it just now, or was the last one before, and then the
locks that are held now were held before. -/
theorem read_note {j : Journal} {s₀ : Store} (hm : May directory id j r)
    (hr : (j.note r b s s').read = some s₀) :
    s₀ = s ∧ j.worked = false ∨ j.read = some s₀ ∧ ((j.note r b s s').Holds directory →
      j.Holds directory ∧ (j.note r b s s').opened = j.opened) := by
  cases r with
  | transact write limit body =>
    cases write with
    | false => exact .inl ⟨(Option.some.inj hr).symm, hm.1⟩
    | true => exact .inr ⟨hr, fun hh => ⟨hh, rfl⟩⟩
  | tree call =>
    obtain ⟨out, before, merges, after, heq⟩ := j.noteTree_eq call b
    rw [show j.note (.tree call) b s s' = _ from heq] at hr ⊢
    exact .inr ⟨hr, fun hh => ⟨hh, rfl⟩⟩
  | takeLock repoId limit =>
    match b with
    | .ok true => cases hr
    | .ok false => exact .inr ⟨hr, fun hh => ⟨hh, rfl⟩⟩
    | .error e => exact .inr ⟨hr, fun hh => ⟨hh, rfl⟩⟩
  | takeFile repoId deadline =>
    match b with
    | .ok true => cases hr
    | .ok false => exact .inr ⟨hr, fun hh => ⟨hh, rfl⟩⟩
    | .error e => exact .inr ⟨hr, fun hh => ⟨hh, rfl⟩⟩
  | clock => exact .inr ⟨hr, fun hh => ⟨hh, rfl⟩⟩
  | process call => exact hm.elim
  | openTree repo => exact .inr ⟨hr, fun hh => (nomatch hm.2.1.symm.trans hh.1)⟩
  | dropLock repoId => exact .inr ⟨hr, fun hh => (nomatch hh.1)⟩
  | dropFile repoId => exact .inr ⟨hr, fun hh => ⟨⟨hh.1, fun _ => hm.1⟩, rfl⟩⟩
  | log record => exact .inr ⟨hr, fun hh => ⟨hh, rfl⟩⟩

/-- An answered request of the merge itself. -/
theorem Held.note {rest : Program τ (Except Error Answer)} (h : Held directory id s l i c)
    (hm : May directory id c.journal r) (hs : s.WellFormed) (he : s.Evolves s')
    (hx : Exchange r b s s') (hg : l.Grants i c.process r b l') :
    Held directory id s' l' i { c with rest, journal := c.journal.note r b s s' } where
  careful := h.careful.note hm
  alone := h.alone
  locked := h.locked_note hm hg
  filed := h.filed_note hm hg
  settled hw := by
    rcases wrote_note hm hx hw with hw | ⟨repo, now, actor, -, -, ho, rfl⟩
    · exact (h.settled hw).evolves he
    · exact settled_of_marked hs ho
  owned s₀ repoId hr ho := by
    rcases read_note hm hr with ⟨rfl, -⟩ | ⟨hr, -⟩
    · exact (ho.owned hs).evolves he
    · exact (h.owned s₀ repoId hr ho).evolves he

end Own

/-- The locks of call `i` are still its own. -/
structure Keeps (i : Nat) (l l' : Locks) : Prop where
  held : ∀ key, l.held key = some i → l'.held key = some i
  files : ∀ repoId, l.files repoId = some i → l'.files repoId = some i

theorem Keeps.refl (i : Nat) (l : Locks) : Keeps i l l :=
  ⟨fun _ h => h, fun _ h => h⟩

theorem keeps_of_quiet {β : Type} {r : Request τ β} {b : β} {l l' : Locks} {i k process : Nat}
    (hr : r.Quiet) (hg : l.Grants k process r b l') : Keeps i l l' := by
  cases r with
  | takeLock => exact hr.elim
  | dropLock => exact hr.elim
  | takeFile => exact hr.elim
  | dropFile => exact hr.elim
  | _ => exact hg ▸ .refl i l

/-- What a merge does to the locks leaves those of other calls alone. -/
theorem Held.keeps {β : Type} {r : Request τ β} {b : β} {s : Store} {l l' : Locks} {i k : Nat}
    {c : Call τ} (h : Held directory id s l k c) (hm : May directory id c.journal r)
    (hg : l.Grants k c.process r b l') (hik : i ≠ k) : Keeps i l l' := by
  -- What call `i` holds is neither free nor held by call `k`, so it is not what is updated.
  have upd {κ : Type} [DecidableEq κ] {f : κ → Option Nat} {x : κ} {o : Option Nat}
      (hx : f x ≠ some i) (y : κ) (hy : f y = some i) : Function.update f x o y = some i := by
    rw [Function.update_of_ne (by rintro rfl; exact hx hy)]
    exact hy
  have shift := hg.shift c.journal s s
  generalize c.journal.note r b s s = j' at shift
  cases shift with
  | keep | openTree => exact .refl i l
  | takeLock hfree => exact ⟨upd (by rw [hfree]; nofun), fun _ h => h⟩
  | dropLock =>
    obtain ⟨hlocked, -, -, repo, hopen, rfl⟩ := hm
    obtain ⟨repo', hopen', hl⟩ := h.locked hlocked
    obtain rfl := Option.some.inj (hopen.symm.trans hopen')
    exact ⟨upd (by rw [hl]; exact fun h => hik (Option.some.inj h).symm), fun _ h => h⟩
  | takeFile hfree => exact ⟨fun _ h => h, upd (by rw [hfree]; nofun)⟩
  | dropFile =>
    obtain ⟨hfiled, -, repo, hopen, rfl⟩ := hm
    obtain ⟨repo', hopen', hl⟩ := h.filed hfiled
    obtain rfl := Option.some.inj (hopen.symm.trans hopen')
    exact ⟨fun _ h => h, upd (by rw [hl]; exact fun h => hik (Option.some.inj h).symm)⟩

/-- An answered request of another call. -/
theorem Held.other {s s' : Store} {l l' : Locks} {i : Nat} {c : Call τ}
    (h : Held directory id s l i c) (he : s.Evolves s') (hk : Keeps i l l') :
    Held directory id s' l' i c where
  careful := h.careful
  alone := h.alone
  locked hl := by
    obtain ⟨repo, ho, hh⟩ := h.locked hl
    exact ⟨repo, ho, hk.held _ hh⟩
  filed hl := by
    obtain ⟨repo, ho, hh⟩ := h.filed hl
    exact ⟨repo, ho, hk.files _ hh⟩
  settled hw := (h.settled hw).evolves he
  owned s₀ repoId hr ho := (h.owned s₀ repoId hr ho).evolves he

/-! ## Two merges of one merge request -/

/-- What the journals of two merges of the merge request `id` say of each other. -/
structure Apart (directory : Option String) (id : Int) (j j' : Journal) : Prop where
  agree : ∀ s s' x y, j.read = some s → s.OpenAt x id → j'.read = some s' → s'.OpenAt y id → x = y
  unwritten : j.Holds directory → ∀ repo s, j.opened = some repo → j.read = some s →
    s.OpenAt repo.id id → j'.wrote = false
  once : j.wrote = true → j'.wrote = false

section Pair

variable {s s' : Store} {l : Locks} {i k : Nat} {c c' : Call τ} {β : Type} {r : Request τ β} {b : β}

/-- An answered request of the first of two merges keeps them apart. -/
theorem Apart.note_left (h : Apart directory id c.journal c'.journal)
    (hk : Held directory id s l k c') (hm : May directory id c.journal r)
    (hx : Exchange r b s s') : Apart directory id (c.journal.note r b s s') c'.journal where
  agree s₁ s₂ x y hr hx' hr' hy := by
    rcases read_note hm hr with ⟨rfl, -⟩ | ⟨hr, -⟩
    · exact (hk.owned s₂ y hr' hy).eq_of_openAt hx'
    · exact h.agree s₁ s₂ x y hr hx' hr' hy
  unwritten hh repo s₁ ho hr hopen := by
    rcases read_note hm hr with ⟨rfl, -⟩ | ⟨hr, hold⟩
    · exact Bool.eq_false_iff.2 fun hw => (hk.settled hw).not_openAt hopen
    · exact h.unwritten (hold hh).1 repo s₁ ((hold hh).2 ▸ ho) hr hopen
  once hw := by
    rcases wrote_note hm hx hw with hw | ⟨repo, now, actor, -, -, ho, -⟩
    · exact h.once hw
    · exact Bool.eq_false_iff.2 fun hw => (hk.settled hw).not_openAt ho

/-- An answered request of the second of two merges keeps them apart. -/
theorem Apart.note_right (h : Apart directory id c.journal c'.journal) (hik : i ≠ k)
    (hi : Held directory id s l i c) (hk : Held directory id s l k c')
    (hm : May directory id c'.journal r) (hx : Exchange r b s s') :
    Apart directory id c.journal (c'.journal.note r b s s') where
  agree s₁ s₂ x y hr hx' hr' hy := by
    rcases read_note hm hr' with ⟨rfl, -⟩ | ⟨hr', -⟩
    · exact ((hi.owned s₁ x hr hx').eq_of_openAt hy).symm
    · exact h.agree s₁ s₂ x y hr hx' hr' hy
  unwritten hh repo s₁ ho hr hopen := by
    refine Bool.eq_false_iff.2 fun hw => ?_
    rcases wrote_note hm hx hw with hw | ⟨repo', now, actor, ho', hh', hopen', -⟩
    · exact (nomatch (h.unwritten hh repo s₁ ho hr hopen).symm.trans hw)
    · have hid := (hi.owned s₁ repo.id hr hopen).eq_of_openAt hopen'
      exact hik (hi.eq_of_holds hk hh hh' ho ho' hid.symm)
  once hw := by
    refine Bool.eq_false_iff.2 fun hw' => ?_
    rcases wrote_note hm hx hw' with hw' | ⟨repo', now, actor, -, -, hopen', -⟩
    · exact (nomatch (h.once hw).symm.trans hw')
    · exact (hi.settled hw).not_openAt hopen'

end Pair

theorem Held.begin {s : Store} {l : Locks} {i : Nat} {c : Call τ} (hj : c.journal = {})
    (alone : directory = none → c.process = 0) : Held directory id s l i c := by
  obtain ⟨process, op, rest, journal⟩ := c
  obtain rfl : journal = {} := hj
  exact ⟨.empty, alone, nofun, nofun, nofun, nofun⟩

theorem Apart.begin_left (j : Journal) : Apart directory id {} j :=
  ⟨nofun, nofun, nofun⟩

theorem Apart.begin_right (j : Journal) : Apart directory id j {} :=
  ⟨fun _ _ _ _ _ _ h => (nomatch h), fun _ _ _ _ _ _ => rfl, fun _ => rfl⟩

end Merge

/-! ## All calls -/

variable {τ : Type} {directory : Option String}

namespace World

/-- What keeps the merges of a reachable world from each other. -/
structure Guarded (directory : Option String) (w : World τ) : Prop extends
    Sound directory w where
  held : ∀ (i : Nat) (c : Call τ) (id : Int), w.calls[i]? = some c →
    c.operation.mergeId? = some id → Merge.Held directory id w.store w.locks i c
  apart : ∀ (i k : Nat) (c c' : Call τ) (id : Int), i ≠ k → w.calls[i]? = some c →
    w.calls[k]? = some c' → c.operation.mergeId? = some id → c'.operation.mergeId? = some id →
    Merge.Apart directory id c.journal c'.journal

variable {w w' : World τ} {i : Nat} {c : Call τ} {β : Type} {r : Request τ β}
  {next : β → Program τ (Except Error Answer)} {id : Int}

/-- A merge that is at a request may make it. -/
theorem Sound.may (h : w.Sound directory) (hc : w.calls[i]? = some c)
    (hr : c.rest = .ask r next) (hm : c.operation.mergeId? = some id) :
    Merge.May directory id c.journal r := by
  obtain ⟨name, actor, limit, hop⟩ := Operation.eq_merge hm
  have hs := (Call.sound_merge hop).1 (h.calls i c hc)
  rw [hr, Program.obeys_step] at hs
  exact hs.1

/-- A merge that has succeeded has marked its merge request. -/
theorem Sound.wrote (h : w.Sound directory) (hc : w.calls[i]? = some c)
    (hm : c.operation.mergeId? = some id) {a : Answer} (hdone : c.rest = .done (.ok a)) :
    c.journal.wrote = true := by
  obtain ⟨name, actor, limit, hop⟩ := Operation.eq_merge hm
  have hs := (Call.sound_merge hop).1 (h.calls i c hc)
  rw [hdone, Program.obeys_done] at hs
  obtain ⟨m, merger, -, -, success⟩ := hs
  exact success.wrote

/-- Whatever a call is answered, the locks of another merge remain its own. -/
theorem Guarded.keeps {b : β} {l : Locks} {k : Nat} (h : w.Guarded directory)
    (hc : w.calls[k]? = some c) (hr : c.rest = .ask r next)
    (hg : w.locks.Grants k c.process r b l) (hik : i ≠ k) : Merge.Keeps i w.locks l := by
  cases hop : c.operation.mergeId? with
  | none =>
    have hs := (Call.sound_quiet hop).1 (h.calls k c hc)
    rw [hr, Program.obeys_step] at hs
    exact Merge.keeps_of_quiet hs.1 hg
  | some id => exact (h.held k c id hc hop).keeps (h.may hc hr hop) hg hik

theorem guarded_fresh {s : Store} (hs : s.WellFormed) : (fresh s : World τ).Guarded directory :=
  { sound_fresh hs with
    held := fun i c id hc => by simp [fresh] at hc
    apart := fun i k c c' id _ hc => by simp [fresh] at hc }

variable [TimeScale τ] {allowed : Operation τ → Prop}

theorem Step.guarded (h : Step directory allowed w w') (hw : w.Guarded directory) :
    w'.Guarded directory := by
  have hsound := h.sound hw.toSound
  obtain ⟨now, heffect⟩ := h.effect hw.toSound
  have he := heffect.evolves
  cases h with
  | begin ok shared alone =>
    refine { hsound with
      held := fun i c id hc hm => ?_
      apart := fun i k c c' id hik hc hc' hm hm' => ?_ }
    · rcases call_of_concat hc with hc | ⟨-, rfl⟩
      · exact hw.held i c id hc hm
      · exact .begin rfl alone
    · rcases call_of_concat hc with hc | ⟨rfl, rfl⟩
      · rcases call_of_concat hc' with hc' | ⟨-, rfl⟩
        · exact hw.apart i k c c' id hik hc hc' hm hm'
        · exact .begin_right _
      · exact .begin_left _
  | @answer n c₀ β r next b s l call asks exchange grant =>
    refine { hsound with
      held := fun i c id hc hm => ?_
      apart := fun i k c c' id hik hc hc' hm hm' => ?_ }
    · rcases call_of_set hc with ⟨rfl, rfl⟩ | ⟨hi, hc⟩
      · exact (hw.held i c₀ id call hm).note (hw.may call asks hm) hw.store he exchange grant
      · exact (hw.held i c id hc hm).other he (hw.keeps call asks grant hi)
    -- Of the two calls the first, the second or neither has been answered.
    · rcases call_of_set hc with ⟨rfl, rfl⟩ | ⟨-, old⟩
      · rcases call_of_set hc' with ⟨rfl, -⟩ | ⟨-, old'⟩
        · exact absurd rfl hik
        · exact (hw.apart i k c₀ c' id hik call old' hm hm').note_left (hw.held k c' id old' hm')
            (hw.may call asks hm) exchange
      · rcases call_of_set hc' with ⟨rfl, rfl⟩ | ⟨-, old'⟩
        · exact (hw.apart i k c c₀ id hik old call hm hm').note_right hik (hw.held i c id old hm)
            (hw.held k c₀ id call hm') (hw.may call asks hm') exchange
        · exact hw.apart i k c c' id hik old old' hm hm'

theorem Run.guarded (h : Run directory allowed w w') (hw : w.Guarded directory) :
    w'.Guarded directory := by
  induction h with
  | refl => exact hw
  | tail _ hs ih => exact hs.guarded ih

theorem Reachable.guarded (h : Reachable directory w) : w.Guarded directory :=
  let ⟨u, run⟩ := h
  run.guarded (guarded_fresh (.empty u))

end World

end Forge
