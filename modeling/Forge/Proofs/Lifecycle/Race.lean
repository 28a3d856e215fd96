import Forge.Proofs.Lifecycle.Swap

/-!
# Races for one ticket

Callers that ask for the same transition of the same ticket ask one after the other, since each
asks in a transaction. `Race` is such a row of calls, by any actors at any times, with anything done
elsewhere in between. The first call makes the transition if the ticket is in the state that it
starts from, and all others are refused; otherwise all of them are. `CompareAndSwap` puts this
together with what a single call does, and with what is left of a ticket that is closed and
reopened.
-/

namespace Forge.Lifecycle

open Transaction Ticket Transition

/-- Something has been done to a store, but not to the ticket of a repository and an id. -/
structure Aside (ρ : Type) {ε : Type} [Ticket ρ ε] (repoId id : Int) (s s' : Store) : Prop where
  effect : ∃ now, Effect now s s'
  same : ∀ r : ρ, RowAt repoId id r s' ↔ RowAt repoId id r s

theorem Aside.refl (ρ : Type) {ε : Type} [Ticket ρ ε] (repoId id : Int) (s : Store) :
    Aside ρ repoId id s s :=
  ⟨⟨0, .nothing⟩, fun _ => Iff.rfl⟩

/-- A call of a transition: by whom, when, and how it has ended. -/
structure Attempt (ε : Type) where
  actor : Option String
  now : Int
  result : Except Error ε

/-- Calls of a transition on one ticket, in the order in which they are made, take one store to
another. -/
inductive Race (ρ : Type) {ε : Type} [Ticket ρ ε] (t : Transition) (repoId id : Int) :
    Store → List (Attempt ε) → Store → Prop
  | nobody {s : Store} : Race ρ t repoId id s [] s
  | aside {s s₁ s' : Store} {as : List (Attempt ε)} (elsewhere : Aside ρ repoId id s s₁)
      (rest : Race ρ t repoId id s₁ as s') : Race ρ t repoId id s as s'
  | attempt {s s₁ s' : Store} {a : Attempt ε} {as : List (Attempt ε)} (time : fits a.now = true)
      (admitted : t.Admits a.actor) (taken : t.Takes s.surrogates a.actor)
      (outcome : (apply ρ a.now repoId id t.name a.actor).commit s = (a.result, s₁))
      (rest : Race ρ t repoId id s₁ as s') : Race ρ t repoId id s (a :: as) s'

variable {ρ ε : Type} [Ticket ρ ε] [LawfulTicket ρ] {s s' : Store} {t : Transition}
  {now repoId id : Int} {actor : Option String} {b : Except Error ε}

omit [LawfulTicket ρ] in
theorem Race.call {as : List (Attempt ε)} (time : fits now = true) (admitted : t.Admits actor)
    (taken : t.Takes s.surrogates actor)
    (rest : Race ρ t repoId id ((apply ρ now repoId id t.name actor).commit s).2 as s') :
    Race ρ t repoId id s
      (⟨actor, now, ((apply ρ now repoId id t.name actor).commit s).1⟩ :: as) s' :=
  .attempt time admitted taken rfl rest

/-! ## One call -/

/-- A swap of a row in the source state has succeeded. -/
theorem Swap.of_source (h : Swap ρ t now repoId id actor s b s') (hs : s.WellFormed) {r : ρ}
    (row : RowAt repoId id r s) (source : state r = t.source) :
    ∃ e, b = .ok e ∧ read? (setAll (t.assignments actor now) r) = some e ∧
      s' = setTable ((table s).modify (isSource (ρ := ρ) t repoId id)
        (setAll (t.assignments actor now))) s := by
  cases h with
  | made row' _ reads =>
    obtain rfl := row.unique hs row'
    exact ⟨_, rfl, reads, rfl⟩
  | refused row' other =>
    obtain rfl := row.unique hs row'
    exact absurd source other
  | missing none => exact absurd row (none r)

/-- A swap of a row in another state was refused, and says which. -/
theorem Swap.of_other (h : Swap ρ t now repoId id actor s b s') (hs : s.WellFormed) {r : ρ}
    (row : RowAt repoId id r s) (other : state r ≠ t.source) :
    b = .error (.invalidState t.name (kind ρ) id (state r) t.source) ∧ s' = s := by
  cases h with
  | made row' source _ =>
    obtain rfl := row.unique hs row'
    exact absurd source other
  | refused row' _ =>
    obtain rfl := row.unique hs row'
    exact ⟨rfl, rfl⟩
  | missing none => exact absurd row (none r)

omit [LawfulTicket ρ] in
theorem Swap.of_missing (h : Swap ρ t now repoId id actor s b s')
    (none : ∀ r : ρ, ¬ RowAt repoId id r s) :
    b = .error (.notFound (.ticket (kind ρ) id)) ∧ s' = s := by
  cases h with
  | made row => exact absurd row (none _)
  | refused row => exact absurd row (none _)
  | missing => exact ⟨rfl, rfl⟩

omit [LawfulTicket ρ] in
theorem Swap.of_not_source (h : Swap ρ t now repoId id actor s b s')
    (none : ¬ ∃ r : ρ, RowAt repoId id r s ∧ state r = t.source) :
    (∃ error, b = .error error) ∧ s' = s := by
  cases h with
  | made row source => exact absurd ⟨_, row, source⟩ none
  | refused => exact ⟨⟨_, rfl⟩, rfl⟩
  | missing => exact ⟨⟨_, rfl⟩, rfl⟩

/-- The three ends of a swap are told apart by the row that is there. -/
theorem Swap.ok_iff (h : Swap ρ t now repoId id actor s b s') (hs : s.WellFormed) :
    (∃ e, b = .ok e) ↔ ∃ r : ρ, RowAt repoId id r s ∧ state r = t.source := by
  constructor
  · rintro ⟨e, rfl⟩
    cases h with
    | made row source => exact ⟨_, row, source⟩
  · rintro ⟨r, row, source⟩
    obtain ⟨e, he, -⟩ := h.of_source hs row source
    exact ⟨e, he⟩

omit [LawfulTicket ρ] in
theorem Swap.notFound_iff (h : Swap ρ t now repoId id actor s b s') :
    (∃ what, b = .error (.notFound what)) ↔ ¬ ∃ r : ρ, RowAt repoId id r s := by
  constructor
  · rintro ⟨what, rfl⟩ ⟨r, row⟩
    cases h with
    | missing none => exact none r row
  · intro none
    exact ⟨_, (h.of_missing fun r row => none ⟨r, row⟩).1⟩

theorem Swap.invalidState_iff (h : Swap ρ t now repoId id actor s b s') (hs : s.WellFormed) :
    (∃ verb kind id' current expected, b = .error (.invalidState verb kind id' current expected)) ↔
      ∃ r : ρ, RowAt repoId id r s ∧ state r ≠ t.source := by
  constructor
  · rintro ⟨verb, kind, id', current, expected, rfl⟩
    cases h with
    | refused row other => exact ⟨_, row, other⟩
  · rintro ⟨r, row, other⟩
    exact ⟨_, _, _, _, _, (h.of_other hs row other).1⟩

section Calls

variable (hs : s.WellFormed) (ht : t ∈ ofKind (kind ρ)) (h₁ : fits repoId = true)
  (h₂ : fits id = true)

include hs ht h₁ h₂

/-- A transition that is committed is a swap. -/
theorem swap_of_commit (ha : t.Admits actor) (taken : t.Takes s.surrogates actor)
    (hn : fits now = true)
    (h : (apply ρ now repoId id t.name actor).commit s = (b, s')) :
    Swap ρ t now repoId id actor s b s' := by
  have swapped := swap hs ht ha taken hn h₁ h₂
  rw [h] at swapped
  exact swapped

/-- A call that finds its ticket in the source state leaves a well-formed store in which the row has
been replaced. -/
theorem commit_of_source (ha : t.Admits actor) (taken : t.Takes s.surrogates actor)
    (hn : fits now = true) {r : ρ} (row : RowAt repoId id r s) (source : state r = t.source)
    (h : (apply ρ now repoId id t.name actor).commit s = (b, s')) :
    (∃ e, b = .ok e) ∧ s'.WellFormed ∧
      RowAt repoId id (setAll (t.assignments actor now) r) s' ∧
      state (setAll (t.assignments actor now) r) = t.target := by
  have hv := LawfulTicket.fitting (ρ := ρ) ht now ha
  obtain ⟨e, rfl, -, rfl⟩ := (swap_of_commit hs ht h₁ h₂ ha taken hn h).of_source hs row source
  exact ⟨⟨e, rfl⟩, LawfulTicket.modified hs hv.id hv.read, modified_row hv row source, hv.state r⟩

end Calls

/-! ## Many calls -/

namespace Race

variable {as : List (Attempt ε)} (h : Race ρ t repoId id s as s') (hs : s.WellFormed)
  (ht : t ∈ ofKind (kind ρ)) (h₁ : fits repoId = true) (h₂ : fits id = true)

include h hs ht h₁ h₂

theorem refused {r : ρ} (row : RowAt repoId id r s) (other : state r ≠ t.source) :
    (∀ a ∈ as, a.result = .error (.invalidState t.name (kind ρ) id (state r) t.source)) ∧
      RowAt repoId id r s' := by
  induction h with
  | nobody => exact ⟨fun _ ha => absurd ha List.not_mem_nil, row⟩
  | aside elsewhere rest ih =>
    obtain ⟨now, he⟩ := elsewhere.effect
    exact ih (he.wellFormed hs) ((elsewhere.same r).2 row)
  | attempt time admitted taken outcome rest ih =>
    obtain ⟨hresult, rfl⟩ :=
      (swap_of_commit hs ht h₁ h₂ admitted taken time outcome).of_other hs row other
    obtain ⟨results, row'⟩ := ih hs row
    exact ⟨List.forall_mem_cons.2 ⟨hresult, results⟩, row'⟩

/-- Nobody wins where there is nothing to win. -/
theorem lost (none : ¬ ∃ r : ρ, RowAt repoId id r s ∧ state r = t.source) :
    (∀ a ∈ as, ∃ error, a.result = .error error) ∧
      ∀ r : ρ, RowAt repoId id r s' ↔ RowAt repoId id r s := by
  induction h with
  | nobody => exact ⟨fun _ ha => absurd ha List.not_mem_nil, fun _ => Iff.rfl⟩
  | aside elsewhere rest ih =>
    obtain ⟨now, he⟩ := elsewhere.effect
    obtain ⟨results, same⟩ := ih (he.wellFormed hs) fun ⟨r, row, source⟩ =>
      none ⟨r, (elsewhere.same r).1 row, source⟩
    exact ⟨results, fun r => (same r).trans (elsewhere.same r)⟩
  | attempt time admitted taken outcome rest ih =>
    obtain ⟨hresult, rfl⟩ :=
      (swap_of_commit hs ht h₁ h₂ admitted taken time outcome).of_not_source none
    obtain ⟨results, same⟩ := ih hs none
    exact ⟨List.forall_mem_cons.2 ⟨hresult, results⟩, same⟩

/-- The first call wins: after it the ticket is in the target state, where others are refused. -/
theorem won {r : ρ} (row : RowAt repoId id r s) (source : state r = t.source) (some : as ≠ []) :
    ∃ a rest, as = a :: rest ∧ t.Admits a.actor ∧ (∃ e, a.result = .ok e) ∧
      (∀ c ∈ rest, c.result = .error (.invalidState t.name (kind ρ) id t.target t.source)) ∧
      RowAt repoId id (setAll (t.assignments a.actor a.now) r) s' := by
  induction h with
  | nobody => exact absurd rfl some
  | aside elsewhere rest ih =>
    obtain ⟨now, he⟩ := elsewhere.effect
    exact ih (he.wellFormed hs) ((elsewhere.same r).2 row) some
  | attempt time admitted taken outcome rest =>
    obtain ⟨succeeds, wf, row', target⟩ :=
      commit_of_source hs ht h₁ h₂ admitted taken time row source outcome
    -- From here on the ticket is in the target state, which the transition does not start from.
    have moved := target_ne_source ht
    rw [← target] at moved
    obtain ⟨results, row'⟩ := rest.refused wf ht h₁ h₂ row' moved
    rw [target] at results
    exact ⟨_, _, rfl, admitted, succeeds, results, row'⟩

end Race

/-! ## The law -/

/-- What one call of a transition does to a store: it compares the state of the ticket and swaps the
row. The row after the transition is `after`. -/
structure Swaps (after : Transition → Int → Option String → ρ → ρ) (t : Transition)
    (now repoId id : Int) (actor : Option String) (s : Store) : Prop where
  /-- It succeeds exactly if the ticket is in the state that it starts from. -/
  succeeds : (∃ e, ((apply ρ now repoId id t.name actor).commit s).1 = .ok e) ↔
    ∃ r : ρ, RowAt repoId id r s ∧ state r = t.source
  /-- It does not find the ticket exactly if there is no such row. -/
  missing : (∃ what, ((apply ρ now repoId id t.name actor).commit s).1 = .error (.notFound what)) ↔
    ¬ ∃ r : ρ, RowAt repoId id r s
  /-- It is refused for the state exactly if the ticket is in another one. -/
  refused : (∃ verb kind id' current expected,
      ((apply ρ now repoId id t.name actor).commit s).1 =
        .error (.invalidState verb kind id' current expected)) ↔
    ∃ r : ρ, RowAt repoId id r s ∧ state r ≠ t.source
  /-- If it succeeds, one row is replaced, and answered as it then is. -/
  swaps : ∀ e s', (apply ρ now repoId id t.name actor).commit s = (.ok e, s') →
    ∃ (r : ρ) (rows : Table ρ), RowAt repoId id r s ∧
      (table s).Replaces r (after t now actor r) rows ∧ s' = setTable rows s ∧
      read? (after t now actor r) = some e
  /-- If it fails, nothing has changed. -/
  keeps : ∀ error s', (apply ρ now repoId id t.name actor).commit s = (.error error, s') → s' = s

/-- The transitions of a kind of tickets compare and swap, on this store. -/
structure CompareAndSwap (ρ : Type) {ε : Type} [Ticket ρ ε]
    (after : Transition → Int → Option String → ρ → ρ) (s : Store) : Prop where
  /-- Each call does. -/
  once : ∀ t ∈ ofKind (kind ρ), ∀ now repoId id actor, fits now = true → fits repoId = true →
    fits id = true → t.Admits actor → t.Takes s.surrogates actor →
      Swaps after t now repoId id actor s
  /-- One in a name that has no UTF-8 form is refused for that, and changes nothing. -/
  unwritable : ∀ t ∈ ofKind (kind ρ), t.stamps ≠ [] → ∀ now repoId id name fault,
    s.surrogates.fault? name = some fault →
      (apply ρ now repoId id t.name (some name)).commit s = (.error (.unwritable fault), s)
  /-- Of many calls on a ticket in the source state just the first succeeds, and the row is left as
  that call has made it. -/
  oneWinner : ∀ t ∈ ofKind (kind ρ), ∀ repoId id, fits repoId = true → fits id = true →
    ∀ (r : ρ), RowAt repoId id r s → state r = t.source →
      ∀ as s', Race ρ t repoId id s as s' → as ≠ [] →
        ∃ a rest, as = a :: rest ∧ (∃ e, a.result = .ok e) ∧
          (∀ c ∈ rest, c.result = .error (.invalidState t.name (kind ρ) id t.target t.source)) ∧
          RowAt repoId id (after t a.now a.actor r) s'
  /-- Of many calls on any other ticket none succeeds, and it stays as it is. -/
  noWinner : ∀ t ∈ ofKind (kind ρ), ∀ repoId id, fits repoId = true → fits id = true →
    (¬ ∃ r : ρ, RowAt repoId id r s ∧ state r = t.source) →
      ∀ as s', Race ρ t repoId id s as s' →
        (∀ a ∈ as, ∃ error, a.result = .error error) ∧
          ∀ r : ρ, RowAt repoId id r s' ↔ RowAt repoId id r s
  /-- A ticket that is closed and reopened is as it was, but for the time of its update. -/
  undone : ∀ repoId id, fits repoId = true → fits id = true →
    ∀ (r : ρ), RowAt repoId id r s → state r = "open" → ∀ now now' actor actor',
      fits now = true → fits now' = true → closing.Admits actor →
        closing.Takes s.surrogates actor →
          ∃ e s₁, (apply ρ now repoId id "close" actor).commit s = (.ok e, s₁) ∧
            ∀ s₂, Aside ρ repoId id s₁ s₂ →
              ∃ e' s', (apply ρ now' repoId id "reopen" actor').commit s₂ = (.ok e', s') ∧
                RowAt repoId id (setAll [("updated_at", .int now')] r) s'

section Law

variable {after : Transition → Int → Option String → ρ → ρ} (hs : s.WellFormed)

include hs

theorem swaps_of_wellFormed (ht : t ∈ ofKind (kind ρ)) (ha : t.Admits actor)
    (taken : t.Takes s.surrogates actor) (hn : fits now = true) (h₁ : fits repoId = true)
    (h₂ : fits id = true)
    (hafter : ∀ r : ρ, setAll (t.assignments actor now) r = after t now actor r) :
    Swaps after t now repoId id actor s := by
  have swapped := swap hs ht ha taken hn h₁ h₂
  refine ⟨swapped.ok_iff hs, swapped.notFound_iff, swapped.invalidState_iff hs,
    fun e s' h => ?_, fun error s' h => ?_⟩
  · have swapped := swap_of_commit hs ht h₁ h₂ ha taken hn h
    cases swapped with
    | @made r _ row source reads =>
      rw [hafter r] at reads
      refine ⟨r, _, row, ?_, rfl, reads⟩
      rw [← hafter r]
      refine (LawfulTicket.numbered hs).modify_replaces row.mem
        ((isSource_iff hs row row.mem).2 ⟨rfl, source⟩) fun c hc hsource => ?_
      rw [((isSource_iff hs row hc).1 hsource).1]
  · have swapped := swap_of_commit hs ht h₁ h₂ ha taken hn h
    cases swapped with
    | refused => rfl
    | missing => rfl

/-- Who reopens a closed ticket leaves no trace of the closing, since an open ticket had none
before. -/
theorem undone_of_audited (haudit : s.Audited) (h₁ : fits repoId = true) (h₂ : fits id = true)
    {r : ρ} (row : RowAt repoId id r s) (hopen : state r = "open") {now' : Int}
    {actor' : Option String} (hn : fits now = true) (hn' : fits now' = true)
    (ha : closing.Admits actor) (taken : closing.Takes s.surrogates actor) :
    ∃ e s₁, (apply ρ now repoId id "close" actor).commit s = (.ok e, s₁) ∧
      ∀ s₂, Aside ρ repoId id s₁ s₂ →
        ∃ e' s', (apply ρ now' repoId id "reopen" actor').commit s₂ = (.ok e', s') ∧
          RowAt repoId id (setAll [("updated_at", .int now')] r) s' := by
  obtain ⟨⟨e, he⟩, wf, row₁, state₁⟩ :=
    commit_of_source hs (closing_mem _) h₁ h₂ ha taken hn row hopen rfl
  refine ⟨e, _, Prod.ext he rfl, fun s₂ elsewhere => ?_⟩
  obtain ⟨time, effect⟩ := elsewhere.effect
  have row₂ := (elsewhere.same _).2 row₁
  have reopens : reopening.Admits actor' := .inl rfl
  obtain ⟨⟨e', he'⟩, -, row', -⟩ :=
    commit_of_source (effect.wellFormed wf) (reopening_mem _) h₁ h₂ reopens (.inl rfl) hn' row₂
      state₁ rfl
  rw [LawfulTicket.restored haudit row.mem hopen ha] at row'
  exact ⟨e', _, Prod.ext he' rfl, row'⟩

theorem compareAndSwap_of_wellFormed (haudit : s.Audited)
    (hafter : ∀ t ∈ ofKind (kind ρ), ∀ actor now (r : ρ), t.Admits actor →
      setAll (t.assignments actor now) r = after t now actor r) :
    CompareAndSwap ρ after s where
  once t ht now repoId id actor hn h₁ h₂ ha taken :=
    swaps_of_wellFormed hs ht ha taken hn h₁ h₂ fun r => hafter t ht actor now r ha
  unwritable t ht stamped now repoId id name fault refused := by
    unfold apply
    rw [named?_name ht]
    exact commit_of_fails (follow_of_unwritable hs ht stamped refused)
  oneWinner t ht repoId id h₁ h₂ r row source as s' race some := by
    obtain ⟨a, rest, has, admitted, succeeds, results, row'⟩ :=
      race.won hs ht h₁ h₂ row source some
    rw [hafter t ht a.actor a.now r admitted] at row'
    exact ⟨a, rest, has, succeeds, results, row'⟩
  noWinner t ht repoId id h₁ h₂ none as s' race := race.lost hs ht h₁ h₂ none
  undone repoId id h₁ h₂ r row hopen now now' actor actor' hn hn' ha taken :=
    undone_of_audited hs haudit h₁ h₂ row hopen hn hn' ha taken

end Law

/-- **Transitions compare and swap**, of issues and of merge requests, in every reachable world. -/
theorem compareAndSwap {τ : Type} [TimeScale τ] {directory : Option String} {w : World τ}
    (h : w.Reachable directory) :
    CompareAndSwap StoredIssue onIssue w.store ∧
      CompareAndSwap StoredMergeRequest onMergeRequest w.store :=
  ⟨compareAndSwap_of_wellFormed h.sound.store h.audited
      fun _ ht actor now r ha => setAll_issue ht actor now r ha,
    compareAndSwap_of_wellFormed h.sound.store h.audited
      fun _ ht actor now r ha => setAll_mergeRequest ht actor now r ha⟩

/-- The store of a forge with an open issue and a closed one. -/
def rivals : World Binary64 :=
  (World.fresh .empty).replay [.call (.registerRepository "one" "/one"), .serve 0 50,
    .call (.createIssue "one" (some "ann") "First" (some "")), .serve 1 50,
    .call (.createIssue "one" (some "ann") "Second" (some "")), .serve 2 50,
    .call (.closeIssue "one" 2 (some "ann")), .serve 3 50]

/-- The law at two callers who close the open issue, the second at an earlier time of day, and at
one who closes it and reopens it at once. -/
theorem compareAndSwap_of_rivals : rivals.Reachable none ∧
    (∃ as s', Race StoredIssue closing 1 1 rivals.store as s' ∧
      as.map (·.actor) = [some "eve", some "bob"] ∧ as.map (·.result.isOk) = [true, false] ∧
      RowAt (ρ := StoredIssue) 1 1
        ⟨1, 1, "First", "", "closed", "ann", some "eve", some 5, 0, 5⟩ s') ∧
    (∃ e s₁ e' s',
      (apply StoredIssue 5 1 1 "close" (some "eve")).commit rivals.store = (.ok e, s₁) ∧
      (apply StoredIssue 7 1 1 "reopen" none).commit s₁ = (.ok e', s') ∧
      RowAt (ρ := StoredIssue) 1 1
        ⟨1, 1, "First", "", "open", "ann", none, none, 0, 7⟩ s') ∧
    CompareAndSwap StoredIssue onIssue rivals.store ∧
    CompareAndSwap StoredMergeRequest onMergeRequest rivals.store := by
  have reached : rivals.Reachable none := World.replay_reachable _
  have laws := compareAndSwap reached
  have writable (name : String) (low : name.toList.all (·.toNat < 0xf0000) = true)
      {u : Text.Surrogates} : closing.Takes u (some name) :=
    .inr fun _ he => Option.some.inj he ▸ Text.Surrogates.writable_of_lt low
  have race : Race StoredIssue closing 1 1 rivals.store
      [⟨some "eve", 5, _⟩, ⟨some "bob", 3, _⟩] _ :=
    .call rfl (.inr ⟨_, rfl, by decide⟩) (writable _ (by decide))
      (.call rfl (.inr ⟨_, rfl, by decide⟩) (writable _ (by decide)) .nobody)
  have first : RowAt (ρ := StoredIssue) 1 1
      ⟨1, 1, "First", "", "open", "ann", none, none, 0, 0⟩ rivals.store :=
    ⟨by decide +kernel, rfl, rfl⟩
  obtain ⟨a, rest, has, ⟨e, he⟩, results, row⟩ := laws.1.oneWinner closing (closing_mem _) 1 1 rfl
    rfl _ first rfl _ _ race nofun
  obtain ⟨rfl, rfl⟩ := List.cons.inj has
  obtain ⟨closed, s₁, closes, reopens⟩ := laws.1.undone 1 1 rfl rfl _ first rfl 5 7 (some "eve")
    none rfl rfl (.inr ⟨_, rfl, by decide⟩) (writable _ (by decide))
  obtain ⟨reopened, s', reopens, row'⟩ := reopens s₁ (.refl ..)
  refine ⟨reached, ⟨_, _, race, rfl, ?_, row⟩, ⟨_, _, _, _, closes, reopens, row'⟩, laws⟩
  rw [List.map_cons, List.map_cons, he, results _ List.mem_cons_self]
  rfl

/-- Not everybody who is named can close the open issue: nobody whose name has no UTF-8 form can. -/
theorem not_swaps_of_loneByte : rivals.Reachable none ∧
    RowAt (ρ := StoredIssue) 1 1
      ⟨1, 1, "First", "", "open", "ann", none, none, 0, 0⟩ rivals.store ∧
    closing.Admits (some Text.loneByte) ∧
    ¬ Swaps onIssue closing 5 1 1 (some Text.loneByte) rivals.store := by
  have reached : rivals.Reachable none := World.replay_reachable _
  have first : RowAt (ρ := StoredIssue) 1 1
      ⟨1, 1, "First", "", "open", "ann", none, none, 0, 0⟩ rivals.store :=
    ⟨by decide +kernel, rfl, rfl⟩
  refine ⟨reached, first, .inr ⟨_, rfl, by decide⟩, fun swaps => ?_⟩
  obtain ⟨e, he⟩ := swaps.succeeds.2 ⟨_, first, rfl⟩
  have refused : (apply StoredIssue 5 1 1 "close" (some Text.loneByte)).Fails rivals.store _ :=
    follow_of_unwritable reached.sound.store (closing_mem .issue) (List.cons_ne_nil _ _)
      Text.fault?_loneByte
  have failed := commit_of_fails refused
  exact nomatch he.symm.trans (congrArg Prod.fst failed)

end Forge.Lifecycle
