import Forge.Proofs.Merge.Once
import Forge.Proofs.Permanence.Commits

/-!
# What lasts

Of two points of a run the later one keeps what the earlier one has recorded (`World.Lasting`). The
ids that a table gives out go up, so an id stands for one entity until that is removed, and for
nothing from then on. The facts of an entity stay as they were at its creation. A merge request that
is merged stays so: no call moves it out of that state or into it again, and a merge of it that
begins later keeps away from the working tree.
-/

namespace Forge

variable {τ : Type}

theorem Event.Adds.lt {e e' : Event τ} {t : TableName} {id id' : Int} (h : e.Adds t id)
    (h' : e'.Adds t id') (hlater : e.after.Evolves e'.before) : id < id' := by
  have hle := hlater.lastId_le t
  have hlast := h.last
  have hnext := h'.next
  omega

namespace World

variable {directory : Option String} {p q : World τ} {i : Nat} {c : Call τ} {id : Int}

/-- What a call that begins later does is not in the log yet. -/
theorem Recorded.not_mem_of_length_le (h : p.Recorded directory) {e : Event τ}
    (hnew : p.calls.length ≤ e.call) : e ∉ p.log := by
  intro he
  have hlt := h.known_lt he
  omega

/-- Of two events that have added rows to one table, the later has given out the higher id. -/
theorem Chronicle.increasing (h : q.Chronicle) {l₁ l₂ : List (Event τ)} {e e' : Event τ}
    {t : TableName} {id' : Int} (hlog : q.log = l₁ ++ e' :: l₂) (he : e ∈ l₂)
    (hadds : e.Adds t id) (hadds' : e'.Adds t id') : id < id' := by
  have hordered := h.ordered
  rw [hlog] at hordered
  have htail := (List.pairwise_append.1 hordered).2.1
  exact hadds.lt hadds' ((List.pairwise_cons.1 htail).1 e he)

variable [TimeScale τ] {allowed : Operation τ → Prop}

theorem Reachable.run (hp : p.Reachable directory) (hq : p.Run directory (fun _ => True) q) :
    q.Reachable directory :=
  hp.imp fun _ run => run.trans hq

/-- A merge that begins when its merge request is settled is late. -/
theorem Run.late (h : Run directory allowed p q) (hp : p.Sound directory)
    (hsettled : p.store.Settled id) (hnew : p.calls.length ≤ i) (hc : q.calls[i]? = some c)
    (hm : c.operation.mergeId? = some id) : Merge.Late id c.journal := by
  induction h generalizing c with
  | refl =>
    have hlt := (List.getElem?_eq_some_iff.1 hc).1
    omega
  | tail hrun hs ih =>
    rcases hs.call_cases hc with hold | ⟨policy, -, -, -, hj, -⟩ |
      ⟨c₀, β, r, next, b, hold, hr, -, -, rfl⟩
    · exact ih hold hm
    · rw [hj]
      exact ⟨rfl, nofun⟩
    -- Whatever it is answered, it can only have looked at a store in which `id` is settled.
    · have hmay := (Run.sound hrun hp).may hold hr hm
      exact (ih hold hm).note hmay (hsettled.evolves (Run.evolves hrun hp))

/-! ## The law -/

/-- What the later point `q` of a run keeps of the earlier point `p`. -/
structure Lasting (p q : World τ) : Prop where
  /-- A call that has returned what it has created has added its row to the table. -/
  created : ∀ (i : Nat) (c : Call τ) (a : Answer) (t : TableName) (id : Int),
    q.calls[i]? = some c → c.rest = .done (.ok a) → c.operation.created? a = some (t, id) →
      ∃ e ∈ q.log, e.call = i ∧ e.Adds t id
  /-- The ids of the rows that are added to a table go up. -/
  increasing : ∀ (l₁ l₂ : List (Event τ)) (e e' : Event τ) (t : TableName) (id id' : Int),
    q.log = l₁ ++ e' :: l₂ → e ∈ l₂ → e.Adds t id → e'.Adds t id' → id < id'
  /-- So do those that calls return of which one begins when the other has returned. -/
  successive : ∀ (i j : Nat) (c c' : Call τ) (a a' : Answer) (t : TableName) (id id' : Int),
    p.calls[i]? = some c → c.rest = .done (.ok a) → c.operation.created? a = some (t, id) →
      p.calls.length ≤ j → q.calls[j]? = some c' → c'.rest = .done (.ok a') →
        c'.operation.created? a' = some (t, id') → id < id'
  /-- What was created and is gone does not come back. -/
  gone : ∀ (t : TableName) (id : Int), (∃ e ∈ p.log, e.Adds t id) → id ∉ p.store.ids t →
    id ∉ q.store.ids t
  repositories : ∀ r ∈ p.store.repos.rows, ∀ r' ∈ q.store.repos.rows, r'.id = r.id → r' = r
  issues : ∀ r ∈ p.store.issues.rows, ∀ r' ∈ q.store.issues.rows, r'.id = r.id →
    Store.SameIssue r r'
  mergeRequests : ∀ r ∈ p.store.mergeRequests.rows, ∀ r' ∈ q.store.mergeRequests.rows,
    r'.id = r.id → Store.SameRequest r r'
  dependencies : ∀ d ∈ p.store.dependencies.rows, ∀ d' ∈ q.store.dependencies.rows,
    d'.id = d.id → d' = d
  /-- A merge request that is merged changes its state no more. -/
  unmoved : ∀ id, p.store.HasMerged id → ∃ l, q.log = l ++ p.log ∧ ∀ e ∈ l, ¬ e.Moves id
  /-- A call that has closed, reopened or merged it had done so before. -/
  moved : ∀ (i : Nat) (c : Call τ) (a : Answer) (id : Int), p.store.HasMerged id →
    q.calls[i]? = some c → c.rest = .done (.ok a) → c.operation.movedId? = some id →
      ∃ e ∈ p.log, e.call = i ∧ e.Moves id
  /-- A call that would do so and begins later does not succeed. -/
  refused : ∀ (i : Nat) (c : Call τ) (a : Answer) (id : Int), p.store.HasMerged id →
    p.calls.length ≤ i → q.calls[i]? = some c → c.operation.movedId? = some id →
      c.rest ≠ .done (.ok a)
  /-- A merge of it that begins later does not call the working tree. -/
  away : ∀ (i : Nat) (c : Call τ) (id : Int), p.store.HasMerged id → p.calls.length ≤ i →
    q.calls[i]? = some c → c.operation.mergeId? = some id →
      ¬ c.AtTree ∧ ∀ e ∈ q.log, e.call = i → e.request.isTreeCall = false

section

variable (hp : p.Reachable directory) (hq : p.Run directory (fun _ => True) q)

include hp hq

/-- What a call of `q` that has begun after `p` has done was done after `p`. -/
theorem Run.split_log {e : Event τ} (he : e ∈ q.log) (hnew : p.calls.length ≤ e.call) :
    ∃ l, q.log = l ++ p.log ∧ e ∈ l := by
  obtain ⟨l, hl, -⟩ := Run.log hq hp.sound
  refine ⟨l, hl, ?_⟩
  rw [hl] at he
  exact (List.mem_append.1 he).resolve_right (hp.recorded.not_mem_of_length_le hnew)

theorem Run.successive {j : Nat} {c' : Call τ} {a a' : Answer} {t : TableName} {id' : Int}
    (hc : p.calls[i]? = some c) (hdone : c.rest = .done (.ok a))
    (hcreated : c.operation.created? a = some (t, id)) (hnew : p.calls.length ≤ j)
    (hc' : q.calls[j]? = some c') (hdone' : c'.rest = .done (.ok a'))
    (hcreated' : c'.operation.created? a' = some (t, id')) : id < id' := by
  have hreach := hp.run hq
  obtain ⟨e, he, -, hadds⟩ := hp.added hc hdone hcreated
  obtain ⟨e', he', rfl, hadds'⟩ := hreach.added hc' hdone' hcreated'
  -- The event of the second call is not in the log of `p`, so it comes after that of the first.
  obtain ⟨l, hl, hmem⟩ := Run.split_log hp hq he' hnew
  have hordered := hreach.chronicle.ordered
  rw [hl] at hordered
  exact hadds.lt hadds' ((List.pairwise_append.1 hordered).2.2 e' hmem e he)

theorem Run.gone {e : Event τ} {t : TableName} (he : e ∈ p.log) (hadds : e.Adds t id)
    (hgone : id ∉ p.store.ids t) : id ∉ q.store.ids t := by
  have hle : id ≤ p.store.lastId t := by
    rw [← hadds.last]
    exact (hp.chronicle.later e he).lastId_le t
  exact (Run.evolves hq hp.sound).not_mem_ids hle hgone

theorem Run.unmoved (hmerged : p.store.HasMerged id) :
    ∃ l, q.log = l ++ p.log ∧ ∀ e ∈ l, ¬ e.Moves id := by
  have hsettled := hmerged.settled hp.sound.store
  obtain ⟨l, hl, hevolves⟩ := Run.log hq hp.sound
  refine ⟨l, hl, fun e he => ?_⟩
  obtain ⟨hbefore, hafter⟩ := hevolves e he
  exact (hsettled.evolves hbefore).not_moves (hsettled.evolves hafter)

theorem Run.moved {a : Answer} (hmerged : p.store.HasMerged id) (hc : q.calls[i]? = some c)
    (hdone : c.rest = .done (.ok a)) (hmoved : c.operation.movedId? = some id) :
    ∃ e ∈ p.log, e.call = i ∧ e.Moves id := by
  have hreach := hp.run hq
  obtain ⟨e, he, hcall, hmoves⟩ := hreach.moved hc hdone hmoved
  obtain ⟨l, hl, hunmoved⟩ := Run.unmoved hp hq hmerged
  rw [hl] at he
  rcases List.mem_append.1 he with he | he
  · exact absurd hmoves (hunmoved e he)
  · exact ⟨e, he, hcall, hmoves⟩

/-- **What is recorded lasts**, from any point of any run to any later one. -/
theorem recorded_lasts : Lasting p q where
  created i c a t id hc hdone hcreated := (hp.run hq).added hc hdone hcreated
  increasing l₁ l₂ e e' t id id' hlog he hadds hadds' :=
    (hp.run hq).chronicle.increasing hlog he hadds hadds'
  successive i j c c' a a' t id id' hc hdone hcreated hnew hc' hdone' hcreated' :=
    Run.successive hp hq hc hdone hcreated hnew hc' hdone' hcreated'
  gone t id hadded hgone := by
    obtain ⟨e, he, hadds⟩ := hadded
    exact Run.gone hp hq he hadds hgone
  repositories r hr r' hr' hid :=
    ((Run.evolves hq hp.sound).repos.same hp.sound.store.repos
      (fun _ _ hab => congrArg _ hab.symm) hr hr' hid).symm
  issues r hr r' hr' hid :=
    (Run.evolves hq hp.sound).issues.same hp.sound.store.issues (fun _ _ => Store.SameIssue.id)
      hr hr' hid
  mergeRequests r hr r' hr' hid :=
    (Run.evolves hq hp.sound).mergeRequests.same hp.sound.store.mergeRequests
      (fun _ _ => Store.SameRequest.id) hr hr' hid
  dependencies d hd d' hd' hid :=
    ((Run.evolves hq hp.sound).dependencies.same hp.sound.store.dependencies
      (fun _ _ hab => congrArg _ hab.symm) hd hd' hid).symm
  unmoved id hmerged := Run.unmoved hp hq hmerged
  moved i c a id hmerged hc hdone hmoved := Run.moved hp hq hmerged hc hdone hmoved
  refused i c a id hmerged hnew hc hmoved hdone := by
    obtain ⟨e, he, rfl, -⟩ := Run.moved hp hq hmerged hc hdone hmoved
    exact hp.recorded.not_mem_of_length_le hnew he
  away i c id hmerged hnew hc hm := by
    have hlate := Run.late hq hp.sound (hmerged.settled hp.sound.store) hnew hc hm
    exact (hp.run hq).recorded.away_of_late hc hm hlate

end

/-- A schedule in which an issue is removed and a merge request is merged. -/
def earlier : List (Move Binary64) :=
  [.call (.registerRepository "one" "/one"), .serve 0 50,
    .call (.createIssue "one" (some "ann") "First" (some "")), .serve 1 50,
    .call (.createIssue "one" (some "ann") "Second" (some "")), .serve 2 50,
    .call (.createMergeRequest "one" (some "ann") "Add a feature" "feature" "main" (some "")),
    .serve 3 50,
    .call (.deleteIssue "one" 2), .serve 4 50,
    .call (.merge "one" 1 (some "bob") none), .serve 5 50]

/-- One that goes on with an issue, one that has no title, a repository with an issue that is
removed again, another issue, and attempts to close, reopen and merge the merged merge request. -/
def later : List (Move Binary64) :=
  [.call (.createIssue "one" (some "ann") "Third" (some "")), .serve 6 50,
    .call (.createIssue "one" (some "ann") " " (some "")), .serve 7 50,
    .call (.registerRepository "two" "/two"), .serve 8 50,
    .call (.createIssue "two" (some "ann") "Fourth" (some "")), .serve 9 50,
    .call (.removeRepository "two"), .serve 10 50,
    .call (.createIssue "one" (some "ann") "Fifth" (some "")), .serve 11 50,
    .call (.closeMergeRequest "one" 1 (some "eve")), .serve 12 50,
    .call (.reopenMergeRequest "one" 1), .serve 13 50,
    .call (.merge "one" 1 (some "eve") none), .serve 14 50]

/-- The world between the two schedules. -/
def earlierWorld : World Binary64 :=
  (fresh .empty).replay earlier

/-- The world after them. -/
def laterWorld : World Binary64 :=
  earlierWorld.replay later

/-- The law between the two schedules and after them: neither the removed issue nor the removed
repository is back, and the merge request is as it was. -/
theorem recorded_lasts_of_attempts : earlierWorld.Reachable none ∧
    earlierWorld.Run none (fun _ => True) laterWorld ∧
    earlierWorld.store.ids .issues = [1] ∧ earlierWorld.store.lastId .issues = 2 ∧
    laterWorld.store.ids .issues = [1, 3, 5] ∧ laterWorld.store.ids .repos = [1] ∧
    earlierWorld.store.HasMerged 1 ∧
    laterWorld.store.mergeRequests.rows = earlierWorld.store.mergeRequests.rows ∧
    ([12, 13, 14].map fun i => (laterWorld.answered i).map fun a => a.2.isOk) =
      [some false, some false, some false] ∧
    Lasting earlierWorld laterWorld := by
  have hp : earlierWorld.Reachable none := replay_reachable earlier
  have hq : earlierWorld.Run none (fun _ => True) laterWorld := replay_run fun _ _ => trivial
  have merged : earlierWorld.store.HasMerged 1 := by
    unfold Store.HasMerged
    decide +kernel
  exact ⟨hp, hq, by decide +kernel, by decide +kernel, by decide +kernel, by decide +kernel,
    merged, by decide +kernel, by decide +kernel, recorded_lasts hp hq⟩

end World

end Forge
