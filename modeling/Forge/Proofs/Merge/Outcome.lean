import Forge.Proofs.Noted
import Forge.Proofs.Replay

/-!
# The outcome of a merge

A merge changes the working tree and then the store, and no transaction spans both. The law of its
outcome says when the two are out of step without the caller being told: a merge whose branches
have been merged returns the merge request as it was marked merged, or ends in the error that it is
not recorded and has changed nothing, unless the name of who merges has no UTF-8 form, which the
store refuses in other words; any other merge fails and has changed nothing.
-/

namespace Forge.Merge

variable {τ : Type}

/-- The law of the outcome of a merge of the merge request `id` for an actor. -/
structure Lawful (surrogates : Text.Surrogates) (id : Int) (actor : Option String) (j : Journal)
    (result : Except Error Answer) : Prop where
  /-- Once merged in the working tree, it is recorded and returned, or reported as unrecorded, or
  refused for the name of who merges. -/
  merged : j.Merged →
    (∃ m merger, result = .ok (.mergeRequest m) ∧ cleanActor actor = .ok merger ∧
      Success id merger m j) ∨
    (∃ name request reason, result = .error (.unrecorded name request reason) ∧
      request.id = id ∧ j.Unchanged) ∨
    ∃ merger fault, cleanActor actor = .ok merger ∧ surrogates.fault? merger = some fault ∧
      result = .error (.unwritable fault) ∧ j.Unchanged
  /-- Not merged in the working tree, it fails, and is unrecorded only if it has landed. -/
  not_merged : ¬ j.Merged →
    ∃ e, result = .error e ∧ j.Unchanged ∧ (e.isUnrecorded = true ↔ j.Landed)

section

variable {surrogates : Text.Surrogates} {id : Int} {actor : Option String} {j : Journal}

/-- `same` says that the stores of the journal have the surrogates of the law. -/
theorem Failure.lawful {e : Error} (h : Failure id actor e j)
    (same : ∀ p ∈ j.commits, p.2.surrogates = surrogates) :
    Lawful surrogates id actor j (.error e) := by
  cases h with
  | unrecorded found landed _ _ _ unchanged =>
    exact
      { merged := fun _ => .inr (.inl ⟨_, _, _, rfl, found, unchanged⟩)
        not_merged := fun hm => ⟨_, rfl, unchanged, fun _ => landed.resolve_left hm, fun _ => rfl⟩ }
  | unwritable clean refused seen merged _ _ unchanged =>
    exact
      { merged := fun _ =>
          .inr (.inr ⟨_, _, clean, same _ seen ▸ refused, rfl, unchanged⟩)
        not_merged := fun hm => absurd merged hm }
  | refused kind merged landed _ _ unchanged =>
    exact
      { merged := fun hm => absurd hm merged
        not_merged := fun _ => ⟨e, rfl, unchanged, fun he => (nomatch he.symm.trans kind),
          fun hl => absurd hl landed⟩ }

theorem Ends.lawful {result : Except Error Answer} (h : Ends id actor result j)
    (same : ∀ p ∈ j.commits, p.2.surrogates = surrogates) :
    Lawful surrogates id actor j result := by
  cases result with
  | error e => exact Failure.lawful h same
  | ok a =>
    obtain ⟨m, merger, rfl, ha, hs⟩ := h
    exact
      { merged := fun _ => .inl ⟨m, merger, rfl, ha, hs⟩
        not_merged := fun hm => absurd hs.merged hm }

end

/-- **The outcome of a merge.** In every reachable world, each call of a merge that has ended has
an outcome by the law; and each that has not will have one if it is let run, unless it waits
without a limit for a lock that another call holds. -/
theorem outcome [TimeScale τ] {directory : Option String} {w : World τ} {i : Nat} {c : Call τ}
    {name : String} {id : Int} {actor : Option String} {limit : Option τ}
    (h : w.Reachable directory) (hc : w.calls[i]? = some c)
    (hop : c.operation = .merge name id actor limit) :
    (∀ result, c.rest = .done result → Lawful w.store.surrogates id actor c.journal result) ∧
      ∃ w' c', w.Run directory (fun _ => False) w' ∧ w'.calls[i]? = some c' ∧
        c'.Rests w'.locks ∧ (∀ k, k ≠ i → w'.calls[k]? = w.calls[k]?) ∧
        ∀ result, c'.rest = .done result →
          Lawful w.store.surrogates id actor c'.journal result := by
  have law {w : World τ} {c : Call τ} (sound : w.Sound directory) (chronicle : w.Chronicle)
      (hc : w.calls[i]? = some c) (hop : c.operation = .merge name id actor limit)
      (result : Except Error Answer) (hr : c.rest = .done result) :
      Lawful w.store.surrogates id actor c.journal result := by
    have hs := (Call.sound_merge hop).1 (sound.calls i c hc)
    rw [hr, Program.obeys_done] at hs
    exact hs.lawful (chronicle.surrogates hc)
  refine ⟨law h.sound h.chronicle hc hop, ?_⟩
  obtain ⟨w', c', hrun, hc', hop', hrest, hothers⟩ := World.comes_to_rest hc
  refine ⟨w', c', hrun, hc', hrest, hothers, ?_⟩
  rw [← (hrun.evolves h.sound).surrogates]
  exact law (hrun.sound h.sound) (hrun.chronicle h.sound h.chronicle) hc' (hop'.trans hop)

/-- A schedule in which every caller waits for the one before, and the last one merges. -/
def politeMerge : List (Move Binary64) :=
  [.call (.registerRepository "one" "/one"), .serve 0 50,
    .call (.createMergeRequest "one" (some "ann") "Add a feature" "feature" "main" (some "")),
    .serve 1 50, .call (.merge "one" 1 (some " bob ") none), .serve 2 50]

/-- The world after it. -/
def politeWorld : World Binary64 :=
  (World.fresh .empty).replay politeMerge

/-- The law at a merge that nobody has disturbed: it has returned the merge request. -/
theorem outcome_of_politeMerge : politeWorld.Reachable none ∧
    ∃ (c : Call Binary64) (m : MergeRequest), politeWorld.calls[2]? = some c ∧
      c.rest = .done (.ok (.mergeRequest m)) ∧ m.state = .merged ∧ m.mergedBy = some "bob" ∧
        Lawful politeWorld.store.surrogates 1 (some " bob ") c.journal
          (.ok (.mergeRequest m)) := by
  have hw : politeWorld.answered 2 = some (.merge "one" 1 (some " bob ") none, .ok (.mergeRequest
      ⟨1, 1, "Add a feature", "", "feature", "main", .merged, "ann", some "bob", some 0, none,
        none, 0, 0⟩)) := by rfl
  obtain ⟨c, hc, hop, hdone⟩ := World.call_of_answered hw
  have reached := World.replay_reachable politeMerge
  exact ⟨reached, c, _, hc, hdone, rfl, rfl, (outcome reached hc hop).1 _ hdone⟩

/-- A schedule in which the last one merges under a name that has no UTF-8 form. -/
def lostMerge : List (Move Binary64) :=
  [.call (.registerRepository "one" "/one"), .serve 0 50,
    .call (.createMergeRequest "one" (some "ann") "Add a feature" "feature" "main" (some "")),
    .serve 1 50, .call (.merge "one" 1 (some Text.loneByte) none), .serve 2 50]

/-- The world after it. -/
def lostWorld : World Binary64 :=
  (World.fresh .empty).replay lostMerge

/-- The branches have been merged, the merge request is still open, and the error is not the one
that says so. -/
theorem not_told_of_lostMerge : lostWorld.Reachable none ∧
    ∃ (c : Call Binary64) (e : Error), lostWorld.calls[2]? = some c ∧
      c.operation = .merge "one" 1 (some Text.loneByte) none ∧ c.journal.Merged ∧
        c.rest = .done (.error e) ∧ e.isUnrecorded = false ∧
          lostWorld.store.mergeRequests.rows.map (·.state) = ["open"] := by
  have journals : lostWorld.calls.map (·.journal.merges) = [[], [], [.ok "c0ffee"]] := by rfl
  have hw : lostWorld.answered 2 = some (.merge "one" 1 (some Text.loneByte) none,
      .error (.unwritable ⟨0, 1, 0xdcff⟩)) := by rfl
  obtain ⟨c, hc, hop, hdone⟩ := World.call_of_answered hw
  have merges : c.journal.merges = [.ok "c0ffee"] := by
    have := congrArg (·[2]?) journals
    simpa [hc] using this
  exact ⟨World.replay_reachable lostMerge, c, _, hc, hop,
    ⟨"c0ffee", merges ▸ List.mem_singleton_self _⟩, hdone, rfl, rfl⟩

end Forge.Merge
