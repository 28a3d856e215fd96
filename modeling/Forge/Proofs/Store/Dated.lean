import Forge.Proofs.Store.WellFormed

/-!
# The times of rows

A row carries the time at which it was added, and a ticket also the times of its last update and of
its closing and merging. `Store.Dated now` is how they lie if the clock has reached `now` and has
never gone backwards: nothing is from the future, the stamps of a ticket lie between its creation
and its last update, and rows that were numbered later were not created earlier. Each effect that
happens at `now` or later keeps this.
-/

namespace Forge

/-! ## Tables -/

/-- No row was created after `now`, and none before a row of a smaller number. -/
structure Table.Dated {ρ : Type} (ident created : ρ → Int) (now : Int) (t : Table ρ) : Prop where
  past : ∀ r ∈ t.rows, created r ≤ now
  ordered : ∀ r ∈ t.rows, ∀ r' ∈ t.rows, ident r ≤ ident r' → created r ≤ created r'

namespace Table.Dated

variable {ρ : Type} {ident created : ρ → Int} {now now' : Int} {t : Table ρ} {p : ρ → Bool}
  {f : ρ → ρ} {build : Int → ρ}

theorem empty : (Table.empty : Table ρ).Dated ident created now :=
  ⟨fun _ h => (nomatch h), fun _ h => (nomatch h)⟩

/-- What is dated by a moment is so by every later one. -/
theorem later (h : t.Dated ident created now) (le : now ≤ now') : t.Dated ident created now' :=
  { h with past := fun r hr => Int.le_trans (h.past r hr) le }

/-- A row that is added now has the highest number and the latest time. -/
theorem insert (h : t.Dated ident created now) (numbered : t.Numbered ident)
    (hid : ∀ id, ident (build id) = id) (hnow : ∀ id, created (build id) = now) :
    (t.insert build).Dated ident created now := by
  refine ⟨Table.forall_insert h.past (Int.le_of_eq (hnow _)), fun r hr r' hr' le => ?_⟩
  rcases mem_insert.1 hr' with old' | rfl
  · rcases mem_insert.1 hr with old | rfl
    · exact h.ordered r old r' old' le
    · rw [hid] at le
      have last := numbered.le_last r' old'
      simp only [nextId] at le
      omega
  · rw [hnow]
    exact Table.forall_insert h.past (Int.le_of_eq (hnow _)) r hr

/-- A change of rows that keeps their numbers and times of creation keeps their order. -/
theorem modify (h : t.Dated ident created now) (hid : ∀ r, ident (f r) = ident r)
    (hcreated : ∀ r, created (f r) = created r) : (t.modify p f).Dated ident created now := by
  have keeps (r : ρ) : ident (if p r then f r else r) = ident r ∧
      created (if p r then f r else r) = created r := by
    split
    · exact ⟨hid r, hcreated r⟩
    · exact ⟨rfl, rfl⟩
  refine ⟨Table.forall_modify h.past fun r _ _ past => (hcreated r).symm ▸ past, ?_⟩
  intro _ hr _ hr' le
  obtain ⟨r, old, rfl⟩ := mem_modify.1 hr
  obtain ⟨r', old', rfl⟩ := mem_modify.1 hr'
  rw [(keeps r).1, (keeps r').1] at le
  rw [(keeps r).2, (keeps r').2]
  exact h.ordered r old r' old' le

theorem remove (h : t.Dated ident created now) : (t.remove p).Dated ident created now :=
  ⟨Table.forall_remove h.past, fun r hr r' hr' =>
    h.ordered r (mem_remove.1 hr).1 r' (mem_remove.1 hr').1⟩

end Table.Dated

/-! ## Tickets -/

/-- A ticket was created no later than it was updated, neither is in the future, and what else has
happened to it lies between the two. -/
structure Ticket.Dated (now created updated : Int) (stamps : List (Option Int)) : Prop where
  created_le : created ≤ updated
  updated_le : updated ≤ now
  within : ∀ time, some time ∈ stamps → created ≤ time ∧ time ≤ updated

namespace Ticket.Dated

variable {now now' created updated : Int} {stamps stamps' : List (Option Int)}

theorem later (h : Dated now created updated stamps) (le : now ≤ now') :
    Dated now' created updated stamps :=
  { h with updated_le := Int.le_trans h.updated_le le }

/-- A ticket that is updated now may lose stamps, and gains none but of this time. -/
theorem update (h : Dated now created updated stamps)
    (sub : ∀ time, some time ∈ stamps' → some time ∈ stamps ∨ time = now) :
    Dated now created now stamps' where
  created_le := Int.le_trans h.created_le h.updated_le
  updated_le := Int.le_refl now
  within time stamped := by
    rcases sub time stamped with old | rfl
    · obtain ⟨above, below⟩ := h.within time old
      exact ⟨above, Int.le_trans below h.updated_le⟩
    · exact ⟨Int.le_trans h.created_le h.updated_le, Int.le_refl _⟩

end Ticket.Dated

/-- The times of an issue are in order. -/
def IssueIn.Dated (now : Int) (r : StoredIssue) : Prop :=
  Ticket.Dated now r.createdAt r.updatedAt [r.closedAt]

/-- The times of a merge request are in order. -/
def MergeRequestIn.Dated (now : Int) (r : StoredMergeRequest) : Prop :=
  Ticket.Dated now r.createdAt r.updatedAt [r.closedAt, r.mergedAt]

section Changes

variable {now : Int} {c : Change}

/-- A new row has been created and updated at once, and nothing else. -/
theorem IssueIn.dated_new {r : StoredIssue} (created : r.createdAt = now)
    (updated : r.updatedAt = now) (closed : r.closedAt = none) : r.Dated now := by
  unfold IssueIn.Dated
  rw [created, updated, closed]
  exact ⟨Int.le_refl now, Int.le_refl now, by simp⟩

theorem MergeRequestIn.dated_new {r : StoredMergeRequest} (created : r.createdAt = now)
    (updated : r.updatedAt = now) (closed : r.closedAt = none) (merged : r.mergedAt = none) :
    r.Dated now := by
  unfold MergeRequestIn.Dated
  rw [created, updated, closed, merged]
  exact ⟨Int.le_refl now, Int.le_refl now, by simp⟩

/-- A change is dated by the time that it sets. -/
theorem Change.dated_onIssue {r : StoredIssue} (h : r.Dated now) : (c.onIssue now r).Dated now := by
  cases c with
  | edit title description => exact h.update fun time stamped => .inl stamped
  | close actor =>
    exact h.update fun time stamped => .inr (Option.some.inj (List.mem_singleton.1 stamped))
  | reopen => exact h.update fun time stamped => nomatch List.mem_singleton.1 stamped

theorem Change.dated_onMergeRequest {r : StoredMergeRequest} (h : r.Dated now) :
    (c.onMergeRequest now r).Dated now := by
  cases c with
  | edit title description => exact h.update fun time stamped => .inl stamped
  | close actor =>
    refine h.update fun time stamped => ?_
    rcases List.mem_cons.1 stamped with closed | merged
    · exact .inr (Option.some.inj closed)
    · exact .inl (List.mem_cons_of_mem _ merged)
  | reopen =>
    refine h.update fun time stamped => .inl ?_
    rcases List.mem_cons.1 stamped with closed | merged
    · cases closed
    · exact List.mem_cons_of_mem _ merged

theorem StoredMergeRequest.dated_merged {actor : String} {r : StoredMergeRequest}
    (h : r.Dated now) : (StoredMergeRequest.merged now actor r).Dated now := by
  refine h.update fun time stamped => ?_
  rcases List.mem_cons.1 stamped with closed | merged
  · exact .inl (closed ▸ List.mem_cons_self)
  · exact .inr (by simpa [StoredMergeRequest.merged] using merged)

theorem Change.onIssue_createdAt (r : StoredIssue) :
    (c.onIssue now r).createdAt = r.createdAt := by
  cases c <;> rfl

theorem Change.onMergeRequest_createdAt (r : StoredMergeRequest) :
    (c.onMergeRequest now r).createdAt = r.createdAt := by
  cases c <;> rfl

end Changes

/-! ## Stores -/

/-- The times of all rows are in order, and none is after `now`. -/
structure Store.Dated (now : Int) (s : Store) : Prop where
  repos : s.repos.Dated (·.id) (·.createdAt) now
  issues : s.issues.Dated (·.id) (·.createdAt) now
  mergeRequests : s.mergeRequests.Dated (·.id) (·.createdAt) now
  dependencies : s.dependencies.Dated (·.id) (·.createdAt) now
  issueTimes : ∀ r ∈ s.issues.rows, r.Dated now
  requestTimes : ∀ r ∈ s.mergeRequests.rows, r.Dated now

variable {now now' repoId : Int} {s s' : Store}

theorem Store.Dated.empty (u : Text.Surrogates) : (Store.empty u).Dated now where
  repos := .empty
  issues := .empty
  mergeRequests := .empty
  dependencies := .empty
  issueTimes _ h := nomatch h
  requestTimes _ h := nomatch h

/-- So is a whole store. -/
theorem Store.Dated.later (h : s.Dated now) (le : now ≤ now') : s.Dated now' where
  repos := h.repos.later le
  issues := h.issues.later le
  mergeRequests := h.mergeRequests.later le
  dependencies := h.dependencies.later le
  issueTimes r hr := (h.issueTimes r hr).later le
  requestTimes r hr := (h.requestTimes r hr).later le

/-- New rows are the latest ones, and their numbers the highest. -/
theorem TicketEffect.dated (h : TicketEffect now repoId s s') (hs : s.WellFormed)
    (hd : s.Dated now) : s'.Dated now := by
  cases h with
  | nothing => exact hd
  | issueAdded _ =>
    refine { hd with
      issues := ?_
      issueTimes := Table.forall_insert hd.issueTimes (IssueIn.dated_new rfl rfl rfl) }
    dsimp only
    exact hd.issues.insert hs.issues (fun _ => rfl) fun _ => rfl
  | issueChanged _ _ =>
    exact { hd with
      issues := hd.issues.modify Change.onIssue_id Change.onIssue_createdAt
      issueTimes := Table.forall_modify hd.issueTimes fun _ _ _ => Change.dated_onIssue }
  | issueRemoved _ =>
    exact { hd with
      issues := hd.issues.remove
      dependencies := hd.dependencies.remove.remove
      issueTimes := Table.forall_remove hd.issueTimes }
  | requestAdded _ =>
    refine { hd with
      mergeRequests := ?_
      requestTimes := Table.forall_insert hd.requestTimes
        (MergeRequestIn.dated_new rfl rfl rfl rfl) }
    dsimp only
    exact hd.mergeRequests.insert hs.mergeRequests (fun _ => rfl) fun _ => rfl
  | requestChanged _ _ =>
    exact { hd with
      mergeRequests := hd.mergeRequests.modify Change.onMergeRequest_id
        Change.onMergeRequest_createdAt
      requestTimes := Table.forall_modify hd.requestTimes fun _ _ _ =>
        Change.dated_onMergeRequest }
  | requestMerged _ =>
    exact { hd with
      mergeRequests := hd.mergeRequests.modify (fun _ => rfl) fun _ => rfl
      requestTimes := Table.forall_modify hd.requestTimes fun _ _ _ =>
        StoredMergeRequest.dated_merged }
  | requestRemoved =>
    exact { hd with
      mergeRequests := hd.mergeRequests.remove
      requestTimes := Table.forall_remove hd.requestTimes }
  | dependencyAdded _ _ _ _ =>
    exact { hd with
      dependencies := hd.dependencies.insert hs.dependencies (fun _ => rfl) fun _ => rfl }
  | dependencyRemoved _ _ => exact { hd with dependencies := hd.dependencies.remove }

/-- An effect keeps the times in order if the clock does not stand before them. -/
theorem Effect.dated (h : Effect now' s s') (hs : s.WellFormed) (hd : s.Dated now)
    (le : now ≤ now') : s'.Dated now' := by
  have hd := hd.later le
  cases h with
  | registered _ _ _ =>
    refine { hd with repos := ?_ }
    dsimp only
    exact hd.repos.insert hs.repos (fun _ => rfl) fun _ => rfl
  | forgotten _ =>
    exact
      { repos := hd.repos.remove
        issues := hd.issues.remove
        mergeRequests := hd.mergeRequests.remove
        dependencies := hd.dependencies.remove
        issueTimes := Table.forall_remove hd.issueTimes
        requestTimes := Table.forall_remove hd.requestTimes }
  | onTickets effect => exact effect.dated hs hd

end Forge
