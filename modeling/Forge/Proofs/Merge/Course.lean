import Forge.Proofs.Merge.Discipline

/-!
# The course of a merge

Whatever it is answered, a merge keeps to its discipline and ends in a `Success` or a `Failure`:
one lemma for each part of `Merge.run`, and `obeys_merge` for the whole operation.
-/

namespace Forge.Merge

open Transaction (fits)

variable {τ : Type}

theorem cleanActor_ne_empty {actor : Option String} {merger : String}
    (h : cleanActor actor = .ok merger) : merger ≠ "" := by
  simp only [cleanActor] at h
  split at h
  · cases h
  · rename_i hne
    exact Except.ok.inj h ▸ hne

/-! ## The mark in the store -/

/-- The row that was marked merged says so. -/
theorem marked {s : Store} {now repoId id : Int} {actor : String} {r : StoredMergeRequest}
    (hs : s.WellFormed) (ho : s.OpenAt repoId id)
    (hr : r ∈ (Lifecycle.markMerged now repoId id actor s).mergeRequests.rows) (hid : r.id = id) :
    r.state = "merged" ∧ r.mergedBy = some actor := by
  obtain ⟨r₁, hr₁, hrepo, hid₁, hopen⟩ := ho
  obtain ⟨r₀, hr₀, rfl⟩ := Table.mem_modify.1 hr
  have hid₀ : r₀.id = id := by
    split at hid
    · exact hid
    · exact hid
  have h₀ : r₀ = r₁ := hs.mergeRequests.eq_of_id_eq hr₀ hr₁ (hid₀.trans hid₁.symm)
  have hp : StoredMergeRequest.isOpenAt repoId id r₀ = true := by
    rw [h₀]
    simp [StoredMergeRequest.isOpenAt, Ticket.isAt, Ticket.repoId, Ticket.id, hrepo, hid₁, hopen]
  rw [if_pos hp]
  exact ⟨rfl, rfl⟩

/-! ## The steps of a merge -/

section Steps

variable {directory : Option String} {repo : Repository} {id : Int} {s : Store}
  {j j₀ : Journal} {request : MergeRequest} {deadline : Deadline τ} {given : Option String}
  {actor : String}

/-- A call on the working tree leaves a working merge working. -/
theorem Working.noteTree {α : Type} (h : Working directory repo id s j₀ j) (call : TreeCall τ α)
    (b : Except Error α) : Working directory repo id s j₀ (j.noteTree call b) := by
  obtain ⟨out, before, merges, after, he⟩ := j.noteTree_eq call b
  rw [he]
  exact { h with }

theorem Working.may {α : Type} {call : TreeCall τ α} (h : Working directory repo id s j₀ j)
    (hc : MayCall j repo.id id s call) : May directory id j (.tree call) :=
  ⟨h.holds, h.wrote, h.givenUp, repo, s, h.opened, h.read, h.openAt, h.fit, hc⟩

theorem Working.refused {e : Error} (h : Working directory repo id s j₀ j)
    (he : e.isExternal = true) (merged : ¬ j.Merged) (landed : ¬ j.Landed) :
    Failure id given e j ∧ Frame j₀ j :=
  ⟨.refused (not_isUnrecorded_of_isExternal he) merged landed h.givenUp h.wrote h.unchanged,
    h.frame⟩

theorem not_merged_of_nil (h : j.merges = []) : ¬ j.Merged := by
  rintro ⟨commit, hc⟩
  rw [h] at hc
  cases hc

theorem not_landed_of_nil (h : j.merges = []) : ¬ j.Landed := by
  rintro ⟨⟨e, he⟩, -⟩
  rw [h] at he
  cases he

theorem obeys_logTransition {kind : Kind} {name : String} {number repoId : Int}
    {actor : Option String} {ok : Unit → Journal → Prop} {err : Error → Journal → Prop}
    (h : ok () j) :
    Action.Obeys (τ := τ) (terms directory id) ok err
      (logTransition kind number name repoId actor) j := by
  unfold logTransition
  split
  · exact obeys_log rfl h
  · exact Action.obeys_pure.2 h

/-- A merge that cannot be recorded is reported and ends in the error that says so. -/
theorem obeys_unrecorded {α : Type} {commit reason : String} {ok : α → Journal → Prop}
    (same : request.id = id) (landed : j.Merged ∨ j.Landed) (kept : j.lost = false)
    (wrote : j.wrote = false) (unchanged : j.Unchanged) (frame : Frame j₀ j) :
    Action.Obeys (τ := τ) (terms directory id) ok (fun e j' => Failure id given e j' ∧ Frame j₀ j')
      (unrecorded repo request commit reason) j := by
  unfold unrecorded
  refine Action.obeys_bind.2 (Action.obeys_log.2 ⟨fun _ => ⟨wrote, landed⟩, ?_⟩)
  rintro u _ ⟨s, s', -, -, rfl⟩
  exact Action.obeys_throw.2 ⟨.unrecorded same landed (Bool.or_true _) kept wrote unchanged, frame⟩

/-- A refused merge is undone, and its error passed on. -/
theorem obeys_abort {e : Error} {α : Type} {ok : α → Journal → Prop} (he : e.isExternal = true)
    (h : Working directory repo id s j₀ j) (merged : ¬ j.Merged) (landed : ¬ j.Landed) :
    Action.Obeys (τ := τ) (terms directory id) ok (fun e j' => Failure id given e j' ∧ Frame j₀ j')
      (do
        abort request
        throw e) j := by
  have hend (b : Except Error Unit) : Failure id given e _ ∧ Frame j₀ _ :=
    (h.noteTree (τ := τ) .abortMerge b).refused he merged landed
  unfold abort
  refine Action.obeys_bind.2 (Action.obeys_bind.2 (obeys_call (h.may trivial)
    (fun u => ?_) fun e' he' => ?_))
  · exact Action.obeys_pure.2 (Action.obeys_throw.2 (hend (.ok u)))
  · dsimp only
    rw [if_pos he']
    exact obeys_log rfl (Action.obeys_throw.2 (hend (.error e')))

/-- A merge that the working tree refused is reported if it has landed all the same, and undone if
it has not. -/
theorem obeys_settle {e : Error} {α : Type} {there : Bool} {reason : String}
    {ok : α → Journal → Prop} (same : request.id = id) (he : e.isExternal = true)
    (h : Working directory repo id s j₀ j) (merged : ¬ j.Merged)
    (landed : there = true ↔ j.Landed) :
    Action.Obeys (τ := τ) (terms directory id) ok (fun e j' => Failure id given e j' ∧ Frame j₀ j')
      (if there = true then unrecorded repo request "" reason
        else do
          abort request
          throw e) j := by
  split
  · exact obeys_unrecorded same (.inr (landed.1 ‹_›)) (not_lost_of_givenUp h.givenUp) h.wrote
      h.unchanged h.frame
  · exact obeys_abort he h merged (mt landed.2 ‹_›)

theorem not_merged_of_refused {e : Error} (h : j.merges = [.error e]) : ¬ j.Merged := by
  rintro ⟨commit, hc⟩
  rw [h, List.mem_singleton] at hc
  cases hc

/-- After a refusal of the working tree, the next containment check tells whether the merge has
landed. -/
theorem landed_noteTree {e : Error} {branch ancestor : String} {limit : Option τ}
    (merges : j.merges = [.error e]) (before : j.containedBefore = some false)
    (b : Except Error Bool) :
    (j.noteTree (.contains branch ancestor limit) b).merges = [.error e] ∧
      ((j.noteTree (.contains branch ancestor limit) b).Landed ↔ b.toOption = some true) := by
  have hj : j.noteTree (.contains branch ancestor limit) b =
      { j with worked := true, containedAfter := b.toOption } := by
    simp [Journal.noteTree, merges]
  rw [hj]
  exact ⟨merges, fun hl => hl.2.2, fun hb => ⟨⟨e, merges ▸ List.mem_singleton_self _⟩, before, hb⟩⟩

/-- The check after a refusal of the working tree answers whether the merge has landed. -/
theorem obeys_landed {e : Error} {ok : Bool → Journal → Prop} {err : Error → Journal → Prop}
    (h : Working directory repo id s j₀ j) (merges : j.merges = [.error e])
    (before : j.containedBefore = some false)
    (hok : ∀ there j', Working directory repo id s j₀ j' → ¬ j'.Merged →
      (there = true ↔ j'.Landed) → ok there j') :
    Action.Obeys (τ := τ) (terms directory id) ok err (landed request) j := by
  unfold landed
  refine Action.obeys_bind.2 (obeys_call (h.may trivial) (fun there => ?_) fun e' he' => ?_)
  · obtain ⟨hm, hl⟩ := landed_noteTree merges before (.ok there)
    refine Action.obeys_pure.2 (hok _ _ (h.noteTree _ _) (not_merged_of_refused hm) ?_)
    rw [hl]
    simp [Except.toOption]
  · obtain ⟨hm, hl⟩ := landed_noteTree merges before (.error e')
    dsimp only
    rw [if_pos he']
    refine Action.obeys_bind.2 (obeys_log rfl (Action.obeys_pure.2
      (hok _ _ (h.noteTree _ _) (not_merged_of_refused hm) ?_)))
    rw [hl]
    simp [Except.toOption]

/-- The containment check before a merge keeps its answer for later. -/
theorem before_noteTree {branch ancestor : String} {limit : Option τ} (merges : j.merges = [])
    (b : Except Error Bool) :
    j.noteTree (.contains branch ancestor limit) b =
      { j with worked := true, containedBefore := b.toOption } := by
  simp [Journal.noteTree, merges]

/-- The call that merges, once the target is checked out: its commit is answered, or the failure
is settled by what the containment checks say. -/
theorem obeys_mergeCall {r : StoredMergeRequest} {upToDate : Bool} {limit : Option τ}
    {reason : Error → String} (h : Working directory repo id s j₀ j) (merges : j.merges = [])
    (before : j.containedBefore = some upToDate) (same : request.id = id)
    (hr : r ∈ s.mergeRequests.rows) (hrepo : r.repoId = repo.id) (hid : r.id = id)
    (hout : j.checkedOut = some r.targetBranch) :
    Action.Obeys (terms directory id)
      (fun commit j' => Working directory repo id s j₀ j' ∧ j'.merges = [.ok commit])
      (fun e j' => Failure id given e j' ∧ Frame j₀ j')
      (do
        match ← Action.attempt
            (.tree (.merge request.sourceBranch (commitMessage request actor) actor limit)) with
        | .ok commit => pure commit
        | .error e =>
          if e.isExternal then
            let there ← if upToDate then pure false else landed request
            if there then
              unrecorded repo request "" (reason e)
            else
              abort request
              throw e
          else throw e) j := by
  refine Action.obeys_bind.2 (obeys_call (h.may ⟨merges, r, hr, hrepo, hid, hout⟩)
    (fun commit => ?_) fun e he => ?_)
  · refine Action.obeys_pure.2 ⟨h.noteTree _ _, ?_⟩
    simp only [Journal.noteTree, merges]
  · have h' : Working directory repo id s j₀ { j with worked := true, merges := [.error e] } := by
      simpa only [Journal.noteTree, merges] using h.noteTree (.merge request.sourceBranch
        (commitMessage request actor) actor limit) (.error e)
    simp only [Journal.noteTree, merges]
    rw [if_pos he]
    cases upToDate with
    | true =>
      -- What the target contained before the merge cannot have landed by it.
      refine Action.obeys_bind.2 (Action.obeys_pure.2
        (obeys_settle same he h' (not_merged_of_refused rfl) ?_))
      refine ⟨fun hf => absurd hf Bool.false_ne_true, fun hl => ?_⟩
      have : some true = some false := before.symm.trans hl.2.1
      cases this
    | false =>
      exact Action.obeys_bind.2 (obeys_landed h' rfl before fun there j' hw hm hl =>
        obeys_settle same he hw hm hl)

theorem unchanged_cons {c : Store × Store} {l : List (Store × Store)} (hc : c.2 = c.1)
    (h : ∀ c ∈ l, c.2 = c.1) : ∀ c' ∈ c :: l, c'.2 = c'.1 := by
  intro c' hc'
  rcases List.mem_cons.1 hc' with rfl | hc'
  · exact hc
  · exact h c' hc'

/-- A transaction that marks the merge request merged makes the merge a success. -/
theorem success_of_returns {s₁ s₂ : Store} {now : Int} {m : MergeRequest} {limit : Option τ}
    {body : Int → Transaction MergeRequest} (hs₁ : s₁.WellFormed)
    (h : Working directory repo id s j₀ j) (merged : j.Merged)
    (hm : (Lifecycle.apply StoredMergeRequest now repo.id id "merge" (some actor)).Returns s₁ m
      s₂) :
    Success id actor m (j.note (.transact true limit body) (.ok m) s₁ s₂) := by
  obtain ⟨ho, rfl, r, hr, hread⟩ := Lifecycle.returns_merge hm
  have ⟨hrepo, hid⟩ : r.repoId = repo.id ∧ r.id = id := Ticket.isAt_iff.1 (List.find?_some hr)
  have hmem := List.mem_of_find?_eq_some hr
  obtain ⟨hstate, hby⟩ := marked hs₁ (Store.openAt_iff_any.2 ho) hmem hid
  have hm : { r with state := MergeRequestState.merged } = m := by
    simpa [MergeRequestIn.read?, hstate, show MergeRequestState.ofText? "merged" = some .merged
      from rfl] using hread
  subst hm
  exact
    { merged := merged
      wrote := Bool.or_true _
      givenUp := by
        obtain ⟨reported, lost⟩ := Bool.or_eq_false_iff.1 h.givenUp
        simp [Journal.note, Journal.givenUp, Journal.isUnwritable, reported, lost]
      state := rfl
      mergedBy := hby
      committed := ⟨repo, now, s₁, j.commits, h.opened, rfl, h.unchanged, r, hmem,
        hrepo, hid, hread⟩ }

variable [TimeScale τ]

theorem obeys_remaining {ok : Option τ → Journal → Prop} {err : Error → Journal → Prop}
    (h : ∀ limit, ok limit j) :
    Action.Obeys (terms directory id) ok err (remaining deadline) j :=
  Action.obeys_bind.2 (obeys_clock fun _ => Action.obeys_pure.2 (h _))

/-- The merge in the working tree answers its commit, or the whole merge fails as it should. -/
theorem obeys_mergeBranches {r : StoredMergeRequest} (h : Working directory repo id s j₀ j)
    (merges : j.merges = []) (same : request.id = id) (hr : r ∈ s.mergeRequests.rows)
    (hrepo : r.repoId = repo.id) (hid : r.id = id)
    (htarget : r.targetBranch = request.targetBranch) :
    Action.Obeys (terms directory id)
      (fun commit j' => Working directory repo id s j₀ j' ∧ j'.merges = [.ok commit])
      (fun e j' => Failure id given e j' ∧ Frame j₀ j')
      (mergeBranches repo request actor deadline) j := by
  have early {j' : Journal} {e : Error} (h' : Working directory repo id s j₀ j')
      (he : e.isExternal = true) (merges' : j'.merges = []) :
      Failure id given e j' ∧ Frame j₀ j' :=
    h'.refused he (not_merged_of_nil merges') (not_landed_of_nil merges')
  unfold mergeBranches
  refine Action.obeys_bind.2 (obeys_log rfl (Action.obeys_bind.2 (obeys_remaining fun limit => ?_)))
  refine Action.obeys_bind.2 (obeys_demandCall (h.may ⟨merges, r, hr, hrepo, hid, htarget⟩)
    (fun u => ?_) fun e he => early (h.noteTree _ _) he merges)
  have h₁ := h.noteTree (.checkout request.targetBranch limit) (.ok u)
  have merges₁ : (j.noteTree (.checkout request.targetBranch limit) (.ok u)).merges = [] := merges
  refine Action.obeys_bind.2 (obeys_remaining fun limit' =>
    Action.obeys_bind.2 (obeys_demandCall (h₁.may trivial) (fun upToDate => ?_) fun e he => ?_))
  · have h₂ := h₁.noteTree (.contains request.targetBranch request.sourceBranch limit')
      (.ok upToDate)
    rw [before_noteTree merges₁] at h₂ ⊢
    exact Action.obeys_bind.2 (obeys_remaining fun limit'' =>
      obeys_mergeCall h₂ merges rfl same hr hrepo hid (congrArg some htarget.symm))
  · have h₂ := h₁.noteTree (.contains request.targetBranch request.sourceBranch limit') (.error e)
    rw [before_noteTree merges₁] at h₂ ⊢
    exact early h₂ he merges

/-- Once merged in the working tree, a merge request is marked merged, or the merge is reported as
not recorded, or the name of who merges has no UTF-8 form; what the store answers makes no other
case. -/
theorem obeys_record {commit : String} (h : Working directory repo id s j₀ j)
    (merged : j.Merged) (same : request.id = id) (ha : cleanActor given = .ok actor) :
    Action.Obeys (terms directory id) (fun m j' => Success id actor m j' ∧ Frame j₀ j')
      (fun e j' => Failure id given e j' ∧ Frame j₀ j')
      (record repo request actor commit deadline) j := by
  subst same
  unfold record
  refine Action.obeys_bind.2 (obeys_clock fun now => ?_)
  split
  · exact obeys_unrecorded rfl (.inl merged) (not_lost_of_givenUp h.givenUp) h.wrote h.unchanged
      h.frame
  · refine Action.obeys_bind.2 (obeys_remaining fun limit => Action.obeys_bind.2
      (Action.obeys_attempt.2 ⟨⟨h.holds, merged, h.wrote, h.givenUp, repo, actor, h.opened,
        fun now a s s' hr => ?_⟩, fun b j' answered => ?_⟩))
    · obtain ⟨ho, rfl, -⟩ := Lifecycle.returns_merge hr
      exact ⟨Store.openAt_iff_any.2 ho, rfl⟩
    · obtain ⟨s₁, s₂, hs₁, rfl, hb⟩ := answer_of_transact answered
      obtain ⟨unreported, kept⟩ := Bool.or_eq_false_iff.1 h.givenUp
      have unrecorded {b : Except Error MergeRequest} {e : Error} (hb : b = .error e)
          (plain : Journal.isUnwritable b = false) {reason : String} :
          Action.Obeys (τ := τ) (terms directory request.id)
            (fun m j' => Success request.id actor m j' ∧ Frame j₀ j')
            (fun e j' => Failure request.id given e j' ∧ Frame j₀ j')
            (unrecorded repo request commit reason)
            (j.note (.transact true limit fun now =>
              Lifecycle.apply StoredMergeRequest now repo.id request.id "merge" (some actor))
              b s₁ s₁) := by
        subst hb
        exact obeys_unrecorded rfl (.inl merged) (by simp [Journal.note, kept, plain])
          (by simp [Journal.note, h.wrote, Except.toBool]) (unchanged_cons rfl h.unchanged) h.frame
      rcases hb with ⟨⟨report, rfl⟩, rfl⟩ | ⟨now, hn, ⟨m, rfl, hm⟩ | ⟨e, rfl, rfl, hf⟩⟩
      · exact unrecorded rfl rfl
      · exact Action.obeys_bind.2 (obeys_logTransition (Action.obeys_bind.2 (obeys_log rfl
          (Action.obeys_pure.2 ⟨success_of_returns hs₁ h merged hm, h.frame⟩))))
      · have hk := Lifecycle.fails_merge hs₁.requestStates (cleanActor_ne_empty ha) hn h.fit.1
          h.fit.2 hf
        rcases hk with ⟨report, rfl⟩ | ⟨fault, refused, rfl⟩ | ⟨what, rfl⟩ |
          ⟨verb, kind, number, current, expected, rfl⟩
        · exact unrecorded rfl rfl
        · exact Action.obeys_throw.2 ⟨.unwritable ha refused List.mem_cons_self merged
            (Bool.or_true _) (by simp [Journal.note, h.wrote, Except.toBool])
            (unchanged_cons rfl h.unchanged), h.frame⟩
        · exact unrecorded rfl rfl
        · exact unrecorded rfl rfl

/-! ## The part under the locks -/

theorem isUnrecorded_of_fails_get {r : Repository} {n : Int} {e : Error} (hs : s.WellFormed)
    (h : (Ticket.get StoredMergeRequest r.id n : Transaction MergeRequest).Fails s e) :
    e.isUnrecorded = false := by
  simp only [Ticket.get, Transaction.fails_bind] at h
  rcases h with h | ⟨o, s₁, -, h⟩
  · rcases Ticket.fails_find? h with ⟨report, rfl⟩ | ⟨-, rfl⟩ | ⟨r, hr, hn⟩
    · rfl
    · rfl
    · exact absurd hn (hs.requestStates r hr)
  · cases o with
    | none =>
      rw [Transaction.fails_fail.1 h]
      rfl
    | some a => exact absurd h Transaction.fails_pure

theorem open_of_read {r : StoredMergeRequest} (h : r.read? = some request)
    (ho : request.state = .opened) : r.state = "open" ∧ request.id = r.id ∧
      request.sourceBranch = r.sourceBranch ∧ request.targetBranch = r.targetBranch := by
  obtain ⟨state, hs, rfl⟩ := Option.map_eq_some_iff.1 h
  obtain rfl : state = .opened := ho
  have ho := List.find?_some
    (show MergeRequestState.all.find? (fun t => t.text == r.state) = some .opened from hs)
  exact ⟨(eq_of_beq ho).symm, rfl, rfl, rfl⟩

/-- A failure before the working tree has been called. -/
theorem Idle.refused {e : Error} (h : Idle j) (he : e.isUnrecorded = false) :
    Failure id given e j :=
  .refused he (not_merged_of_nil h.merges) (not_landed_of_nil h.merges) h.givenUp h.wrote
    h.unchanged

theorem obeys_underLock (h : Idle j) (opened : j.opened = some repo) (holds : j.Holds directory)
    (ha : cleanActor given = .ok actor) :
    Action.Obeys (terms directory id) (fun m j' => Success id actor m j' ∧ Frame j j')
      (fun e j' => Failure id given e j' ∧ Frame j j') (underLock repo id actor deadline) j := by
  have seen (s' : Store) : Idle { j with read := some s', commits := (s', s') :: j.commits } :=
    { h with unchanged := unchanged_cons rfl h.unchanged }
  unfold underLock
  refine Action.obeys_bind.2 (obeys_remaining fun limit => Action.obeys_bind.2
    (Action.obeys_demand.2 ⟨⟨h.worked, h.givenUp, fun now a s s' hr =>
      (Ticket.returns_get.1 hr).2.2.2.1⟩, fun b j' answered => ?_⟩))
  obtain ⟨s, s', hs, rfl, hb⟩ := answer_of_transact answered
  rcases hb with ⟨⟨report, rfl⟩, rfl⟩ | ⟨now, hn, ⟨request, rfl, hr⟩ | ⟨e, rfl, rfl, hf⟩⟩
  · exact ⟨(seen s').refused rfl, rfl, rfl, rfl⟩
  · obtain ⟨-, hrepo, hid, rfl, r, hfind, hread⟩ := Ticket.returns_get.1 hr
    have ⟨hr₁, hr₂⟩ : r.repoId = repo.id ∧ r.id = id := Ticket.isAt_iff.1 (List.find?_some hfind)
    have hmem := List.mem_of_find?_eq_some hfind
    simp only [Action.ends]
    split
    · obtain ⟨hopen, hsame, -, htarget⟩ := open_of_read hread ‹_›
      have hw : Working directory repo id s' j
          { j with read := some s', commits := (s', s') :: j.commits } :=
        { seen s' with
          opened := opened
          holds := holds
          read := rfl
          openAt := ⟨r, hmem, hr₁, hr₂, hopen⟩
          fit := ⟨hrepo, hid⟩
          frame := ⟨rfl, rfl, rfl⟩ }
      refine Action.obeys_bind.2 (obeys_clock fun now => ?_)
      split
      · exact Action.obeys_throw.2 ⟨(seen s').refused rfl, rfl, rfl, rfl⟩
      · refine Action.obeys_bind.2 ((obeys_mergeBranches hw h.merges (hsame.trans hr₂) hmem hr₁
          hr₂ htarget.symm).mono (fun commit j' hj' => ?_) fun e j' hj' => hj')
        exact obeys_record hj'.1 ⟨commit, hj'.2 ▸ List.mem_singleton_self _⟩ (hsame.trans hr₂) ha
    · exact Action.obeys_throw.2 ⟨(seen s').refused rfl, rfl, rfl, rfl⟩
  · exact ⟨(seen s').refused (isUnrecorded_of_fails_get hs hf), rfl, rfl, rfl⟩

/-! ## Taking and giving back the locks -/

section Hold

variable {body : Action τ MergeRequest}

/-- What has been merged is recorded, or that has been given up, before the locks are given back. -/
theorem Success.mayRelease {m : MergeRequest} (h : Success id actor m j) : MayRelease j :=
  fun _ => .inl h.wrote

theorem Failure.mayRelease {e : Error} (h : Failure id given e j) : MayRelease j := by
  cases h with
  | unrecorded _ _ reported => exact fun _ => .inr (by simp [Journal.givenUp, reported])
  | unwritable _ _ _ _ lost => exact fun _ => .inr (by simp [Journal.givenUp, lost])
  | refused _ merged => exact fun hm => absurd hm merged

theorem Failure.release {e : Error} (h : Failure id given e j) (locked filed : Bool) :
    Failure id given e { j with locked, filed } := by
  cases h with
  | unrecorded same landed reported kept wrote unchanged =>
    exact .unrecorded same landed reported kept wrote unchanged
  | unwritable clean refused seen merged lost wrote unchanged =>
    exact .unwritable clean refused seen merged lost wrote unchanged
  | refused kind merged landed givenUp wrote unchanged =>
    exact .refused kind merged landed givenUp wrote unchanged

omit [TimeScale τ] in
theorem obeys_dropFile {post : Unit → Journal → Prop} (filed : j.filed = true)
    (may : MayRelease j) (opened : j.opened = some repo)
    (h : post () { j with filed := false }) :
    (Program.request (.dropFile repo.id) : Program τ Unit).Obeys (terms directory id) post j := by
  refine Program.obeys_request.2 ⟨⟨filed, may, repo, opened, rfl⟩, ?_⟩
  rintro u _ ⟨s, s', -, -, rfl⟩
  exact h

omit [TimeScale τ] in
theorem obeys_dropLock {post : Unit → Journal → Prop} (locked : j.locked = true)
    (filed : j.filed = false) (may : MayRelease j) (opened : j.opened = some repo)
    (h : post () { j with locked := false }) :
    (Program.request (.dropLock repo.id) : Program τ Unit).Obeys (terms directory id) post j := by
  refine Program.obeys_request.2 ⟨⟨locked, filed, may, repo, opened, rfl⟩, ?_⟩
  rintro u _ ⟨s, s', -, -, rfl⟩
  exact h

omit [TimeScale τ] in
/-- With the lock file where there is one, the body runs as a merge that holds its locks does. -/
theorem obeys_holdFile {deadline : Option τ} (h : Idle j) (opened : j.opened = some repo)
    (locked : j.locked = true) (filed : j.filed = false)
    (hbody : ∀ j', Idle j' → j'.opened = some repo → j'.Holds directory →
      Action.Obeys (terms directory id)
        (fun m j'' => Success id actor m j'' ∧ Frame j' j'')
        (fun e j'' => Failure id given e j'' ∧ Frame j' j'') body j') :
    Action.Obeys (terms directory id) (fun m j' => Success id actor m j' ∧ Frame j j')
      (fun e j' => Failure id given e j' ∧ Frame j j')
      (WorkingTree.holdFile directory repo.id deadline body) j := by
  cases directory with
  | none => exact hbody j h opened ⟨locked, fun hd => absurd hd (by decide)⟩
  | some dir =>
    refine Action.obeys_bind.2 (Action.obeys_demand.2 ⟨⟨rfl, locked, filed, h.worked, h.givenUp,
      repo, opened, rfl⟩, ?_⟩)
    rintro taken _ ⟨s, s', -, ⟨hb, -⟩, rfl⟩
    rcases taken with e | _ | _
    · have fault := hb e rfl
      have recorded : e.isUnrecorded = false := by cases e <;> first | rfl | cases fault
      exact ⟨h.refused recorded, rfl, rfl, rfl⟩
    · exact Action.obeys_throw.2 ⟨h.refused rfl, rfl, rfl, rfl⟩
    · 
      have h' : Idle { j with filed := true, read := none } := { h with }
      refine Action.obeys_withCleanup.2 (Action.obeys_bind.2 (obeys_log rfl
        ((hbody _ h' opened ⟨locked, fun _ => rfl⟩).mono ?_ ?_)))
      · rintro m j' ⟨hm, ho, hl, hf⟩
        exact obeys_dropFile hf hm.mayRelease (ho.trans opened) ⟨{ hm with }, ho, hl, filed.symm⟩
      · rintro e j' ⟨he, ho, hl, hf⟩
        exact obeys_dropFile hf he.mayRelease (ho.trans opened)
          ⟨he.release _ _, ho, hl, filed.symm⟩

/-- With its locks taken and given back, the body still ends as it did. -/
theorem obeys_hold {limit : Option τ} (h : Idle j) (opened : j.opened = some repo)
    (locked : j.locked = false) (filed : j.filed = false)
    (hbody : ∀ j', Idle j' → j'.opened = some repo → j'.Holds directory →
      Action.Obeys (terms directory id)
        (fun m j'' => Success id actor m j'' ∧ Frame j' j'')
        (fun e j'' => Failure id given e j'' ∧ Frame j' j'') body j') :
    Action.Obeys (terms directory id) (Success id actor) (Failure id given)
      (WorkingTree.hold directory repo.id limit body) j := by
  refine Action.obeys_bind.2 (obeys_clock fun now => Action.obeys_bind.2 (Action.obeys_demand.2
    ⟨⟨locked, filed, h.worked, h.givenUp, repo, opened, rfl⟩, ?_⟩))
  rintro taken _ ⟨s, s', -, ⟨hb, -⟩, rfl⟩
  cases taken with
  | error e =>
    obtain ⟨rfl, -⟩ := hb e rfl
    exact h.refused rfl
  | ok taken =>
    cases taken with
    | false => exact Action.obeys_throw.2 (h.refused rfl)
    | true =>
      have h' : Idle { j with locked := true, read := none } := { h with }
      refine Action.obeys_withCleanup.2 ((obeys_holdFile h' opened rfl filed hbody).mono ?_ ?_)
      · rintro m j' ⟨hm, ho, hl, hf⟩
        exact obeys_dropLock hl (hf.trans filed) hm.mayRelease (ho.trans opened) { hm with }
      · rintro e j' ⟨he, ho, hl, hf⟩
        exact obeys_dropLock hl (hf.trans filed) he.mayRelease (ho.trans opened) (he.release _ _)

end Hold

/-! ## The whole merge -/

theorem isUnrecorded_classified (e : Error) : e.classified.isUnrecorded = e.isUnrecorded := by
  cases e with
  | engine report =>
    simp only [Error.classified, EngineError.toError]
    repeat' split
    all_goals rfl
  | _ => rfl

theorem Failure.classified {e : Error} (h : Failure id given e j) :
    Failure id given e.classified j := by
  cases h with
  | unrecorded same landed reported kept wrote unchanged =>
    exact .unrecorded same landed reported kept wrote unchanged
  | unwritable clean refused seen merged lost wrote unchanged =>
    exact .unwritable clean refused seen merged lost wrote unchanged
  | refused kind merged landed givenUp wrote unchanged =>
    exact .refused ((isUnrecorded_classified e).trans kind) merged landed givenUp wrote unchanged

theorem error_of_cleanName {name : String} {e : Error}
    (h : Repository.cleanName name = .error e) :
    e = .invalidArgument .emptyRepositoryName := by
  simp only [Repository.cleanName] at h
  split at h
  · exact (Except.error.inj h).symm
  · cases h

theorem isUnrecorded_of_fails_repositoryNamed {name : String} {e : Error}
    (h : (Store.repositoryNamed name).Fails s e) : e.isUnrecorded = false := by
  simp only [Store.repositoryNamed, Transaction.fails_bind, Transaction.fails_ofExcept] at h
  rcases h with h | ⟨key, _, -, h | ⟨_, _, -, h | ⟨_, _, -, h | ⟨rows, _, -, h⟩⟩⟩⟩
  · rw [error_of_cleanName h]
    rfl
  · obtain ⟨report, rfl⟩ := Transaction.engine_of_fails_useTable h
    rfl
  · obtain ⟨c, -, refused⟩ := Transaction.refused_of_fails_bindCells h
    rcases Cell.refusal?_eq_some.1 refused with ⟨_, -, -, rfl⟩ | ⟨_, _, -, -, rfl⟩ <;> rfl
  · exact absurd h Transaction.fails_view
  · split at h
    · exact absurd h Transaction.fails_pure
    · rw [Transaction.fails_fail.1 h]
      rfl

omit [TimeScale τ] in
/-- The look at the repository leaves a merge idle, whether it finds one or not; one that it finds
is a row of the store. -/
theorem obeys_repository {name : String} (h : Idle j) :
    Action.Obeys (τ := τ) (terms directory id)
      (fun r j' => Idle j' ∧ Frame j j' ∧ ∃ s, j'.read = some s ∧ r ∈ s.repos.rows)
      (Failure id given) (Workflow.repository name) j := by
  have seen (s : Store) : Idle { j with read := some s, commits := (s, s) :: j.commits } :=
    { h with unchanged := unchanged_cons rfl h.unchanged }
  refine Action.obeys_bind.2 (Action.obeys_attempt.2
    ⟨⟨h.worked, h.givenUp, fun now a s s' hr => ?_⟩, fun b j' answered => ?_⟩)
  · obtain ⟨-, -, -, -, rfl⟩ := Store.returns_repositoryNamed.1 hr
    rfl
  · obtain ⟨s, s', hs, rfl, hb⟩ := answer_of_transact answered
    rcases hb with ⟨⟨report, rfl⟩, rfl⟩ | ⟨now, hn, ⟨r, rfl, hr⟩ | ⟨e, rfl, rfl, hf⟩⟩
    · exact Action.obeys_throw.2 ((seen s').refused (isUnrecorded_classified (.engine report)))
    · obtain ⟨there, -, rfl⟩ := Store.found_of_returns hr
      exact Action.obeys_pure.2 ⟨seen s', ⟨rfl, rfl, rfl⟩, s', rfl, there⟩
    · exact Action.obeys_throw.2 ((seen s').refused ((isUnrecorded_classified e).trans
        (isUnrecorded_of_fails_repositoryNamed hf)))

theorem error_of_cleanActor {actor : Option String} {e : Error} (h : cleanActor actor = .error e) :
    e = .invalidArgument .noActor := by
  simp only [cleanActor] at h
  split at h
  · exact (Except.error.inj h).symm
  · cases h

/-- **A merge keeps to its discipline.** Whatever it is answered, it ends in a success under the
name of the cleaned actor or in a failure. -/
theorem obeys_merge {policy : Policy τ} {name : String} {actor : Option String} {limit : Option τ} :
    Action.Obeys (terms policy.lockDirectory id)
      (fun m j' => ∃ merger, cleanActor actor = .ok merger ∧ Success id merger m j')
      (Failure id actor) (Workflow.merge policy name id actor limit) {} := by
  have h : Idle {} := ⟨rfl, rfl, rfl, rfl, nofun⟩
  refine Action.obeys_bind.2 (Action.obeys_ofExcept.2 ?_)
  cases ha : cleanActor actor with
  | error e =>
    rw [error_of_cleanActor ha]
    exact h.refused rfl
  | ok merger =>
    refine Action.obeys_bind.2 ((obeys_repository h).mono ?_ fun e j' he => he)
    rintro r j ⟨hj, ⟨ho, hl, hf⟩, known⟩
    refine Action.obeys_bind.2 (Action.obeys_ask.2
      ⟨⟨ho, hl, hf, hj.worked, hj.givenUp, known⟩, ?_⟩)
    rintro u _ ⟨s, s', -, -, rfl⟩
    have hj' : Idle { j with opened := some r } := { hj with }
    refine Action.obeys_bind.2 (Action.obeys_lift.2 ?_)
    have hrun : Action.Obeys (terms policy.lockDirectory id) (Success id merger) (Failure id actor)
        (run policy.lockDirectory policy.lockLimit r id merger (limit <|> policy.mergeLimit))
        { j with opened := some r } :=
      Action.obeys_bind.2 (obeys_clock fun _ => Action.obeys_bind.2 (obeys_clock fun _ =>
        obeys_hold hj' rfl hl hf fun j'' h'' ho'' hh'' =>
          obeys_underLock h'' ho'' hh'' ha))
    exact hrun.mono (fun m j'' hm => Action.obeys_pure.2 ⟨merger, rfl, hm⟩)
      fun e j'' he => Action.obeys_throw.2 he.classified

end Steps

end Forge.Merge
