import Forge.Merge
import Forge.Proofs.Merge.Timetable
import Forge.Proofs.Replay
import Mathlib.Data.Nat.Cast.Order.Ring

/-!
# A merge in time

The caller's timeout bounds a merge: in exact time, all that a merge asks is `InTime`, so that the
timetable of every timed run is `Timely`. One lemma follows each part of `Merge.run` along its past;
what is carried from one to the next is that the merge is `Standing`, and while it goes through its
calls that it is `OnTime`.
-/

namespace Forge.Merge

open Deadline

variable {τ : Type} [AddCommGroup τ] [LinearOrder τ]

/-! ## The course of a merge -/

/-- The action asks for nothing that is not in time. -/
def Paced {α : Type} (s T : τ) (x : Action τ α) (p : Past τ) : Prop :=
  x.Obeys (pacing s T) (fun _ _ => True) (fun _ _ => True) p

section Course

variable {s T : τ} {p : Past τ} {α β : Type}

/-- A request that takes no time leads to a moment later. -/
theorem asks_moment {r : Request τ β} {ok : β → Past τ → Prop} (instant : r.takesTime = false)
    (next : ∀ b p', r.Tells b p.now → Lull p p' → ok b p') :
    (pacing s T).may r p ∧ ∀ b p', (pacing s T).answers r p b p' → ok b p' := by
  have none : errand r = .other := by
    cases r with
    | clock | openTree | dropLock | dropFile | log => rfl
    | takeLock | takeFile | transact | tree | process => cases instant
  constructor
  · show InTime s T p (errand r)
    rw [none]
    trivial
  · rintro b _ ⟨stop, -, still, tells, rfl⟩
    rw [still instant, none]
    exact next b _ tells (.moment p)

/-- An errand in time ends later. -/
theorem asks_errand {r : Request τ β} {ok : β → Past τ → Prop}
    (allowed : InTime s T p (errand r))
    (next : ∀ b stop, p.now ≤ stop → ok b (p.note (errand r) stop)) :
    (pacing s T).may r p ∧ ∀ b p', (pacing s T).answers r p b p' → ok b p' := by
  refine ⟨allowed, ?_⟩
  rintro b _ ⟨stop, forward, -, -, rfl⟩
  exact next b stop forward

theorem obeys_clock_pace {ok : τ → Past τ → Prop} {err : Error → Past τ → Prop}
    (next : ∀ p', Lull p p' → ok p.now p') :
    Action.Obeys (pacing s T) ok err Action.clock p := by
  refine Action.obeys_clock.2 (asks_moment rfl ?_)
  rintro t p' rfl lull
  exact next p' lull

theorem obeys_log_pace {level : Level} {part : Part} {text : String} {ok : Unit → Past τ → Prop}
    {err : Error → Past τ → Prop} (next : ∀ p', Lull p p' → ok () p') :
    Action.Obeys (pacing s T) ok err (Action.log level part text) p :=
  Action.obeys_log.2 (asks_moment rfl fun _ p' _ lull => next p' lull)

variable {repo : Repository} {request : MergeRequest} {actor : String}

/-! What comes after the merge of the branches, but for its record, is no longer limited. -/

theorem obeys_unrecorded_pace {commit reason : String} {ok : α → Past τ → Prop} :
    Action.Obeys (pacing s T) ok (fun _ _ => True) (unrecorded repo request commit reason) p := by
  unfold unrecorded
  refine Action.obeys_bind.2 (obeys_log_pace fun p _ => ?_)
  exact Action.obeys_throw.2 trivial

theorem obeys_abort_pace {e : Error} {ok : α → Past τ → Prop} :
    Action.Obeys (pacing s T) ok (fun _ _ => True)
      (do
        abort request
        throw e) p := by
  unfold abort
  refine Action.obeys_bind.2 (Action.obeys_bind.2 (Action.obeys_attempt.2
    (asks_errand trivial fun b stop forward => ?_)))
  cases b with
  | ok u => exact Action.obeys_pure.2 (Action.obeys_throw.2 trivial)
  | error e' =>
    dsimp only
    split
    · exact obeys_log_pace fun p _ => Action.obeys_throw.2 trivial
    · exact Action.obeys_throw.2 trivial

/-- The second look is not the first. -/
theorem paced_landed (looked : ∃ e ∈ p.log, e.errand.isLook = true) :
    Paced s T (landed request) p := by
  unfold landed
  refine Action.obeys_bind.2 (Action.obeys_attempt.2
    (asks_errand (.inr ⟨rfl, looked⟩) fun b stop forward => ?_))
  cases b with
  | ok there => exact Action.obeys_pure.2 trivial
  | error e =>
    dsimp only
    split
    · exact Action.obeys_bind.2 (obeys_log_pace fun p _ => Action.obeys_pure.2 trivial)
    · exact Action.obeys_throw.2 trivial

theorem paced_logTransition {kind : Kind} {name : String} {number repoId : Int}
    {by_ : Option String} :
    Paced s T (logTransition kind number name repoId by_) p := by
  unfold logTransition
  split
  · exact obeys_log_pace fun _ _ => trivial
  · exact Action.obeys_pure.2 trivial

/-- A refused merge is settled by a second look, or without one. -/
theorem obeys_refused_pace {e : Error} {there : Bool} {reason : String} {ok : α → Past τ → Prop}
    (looked : ∃ e ∈ p.log, e.errand.isLook = true) :
    Action.Obeys (pacing s T) ok (fun _ _ => True)
      (do
        let there ← if there then pure false else landed request
        if there then unrecorded repo request "" reason
        else
          abort request
          throw e) p := by
  have settle (there : Bool) (p' : Past τ) :
      Action.Obeys (pacing s T) ok (fun _ _ => True)
        (if there = true then unrecorded repo request "" reason
          else do
            abort request
            throw e) p' := by
    split
    · exact obeys_unrecorded_pace
    · exact obeys_abort_pace
  cases there with
  | true => exact Action.obeys_bind.2 (Action.obeys_pure.2 (settle false p))
  | false =>
    refine Action.obeys_bind.2 ((paced_landed looked).mono ?_ fun e p' _ => trivial)
    exact fun there p' _ => settle there p'

theorem obeys_release_pace {r : Request τ Unit} (instant : r.takesTime = false) :
    (Program.request r).Obeys (pacing s T) (fun _ _ => True) p :=
  Program.obeys_request.2 (asks_moment instant fun _ _ _ _ => trivial)

variable {body : Action τ MergeRequest} {directory : Option String} {repoId : Int}

theorem paced_holdFile {t : τ} (h : Standing p) (start : s ≤ t) (bound : t ≤ due s T)
    (inside : ∀ p, Standing p → Paced s T body p) :
    Paced s T (WorkingTree.holdFile directory repoId (some t) body) p := by
  cases directory with
  | none => exact inside p h
  | some dir =>
    refine Action.obeys_bind.2 (Action.obeys_demand.2
      (asks_errand ⟨t, rfl, start, bound⟩ fun taken stop forward => ?_))
    have waited : Standing (p.note (.file (some t)) stop) := h.note forward nofun nofun
    rcases taken with e | _ | _
    · trivial
    · exact Action.obeys_throw.2 trivial
    · refine Action.obeys_withCleanup.2 (Action.obeys_bind.2 (obeys_log_pace fun p lull => ?_))
      refine (inside p (waited.lull lull)).mono ?_ ?_
      · exact fun _ _ _ => obeys_release_pace rfl
      · exact fun _ _ _ => obeys_release_pace rfl

variable [IsOrderedAddMonoid τ] [TimeScale τ] [TimeScale.Exact τ]

theorem obeys_remaining_pace {ok : Option τ → Past τ → Prop} {err : Error → Past τ → Prop}
    (next : ∀ p', Lull p p' → ok (some (left (due s T) p'.now)) p') :
    Action.Obeys (pacing s T) ok err (remaining (Deadline.after s (some T))) p := by
  unfold remaining
  refine Action.obeys_bind.2 (obeys_clock_pace fun p' lull => Action.obeys_pure.2 ?_)
  rw [remaining_after, ← lull.now]
  exact next p' lull

/-- The merge of the branches comes after a look, with whatever is left then. -/
theorem obeys_mergeCall_pace {upToDate : Bool} {reason : Error → String} (h : Standing p)
    (onTime : OnTime s T p) (looked : ∃ e ∈ p.log, e.errand.isLook = true) :
    Action.Obeys (pacing s T) (fun _ p' => Settled p') (fun _ _ => True)
      (do
        let limit ← remaining (Deadline.after s (some T))
        match ← Action.attempt
            (.tree (.merge request.sourceBranch (commitMessage request actor) actor limit)) with
        | .ok commit => pure commit
        | .error e =>
          if e.isExternal then
            let there ← if upToDate then pure false else landed request
            if there then unrecorded repo request "" (reason e)
            else
              abort request
              throw e
          else throw e) p := by
  refine Action.obeys_bind.2 (obeys_remaining_pace fun p' lull => ?_)
  refine Action.obeys_bind.2 (Action.obeys_attempt.2
    (asks_errand ⟨rfl, onTime.lull lull, (h.lull lull).unwritten⟩ fun b stop forward => ?_))
  cases b with
  | ok commit => exact Action.obeys_pure.2 ((h.lull lull).settled.note forward)
  | error e =>
    dsimp only
    split
    · obtain ⟨look, before, isLook⟩ := looked
      exact obeys_refused_pace ⟨look, List.mem_append_left _ (lull.kept look before), isLook⟩
    · exact Action.obeys_throw.2 trivial

/-- Every call gets what is left when it is made, and the target is checked out while that is more
than nothing. -/
theorem obeys_mergeBranches_pace (h : Standing p) (early : p.now < due s T) :
    Action.Obeys (pacing s T) (fun _ p' => Settled p') (fun _ _ => True)
      (mergeBranches repo request actor (Deadline.after s (some T))) p := by
  unfold mergeBranches
  refine Action.obeys_bind.2 (obeys_log_pace fun p₁ lull₁ => ?_)
  refine Action.obeys_bind.2 (obeys_remaining_pace fun p₂ lull₂ => ?_)
  have early₂ : p₂.now < due s T := (lull₁.trans lull₂).now ▸ early
  have h₂ : Standing p₂ := h.lull (lull₁.trans lull₂)
  refine Action.obeys_bind.2 (Action.obeys_demand.2
    (asks_errand ⟨rfl, early₂⟩ fun b stop forward => ?_))
  rcases b with e | u
  · trivial
  -- A checkout that keeps to its limit leaves the merge on time, and so does a look after it.
  have h₃ : Standing (p₂.note (.checkout (some (left (due s T) p₂.now))) stop) :=
    h₂.note forward nofun nofun
  have onTime₃ : OnTime s T (p₂.note (.checkout (some (left (due s T) p₂.now))) stop) :=
    OnTime.note (fun _ => early₂.le) id
  refine Action.obeys_bind.2 (obeys_remaining_pace fun p₄ lull₄ => ?_)
  refine Action.obeys_bind.2 (Action.obeys_demand.2
    (asks_errand (.inl rfl) fun b stop forward => ?_))
  rcases b with e | there
  · trivial
  have h₅ : Standing (p₄.note (.look (some (left (due s T) p₄.now))) stop) :=
    (h₃.lull lull₄).note forward nofun nofun
  have onTime₅ : OnTime s T (p₄.note (.look (some (left (due s T) p₄.now))) stop) :=
    (onTime₃.lull lull₄).note id
  exact obeys_mergeCall_pace h₅ onTime₅
    ⟨_, List.mem_append_right _ (List.mem_singleton_self _), rfl⟩

/-- The look at the clock that comes before the record shows the time at which the branches were
merged, or a later one. -/
theorem paced_record {commit : String} (h : Settled p) :
    Paced s T (record repo request actor commit (Deadline.after s (some T))) p := by
  unfold record
  refine Action.obeys_bind.2 (obeys_clock_pace fun p₁ lull₁ => ?_)
  split
  · exact obeys_unrecorded_pace
  have early : p.now < due s T := not_le.1 (mt (expired_after s T p.now).2 ‹_›)
  refine Action.obeys_bind.2 (obeys_remaining_pace fun p₂ lull₂ => ?_)
  have settled : Settled p₂ := h.lull (lull₁.trans lull₂)
  have early₂ : p₂.now < due s T := (lull₁.trans lull₂).now ▸ early
  have before : ∀ e ∈ p₂.log, ∀ limit, e.errand = .merge limit → e.stop < due s T :=
    fun e he _ _ => (settled e he).trans_lt early₂
  refine Action.obeys_bind.2 (Action.obeys_attempt.2
    (asks_errand ⟨rfl, fun _ => before⟩ fun b stop forward => ?_))
  cases b with
  | ok merged =>
    refine Action.obeys_bind.2 (paced_logTransition.mono (fun u p _ => ?_) fun e p _ => trivial)
    exact Action.obeys_bind.2 (obeys_log_pace fun p _ => Action.obeys_pure.2 trivial)
  | error e =>
    dsimp only
    split
    · exact obeys_unrecorded_pace
    · exact obeys_unrecorded_pace
    · exact obeys_unrecorded_pace
    · exact Action.obeys_throw.2 trivial

theorem paced_underLock {id : Int} (h : Standing p) :
    Paced s T (underLock repo id actor (Deadline.after s (some T))) p := by
  unfold underLock
  refine Action.obeys_bind.2 (obeys_remaining_pace fun p₁ lull₁ => ?_)
  refine Action.obeys_bind.2 (Action.obeys_demand.2
    (asks_errand ⟨rfl, nofun⟩ fun b stop forward => ?_))
  rcases b with e | request
  · trivial
  have read : Standing (p₁.note (.transaction false (some (left (due s T) p₁.now))) stop) :=
    (h.lull lull₁).note forward nofun nofun
  simp only [Action.ends]
  split
  · refine Action.obeys_bind.2 (obeys_clock_pace fun p₂ lull₂ => ?_)
    split
    · exact Action.obeys_throw.2 trivial
    have early : p₂.now < due s T :=
      lull₂.now ▸ not_le.1 (mt (expired_after s T _).2 ‹_›)
    refine Action.obeys_bind.2 ((obeys_mergeBranches_pace (read.lull lull₂) early).mono ?_ ?_)
    · exact fun commit p₃ settled => paced_record settled
    · exact fun e p₃ _ => trivial
  · exact Action.obeys_throw.2 trivial

theorem paced_hold {l : τ} (h : Standing p) (start : p.now = s) (nonneg : 0 ≤ l)
    (bound : l ≤ max 0 T)
    (inside : ∀ p, Standing p → Paced s T body p) :
    Paced s T (WorkingTree.hold directory repoId (some l) body) p := by
  unfold WorkingTree.hold
  refine Action.obeys_bind.2 (obeys_clock_pace fun p₁ lull => ?_)
  have limited : TimeScale.nonneg l = l := by
    rw [TimeScale.Exact.nonneg_eq]
    exact max_eq_right nonneg
  simp only [Option.map_some, limited, TimeScale.Exact.add_eq, start]
  refine Action.obeys_bind.2 (Action.obeys_demand.2
    (asks_errand ⟨l, rfl, nonneg, bound⟩ fun taken stop forward => ?_))
  have waited : Standing (p₁.note (.lock (some l)) stop) :=
    (h.lull lull).note forward nofun nofun
  rcases taken with e | _ | _
  · trivial
  · exact Action.obeys_throw.2 trivial
  · refine Action.obeys_withCleanup.2 ((paced_holdFile waited
      (le_add_of_nonneg_right nonneg) (add_le_add_right bound s) inside).mono ?_ ?_)
    · exact fun _ _ _ => obeys_release_pace rfl
    · exact fun _ _ _ => obeys_release_pace rfl

theorem paced_run {patience : Option τ} {id : Int} (h : ∀ l, patience = some l → 0 ≤ l) :
    Paced s T (run directory patience repo id actor (some T)) ⟨s, []⟩ := by
  have start : Standing (⟨s, []⟩ : Past τ) := ⟨nofun, nofun, nofun⟩
  unfold run
  refine Action.obeys_bind.2 (obeys_clock_pace fun p₁ lull₁ => ?_)
  refine Action.obeys_bind.2 (obeys_clock_pace fun p₂ lull₂ => ?_)
  have now : p₁.now = s := lull₁.now
  obtain ⟨l, hl, nonneg, bound⟩ := cap_after s T p₁.now h
  rw [now, left_start] at bound
  dsimp only
  rw [hl]
  exact paced_hold ((start.lull lull₁).lull lull₂) (lull₂.now.trans now) nonneg bound
    fun p h => paced_underLock h

end Course

/-! ## Timed runs -/

/-- A timed run goes along with the terms of a merge in time, and leaves its timetable. -/
theorem along_timed {s T : τ} {p : Past τ} {trace : List (Answered τ (Span τ))}
    (timed : Timed p.now trace) :
    ∃ now, (pacing s T).Along p trace ⟨now, p.log ++ timetable trace⟩ := by
  generalize hnow : p.now = now at timed
  induction timed generalizing p with
  | nil =>
    refine ⟨p.now, ?_⟩
    rw [show timetable ([] : List (Answered τ (Span τ))) = [] from rfl, List.append_nil]
    exact .nil
  | @cons now e trace starts forward still tells later ih =>
    subst hnow
    obtain ⟨now', along⟩ := ih (p := p.note (errand e.request) e.scene.stop) rfl
    refine ⟨now', .cons ⟨e.scene.stop, forward, still, tells, rfl⟩ ?_⟩
    have entries : (p.note (errand e.request) e.scene.stop).log ++ timetable trace =
        p.log ++ timetable (e :: trace) := by
      simp only [Past.note, timetable, List.map_cons, starts, List.append_assoc,
        List.singleton_append]
    exact entries ▸ along

variable [IsOrderedAddMonoid τ] [TimeScale τ] [TimeScale.Exact τ]

/-- **The caller's timeout bounds a merge.** -/
theorem timeout_bounds_merge {directory : Option String} {patience : Option τ} {repo : Repository}
    {id : Int} {actor : String} {s T : τ} {trace : List (Answered τ (Span τ))}
    {rest : Program τ (Except Error MergeRequest)} (patient : ∀ l, patience = some l → 0 ≤ l)
    (runs : (run directory patience repo id actor (some T)).run.Runs trace rest)
    (timed : Timed s trace) : Timely s T (timetable trace) := by
  have paced : Paced s T (run directory patience repo id actor (some T)) ⟨s, []⟩ :=
    paced_run patient
  have start : Kept s T ⟨s, []⟩ := .start
  obtain ⟨now, along⟩ := along_timed (s := s) (T := T) (p := ⟨s, []⟩) timed
  obtain ⟨-, kept⟩ := runs.obeys along (Action.obeys_run.1 paced)
    (fun r b p p' may answers h => Kept.next h may answers) start
  exact kept.timely

omit [AddCommGroup τ] [IsOrderedAddMonoid τ] [TimeScale τ] [TimeScale.Exact τ] in
/-- Surroundings whose state has a clock make runs that are timed by it. -/
theorem timed_play {σ α : Type} (answer : {β : Type} → Request τ β → σ → β × σ) (clock : σ → τ)
    (forward : ∀ {β : Type} (r : Request τ β) s, clock s ≤ clock (answer r s).2)
    (still : ∀ {β : Type} (r : Request τ β) s, r.takesTime = false →
      clock (answer r s).2 = clock s)
    (tells : ∀ {β : Type} (r : Request τ β) s, r.Tells (answer r s).1 (clock s))
    (p : Program τ α) (s : σ) :
    Timed (clock s) (p.play answer (fun s s' => ⟨clock s, clock s'⟩) s).1 := by
  induction p generalizing s with
  | done a => exact .nil
  | ask r next ih => exact .cons rfl (forward r s) (still r s) (tells r s) (ih _ _)

/-- The seconds that requests take on a slow machine. -/
def seconds : {β : Type} → Request ℚ β → Nat
  | _, .takeLock .. => 2
  | _, .takeFile .. => 1
  | _, .transact .. => 1
  | _, .tree (.merge ..) => 3
  | _, .tree _ => 1
  | _, .process _ => 1
  | _, _ => 0

/-- The answers on this machine, where all goes well. -/
def slowly {β : Type} (r : Request ℚ β) (s : Store × ℚ) : β × Store × ℚ :=
  let (b, s') := r.alone s.2 (fun call => .ok call.hoped) s.1
  (b, s', s.2 + seconds r)

/-- The run of a merge with a timeout of ten seconds on this machine, and its end. -/
def slowRun : List (Answered ℚ (Span ℚ)) × Except Error MergeRequest :=
  (run (some "/locks") (some 3) ⟨1, "one", "/one", 0⟩ 1 "eve" (some 10)).run.play slowly
    (fun s s' => ⟨s.2, s'.2⟩) (World.oneRequest, 0)

/-- The law at this run. -/
theorem timeout_bounds_merge_of_slowRun :
    (∀ l, some (3 : ℚ) = some l → 0 ≤ l) ∧ Timed 0 slowRun.1 ∧
      slowRun.2.toOption.map (fun m => m.state) = some .merged ∧
      limits (timetable slowRun.1) = [7, 6, 5, 4, 1] ∧
      Timely 0 10 (timetable slowRun.1) := by
  have patient : ∀ l, some (3 : ℚ) = some l → 0 ≤ l := by
    rintro l ⟨⟩
    decide +kernel
  have timed : Timed 0 slowRun.1 := by
    refine timed_play slowly Prod.snd ?_ ?_ ?_ _ (World.oneRequest, (0 : ℚ))
    · exact fun r s => le_add_of_nonneg_right (Nat.cast_nonneg _)
    · intro β r s instant
      cases r with
      | clock | openTree | dropLock | dropFile | log => exact add_zero s.2
      | takeLock | takeFile | transact | tree | process => cases instant
    · intro β r s
      cases r with
      | clock => rfl
      | _ => trivial
  have ended : slowRun.2.toOption.map (fun m => m.state) = some .merged := by decide +kernel
  have given : limits (timetable slowRun.1) = [7, 6, 5, 4, 1] := by
    decide +kernel
  exact ⟨patient, timed, ended, given,
    timeout_bounds_merge patient (Program.play_runs _ _ _ _) timed⟩

end Forge.Merge
