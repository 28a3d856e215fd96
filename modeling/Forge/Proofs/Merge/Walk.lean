import Forge.Proofs.Merge.Path
import Forge.Proofs.Replay
import Forge.Proofs.Runs

/-!
# A merge walks its path

Whatever a merge is answered, by whatever stores, clocks, locks and working trees, its calls on the
working tree follow a `Path`, and it begins that path only when it is `Prepared`: with the locks of
the repository held, the merge request seen open since then, and the deadline seen not to have
passed. What the calls and the answers were is read off the run of the program.
-/

namespace Forge

variable {τ : Type}

/-- Whether a request is a call on the working tree. -/
def Request.isVisit {β : Type} : Request τ β → Bool
  | .tree _ => true
  | _ => false

namespace Merge

/-! ## What a run shows -/

/-- What a merge has come to know and to hold. -/
structure Preparation (τ : Type) where
  journal : Journal := {}
  /-- The store that was last seen before the working tree was opened. -/
  home : Option Store := none
  /-- The first reading of the clock. -/
  began : Option τ := none
  /-- The first reading of the clock after the last look at the store. -/
  looked : Option τ := none

/-- The preparation after a request, its answer, and the stores before and after. -/
def Preparation.note (p : Preparation τ) :
    {β : Type} → Request τ β → β → Store → Store → Preparation τ
  | _, .clock, now, _, _ =>
    { p with began := p.began <|> some now, looked := p.looked <|> some now }
  | _, .transact false limit body, b, s, s' =>
    { p with journal := p.journal.note (.transact false limit body) b s s', looked := none }
  | _, .openTree repo, b, s, s' =>
    { p with journal := p.journal.note (τ := τ) (.openTree repo) b s s', home := p.journal.read }
  | _, r, b, s, s' => { p with journal := p.journal.note r b s s' }

/-- The visits of a merge to its working tree, and its preparation before the first of them. -/
structure Track (τ : Type) where
  before : Preparation τ := {}
  visits : List (Visit τ) := []

/-- The track after a request, its answer, and the stores before and after. -/
def Track.note (t : Track τ) : {β : Type} → Request τ β → β → Store → Store → Track τ
  | _, .tree call, b, _, _ => { t with visits := t.visits ++ [call.visit b] }
  | _, r, b, s, s' => if t.visits.isEmpty then { t with before := t.before.note r b s s' } else t

/-- The track that a run leaves. A scene has the stores before and after the answer. -/
def track (trace : List (Answered τ (Store × Store))) : Track τ :=
  trace.foldl (fun t e => t.note e.request e.answer e.scene.1 e.scene.2) {}

variable [TimeScale τ] {policy : Policy τ} {name : String} {id : Int} {limit : Option τ}

/-- The merge has found its repository and opened its working tree, holds the locks, has since then
seen the merge request open, and has then seen the clock before its deadline. -/
structure Prepared (policy : Policy τ) (name : String) (id : Int) (limit : Option τ)
    (repo : Repository) (s : Store) (r : StoredMergeRequest) (p : Preparation τ) : Prop where
  opened : p.journal.opened = some repo
  named : ∃ home, p.home = some home ∧ (Store.repositoryNamed name).Returns home repo home
  holds : p.journal.Holds policy.lockDirectory
  seen : p.journal.read = some s
  row : r ∈ s.mergeRequests.rows
  belongs : r.repoId = repo.id
  wanted : r.id = id
  isOpen : r.state = "open"
  inTime : ∃ began now, p.began = some began ∧ p.looked = some now ∧
    (Deadline.after began (limit <|> policy.mergeLimit)).expired now = false

/-- The working tree has not been called, or the merge was prepared for it and has followed the path
between the branches of its merge request. In both cases, `reached` is so of its stage. -/
inductive Walked (policy : Policy τ) (name : String) (id : Int) (limit : Option τ)
    (reached : Stage → Prop) (t : Track τ) : Prop
  | idle (none : t.visits = []) (fresh : reached .fresh)
  | along {repo : Repository} {s : Store} {r : StoredMergeRequest} {stage : Stage}
      (prepared : Prepared policy name id limit repo s r t.before)
      (path : Path r.sourceBranch r.targetBranch t.visits stage) (stands : reached stage)

/-- A merge calls the working tree only when it is prepared to, and for a move of its path. -/
def walking (policy : Policy τ) (name : String) (id : Int) (limit : Option τ) :
    Terms τ (Track τ) where
  may r t := match r with
    | .tree call => ∃ repo s r stage, Prepared policy name id limit repo s r t.before ∧
        Path r.sourceBranch r.targetBranch t.visits stage ∧
          ∀ b, (∀ e, b = .error e → e.isExternal = true) →
            ∃ stage', stage.Leads r.sourceBranch r.targetBranch (call.visit b) stage'
    | _ => True
  answers r t b t' := ∃ s s', Exchange r b s s' ∧ t' = t.note r b s s'

/-- The action leaves a merge on its path: it returns when the branches are merged, and fails as the
stage that it has reached lets it. -/
def Walks {α : Type} (policy : Policy τ) (name : String) (id : Int) (limit : Option τ)
    (x : Action τ α) (t : Track τ) : Prop :=
  x.Obeys (walking policy name id limit)
    (fun _ t' => Walked policy name id limit (· = .merged) t')
    (fun e t' => Walked policy name id limit (Stage.Fails e) t') t

/-! ## One request -/

section Requests

variable {β : Type} {r : Request τ β} {b : β} {s₁ s₂ : Store} {t : Track τ} {reached : Stage → Prop}

omit [TimeScale τ] in
theorem Track.note_of_nil (h : t.visits = []) (hr : r.isVisit = false) :
    t.note r b s₁ s₂ = { t with before := t.before.note r b s₁ s₂ } := by
  cases r with
  | tree call => cases hr
  | _ => simp only [note, h, List.isEmpty_nil, if_true]

omit [TimeScale τ] in
theorem Track.note_of_ne_nil (h : t.visits ≠ []) (hr : r.isVisit = false) :
    t.note r b s₁ s₂ = t := by
  have visited : t.visits.isEmpty = false := List.isEmpty_eq_false_iff.2 h
  cases r with
  | tree call => cases hr
  | _ => simp only [note, visited, Bool.false_eq_true, if_false]

/-- What is said of the visits so far remains so while there are no more. -/
theorem Walked.note (h : Walked policy name id limit reached t) (hr : r.isVisit = false) :
    Walked policy name id limit reached (t.note r b s₁ s₂) := by
  by_cases hv : t.visits = []
  · rw [Track.note_of_nil hv hr]
    cases h with
    | idle _ fresh => exact .idle hv fresh
    | along _ path stands =>
      rw [hv] at path
      exact .idle hv (path.eq_fresh ▸ stands)
  · rw [Track.note_of_ne_nil hv hr]
    exact h

theorem Walked.mono {reached' : Stage → Prop} (h : Walked policy name id limit reached t)
    (sub : ∀ stage, reached stage → reached' stage) : Walked policy name id limit reached' t := by
  cases h with
  | idle none fresh => exact .idle none (sub _ fresh)
  | along prepared path stands => exact .along prepared path (sub _ stands)

/-- What is allowed and answered leaves a merge on its path. -/
theorem Walked.next {t' : Track τ} (h : Walked policy name id limit (fun _ => True) t)
    (may : (walking policy name id limit).may r t)
    (answers : (walking policy name id limit).answers r t b t') :
    Walked policy name id limit (fun _ => True) t' := by
  obtain ⟨s₁, s₂, exchange, rfl⟩ := answers
  cases r with
  | tree call =>
    obtain ⟨repo, s, r, stage, prepared, path, moves⟩ := may
    obtain ⟨stage', leads⟩ := moves b exchange.1
    exact .along prepared (path.step leads) trivial
  | _ => exact h.note rfl

end Requests

/-- A merge that is on its path. -/
structure Underway (policy : Policy τ) (name : String) (id : Int) (limit : Option τ)
    (repo : Repository) (s : Store) (r : StoredMergeRequest) (stage : Stage) (t : Track τ) :
    Prop where
  prepared : Prepared policy name id limit repo s r t.before
  path : Path r.sourceBranch r.targetBranch t.visits stage

/-- A request that a prepared merge can make without ceasing to be so. -/
def calm {β : Type} : Request τ β → Prop
  | .clock | .log _ | .transact true .. => True
  | _ => False

section Path

variable {repo : Repository} {s : Store} {row : StoredMergeRequest} {stage : Stage} {t : Track τ}

theorem Prepared.note {p : Preparation τ} {β : Type} {r : Request τ β} {b : β} {s₁ s₂ : Store}
    (h : Prepared policy name id limit repo s row p) (hr : calm r) :
    Prepared policy name id limit repo s row (p.note r b s₁ s₂) := by
  cases r with
  | clock =>
    obtain ⟨began, now, hbegan, hnow, inTime⟩ := h.inTime
    refine { h with inTime := ⟨began, now, ?_, ?_, inTime⟩ }
    · show (p.began <|> some b) = some began
      rw [hbegan]
      rfl
    · show (p.looked <|> some b) = some now
      rw [hnow]
      rfl
  | log record => exact { h with }
  | transact write limit body =>
    cases write with
    | false => cases hr
    | true => exact { h with }
  | _ => cases hr

/-- Between its visits a merge stays on its path. -/
theorem Underway.asks {β : Type} {r : Request τ β} {ok : β → Track τ → Prop}
    (h : Underway policy name id limit repo s row stage t) (hr : calm r)
    (next : ∀ b t', Underway policy name id limit repo s row stage t' → ok b t') :
    (walking policy name id limit).may r t ∧
      ∀ b t', (walking policy name id limit).answers r t b t' → ok b t' := by
  have quiet : r.isVisit = false := by
    cases r with
    | tree call => cases hr
    | _ => rfl
  constructor
  · cases r with
    | tree call => cases hr
    | _ => trivial
  · rintro b _ ⟨s₁, s₂, -, rfl⟩
    apply next
    by_cases hv : t.visits = []
    · rw [Track.note_of_nil hv quiet]
      exact ⟨h.prepared.note hr, h.path⟩
    · rw [Track.note_of_ne_nil hv quiet]
      exact h

/-- A visit takes a merge to the stage that its answer leads to. -/
theorem Underway.calls {α : Type} {call : TreeCall τ α} {ok : Except Error α → Track τ → Prop}
    (h : Underway policy name id limit repo s row stage t)
    (answered : ∀ a, ∃ stage',
      stage.Leads row.sourceBranch row.targetBranch (call.visit (.ok a)) stage' ∧
        ∀ t', Underway policy name id limit repo s row stage' t' → ok (.ok a) t')
    (refused : ∀ e, e.isExternal = true → ∃ stage',
      stage.Leads row.sourceBranch row.targetBranch (call.visit (.error e)) stage' ∧
        ∀ t', Underway policy name id limit repo s row stage' t' → ok (.error e) t') :
    (walking policy name id limit).may (.tree call) t ∧
      ∀ b t', (walking policy name id limit).answers (.tree call) t b t' → ok b t' := by
  have moves (b : Except Error α) (external : ∀ e, b = .error e → e.isExternal = true) :
      ∃ stage', stage.Leads row.sourceBranch row.targetBranch (call.visit b) stage' ∧
        ∀ t', Underway policy name id limit repo s row stage' t' → ok b t' := by
    cases b with
    | ok a => exact answered a
    | error e => exact refused e (external e rfl)
  constructor
  · refine ⟨repo, s, row, stage, h.prepared, h.path, fun b external => ?_⟩
    obtain ⟨stage', leads, -⟩ := moves b external
    exact ⟨stage', leads⟩
  · rintro b _ ⟨s₁, s₂, exchange, rfl⟩
    obtain ⟨stage', leads, goesOn⟩ := moves b exchange.1
    exact goesOn _ ⟨h.prepared, h.path.step leads⟩

/-! ## The visits -/

section Visits

variable {request : MergeRequest} {actor : String} {deadline : Deadline τ} {α : Type}

/-- Where a merge stands, it may end. -/
theorem Underway.ends {e : Error} (h : Underway policy name id limit repo s row stage t)
    (fails : stage.Fails e) : Walked policy name id limit (Stage.Fails e) t :=
  .along h.prepared h.path fails

theorem obeys_remaining_walk {ok : Option τ → Track τ → Prop} {err : Error → Track τ → Prop}
    (h : Underway policy name id limit repo s row stage t)
    (next : ∀ left t', Underway policy name id limit repo s row stage t' → ok left t') :
    Action.Obeys (walking policy name id limit) ok err (remaining deadline) t := by
  refine Action.obeys_bind.2 (Action.obeys_clock.2 (h.asks trivial fun now t' h' => ?_))
  exact Action.obeys_pure.2 (next _ t' h')

/-- A merge that has reached the branches may always end as one that is not recorded. -/
theorem obeys_unrecorded_walk {commit reason : String} {ok : α → Track τ → Prop}
    (h : Underway policy name id limit repo s row stage t)
    (reached : stage = .merged ∨ stage = .landed) :
    Action.Obeys (walking policy name id limit) ok
      (fun e t' => Walked policy name id limit (Stage.Fails e) t')
      (unrecorded repo request commit reason) t := by
  unfold unrecorded
  refine Action.obeys_bind.2 (Action.obeys_log.2 (h.asks trivial fun u t' h' => ?_))
  refine Action.obeys_throw.2 (h'.ends ?_)
  rcases reached with rfl | rfl
  · trivial
  · rfl

/-- The merge is undone, and fails with the error of the refusal, whatever comes of that. -/
theorem obeys_abort_walk {e : Error} {ok : α → Track τ → Prop}
    (h : Underway policy name id limit repo s row stage t) (he : e.isExternal = true)
    (leads : ∀ answer, stage.Leads row.sourceBranch row.targetBranch
      (.abortMerge answer : Visit τ) (.undone e)) :
    Action.Obeys (walking policy name id limit) ok
      (fun e t' => Walked policy name id limit (Stage.Fails e) t')
      (do
        abort request
        throw e) t := by
  have done {t' : Track τ} (h' : Underway policy name id limit repo s row (.undone e) t') :
      Walked policy name id limit (Stage.Fails e) t' := h'.ends ⟨rfl, he⟩
  unfold abort
  refine Action.obeys_bind.2 (Action.obeys_bind.2 (Action.obeys_attempt.2 (h.calls ?_ ?_)))
  · intro u
    refine ⟨_, leads _, fun t' h' => ?_⟩
    exact Action.obeys_pure.2 (Action.obeys_throw.2 (done h'))
  · intro e' external
    refine ⟨_, leads _, fun t' h' => ?_⟩
    dsimp only
    rw [if_pos external]
    refine Action.obeys_log.2 (h'.asks trivial fun u t' h' => ?_)
    exact Action.obeys_throw.2 (done h')

/-- After a refusal, the second look tells a merge that has landed from one that has not. -/
theorem obeys_landed_walk {e : Error} {ok : Bool → Track τ → Prop} {err : Error → Track τ → Prop}
    (h : Underway policy name id limit repo s row (.refused false e) t)
    (source : request.sourceBranch = row.sourceBranch)
    (target : request.targetBranch = row.targetBranch)
    (landed : ∀ t', Underway policy name id limit repo s row .landed t' → ok true t')
    (missing : ∀ t', Underway policy name id limit repo s row (.missing e) t' → ok false t') :
    Action.Obeys (walking policy name id limit) ok err (Merge.landed request) t := by
  unfold Merge.landed
  rw [source, target]
  refine Action.obeys_bind.2 (Action.obeys_attempt.2 (h.calls ?_ ?_))
  · intro there
    cases there with
    | true => exact ⟨_, .landed, fun t' h' => Action.obeys_pure.2 (landed t' h')⟩
    | false => exact ⟨_, .notLanded, fun t' h' => Action.obeys_pure.2 (missing t' h')⟩
  · intro e' external
    refine ⟨_, .unknown, fun t' h' => ?_⟩
    dsimp only
    rw [if_pos external]
    refine Action.obeys_bind.2 (Action.obeys_log.2 (h'.asks trivial fun u t' h' => ?_))
    exact Action.obeys_pure.2 (missing t' h')

/-- A refused merge is undone unless it has landed, which only a second look can tell, and only where
the first has not found the target to contain the source already. -/
theorem obeys_refused_walk {e : Error} {there : Bool} {reason : String} {ok : α → Track τ → Prop}
    (h : Underway policy name id limit repo s row (.refused there e) t)
    (he : e.isExternal = true) (source : request.sourceBranch = row.sourceBranch)
    (target : request.targetBranch = row.targetBranch) :
    Action.Obeys (walking policy name id limit) ok
      (fun e t' => Walked policy name id limit (Stage.Fails e) t')
      (do
        let there ← if there then pure false else Merge.landed request
        if there then unrecorded repo request "" reason
        else
          abort request
          throw e) t := by
  cases there with
  | true =>
    refine Action.obeys_bind.2 (Action.obeys_pure.2 ?_)
    exact obeys_abort_walk h he fun answer => .undo
  | false =>
    refine Action.obeys_bind.2 (obeys_landed_walk h source target ?_ ?_)
    · intro t' h'
      exact obeys_unrecorded_walk h' (.inr rfl)
    · intro t' h'
      exact obeys_abort_walk h' he fun answer => .undoMissing

theorem obeys_mergeBranches_walk (h : Underway policy name id limit repo s row .fresh t)
    (source : request.sourceBranch = row.sourceBranch)
    (target : request.targetBranch = row.targetBranch) :
    Action.Obeys (walking policy name id limit)
      (fun _ t' => Underway policy name id limit repo s row .merged t')
      (fun e t' => Walked policy name id limit (Stage.Fails e) t')
      (mergeBranches repo request actor deadline) t := by
  unfold mergeBranches
  refine Action.obeys_bind.2 (Action.obeys_log.2 (h.asks trivial fun u t h => ?_))
  refine Action.obeys_bind.2 (obeys_remaining_walk h fun left t h => ?_)
  refine Action.obeys_bind.2 (Action.obeys_demand.2 (h.calls ?_ ?_))
  case refine_2 =>
    intro e external
    rw [target]
    exact ⟨_, .noCheckout, fun t' h' => h'.ends ⟨rfl, external⟩⟩
  intro u
  rw [target]
  refine ⟨_, .checkout, fun t h => ?_⟩
  refine Action.obeys_bind.2 (obeys_remaining_walk h fun left t h => ?_)
  refine Action.obeys_bind.2 (Action.obeys_demand.2 (h.calls ?_ ?_))
  case refine_2 =>
    intro e external
    rw [source]
    exact ⟨_, .noLook, fun t' h' => h'.ends ⟨rfl, external⟩⟩
  intro there
  rw [source]
  refine ⟨_, .look, fun t h => ?_⟩
  refine Action.obeys_bind.2 (obeys_remaining_walk h fun left t h => ?_)
  refine Action.obeys_bind.2 (Action.obeys_attempt.2 (h.calls ?_ ?_))
  · intro commit
    exact ⟨_, .merge, fun t' h' => Action.obeys_pure.2 h'⟩
  · intro e external
    refine ⟨_, .noMerge, fun t' h' => ?_⟩
    dsimp only
    rw [if_pos external]
    exact obeys_refused_walk h' external source target

/-- The merge stays the last visit when it is recorded, or when that fails. -/
theorem walks_record {commit : String}
    (h : Underway policy name id limit repo s row .merged t) :
    Walks policy name id limit (record repo request actor commit deadline) t := by
  unfold record
  refine Action.obeys_bind.2 (Action.obeys_clock.2 (h.asks trivial fun now t h => ?_))
  split
  · exact obeys_unrecorded_walk h (.inl rfl)
  refine Action.obeys_bind.2 (obeys_remaining_walk h fun left t h => ?_)
  refine Action.obeys_bind.2 (Action.obeys_attempt.2 (h.asks trivial fun b t h => ?_))
  cases b with
  | ok merged =>
    have logged (t : Track τ) (h : Underway policy name id limit repo s row .merged t) :
        Action.Obeys (walking policy name id limit)
          (fun _ t' => Underway policy name id limit repo s row .merged t')
          (fun e t' => Walked policy name id limit (Stage.Fails e) t')
          (logTransition .mergeRequest request.id "merge" repo.id (some actor)) t := by
      unfold logTransition
      split
      · exact Action.obeys_log.2 (h.asks trivial fun u t' h' => h')
      · exact Action.obeys_pure.2 h
    refine Action.obeys_bind.2 ((logged t h).mono (fun u t h => ?_) fun e t' h' => h')
    refine Action.obeys_bind.2 (Action.obeys_log.2 (h.asks trivial fun u t h => ?_))
    exact Action.obeys_pure.2 (.along h.prepared h.path rfl)
  | error e =>
    dsimp only
    split
    · exact obeys_unrecorded_walk h (.inl rfl)
    · exact obeys_unrecorded_walk h (.inl rfl)
    · exact obeys_unrecorded_walk h (.inl rfl)
    · exact Action.obeys_throw.2 (h.ends trivial)

end Visits

end Path

/-! ## Before the first visit -/

/-- A merge that has opened the working tree of its repository and has looked at the clock, and has
not called the tree. -/
structure Begun (name : String) (repo : Repository) (start : τ) (t : Track τ) : Prop where
  fresh : t.visits = []
  opened : t.before.journal.opened = some repo
  named : ∃ home, t.before.home = some home ∧ (Store.repositoryNamed name).Returns home repo home
  began : t.before.began = some start

section Begun

variable {repo : Repository} {start : τ} {t : Track τ}

/-- Neither a call on the working tree nor the opening of one. -/
def aside {β : Type} : Request τ β → Prop
  | .tree _ | .openTree _ => False
  | _ => True

omit [TimeScale τ] in
theorem Begun.note {β : Type} {r : Request τ β} {b : β} {s₁ s₂ : Store}
    (h : Begun name repo start t) (hr : aside r) :
    Begun name repo start { t with before := t.before.note r b s₁ s₂ } := by
  cases r with
  | tree call => cases hr
  | openTree repo => cases hr
  | clock =>
    refine { h with began := ?_ }
    show (t.before.began <|> some b) = some start
    rw [h.began]
    rfl
  | transact write limit body => cases write <;> exact { h with }
  | takeLock repoId limit => rcases b with e | _ | _ <;> exact { h with }
  | takeFile repoId deadline => rcases b with e | _ | _ <;> exact { h with }
  | process call => exact { h with }
  | dropLock repoId => exact { h with }
  | dropFile repoId => exact { h with }
  | log record => exact { h with }

/-- Before its first visit, a merge may ask for anything else. -/
theorem Begun.asks {β : Type} {r : Request τ β} {ok : β → Track τ → Prop}
    (h : Begun name repo start t) (hr : aside r)
    (next : ∀ b s₁ s₂, Exchange r b s₁ s₂ →
      Begun name repo start { t with before := t.before.note r b s₁ s₂ } →
        ok b { t with before := t.before.note r b s₁ s₂ }) :
    (walking policy name id limit).may r t ∧
      ∀ b t', (walking policy name id limit).answers r t b t' → ok b t' := by
  have quiet : r.isVisit = false := by
    cases r with
    | tree call => cases hr
    | _ => rfl
  constructor
  · cases r with
    | tree call => cases hr
    | _ => trivial
  · rintro b _ ⟨s₁, s₂, exchange, rfl⟩
    rw [Track.note_of_nil h.fresh quiet]
    exact next b s₁ s₂ exchange (h.note hr)

omit [TimeScale τ] in
theorem Begun.fails [TimeScale τ] {e : Error} (h : Begun name repo start t) :
    Walked policy name id limit (Stage.Fails e) t :=
  .idle h.fresh trivial

/-- The look at the store that finds the merge request open, and the look at the clock after it,
are all that is missing when the locks are held. -/
theorem walks_underLock {actor : String} (h : Begun name repo start t)
    (holds : t.before.journal.Holds policy.lockDirectory) :
    Walks policy name id limit
      (underLock repo id actor (Deadline.after start (limit <|> policy.mergeLimit))) t := by
  unfold underLock remaining
  refine Action.obeys_bind.2 (Action.obeys_bind.2 (Action.obeys_clock.2 (h.asks trivial ?_)))
  rintro now _ _ - h
  refine Action.obeys_pure.2 (Action.obeys_bind.2 (Action.obeys_demand.2 (h.asks trivial ?_)))
  intro b s s' exchange h
  rcases exchange.transact with ⟨⟨report, rfl⟩, rfl⟩ | ⟨_, -, ⟨request, rfl, got⟩ | ⟨e, rfl, -, -⟩⟩
  · exact h.fails
  · obtain ⟨-, -, -, rfl, r, found, reads⟩ := Ticket.returns_get.1 got
    obtain ⟨belongs, wanted⟩ : r.repoId = repo.id ∧ r.id = id :=
      Ticket.isAt_iff.1 (List.find?_some found)
    simp only [Action.ends]
    split
    · obtain ⟨isOpen, -, source, target⟩ := open_of_read reads ‹_›
      refine Action.obeys_bind.2 (Action.obeys_clock.2 (h.asks trivial ?_))
      rintro looked _ _ - h
      split
      · exact Action.obeys_throw.2 h.fails
      · have prepared : Prepared policy name id limit repo s' r _ :=
          { opened := h.opened
            named := h.named
            holds := holds
            seen := rfl
            row := List.mem_of_find?_eq_some found
            belongs := belongs
            wanted := wanted
            isOpen := isOpen
            inTime := ⟨start, looked, h.began, rfl, Bool.eq_false_iff.2 ‹_›⟩ }
        have underway : Underway policy name id limit repo s' r .fresh _ :=
          ⟨prepared, h.fresh ▸ .start⟩
        refine Action.obeys_bind.2 ((obeys_mergeBranches_walk underway source target).mono ?_ ?_)
        · exact fun commit t' h' => walks_record h'
        · exact fun e t' h' => h'
    · exact Action.obeys_throw.2 h.fails
  · exact h.fails

/-- What is given back does not change what has been walked. -/
theorem obeys_release {β : Type} {r : Request τ β} {reached : Stage → Prop}
    (quiet : r.isVisit = false) (h : Walked policy name id limit reached t) :
    (Program.request r).Obeys (walking policy name id limit)
      (fun _ => Walked policy name id limit reached) t := by
  refine Program.obeys_request.2 ⟨?_, ?_⟩
  · cases r with
    | tree call => cases quiet
    | _ => trivial
  · rintro b _ ⟨s₁, s₂, -, rfl⟩
    exact h.note quiet

variable {body : Action τ MergeRequest}

/-- With the lock file, where there is a directory for these, the body holds all its locks. -/
theorem walks_holdFile {directory : Option String} {due : Option τ}
    (h : Begun name repo start t) (locked : t.before.journal.locked = true)
    (shared : policy.lockDirectory = directory)
    (inside : ∀ t', Begun name repo start t' → t'.before.journal.Holds policy.lockDirectory →
      Walks policy name id limit body t') :
    Walks policy name id limit (WorkingTree.holdFile directory repo.id due body) t := by
  cases directory with
  | none =>
    refine inside t h ⟨locked, fun some => ?_⟩
    rw [shared] at some
    cases some
  | some dir =>
    refine Action.obeys_bind.2 (Action.obeys_demand.2 (h.asks trivial ?_))
    rintro taken _ _ - h
    rcases taken with e | _ | _
    · exact h.fails
    · exact Action.obeys_throw.2 h.fails
    · refine Action.obeys_withCleanup.2 (Action.obeys_bind.2 (Action.obeys_log.2
        (h.asks trivial ?_)))
      rintro u _ _ - h
      refine (inside _ h ⟨locked, fun _ => rfl⟩).mono ?_ ?_
      · exact fun m t' walked => obeys_release rfl walked
      · exact fun e t' walked => obeys_release rfl walked

theorem walks_hold {lockLimit : Option τ} (h : Begun name repo start t)
    (inside : ∀ t', Begun name repo start t' → t'.before.journal.Holds policy.lockDirectory →
      Walks policy name id limit body t') :
    Walks policy name id limit
      (WorkingTree.hold policy.lockDirectory repo.id lockLimit body) t := by
  unfold WorkingTree.hold
  refine Action.obeys_bind.2 (Action.obeys_clock.2 (h.asks trivial ?_))
  rintro now _ _ - h
  refine Action.obeys_bind.2 (Action.obeys_demand.2 (h.asks trivial ?_))
  rintro taken _ _ - h
  rcases taken with e | _ | _
  · exact h.fails
  · exact Action.obeys_throw.2 h.fails
  · refine Action.obeys_withCleanup.2 ((walks_holdFile h rfl rfl inside).mono ?_ ?_)
    · exact fun m t' walked => obeys_release rfl walked
    · exact fun e t' walked => obeys_release rfl walked

/-- The first look at the clock sets the deadline. -/
theorem walks_run {actor : String} (fresh : t.visits = [])
    (opened : t.before.journal.opened = some repo)
    (named : ∃ home, t.before.home = some home ∧ (Store.repositoryNamed name).Returns home repo home)
    (timeless : t.before.began = none) :
    Walks policy name id limit
      (run policy.lockDirectory policy.lockLimit repo id actor (limit <|> policy.mergeLimit)) t := by
  unfold run
  refine Action.obeys_bind.2 (Action.obeys_clock.2 ⟨trivial, ?_⟩)
  rintro start _ ⟨s₁, s₂, -, rfl⟩
  rw [Track.note_of_nil fresh rfl]
  have begun : Begun name repo start
      { t with before := t.before.note (.clock : Request τ τ) start s₁ s₂ } := by
    refine ⟨fresh, opened, named, ?_⟩
    show (t.before.began <|> some start) = some start
    rw [timeless]
    rfl
  refine Action.obeys_bind.2 (Action.obeys_clock.2 (begun.asks trivial ?_))
  rintro now _ _ - begun
  exact walks_hold begun fun t' begun holds => walks_underLock begun holds

end Begun

/-! ## Whole merges -/

/-- A merge walks its path and ends as the stage that it has reached lets it. -/
theorem walks_merge {actor : Option String} :
    Walks policy name id limit (Workflow.merge policy name id actor limit) {} := by
  have unvisited {e : Error} {p : Preparation τ} :
      Walked policy name id limit (Stage.Fails e) ⟨p, []⟩ := .idle rfl trivial
  unfold Workflow.merge Workflow.repository Workflow.session
  refine Action.obeys_bind.2 (Action.obeys_ofExcept.2 ?_)
  cases cleanActor actor with
  | error e => exact unvisited
  | ok merger =>
    refine Action.obeys_bind.2 (Action.obeys_bind.2 (Action.obeys_attempt.2 ⟨trivial, ?_⟩))
    rintro found _ ⟨home, s₂, exchange, rfl⟩
    rcases exchange.transact with ⟨⟨report, rfl⟩, -⟩ | ⟨_, -, ⟨repo, rfl, named⟩ | ⟨e, rfl, -, -⟩⟩
    · exact Action.obeys_throw.2 unvisited
    · obtain ⟨-, -, -, -, rfl⟩ := Store.returns_repositoryNamed.1 named
      refine Action.obeys_pure.2 (Action.obeys_bind.2 (Action.obeys_ask.2 ⟨trivial, ?_⟩))
      rintro u _ ⟨s₃, s₄, -, rfl⟩
      refine Action.obeys_bind.2 (Action.obeys_lift.2 ?_)
      refine (walks_run rfl rfl ⟨s₂, rfl, named⟩ rfl).mono ?_ ?_
      · exact fun m t' walked => Action.obeys_pure.2 walked
      · exact fun e t' walked => Action.obeys_throw.2
          (walked.mono fun stage fails => fails.classified)
    · exact Action.obeys_throw.2 unvisited

/-- What is known of the visits of a merge, and of its end if that has come. -/
structure Disciplined (policy : Policy τ) (name : String) (id : Int) (limit : Option τ)
    (t : Track τ) (rest : Program τ (Except Error Answer)) : Prop where
  /-- They follow the path, as far as the merge has come, and have begun no earlier than they may. -/
  walked : Walked policy name id limit (fun stage => ∀ x, rest = .done x → stage.Ends x) t
  once : t.visits.countP Visit.isAbort ≤ 1
  /-- What has been undone had not been merged. -/
  unmerged : ∀ answer, .abortMerge answer ∈ t.visits → ∀ visit ∈ t.visits, ∀ commit,
    visit.merged? ≠ some (.ok commit)
  /-- Whatever has become of the undoing, the merge fails as it did in the working tree. -/
  original : ∀ answer, .abortMerge answer ∈ t.visits → ∀ x, rest = .done x →
    ∃ e, x = .error e ∧ e.isUnrecorded = false ∧ ∃ visit ∈ t.visits, visit.merged? = some (.error e)

theorem Walked.disciplined {t : Track τ} {rest : Program τ (Except Error Answer)}
    (h : Walked policy name id limit (fun stage => ∀ x, rest = .done x → stage.Ends x) t) :
    Disciplined policy name id limit t rest := by
  cases h with
  | idle none fresh =>
    refine ⟨.idle none fresh, ?_, ?_, ?_⟩
    · rw [none]
      exact Nat.zero_le 1
    · rw [none]
      exact fun answer hv => absurd hv List.not_mem_nil
    · rw [none]
      exact fun answer hv => absurd hv List.not_mem_nil
  | along prepared path stands =>
    refine ⟨.along prepared path stands, ?_, ?_, ?_⟩
    · rw [path.countP_isAbort]
      exact Bool.toNat_le _
    · intro answer hv visit hm commit merged
      obtain ⟨e, rfl⟩ := path.isUndone_of_mem hv
      exact absurd (path.merged_of_mem hm merged) nofun
    · intro answer hv x ended
      obtain ⟨e, rfl⟩ := path.isUndone_of_mem hv
      have fails := stands x ended
      cases x with
      | ok a => cases fails
      | error e' =>
        obtain ⟨rfl, external⟩ := fails
        exact ⟨e', rfl, not_isUnrecorded_of_isExternal external, path.refusal rfl⟩

theorem along_track {trace : List (Answered τ (Store × Store))} {t : Track τ}
    (possible : ∀ e ∈ trace, Exchange e.request e.answer e.scene.1 e.scene.2) :
    (walking policy name id limit).Along t trace
      (trace.foldl (fun t e => t.note e.request e.answer e.scene.1 e.scene.2) t) := by
  induction trace generalizing t with
  | nil => exact .nil
  | cons e trace ih =>
    obtain ⟨here, later⟩ := List.forall_mem_cons.1 possible
    exact .cons ⟨e.scene.1, e.scene.2, here, rfl⟩ (ih later)

/-- **A merge keeps to its path**, whatever stores, clocks, locks and working trees answer it. -/
theorem keeps_to_path {actor : Option String} {trace : List (Answered τ (Store × Store))}
    {rest : Program τ (Except Error Answer)}
    (runs : ((Operation.merge name id actor limit).action policy).run.Runs trace rest)
    (possible : ∀ e ∈ trace, Exchange e.request e.answer e.scene.1 e.scene.2) :
    Disciplined policy name id limit (track trace) rest := by
  have walks : Walks policy name id limit ((Operation.merge name id actor limit).action policy) {} :=
    Action.obeys_map.2 walks_merge
  have start : Walked policy name id limit (fun _ => True) ({} : Track τ) := .idle rfl trivial
  obtain ⟨obeys, walked⟩ := runs.obeys (along_track possible) (Action.obeys_run.1 walks)
    (fun r b s s' may answers h => h.next may answers) start
  apply Walked.disciplined
  cases rest with
  | done x =>
    have ended := Program.obeys_done.1 obeys
    cases x with
    | ok a => exact ended.mono fun stage merged x hx => by cases hx; exact merged
    | error e => exact ended.mono fun stage fails x hx => by cases hx; exact fails
  | ask r next => exact walked.mono fun stage _ x hx => by cases hx

/-- A working tree in which every merge runs into a conflict and none can be undone. -/
def conflicting : {α : Type} → TreeCall τ α → Except Error α
  | _, .merge .. => .error (.external "conflict")
  | _, .abortMerge => .error (.external "there is no merge to abort")
  | _, .branchExists _ => .ok true
  | _, .contains .. => .ok false
  | _, .checkout .. => .ok ()

/-- The run of a merge that runs into a conflict, and its end. -/
def conflict : List (Answered Binary64 (Store × Store)) × Except Error Answer :=
  ((Operation.merge "one" 1 (some "eve") none).action
    ⟨some "/locks", none, none⟩ : Action Binary64 Answer).run.play
      (Request.alone TimeScale.zero conflicting) Prod.mk World.oneRequest

/-- The law at this run. -/
theorem keeps_to_path_of_conflict :
    (∀ e ∈ conflict.1, Exchange e.request e.answer e.scene.1 e.scene.2) ∧
      Disciplined ⟨some "/locks", none, none⟩ "one" 1 none (track conflict.1)
        (.done (.error (.external "conflict"))) ∧
      (track conflict.1).visits.length = 5 := by
  have possible : ∀ e ∈ conflict.1, Exchange e.request e.answer e.scene.1 e.scene.2 := by
    apply Program.forall_mem_play
    intro β r s
    apply Request.exchange_alone
    intro α call e refused
    cases call with
    | merge | abortMerge =>
      cases refused
      rfl
    | branchExists | contains | checkout => cases refused
  have ended : conflict.2 = .error (.external "conflict") := by decide +kernel
  have runs := Program.play_runs (Request.alone TimeScale.zero conflicting) Prod.mk
    ((Operation.merge "one" 1 (some "eve") none).action
      ⟨some "/locks", none, none⟩ : Action Binary64 Answer).run World.oneRequest
  refine ⟨possible, keeps_to_path (ended ▸ runs) possible, ?_⟩
  decide +kernel

end Merge

end Forge
