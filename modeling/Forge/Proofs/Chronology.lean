import Forge.Proofs.Frame.Ledger
import Forge.Proofs.Listing.Descending

/-!
# Clocks that do not go backwards

A transaction reads the time of day by itself, and a merge makes its last one long after its first.
Whatever was answered in between, the times of all rows are in order if only the clock has never
gone backwards (`World.Clocked`): each event of a run changes the store at a time that is no earlier
than all that stand in its rows. So no list that is sorted by these times contradicts the numbers.
Timed replays show worlds of this kind.
-/

namespace Forge

open Transaction (fits)

variable {τ : Type} {faults : Error → Prop}

/-! ## Times of events -/

/-- The statements of a transaction ran at `now`, unless the surroundings refused to run them. -/
def Request.At (now : Int) : {β : Type} → Request τ β → β → Store → Store → Prop
  | _, .transact _ _ body, b, s, s' =>
    (∃ e, b = .error e ∧ Refuses (fun _ => True) e) ∧ s' = s ∨ (body now).commit s = (b, s')
  | _, _, _, _, _ => True

/-- What a transaction does at `now`, is an effect of this time. -/
theorem Request.InCourse.effect_at {op : Operation τ} {j : Journal} {β : Type} {r : Request τ β}
    {b : β} {s s' : Store} {now : Int} (h : r.InCourse op j) (hs : s.Follows j)
    (reply : Reply faults r b s s') (timed : r.At now b s s') : Effect now s s' := by
  have unchanged (same : s' = s) : Effect now s s' := same ▸ .nothing
  cases r with
  | transact write limit body =>
    rcases timed with ⟨-, same⟩ | commit
    · exact unchanged same
    rcases (body now).commit_cases s with ⟨a, s₁, returns, ends⟩ | ⟨e, -, ends⟩
    · rw [ends] at commit
      cases commit
      cases write with
      | false => exact unchanged (h now a s s' returns)
      | true => exact (h.2 now a s s' hs returns).1
    · rw [ends] at commit
      cases commit
      exact .nothing
  | tree call => exact unchanged reply.2
  | takeLock repoId limit => exact unchanged reply.2
  | takeFile repoId deadline => exact unchanged reply.2
  | _ => exact unchanged reply

namespace World

/-- The clock stands at `now` or has passed it after the events of a log, which has the newest
first, and it has never gone backwards. -/
inductive Clocked : Int → List (Event τ) → Prop
  | start {now : Int} : Clocked now []
  | event {now time : Int} {e : Event τ} {log : List (Event τ)} (past : time ≤ now)
      (timed : e.request.At time e.answer e.before e.after) (before : Clocked time log) :
      Clocked now (e :: log)

theorem Clocked.later {now now' : Int} {log : List (Event τ)} (h : Clocked now log)
    (le : now ≤ now') : Clocked now' log := by
  cases h with
  | start => exact .start
  | event past timed before => exact .event (Int.le_trans past le) timed before

variable [TimeScale τ] {directory : Option String} {w w' : World τ} {now : Int}

/-- The times of the rows are in order, and so are all lists that were answered. -/
structure Chronological (now : Int) (w : World τ) : Prop where
  dated : w.store.Dated now
  descends : ∀ (i : Nat) (c : Call τ) (a : Answer), w.calls[i]? = some c →
    c.rest = .done (.ok a) → a.Descends

/-- A call is going to answer what descends if it goes on seeing stores whose times are in order. -/
def Promises (w : World τ) : Prop :=
  ∀ (i : Nat) (c : Call τ), w.calls[i]? = some c →
    c.rest.Obeys Terms.dated (Action.ends (fun a _ => a.Descends) fun _ _ => True) ()

theorem Attained.dated (h : w.Attained directory faults) {now : Int} (clock : Clocked now w.log) :
    w.store.Dated now ∧ w.Promises := by
  obtain ⟨u, turns⟩ := h
  induction turns generalizing now with
  | refl => exact ⟨.empty u, fun i c hc => by simp [fresh] at hc⟩
  | @tail w w' turns turn ih =>
    have orderly : w.Orderly := Attained.orderly ⟨u, turns⟩
    cases turn with
    | @begin process policy op shared alone =>
      obtain ⟨dated, promises⟩ := ih clock
      refine ⟨dated, fun i c hc => ?_⟩
      rcases call_of_concat hc with hc | ⟨-, rfl⟩
      · exact promises i c hc
      · exact Action.obeys_run.1 (op.descends policy).obeys
    | @answer k c β r next b s l call asks reply grant =>
      -- The store was dated when the request was answered, which was not before this.
      cases clock with
      | @event _ time _ _ past timed before =>
      obtain ⟨dated, promises⟩ := ih before
      have effect : Effect time w.store s :=
        (orderly.inCourse call asks).effect_at (orderly.calls k c call).1 reply timed
      have dated' := effect.dated orderly.wellFormed dated (Int.le_refl time)
      refine ⟨dated'.later past, fun i c' hc' => ?_⟩
      rcases call_of_set hc' with ⟨rfl, rfl⟩ | ⟨-, hc⟩
      · have obeys := promises i c call
        rw [asks, Program.obeys_step] at obeys
        exact obeys.2 b () ⟨time, w.store, s, orderly.wellFormed, orderly.related, dated,
          reply.mono fun _ _ => trivial⟩
      · exact promises i c' hc

/-- **Times are in order**, at every point of every run in which the clock does not go backwards,
whatever happens while a merge is running. -/
theorem times_in_order (h : w.Attained directory faults) (clock : Clocked now w.log) :
    w.Chronological now := by
  obtain ⟨dated, promises⟩ := h.dated clock
  refine ⟨dated, fun i c a hc ended => ?_⟩
  have obeys := promises i c hc
  rw [ended, Program.obeys_done] at obeys
  exact obeys

end World

/-! ## Timed replays -/

variable [TimeScale τ]

/-- The answer that was hoped for at a time, with the store and the locks afterwards. -/
def Request.serveAt (now : Int) (s : Store) (l : Locks) (i process : Nat) :
    {β : Type} → Request τ β → Option (β × Store × Locks)
  | _, .transact _ _ body => some (((body now).commit s).1, ((body now).commit s).2, l)
  | _, r => r.serve s l i process

theorem Request.serveAt_grants {now : Int} (hnow : fits now = true) {β : Type} {r : Request τ β}
    {s s' : Store} {l l' : Locks} {i process : Nat} {b : β}
    (h : r.serveAt now s l i process = some (b, s', l')) :
    Exchange r b s s' ∧ l.Grants i process r b l' ∧ r.At now b s s' := by
  cases r with
  | transact write limit body =>
    cases h
    exact ⟨.inr ⟨now, hnow, rfl⟩, rfl, .inr rfl⟩
  | _ =>
    simp only [serveAt] at h
    obtain ⟨exchange, grants⟩ := Request.serve_grants h
    exact ⟨exchange, grants, trivial⟩

namespace World

/-- The world after call `i` has had its request answered at a time as it was hoped for. -/
def serveAt (now : Int) (i : Nat) (w : World τ) : Option (World τ) :=
  match w.calls[i]? with
  | none => none
  | some c =>
    match c.rest with
    | .done _ => none
    | .ask r next =>
      match r.serveAt now w.store w.locks i c.process with
      | none => none
      | some (b, s, l) => some
        { store := s
          locks := l
          calls := w.calls.set i { c with rest := next b, journal := c.journal.note r b w.store s }
          log := ⟨i, c.operation, c.journal.opened, r, b, w.store, s⟩ :: w.log }

/-- The world after call `i` has been served `n` times at a time, or as often as it could be. -/
def servesAt (now : Int) (i : Nat) : Nat → World τ → World τ
  | 0, w => w
  | n + 1, w =>
    match w.serveAt now i with
    | none => w
    | some w' => servesAt now i n w'

/-- The world after a schedule whose entries have times. -/
def replayAt : List (Int × Move τ) → World τ → World τ
  | [], w => w
  | (_, .call op) :: ms, w => replayAt ms (w.call op)
  | (now, .serve i n) :: ms, w => replayAt ms (w.servesAt now i n)

variable {directory : Option String} {allowed : Operation τ → Prop} {w w' : World τ} {now : Int}

theorem serveAt_step (hnow : fits now = true) {i : Nat} (h : w.serveAt now i = some w') :
    Step directory allowed w w' ∧ (Clocked now w.log → Clocked now w'.log) := by
  unfold serveAt at h
  split at h
  · cases h
  · next c hc =>
    split at h
    · cases h
    · next β r next hr =>
      split at h
      · cases h
      · next b s l hs =>
        obtain rfl := Option.some.inj h
        obtain ⟨exchange, grants, timed⟩ := Request.serveAt_grants hnow hs
        exact ⟨.answer hc hr exchange grants, fun clock => .event (Int.le_refl now) timed clock⟩

theorem servesAt_run (hnow : fits now = true) (i n : Nat) :
    Run directory allowed w (w.servesAt now i n) ∧
      (Clocked now w.log → Clocked now (w.servesAt now i n).log) := by
  induction n generalizing w with
  | zero => exact ⟨.refl, id⟩
  | succ n ih =>
    unfold servesAt
    split
    · exact ⟨.refl, id⟩
    · next w' served =>
      obtain ⟨step, clocked⟩ : Step directory allowed w w' ∧
          (Clocked now w.log → Clocked now w'.log) := serveAt_step hnow served
      exact ⟨.head step ih.1, fun clock => ih.2 (clocked clock)⟩

theorem log_call (op : Operation τ) : (w.call op).log = w.log :=
  rfl

/-- A schedule whose times do not decrease leads to a world whose clock has not gone backwards. -/
theorem replayAt_run {ms : List (Int × Move τ)} {start : Int}
    (sorted : (start :: ms.map Prod.fst ++ [now]).Pairwise (· ≤ ·))
    (fit : ∀ m ∈ ms, fits m.1 = true) (clock : Clocked start w.log) :
    Run none (fun _ => True) w (w.replayAt ms) ∧ Clocked now (w.replayAt ms).log := by
  induction ms generalizing w start with
  | nil => exact ⟨.refl, clock.later (List.rel_of_pairwise_cons sorted List.mem_cons_self)⟩
  | cons m ms ih =>
    obtain ⟨time, move⟩ := m
    have le : start ≤ time := List.rel_of_pairwise_cons sorted List.mem_cons_self
    have sorted' := (List.pairwise_cons.1 sorted).2
    have fit' : ∀ m ∈ ms, fits m.1 = true := fun m hm => fit m (List.mem_cons_of_mem _ hm)
    cases move with
    | call op =>
      have clock' : Clocked time (w.call op).log := log_call op ▸ clock.later le
      obtain ⟨run, clocked⟩ := ih sorted' fit' clock'
      exact ⟨.head (.begin trivial rfl fun _ => rfl) run, clocked⟩
    | serve i n =>
      have served : Run none (fun _ => True) w (w.servesAt time i n) ∧ _ :=
        servesAt_run (fit _ List.mem_cons_self) i n
      obtain ⟨served, onward⟩ := served
      obtain ⟨run, clocked⟩ := ih sorted' fit' (onward (clock.later le))
      exact ⟨served.trans run, clocked⟩

/-- A call that is one reading transaction answers what its statements return. -/
theorem answered_reading {α : Type} {op : Operation τ} {body : Int → Transaction α} {f : α → Answer}
    {a : α} (program : op.action ⟨none, none, none⟩ = f <$> Workflow.session false body)
    (returns : (body now).Returns w.store a w.store) :
    ((w.call op).servesAt now w.calls.length 1).answered w.calls.length = some (op, .ok (f a)) := by
  obtain ⟨next, asks, ends⟩ : ∃ next : Except Error α → Program τ (Except Error Answer),
      (f <$> Workflow.session false body : Action τ Answer).run =
          .ask (.transact false none body) next ∧ next (.ok a) = .done (.ok (f a)) :=
    ⟨_, rfl, rfl⟩
  have begun : (w.call op).calls[w.calls.length]? =
      some ⟨0, op, (op.action ⟨none, none, none⟩).run, {}⟩ := List.getElem?_concat_length
  rw [program, asks] at begun
  have there : w.calls.length < (w.call op).calls.length := by simp [call]
  have kept : (w.call op).store = w.store := rfl
  have commit : (body now).commit w.store = (.ok a, w.store) :=
    Transaction.commit_of_returns returns
  simp only [servesAt, serveAt, begun, Request.serveAt, kept, commit, answered,
    List.getElem?_set_self there, ends]

/-- Listing the issues of a repository that is there answers what its rows are read as. -/
theorem answered_issues (now : Int) {text : String} {r : Repository} (hs : w.store.WellFormed)
    (hr : r ∈ w.store.repos.rows) (clean : Repository.cleanName text = .ok r.name)
    (hrepo : fits r.id = true) :
    ∃ es, ((w.call (.issues text)).servesAt now w.calls.length 1).answered w.calls.length =
        some (.issues text, .ok (.issues es)) ∧
      Ticket.Reads (Ticket.newestFirst (Ticket.rowsOf StoredIssue r.id w.store)) es := by
  obtain ⟨es, listed, reads⟩ := Ticket.listAll_returns (ρ := StoredIssue) hs hrepo
  have program : (Operation.issues text : Operation τ).action ⟨none, none, none⟩ =
      Answer.issues <$> Workflow.session false fun _ => Store.repositoryNamed text >>= fun r =>
        Ticket.listAll StoredIssue r.id := by
    show Answer.issues <$> Workflow.tickets StoredIssue text = _
    unfold Workflow.tickets Workflow.sessionOn
    dsimp only
  exact ⟨es, answered_reading program
    (Transaction.returns_bind.2 ⟨r, w.store, hs.named hr clean, listed⟩), reads⟩

/-- A day on which an issue is closed, and later another one added, while a merge is running. -/
def dayAtWork : List (Int × Move Binary64) :=
  [(10, .call (.registerRepository "one" "/one")), (10, .serve 0 50),
    (20, .call (.createIssue "one" (some "ann") "First" (some ""))), (20, .serve 1 50),
    (25, .call (.createIssue "one" (some "ann") "Second" (some ""))), (30, .serve 2 50),
    (30, .call (.createMergeRequest "one" (some "ann") "Add a feature" "feature" "main" (some ""))),
    (30, .serve 3 50),
    (40, .call (.merge "one" 1 (some "eve") none)), (40, .serve 4 9),
    (50, .call (.closeIssue "one" 1 (some "bob"))), (50, .serve 5 50),
    (55, .call (.createIssue "one" (some "bob") "Third" (some ""))), (55, .serve 6 50),
    (60, .serve 4 50),
    (70, .call (.updateIssue "one" 1 "The first" (some ""))), (80, .serve 7 50)]

/-- The world after it. -/
def eveningWorld : World Binary64 :=
  (fresh .empty).replayAt dayAtWork

/-- The world in which somebody has the issues listed that evening. -/
def listingWorld : World Binary64 :=
  (eveningWorld.call (.issues "one")).servesAt 90 eveningWorld.calls.length 1

/-- The law in the evening of this day, with three issues listed. -/
theorem times_in_order_of_dayAtWork :
    (eveningWorld.store.issues.rows.map fun r => (r.createdAt, r.closedAt, r.updatedAt)) =
      [(20, some 50, 80), (30, none, 30), (55, none, 55)] ∧
    (eveningWorld.store.mergeRequests.rows.map fun r => (r.createdAt, r.mergedAt, r.updatedAt)) =
      [(30, some 60, 60)] ∧
    (∃ es, listingWorld.answered eveningWorld.calls.length =
      some (.issues "one", .ok (.issues es)) ∧ es.length = 3) ∧
    listingWorld.Reachable none ∧ Clocked 100 listingWorld.log ∧
    listingWorld.Chronological 100 := by
  have sorted : (0 :: dayAtWork.map Prod.fst ++ [80]).Pairwise (· ≤ ·) := by decide +kernel
  have fit : ∀ m ∈ dayAtWork, fits m.1 = true := by decide +kernel
  have start : Clocked 0 (fresh .empty : World Binary64).log := .start
  obtain ⟨evening, clock⟩ : eveningWorld.Reachable none ∧ Clocked 80 eveningWorld.log := by
    obtain ⟨run, clock⟩ := replayAt_run sorted fit start
    exact ⟨⟨default, run⟩, clock⟩
  have attained : eveningWorld.Attained none fun _ => False := evening.attained
  have listed : ∃ es, listingWorld.answered eveningWorld.calls.length =
      some (.issues "one", .ok (.issues es)) ∧ es.length = 3 := by
    have one : (⟨1, "one", "/one", 10⟩ : Repository) ∈ eveningWorld.store.repos.rows := by
      decide +kernel
    have clean : Repository.cleanName "one" = .ok "one" := by decide +kernel
    obtain ⟨es, answer, reads⟩ := answered_issues 90 attained.orderly.wellFormed one clean rfl
    have count : (Ticket.rowsOf StoredIssue 1 eveningWorld.store).length = 3 := by decide +kernel
    refine ⟨es, answer, ?_⟩
    have lengths := congrArg List.length reads
    rw [List.length_map, List.length_map] at lengths
    rw [← lengths, ← count]
    exact (Cli.latestFirst_perm ..).length_eq
  obtain ⟨run, onward⟩ : Run none (fun _ => True) (eveningWorld.call (.issues "one")) listingWorld ∧
      (Clocked 90 (eveningWorld.call (.issues "one")).log → Clocked 90 listingWorld.log) :=
    servesAt_run rfl _ _
  have reached : listingWorld.Reachable none :=
    evening.imp fun _ day => day.trans (.head (.begin trivial rfl fun _ => rfl) run)
  have begun : Clocked 90 (eveningWorld.call (.issues "one")).log := by
    rw [log_call]
    exact clock.later (by decide)
  have clocked : Clocked 100 listingWorld.log := (onward begun).later (by decide)
  have attained : listingWorld.Attained none fun _ => False := reached.attained
  exact ⟨by decide +kernel, by decide +kernel, listed, reached, clocked,
    times_in_order attained clocked⟩

end World

end Forge
