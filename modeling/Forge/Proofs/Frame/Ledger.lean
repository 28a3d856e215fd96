import Forge.Proofs.Frame.Course

/-!
# What the log of a world says of its stores

In an attained world every call is on the course of its operation, and the store follows on all that
the calls have seen (`World.Orderly`). So an event of the log leaves its store as it is unless it is
a writing transaction that has returned, which then does what its operation does; and no call has
two of these. `World.frame` is the frame law of the operations.
-/

namespace Forge

variable {τ : Type} {faults : Error → Prop}

/-! ## Answers on the course -/

/-- Whether an event is a writing transaction that has returned. -/
def Event.wrote (e : Event τ) : Bool :=
  e.request.saves e.answer

section Answers

variable {op : Operation τ} {j : Journal} {β : Type} {r : Request τ β} {b : β} {s s' : Store}

/-- A request that writes nothing leaves the store, and one that does is the first of its call and
does what the operation does. -/
theorem Request.InCourse.answered (h : r.InCourse op j) (hs : s.Follows j)
    (reply : Reply faults r b s s') :
    (r.saves b = false → s' = s) ∧
      (r.saves b = true → j.wrote = false ∧
        ∃ now, Effect now s s' ∧ ∃ repo, op.Deed now repo s s') := by
  have kept (calm : r.saves b = false) (same : s' = s) : (r.saves b = false → s' = s) ∧
      (r.saves b = true → j.wrote = false ∧
        ∃ now, Effect now s s' ∧ ∃ repo, op.Deed now repo s s') :=
    ⟨fun _ => same, fun saves => absurd (calm.symm.trans saves) Bool.false_ne_true⟩
  cases r with
  | transact write limit body =>
    rcases reply.transact with ⟨⟨e, rfl, -⟩, rfl⟩ | ⟨now, -, ⟨a, rfl, ha⟩ | ⟨e, rfl, rfl, -⟩⟩
    · exact kept (Bool.and_false write) rfl
    · cases write with
      | false => exact kept rfl (h now a s s' ha)
      | true =>
        exact ⟨fun calm => absurd calm.symm Bool.false_ne_true,
          fun _ => ⟨h.1, now, h.2 now a s s' hs ha⟩⟩
    · exact kept (Bool.and_false write) rfl
  | tree call => exact kept rfl reply.2
  | takeLock repoId limit => exact kept rfl reply.2
  | takeFile repoId deadline => exact kept rfl reply.2
  | _ => exact kept rfl reply

theorem Request.InCourse.effect (h : r.InCourse op j) (hs : s.Follows j)
    (reply : Reply faults r b s s') : ∃ now, Effect now s s' := by
  obtain ⟨silent, deed⟩ := h.answered hs reply
  cases hb : r.saves b with
  | false =>
    obtain rfl := silent hb
    exact ⟨0, .nothing⟩
  | true =>
    obtain ⟨-, now, effect, -⟩ := deed hb
    exact ⟨now, effect⟩

theorem Store.Follows.effect {now : Int} (h : s.Follows j) (he : Effect now s s') :
    s'.Follows j where
  wellFormed := he.wellFormed h.wellFormed
  related := he.related h.wellFormed h.related
  evolves p hp := (h.evolves p hp).trans he.evolves

theorem Store.Follows.note (h : s'.Follows j) : s'.Follows (j.note r b s s') := by
  refine { h with evolves := fun p hp => ?_ }
  rcases j.commits_note r b s s' with ⟨same, -⟩ | seen
  · exact h.evolves p (same ▸ hp)
  · rw [seen] at hp
    rcases List.mem_cons.1 hp with rfl | hp
    · exact .refl s'
    · exact h.evolves p hp

end Answers

/-! ## Worlds -/

/-- How a call of an operation ends. -/
def Operation.Ends (op : Operation τ) : Except Error Answer → Journal → Prop :=
  Action.ends (fun _ => Journal.Closed op.writes) fun _ => Journal.Closed false

/-- An event changes the store only if it writes, and then it does what its operation does. -/
structure Event.Lawful (e : Event τ) : Prop where
  silent : e.wrote = false → e.after = e.before
  deed : e.wrote = true → ∃ now r, e.operation.Deed now r e.before e.after

namespace World

/-- Every call is on the course of its operation, and the store follows on what it has seen. -/
structure Orderly (w : World τ) : Prop where
  wellFormed : w.store.WellFormed
  related : w.store.Related
  calls : ∀ (i : Nat) (c : Call τ), w.calls[i]? = some c → w.store.Follows c.journal ∧
    c.rest.Obeys (Terms.course c.operation) c.operation.Ends c.journal

/-- The log agrees with the journals on who has written, which no call does twice. -/
structure Booked (w : World τ) : Prop where
  lawful : ∀ e ∈ w.log, e.Lawful
  known : ∀ e ∈ w.log, ∃ c, w.calls[e.call]? = some c ∧ c.operation = e.operation ∧
    (e.wrote = true → c.journal.wrote = true)
  shown : ∀ (i : Nat) (c : Call τ), w.calls[i]? = some c → c.journal.wrote = true →
    ∃ e ∈ w.log, e.call = i ∧ e.wrote = true
  once : w.log.Pairwise fun e e' => e.call = e'.call → e.wrote = false ∨ e'.wrote = false

/-- The request that a call is at, is one of its course. -/
theorem Orderly.inCourse {w : World τ} {i : Nat} {c : Call τ} {β : Type} {r : Request τ β}
    {next : β → Program τ (Except Error Answer)} (hw : w.Orderly) (hc : w.calls[i]? = some c)
    (asks : c.rest = .ask r next) : r.InCourse c.operation c.journal := by
  have obeys := (hw.calls i c hc).2
  rw [asks, Program.obeys_step] at obeys
  exact obeys.1

theorem orderly_fresh (u : Text.Surrogates) : (fresh (.empty u) : World τ).Orderly :=
  ⟨.empty u, .empty u, fun i c hc => by simp [fresh] at hc⟩

variable [TimeScale τ] {directory : Option String} {w w' : World τ}

theorem Turn.effect (h : Turn directory faults w w') (hw : w.Orderly) :
    ∃ now, Effect now w.store w'.store := by
  cases h with
  | begin => exact ⟨0, .nothing⟩
  | answer call asks reply =>
    exact (hw.inCourse call asks).effect (hw.calls _ _ call).1 reply

theorem Turn.orderly (h : Turn directory faults w w') (hw : w.Orderly) : w'.Orderly := by
  obtain ⟨now, effect⟩ := h.effect hw
  refine ⟨effect.wellFormed hw.wellFormed, effect.related hw.wellFormed hw.related,
    fun i c' hc' => ?_⟩
  rcases h.call_cases hc' with hc | ⟨policy, -, hrest, hj⟩ |
    ⟨c, β, r, next, b, hc, asks, reply, -, rfl⟩
  · obtain ⟨follows, obeys⟩ := hw.calls i c' hc
    exact ⟨follows.effect effect, obeys⟩
  · rw [hrest, hj]
    refine ⟨⟨effect.wellFormed hw.wellFormed, effect.related hw.wellFormed hw.related, ?_⟩,
      Action.obeys_run.1 (Operation.obeys_course policy c'.operation)⟩
    exact fun p hp => absurd hp List.not_mem_nil
  · obtain ⟨follows, obeys⟩ := hw.calls i c hc
    rw [asks, Program.obeys_step] at obeys
    have answers : (Terms.course c.operation).answers r c.journal b
        (c.journal.note r b w.store w'.store) :=
      ⟨w.store, w'.store, follows, reply.mono fun _ _ => trivial, rfl⟩
    exact ⟨(follows.effect effect).note, obeys.2 b _ answers⟩

theorem Turns.orderly (h : Turns directory faults w w') (hw : w.Orderly) : w'.Orderly := by
  induction h with
  | refl => exact hw
  | tail _ ht ih => exact ht.orderly ih

theorem Attained.orderly (h : w.Attained directory faults) : w.Orderly :=
  let ⟨u, turns⟩ := h
  turns.orderly (orderly_fresh u)

/-- What is left behind at any time is what later stores have come from. -/
theorem Turns.evolves (h : Turns directory faults w w') (hw : w.Orderly) :
    w.store.Evolves w'.store := by
  induction h with
  | refl => exact .refl w.store
  | tail hturns ht ih =>
    obtain ⟨now, effect⟩ := ht.effect (Turns.orderly hturns hw)
    exact ih.trans effect.evolves

/-! ## The log -/

/-- Calls stay, and what they have written stays written. -/
theorem Turn.keeps {i : Nat} {c : Call τ} (h : Turn directory faults w w')
    (hc : w.calls[i]? = some c) : ∃ c', w'.calls[i]? = some c' ∧ c'.operation = c.operation ∧
      (c.journal.wrote = true → c'.journal.wrote = true) := by
  have hi : i < w.calls.length := (List.getElem?_eq_some_iff.1 hc).1
  cases h with
  | begin => exact ⟨c, (List.getElem?_append_left hi).trans hc, rfl, id⟩
  | @answer k c₀ β r next b s l call =>
    by_cases hk : k = i
    · subst hk
      obtain rfl := Option.some.inj (call.symm.trans hc)
      refine ⟨_, List.getElem?_set_self hi, rfl, fun hwrote => ?_⟩
      show (c₀.journal.note r b w.store s).wrote = true
      rw [c₀.journal.wrote_note, hwrote, Bool.true_or]
    · exact ⟨c, (List.getElem?_set_ne hk).trans hc, rfl, id⟩

theorem Turn.booked (h : Turn directory faults w w') (hw : w.Orderly) (hlog : w.Booked) :
    w'.Booked := by
  have known (e : Event τ) (he : e ∈ w.log) : ∃ c, w'.calls[e.call]? = some c ∧
      c.operation = e.operation ∧ (e.wrote = true → c.journal.wrote = true) := by
    obtain ⟨c, hc, hop, hwrote⟩ := hlog.known e he
    obtain ⟨c', hc', hop', kept⟩ := h.keeps hc
    exact ⟨c', hc', hop'.trans hop, fun h => kept (hwrote h)⟩
  cases h with
  | begin =>
    refine { hlog with known := known, shown := fun i c hc => ?_ }
    rcases call_of_concat hc with hc | ⟨-, rfl⟩
    · exact hlog.shown i c hc
    · exact nofun
  | @answer k c β r next b s l call asks reply grant =>
    have hk : k < w.calls.length := (List.getElem?_eq_some_iff.1 call).1
    have wrote := c.journal.wrote_note r b w.store s
    obtain ⟨silent, deed⟩ := (hw.inCourse call asks).answered (hw.calls k c call).1 reply
    refine ⟨List.forall_mem_cons.2 ⟨⟨silent, fun hb => ?_⟩, hlog.lawful⟩,
      List.forall_mem_cons.2 ⟨⟨_, List.getElem?_set_self hk, rfl, fun hb => ?_⟩, known⟩,
      fun i c' hc' hwrote => ?_, List.pairwise_cons.2 ⟨fun e he hcall => ?_, hlog.once⟩⟩
    · obtain ⟨-, now, -, repo, done⟩ := deed hb
      exact ⟨now, repo, done⟩
    · exact wrote.trans (Bool.or_eq_true_iff.2 (.inr hb))
    · rcases call_of_set hc' with ⟨rfl, rfl⟩ | ⟨-, hc⟩
      · rcases Bool.or_eq_true_iff.1 (wrote.symm.trans hwrote) with before | now
        · obtain ⟨e, he, hcall, hwrote⟩ := hlog.shown i c call before
          exact ⟨e, List.mem_cons_of_mem _ he, hcall, hwrote⟩
        · exact ⟨_, List.mem_cons_self, rfl, now⟩
      · obtain ⟨e, he, hcall, hwrote⟩ := hlog.shown i c' hc hwrote
        exact ⟨e, List.mem_cons_of_mem _ he, hcall, hwrote⟩
    · -- A call that writes has not written before.
      cases hb : r.saves b with
      | false => exact .inl hb
      | true =>
        refine .inr (Bool.eq_false_iff.2 fun hwrote => ?_)
        obtain ⟨c', hc', -, shows⟩ := hlog.known e he
        obtain rfl : c' = c := Option.some.inj (hc'.symm.trans ((congrArg _ hcall.symm).trans call))
        rw [(deed hb).1] at shows
        exact absurd (shows hwrote) Bool.false_ne_true

theorem Attained.booked (h : w.Attained directory faults) : w.Booked := by
  obtain ⟨u, turns⟩ := h
  induction turns with
  | refl =>
    have none (e : Event τ) (he : e ∈ (fresh (.empty u) : World τ).log) : False :=
      List.not_mem_nil he
    exact ⟨fun e he => (none e he).elim, fun e he => (none e he).elim,
      fun i c hc => by simp [fresh] at hc, .nil⟩
  | tail hturns ht ih => exact ht.booked (Attained.orderly ⟨u, hturns⟩) ih

/-- A call that has failed has written nothing, and one that has returned has written once if its
operation writes. -/
theorem Attained.wrote_iff (h : w.Attained directory faults) {i : Nat} {c : Call τ}
    (hc : w.calls[i]? = some c) {a : Except Error Answer} (hdone : c.rest = .done a) :
    (∃ e ∈ w.log, e.call = i ∧ e.wrote = true) ↔ a.isOk = true ∧ c.operation.writes = true := by
  have ends := (h.orderly.calls i c hc).2
  rw [hdone, Program.obeys_done] at ends
  have wrote : c.journal.wrote = true ↔ a.isOk = true ∧ c.operation.writes = true := by
    cases a with
    | ok a =>
      have closed : Journal.Closed c.operation.writes c.journal := ends
      rw [closed.wrote]
      exact ⟨fun h => ⟨rfl, h⟩, And.right⟩
    | error e =>
      have closed : Journal.Closed false c.journal := ends
      rw [closed.wrote]
      exact ⟨nofun, fun h => nomatch h.1⟩
  rw [← wrote]
  constructor
  · rintro ⟨e, he, rfl, hwrote⟩
    obtain ⟨c', hc', -, shows⟩ := h.booked.known e he
    obtain rfl := Option.some.inj (hc'.symm.trans hc)
    exact shows hwrote
  · exact h.booked.shown i c hc

/-! ## The frame law -/

/-- What the calls of a world have done to its store: each that has returned from an operation that
writes has done once what the operation does to the repository it names, and nothing else has
changed anything. -/
structure Framed (w : World τ) : Prop where
  /-- An event that writes does what its operation does, and leaves all rows of other repositories
  alone. -/
  deed : ∀ e ∈ w.log, e.wrote = true →
    ∃ now r, e.operation.Deed now r e.before e.after ∧ e.before.Isolated r e.after
  /-- Any other event leaves the store as it is. -/
  silent : ∀ e ∈ w.log, e.wrote = false → e.after = e.before
  /-- Operations that only ask have no event that writes. -/
  asks : ∀ e ∈ w.log, e.operation.writes = false → e.wrote = false
  /-- No call has two events that write. -/
  once : w.log.Pairwise fun e e' => e.call = e'.call → e.wrote = false ∨ e'.wrote = false
  /-- A call that has ended has one exactly if it has returned and its operation writes. -/
  done : ∀ (i : Nat) (c : Call τ) (a : Except Error Answer), w.calls[i]? = some c →
    c.rest = .done a →
      ((∃ e ∈ w.log, e.call = i ∧ e.operation = c.operation ∧ e.wrote = true) ↔
        a.isOk = true ∧ c.operation.writes = true)

/-- **The frame law**, in every world that is attained from an empty store by any calls in any
interleaving, however working trees and the opening of the store fail. -/
theorem frame (h : w.Attained directory faults) : w.Framed := by
  have booked := h.booked
  refine ⟨fun e he wrote => ?_, fun e he => (booked.lawful e he).silent, fun e he hop => ?_,
    booked.once, fun i c a hc hdone => ?_⟩
  · obtain ⟨now, r, deed⟩ := (booked.lawful e he).deed wrote
    exact ⟨now, r, deed, deed.does.isolated⟩
  · refine Bool.eq_false_iff.2 fun wrote => ?_
    obtain ⟨now, r, deed⟩ := (booked.lawful e he).deed wrote
    exact absurd (hop.symm.trans deed.does.writes) Bool.false_ne_true
  · rw [← h.wrote_iff hc hdone]
    constructor
    · rintro ⟨e, he, hcall, -, wrote⟩
      exact ⟨e, he, hcall, wrote⟩
    · rintro ⟨e, he, rfl, wrote⟩
      obtain ⟨c', hc', hop, -⟩ := booked.known e he
      obtain rfl := Option.some.inj (hc'.symm.trans hc)
      exact ⟨e, he, rfl, hop.symm, wrote⟩

/-- A schedule in which tickets of two repositories are created, edited, closed, reopened, merged
and deleted. -/
def edits : List (Move Binary64) :=
  [.call (.registerRepository "one" "/one"), .serve 0 50,
    .call (.registerRepository "two" "/two"), .serve 1 50,
    .call (.createIssue "one" (some "ann") "First" (some "")), .serve 2 50,
    .call (.createIssue "two" (some "ann") "Second" (some "")), .serve 3 50,
    .call (.createMergeRequest "one" (some "ann") "Add" "new" "main" (some "")), .serve 4 50,
    .call (.createMergeRequest "one" (some "ann") "Drop" "old" "main" (some "")), .serve 5 50,
    .call (.updateIssue "one" 1 "Third" (some "")), .serve 6 50,
    .call (.closeIssue "one" 1 (some "bob")), .serve 7 50,
    .call (.updateIssue "one" 1 "Last" (some "")), .serve 8 50,
    .call (.reopenIssue "one" 1), .serve 9 50,
    .call (.closeMergeRequest "one" 2 (some "bob")), .serve 10 50,
    .call (.merge "one" 1 (some "bob") none), .serve 11 50,
    .call (.deleteMergeRequest "one" 2), .serve 12 50,
    .call (.deleteIssue "one" 2), .serve 13 50]

/-- The world after it. -/
def editsWorld : World Binary64 :=
  (fresh .empty).replay edits

set_option maxRecDepth 1000 in
/-- The law at this world: what the calls that edit have left of the tickets, the newest first, and
that an issue of another repository was not deleted. -/
theorem frame_of_edits : editsWorld.Reachable none ∧
    ((editsWorld.log.filter Event.wrote).take 7).map (·.call) = [12, 11, 10, 9, 8, 7, 6] ∧
    ((editsWorld.log.filter Event.wrote).take 7).map (fun e =>
      e.after.issues.rows.map fun i => (i.title, i.state)) =
      [[("Last", "open"), ("Second", "open")], [("Last", "open"), ("Second", "open")],
        [("Last", "open"), ("Second", "open")], [("Last", "open"), ("Second", "open")],
        [("Last", "closed"), ("Second", "open")], [("Third", "closed"), ("Second", "open")],
        [("Third", "open"), ("Second", "open")]] ∧
    ((editsWorld.log.filter Event.wrote).take 7).map (fun e =>
      e.after.mergeRequests.rows.map fun m => (m.id, m.state)) =
      [[(1, "merged")], [(1, "merged"), (2, "closed")], [(1, "open"), (2, "closed")],
        [(1, "open"), (2, "open")], [(1, "open"), (2, "open")], [(1, "open"), (2, "open")],
        [(1, "open"), (2, "open")]] ∧
    (editsWorld.answered 13).map (·.2) = some (.error (.notFound (.ticket .issue 2))) ∧
    (∃ e ∈ editsWorld.log, e.call = 12 ∧ ∃ r : Repository, e.after = { e.before with
      mergeRequests := e.before.mergeRequests.remove (Ticket.isAt r.id 2) }) ∧
    editsWorld.Framed := by
  have reached : editsWorld.Reachable none := replay_reachable edits
  have attained : editsWorld.Attained none fun _ => False := reached.attained
  have framed := frame attained
  have deleted : editsWorld.answered 12 = some (.deleteMergeRequest "one" 2, .ok .nothing) := by rfl
  obtain ⟨c, hc, hop, hdone⟩ := call_of_answered deleted
  -- The deletion has returned, so one of its events has done what it does.
  obtain ⟨e, he, hcall, same, wrote⟩ := (framed.done 12 c _ hc hdone).2 ⟨rfl, by rw [hop]; rfl⟩
  obtain ⟨now, r, deed, -⟩ := framed.deed e he wrote
  have does := deed.does
  rw [same, hop] at does
  exact ⟨reached, by decide +kernel, by decide +kernel, by decide +kernel, by decide +kernel,
    ⟨e, he, hcall, r, does.2⟩, framed⟩

end World

end Forge
