import Forge.Proofs.World

/-!
# Replays

A schedule says which calls begin and which are served, in their order. It determines a run if the
surroundings are fixed: those of a replay answer everything as it was hoped for. Replays show that
worlds are reachable. `Request.alone` are the answers to a call that has everything to itself.
-/

namespace Forge

variable {τ : Type}

/-- The answers of a working tree in which nothing goes wrong and nothing is merged yet. -/
def TreeCall.hoped : {α : Type} → TreeCall τ α → α
  | _, .branchExists _ => true
  | _, .contains .. => false
  | _, .checkout .. => ()
  | _, .merge .. => "c0ffee"
  | _, .abortMerge => ()

/-- An entry of a schedule: a call begins, or call `i` is served at most `n` times. -/
inductive Move (τ : Type) where
  | call (op : Operation τ)
  | serve (i n : Nat)

variable [TimeScale τ]

/-- The answer that was hoped for, with the store and the locks afterwards, or nothing where a lock
is held. -/
def Request.serve (s : Store) (l : Locks) (i process : Nat) :
    {β : Type} → Request τ β → Option (β × Store × Locks)
  | _, .clock => some (TimeScale.zero, s, l)
  | _, .transact _ _ body => some (((body 0).commit s).1, ((body 0).commit s).2, l)
  | _, .openTree _ => some ((), s, l)
  | _, .tree call => some (.ok call.hoped, s, l)
  | _, .process _ => some (.timedOut, s, l)
  | _, .takeLock repoId _ =>
    if l.held (process, repoId) = none then
      some (.ok true, s, { l with held := Function.update l.held (process, repoId) (some i) })
    else none
  | _, .dropLock repoId =>
    some ((), s, { l with held := Function.update l.held (process, repoId) none })
  | _, .takeFile repoId _ =>
    if l.files repoId = none then
      some (.ok true, s, { l with files := Function.update l.files repoId (some i) })
    else none
  | _, .dropFile repoId => some ((), s, { l with files := Function.update l.files repoId none })
  | _, .log _ => some ((), s, l)

/-- What a replay answers is an answer that the surroundings may give. -/
theorem Request.serve_grants {β : Type} {r : Request τ β} {s s' : Store} {l l' : Locks}
    {i process : Nat} {b : β} (h : r.serve s l i process = some (b, s', l')) :
    Exchange r b s s' ∧ l.Grants i process r b l' := by
  cases r with
  | takeLock repoId limit =>
    simp only [serve] at h
    split at h
    · cases h
      exact ⟨⟨fun _ he => (nomatch he), rfl⟩, ‹_›, rfl⟩
    · cases h
  | takeFile repoId deadline =>
    simp only [serve] at h
    split at h
    · cases h
      exact ⟨⟨fun _ he => (nomatch he), rfl⟩, ‹_›, rfl⟩
    · cases h
  | transact write limit body =>
    cases h
    exact ⟨.inr ⟨0, rfl, rfl⟩, rfl⟩
  | tree call =>
    cases h
    exact ⟨⟨fun _ he => (nomatch he), rfl⟩, rfl⟩
  | _ =>
    cases h
    exact ⟨rfl, rfl⟩

/-- The answers at a time of surroundings that nobody else uses, with a working tree of its own. -/
def Request.alone (now : τ) (tree : {α : Type} → TreeCall τ α → Except Error α) :
    {β : Type} → Request τ β → Store → β × Store
  | _, .clock, s => (now, s)
  | _, .transact _ _ body, s => (body 0).commit s
  | _, .openTree _, s => ((), s)
  | _, .tree call, s => (tree call, s)
  | _, .process _, s => (.timedOut, s)
  | _, .takeLock .., s => (.ok true, s)
  | _, .dropLock _, s => ((), s)
  | _, .takeFile .., s => (.ok true, s)
  | _, .dropFile _, s => ((), s)
  | _, .log _, s => ((), s)

omit [TimeScale τ] in
/-- So is what a call gets that has everything to itself, if its working tree fails as it may. -/
theorem Request.exchange_alone {now : τ} {tree : {α : Type} → TreeCall τ α → Except Error α}
    (external : ∀ {α : Type} (call : TreeCall τ α) e, tree call = .error e → e.isExternal = true)
    {β : Type} (r : Request τ β) (s : Store) :
    Exchange r (r.alone now tree s).1 s (r.alone now tree s).2 := by
  cases r with
  | transact write limit body => exact .inr ⟨0, rfl, rfl⟩
  | tree call => exact ⟨fun e he => external call e he, rfl⟩
  | takeLock repoId limit => exact ⟨fun e he => (nomatch he), rfl⟩
  | takeFile repoId deadline => exact ⟨fun e he => (nomatch he), rfl⟩
  | _ => rfl

namespace World

/-- The world after call `i` has had its request answered as it was hoped for. -/
def serve (i : Nat) (w : World τ) : Option (World τ) :=
  match w.calls[i]? with
  | none => none
  | some c =>
    match c.rest with
    | .done _ => none
    | .ask r next =>
      match r.serve w.store w.locks i c.process with
      | none => none
      | some (b, s, l) => some
        { store := s
          locks := l
          calls := w.calls.set i { c with rest := next b, journal := c.journal.note r b w.store s }
          log := ⟨i, c.operation, c.journal.opened, r, b, w.store, s⟩ :: w.log }

/-- The world in which one more call has begun, in a forge without a directory for lock files. -/
def call (op : Operation τ) (w : World τ) : World τ :=
  { w with calls := w.calls ++ [⟨0, op, (op.action ⟨none, none, none⟩).run, {}⟩] }

/-- The world after call `i` has been served `n` times, or as often as it could be. -/
def serves (i : Nat) : Nat → World τ → World τ
  | 0, w => w
  | n + 1, w =>
    match w.serve i with
    | none => w
    | some w' => serves i n w'

/-- The world after a schedule. -/
def replay : List (Move τ) → World τ → World τ
  | [], w => w
  | .call op :: ms, w => replay ms (w.call op)
  | .serve i n :: ms, w => replay ms (w.serves i n)

/-- The operation of call `i` and what it has answered, if it has ended. -/
def answered (i : Nat) (w : World τ) : Option (Operation τ × Except Error Answer) :=
  match w.calls[i]? with
  | some ⟨_, op, .done a, _⟩ => some (op, a)
  | _ => none

/-- The store of a forge with one repository and one merge request. -/
def oneRequest : Store :=
  ((fresh .empty).replay (τ := Binary64)
    [.call (.registerRepository "one" "/one"), .serve 0 50,
      .call (.createMergeRequest "one" (some "ann") "Add it" "feature" "main" (some "")),
      .serve 1 50]).store

variable {directory : Option String} {allowed : Operation τ → Prop} {w w' : World τ}

/-- To serve a request is a step of the world. -/
theorem serve_step {i : Nat} (h : w.serve i = some w') : Step directory allowed w w' := by
  unfold serve at h
  split at h
  · cases h
  · rename_i c hc
    split at h
    · cases h
    · rename_i β r next hr
      split at h
      · cases h
      · rename_i b s l hs
        obtain rfl := Option.some.inj h
        obtain ⟨hx, hg⟩ := Request.serve_grants hs
        exact .answer hc hr hx hg

theorem serves_run (i n : Nat) : Run directory allowed w (w.serves i n) := by
  induction n generalizing w with
  | zero => exact .refl
  | succ n ih =>
    unfold serves
    split
    · exact .refl
    · exact .head (serve_step ‹_›) ih

/-- A replay of calls that are allowed is a run. -/
theorem replay_run {ms : List (Move τ)} (h : ∀ op, .call op ∈ ms → allowed op) :
    Run none allowed w (w.replay ms) := by
  induction ms generalizing w with
  | nil => exact .refl
  | cons m ms ih =>
    have hms (op : Operation τ) (hop : .call op ∈ ms) := h op (List.mem_cons_of_mem _ hop)
    cases m with
    | call op => exact .head (.begin (h op List.mem_cons_self) rfl fun _ => rfl) (ih hms)
    | serve i n => exact (serves_run i n).trans (ih hms)

/-- The world after a schedule is reachable. -/
theorem replay_reachable (ms : List (Move τ)) : ((fresh .empty).replay ms).Reachable none :=
  ⟨_, replay_run fun _ _ => trivial⟩

omit [TimeScale τ] in
/-- An operation that has been answered is that of a call which has ended so. -/
theorem call_of_answered {i : Nat} {op : Operation τ} {a : Except Error Answer}
    (h : w.answered i = some (op, a)) :
    ∃ c : Call τ, w.calls[i]? = some c ∧ c.operation = op ∧ c.rest = .done a := by
  unfold answered at h
  split at h
  · rename_i hc
    cases h
    exact ⟨_, hc, rfl, rfl⟩
  · cases h

end World

end Forge
