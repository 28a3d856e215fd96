import Forge.Proofs.Merge.Course
import Forge.Proofs.Quiet

/-!
# What holds in all reachable worlds

In a reachable world the store is well formed, every call still keeps to its terms, and every
answered request has had an effect of the list of effects (`Sound`). No call is ever stuck but at a
lock that is held: whatever may be asked can be answered, so a call that is let run ends or waits.
-/

namespace Forge

open Transaction (fits)

variable {τ : Type}

/-! ## Effects of requests -/

/-- A request whose transaction, if it is one, has an effect. -/
def Request.Effective {β : Type} : Request τ β → Prop
  | .transact _ _ body =>
    ∀ now a s s', (body now).Returns s a s' → Effect now s s'
  | _ => True

theorem Request.Quiet.effective {β : Type} {r : Request τ β} (h : r.Quiet) : r.Effective := by
  cases r with
  | transact write limit body => exact h
  | _ => trivial

theorem Merge.May.effective {β : Type} {directory : Option String} {id : Int} {j : Journal}
    {r : Request τ β} (h : Merge.May directory id j r) : r.Effective := by
  cases r with
  | transact write limit body =>
    intro now a s s' hr
    cases write with
    | false =>
      obtain ⟨-, -, hread⟩ := h
      exact hread now a s s' hr ▸ .nothing
    | true =>
      obtain ⟨-, -, -, -, repo, merger, -, hmark⟩ := h
      obtain ⟨ho, rfl⟩ := hmark now a s s' hr
      exact .onTickets (.requestMerged (Store.openAt_iff_any.1 ho))
  | _ => trivial

/-- An answered request has had an effect. -/
theorem Exchange.effect {β : Type} {r : Request τ β} {b : β} {s s' : Store}
    (h : Exchange r b s s') (hr : r.Effective) : ∃ now, Effect now s s' := by
  cases r with
  | transact write limit body =>
    rcases h.transact with ⟨-, rfl⟩ | ⟨now, -, ⟨a, -, ha⟩ | ⟨-, -, rfl, -⟩⟩
    · exact ⟨0, .nothing⟩
    · exact ⟨now, hr now a s s' ha⟩
    · exact ⟨now, .nothing⟩
  | tree call => exact ⟨0, h.2 ▸ .nothing⟩
  | takeLock repoId limit => exact ⟨0, h.2 ▸ .nothing⟩
  | clock => exact ⟨0, h ▸ .nothing⟩
  | openTree repo => exact ⟨0, h ▸ .nothing⟩
  | process call => exact ⟨0, h ▸ .nothing⟩
  | dropLock repoId => exact ⟨0, h ▸ .nothing⟩
  | takeFile repoId deadline => exact ⟨0, h.2 ▸ .nothing⟩
  | dropFile repoId => exact ⟨0, h ▸ .nothing⟩
  | log record => exact ⟨0, h ▸ .nothing⟩

/-! ## The invariant -/

/-- How a call of a merge ends. -/
def Merge.Ends (id : Int) (actor : Option String) : Except Error Answer → Journal → Prop :=
  Action.ends
    (fun a j => ∃ m merger, a = .mergeRequest m ∧ cleanActor actor = .ok merger ∧
      Merge.Success id merger m j)
    (Merge.Failure id actor)

/-- What is left of a call keeps to the terms of its operation. -/
def Call.Sound (directory : Option String) (c : Call τ) : Prop :=
  match c.operation with
  | .merge _ id actor _ => c.rest.Obeys (Merge.terms directory id) (Merge.Ends id actor) c.journal
  | _ => c.rest.Obeys Terms.quiet (fun _ _ => True) ()

theorem Call.sound_merge {directory : Option String} {c : Call τ} {name : String} {id : Int}
    {actor : Option String} {limit : Option τ}
    (hop : c.operation = .merge name id actor limit) :
    c.Sound directory ↔
      c.rest.Obeys (Merge.terms directory id) (Merge.Ends id actor) c.journal := by
  unfold Call.Sound
  rw [hop]

theorem Call.sound_quiet {directory : Option String} {c : Call τ}
    (hop : c.operation.mergeId? = none) :
    c.Sound directory ↔ c.rest.Obeys Terms.quiet (fun _ _ => True) () := by
  unfold Call.Sound
  cases hc : c.operation with
  | merge name id actor limit =>
    rw [hc] at hop
    cases hop
  | _ => rfl

/-- The call at a request keeps to its terms with it: the request has an effect, and whatever it is
answered, the rest keeps to them too. -/
theorem Call.Sound.answer {directory : Option String} {c : Call τ} {β : Type} {r : Request τ β}
    {next : β → Program τ (Except Error Answer)} (h : c.Sound directory)
    (hr : c.rest = .ask r next) :
    r.Effective ∧ ∀ b s s', s.WellFormed → Exchange r b s s' →
      Call.Sound directory { c with rest := next b, journal := c.journal.note r b s s' } := by
  cases hop : c.operation.mergeId? with
  | none =>
    have hq := (Call.sound_quiet hop).1 h
    rw [hr, Program.obeys_step] at hq
    exact ⟨Request.Quiet.effective hq.1, fun b s s' _ _ =>
      (Call.sound_quiet (c := { c with rest := next b, journal := c.journal.note r b s s' })
        hop).2 (hq.2 b () trivial)⟩
  | some id =>
    obtain ⟨name, actor, limit, hc⟩ := Operation.eq_merge hop
    have hm := (Call.sound_merge hc).1 h
    rw [hr, Program.obeys_step] at hm
    exact ⟨Merge.May.effective hm.1, fun b s s' hs hx => (Call.sound_merge
      (c := { c with rest := next b, journal := c.journal.note r b s s' }) hc).2
      (hm.2 b _ ⟨s, s', hs, hx, rfl⟩)⟩

/-- A call that begins keeps to the terms of its operation. -/
theorem Operation.sound [TimeScale τ] (policy : Policy τ) (op : Operation τ) (process : Nat) :
    Call.Sound policy.lockDirectory ⟨process, op, (op.action policy).run, {}⟩ := by
  cases hop : op.mergeId? with
  | none =>
    refine (Call.sound_quiet hop).2 ((Action.obeys_run.1 (Operation.quiet_action policy hop)).mono ?_)
    exact fun _ _ _ => trivial
  | some id =>
    obtain ⟨name, actor, limit, rfl⟩ := Operation.eq_merge hop
    refine Action.obeys_run.1 (Action.obeys_map.2 ?_)
    refine Merge.obeys_merge.mono (fun m j hm => ?_) fun e j he => he
    obtain ⟨merger, ha, hs⟩ := hm
    exact ⟨m, merger, rfl, ha, hs⟩

namespace World

/-- What holds of a reachable world. -/
structure Sound (directory : Option String) (w : World τ) : Prop where
  store : w.store.WellFormed
  calls : ∀ (i : Nat) (c : Call τ), w.calls[i]? = some c → c.Sound directory

variable {directory : Option String}

theorem sound_fresh {s : Store} (hs : s.WellFormed) : (fresh s : World τ).Sound directory :=
  ⟨hs, fun i c hc => by simp [fresh] at hc⟩

variable [TimeScale τ] {allowed : Operation τ → Prop} {w w' : World τ}

/-- A call of the next world was there before, has just begun, or has had its request answered. -/
theorem Step.call_cases {i : Nat} {c' : Call τ} (h : Step directory allowed w w')
    (hc : w'.calls[i]? = some c') :
    w.calls[i]? = some c' ∨
      (∃ policy : Policy τ, policy.lockDirectory = directory ∧ allowed c'.operation ∧
        c'.rest = (c'.operation.action policy).run ∧ c'.journal = {} ∧ w'.store = w.store) ∨
      ∃ (c : Call τ) (β : Type) (r : Request τ β) (next : β → Program τ (Except Error Answer))
        (b : β), w.calls[i]? = some c ∧ c.rest = .ask r next ∧
          Exchange r b w.store w'.store ∧ w.locks.Grants i c.process r b w'.locks ∧
          c' = { c with rest := next b, journal := c.journal.note r b w.store w'.store } := by
  cases h with
  | @begin process policy op ok shared alone =>
    rcases call_of_concat hc with hc | ⟨-, rfl⟩
    · exact .inl hc
    · exact .inr (.inl ⟨policy, shared, ok, rfl, rfl, rfl⟩)
  | @answer k c β r next b s l call asks exchange grant =>
    rcases call_of_set hc with ⟨rfl, rfl⟩ | ⟨-, hc⟩
    · exact .inr (.inr ⟨c, β, r, next, b, call, asks, exchange, grant, rfl⟩)
    · exact .inl hc

/-- The store of the next world comes from that of the world by an effect. -/
theorem Step.effect (h : Step directory allowed w w') (hw : w.Sound directory) :
    ∃ now, Effect now w.store w'.store := by
  cases h with
  | begin => exact ⟨0, .nothing⟩
  | answer call asks exchange => exact exchange.effect ((hw.calls _ _ call).answer asks).1

theorem Step.sound (h : Step directory allowed w w') (hw : w.Sound directory) :
    w'.Sound directory := by
  obtain ⟨now, he⟩ := h.effect hw
  refine ⟨he.wellFormed hw.store, fun i c' hc' => ?_⟩
  rcases h.call_cases hc' with hc | ⟨policy, hp, -, hrest, hj, -⟩ |
    ⟨c, β, r, next, b, hc, hr, hx, -, rfl⟩
  · exact hw.calls i c' hc
  · obtain ⟨process, op, rest, journal⟩ := c'
    obtain rfl : rest = (op.action policy).run := hrest
    obtain rfl : journal = {} := hj
    exact hp ▸ Operation.sound policy op process
  · exact ((hw.calls i c hc).answer hr).2 b _ _ hw.store hx

theorem Run.sound (h : Run directory allowed w w') (hw : w.Sound directory) :
    w'.Sound directory := by
  induction h with
  | refl => exact hw
  | tail _ hs ih => exact hs.sound ih

theorem Reachable.sound (h : Reachable directory w) : w.Sound directory :=
  let ⟨u, run⟩ := h
  Run.sound run (sound_fresh (.empty u))

/-- The store of a later world has the entities of the earlier one, as they may have changed. -/
theorem Run.evolves (h : Run directory allowed w w') (hw : w.Sound directory) :
    w.store.Evolves w'.store := by
  induction h with
  | refl => exact .refl w.store
  | tail hrun hs ih =>
    obtain ⟨now, he⟩ := hs.effect (Run.sound hrun hw)
    exact ih.trans he.evolves

/-- What every empty store has, and every effect on a well-formed store keeps, the store of every
reachable world has. -/
theorem Reachable.store_induction {P : Store → Prop} (h : Reachable directory w)
    (empty : ∀ surrogates, P (.empty surrogates))
    (effect : ∀ now s s', s.WellFormed → P s → Effect now s s' → P s') : P w.store := by
  obtain ⟨u, run⟩ := h
  induction run with
  | refl => exact empty u
  | tail hrun hs ih =>
    have hw := Reachable.sound ⟨u, hrun⟩
    obtain ⟨now, he⟩ := hs.effect hw
    exact effect now _ _ hw.store ih he

end World

/-! ## Progress -/

/-- Whether a request of a process waits, without a limit, for a lock that is held. -/
def Request.Waits (l : Locks) (process : Nat) : {β : Type} → Request τ β → Prop
  | _, .takeLock repoId none => l.held (process, repoId) ≠ none
  | _, .takeFile repoId none => l.files repoId ≠ none
  | _, _ => False

theorem Exchange.lock {repoId : Int} {limit : Option τ} (taken : Bool) (s : Store) :
    Exchange (.takeLock repoId limit) (.ok taken) s s :=
  ⟨fun _ he => (nomatch he), rfl⟩

theorem Exchange.file {repoId : Int} {deadline : Option τ} (taken : Bool) (s : Store) :
    Exchange (.takeFile repoId deadline) (.ok taken) s s :=
  ⟨fun _ he => (nomatch he), rfl⟩

theorem Exchange.refused {α : Type} {call : TreeCall τ α} {e : Error} (he : e.isExternal = true)
    (s : Store) : Exchange (.tree call) (.error e) s s :=
  ⟨fun _ h => Except.error.inj h ▸ he, rfl⟩

/-- Whatever is asked can be answered, but for a lock that is held. -/
theorem Request.waits_or_answer [TimeScale τ] {β : Type} (r : Request τ β) (s : Store) (l : Locks)
    (i process : Nat) :
    r.Waits l process ∨ ∃ b s' l', Exchange r b s s' ∧ l.Grants i process r b l' := by
  cases r with
  | clock => exact .inr ⟨TimeScale.zero, s, l, rfl, rfl⟩
  | transact write limit body =>
    exact .inr ⟨.error (.engine .locked), s, l, .inl ⟨⟨_, rfl⟩, rfl⟩, rfl⟩
  | openTree repo => exact .inr ⟨(), s, l, rfl, rfl⟩
  | tree call => exact .inr ⟨.error (.external ""), s, l, .refused rfl s, rfl⟩
  | process call => exact .inr ⟨.timedOut, s, l, rfl, rfl⟩
  | takeLock repoId limit =>
    cases hl : l.held (process, repoId) with
    | none => exact .inr ⟨.ok true, s, _, .lock true s, hl, rfl⟩
    | some k =>
      have held : l.held (process, repoId) ≠ none := by
        rw [hl]
        nofun
      cases limit with
      | none => exact .inl held
      | some t => exact .inr ⟨.ok false, s, l, .lock false s, held, rfl, rfl⟩
  | dropLock repoId => exact .inr ⟨(), s, _, rfl, rfl⟩
  | takeFile repoId deadline =>
    cases hl : l.files repoId with
    | none => exact .inr ⟨.ok true, s, _, .file true s, hl, rfl⟩
    | some k =>
      have held : l.files repoId ≠ none := by
        rw [hl]
        nofun
      cases deadline with
      | none => exact .inl held
      | some t => exact .inr ⟨.ok false, s, l, .file false s, held, rfl, rfl⟩
  | dropFile repoId => exact .inr ⟨(), s, _, rfl, rfl⟩
  | log record => exact .inr ⟨(), s, l, rfl, rfl⟩

/-- The call has ended, or waits without a limit for a lock that is held. -/
def Call.Rests (l : Locks) (c : Call τ) : Prop :=
  match c.rest with
  | .done _ => True
  | .ask r _ => r.Waits l c.process

/-- **A call that is let run comes to rest**, without a step of any other call. -/
theorem World.comes_to_rest [TimeScale τ] {directory : Option String} {w : World τ} {i : Nat}
    {c : Call τ} (hc : w.calls[i]? = some c) :
    ∃ w' c', Run directory (fun _ => False) w w' ∧ w'.calls[i]? = some c' ∧
      c'.operation = c.operation ∧ c'.Rests w'.locks ∧
      ∀ k, k ≠ i → w'.calls[k]? = w.calls[k]? := by
  obtain ⟨process, op, rest, journal⟩ := c
  induction rest generalizing w journal with
  | done a => exact ⟨w, _, .refl, hc, rfl, trivial, fun _ _ => rfl⟩
  | ask r next ih =>
    rcases r.waits_or_answer w.store w.locks i process with hwait | ⟨b, s, l, hx, hg⟩
    · exact ⟨w, _, .refl, hc, rfl, hwait, fun _ _ => rfl⟩
    -- The program is smaller after each answer, whatever the answer is.
    · have hi : i < w.calls.length := (List.getElem?_eq_some_iff.1 hc).1
      have step : Step directory (fun _ => False) w _ := .answer hc rfl hx hg
      obtain ⟨w', c', hrun, hc', hop, hrest, hothers⟩ := ih b
        (w := ⟨s, l, w.calls.set i ⟨process, op, next b, journal.note r b w.store s⟩, _⟩)
        (journal.note r b w.store s) (List.getElem?_set_self hi)
      refine ⟨w', c', .head step hrun, hc', hop, hrest, fun k hk => ?_⟩
      rw [hothers k hk]
      exact List.getElem?_set_ne hk.symm

end Forge
