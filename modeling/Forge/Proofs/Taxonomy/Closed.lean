import Forge.Proofs.Frame.Ledger
import Forge.Proofs.Taxonomy.CommandLine

/-!
# The errors of a forge

In an attained world that is not full, a call that fails does so with a failure of the workflow
unless it was given a number of more than 64 bits or a text without a UTF-8 form, or the
surroundings have refused it a request: a wait for a lock that is too long, a lock file, the opening
of the store, or a call on a working tree that fails as it should not (`World.Classed`). A command
line ends with a status up to three but for such a number and such a refusal (`Cli.Ends`), and for
faults that lie before the forge is reached.
-/

namespace Forge

open Transaction Forge.Action

variable {τ : Type} {faults : Error → Prop}

/-! ## Worlds -/

/-- What a request is refused with is an error of the working tree, of the opening of the store, of
a lock file or of a wait that is too long, or one of the class that working trees may fail with. -/
theorem Reply.refused {β : Type} {r : Request τ β} {b : β} {s s' : Store} {e : Error}
    (h : Reply faults r b s s') (refused : r.RefusedWith b e) :
    e.isExternal = true ∨ e.isOpening = true ∨ e = .limitTooLong ∨ faults e := by
  cases r with
  | transact write limit body => exact .inr (.inl refused.2)
  | tree call => exact (h.1 e refused).imp_right fun fault => .inr (.inr fault)
  | takeLock repoId limit => exact .inr (.inr (.inl (h.1 e refused).1))
  | takeFile repoId deadline =>
    have fault := h.1 e refused
    refine .inr (.inl ?_)
    cases e <;> first | rfl | cases fault
  | _ => exact refused.elim

namespace World

/-- The surroundings have refused a request of call `i` with the error. -/
def Met (i : Nat) (w : World τ) (e : Error) : Prop :=
  ∃ event ∈ w.log, event.call = i ∧ event.request.RefusedWith event.answer e

/-- What every call will end in is accounted for, whatever it is refused with later. -/
def Watched (u : Text.Surrogates) (w : World τ) : Prop :=
  ∀ (i : Nat) (c : Call τ), w.calls[i]? = some c → ∀ met : Error → Prop, (∀ e, w.Met i e → met e) →
    c.rest.Obeys (Terms.accounted u met)
      (Action.ends (fun _ _ => True) fun e _ => e.Accounted (c.operation.Excused u) met) ()

variable [TimeScale τ] {directory : Option String} {w w' : World τ} {u : Text.Surrogates}

theorem Turn.watched (h : Turn directory faults w w') (usable : w.store.Usable u)
    (hw : w.Watched u) : w'.Watched u := by
  intro i c hc met refusals
  cases h with
  | @begin process policy op =>
    rcases call_of_concat hc with hc | ⟨-, rfl⟩
    · exact hw i c hc met refusals
    · exact obeys_run.1 (op.ends_action policy u met)
  | @answer k c₀ β r next b s l call asks reply =>
    have earlier (e : Error) (he : w.Met i e) : met e := by
      obtain ⟨event, logged, refused⟩ := he
      exact refusals e ⟨event, List.mem_cons_of_mem _ logged, refused⟩
    rcases call_of_set hc with ⟨rfl, rfl⟩ | ⟨-, hc⟩
    · have obeys := hw i c₀ call met earlier
      rw [asks, Program.obeys_step] at obeys
      exact obeys.2 b () ⟨w.store, s, usable, reply.mono fun _ _ => trivial, fun e refused =>
        refusals e ⟨_, List.mem_cons_self, rfl, refused⟩⟩
    · exact hw i c hc met earlier

theorem Turns.usable (h : Turns directory faults (fresh (.empty u)) w) (room : w.store.Roomy) :
    w.store.Usable u :=
  ⟨(Attained.orderly ⟨u, h⟩).wellFormed, h.evolves (orderly_fresh u), room⟩

/-- A world that has room has had room from the beginning. -/
theorem Turns.watched (h : Turns directory faults (fresh (.empty u)) w) (room : w.store.Roomy) :
    w.Watched u := by
  induction h with
  | refl => exact fun i c hc => by simp [fresh] at hc
  | tail turns turn ih =>
    obtain ⟨now, effect⟩ := turn.effect (Attained.orderly ⟨u, turns⟩)
    have before := room.earlier (Turns.evolves turns (orderly_fresh u)) effect.evolves
    exact turn.watched (Turns.usable turns before) (ih before)

/-- The kinds of errors that requests have been refused with. -/
theorem Attained.refused (h : w.Attained directory faults) {i : Nat} {e : Error} (met : w.Met i e) :
    e.isExternal = true ∨ e.isOpening = true ∨ e = .limitTooLong ∨ faults e := by
  obtain ⟨u, turns⟩ := h
  induction turns with
  | refl =>
    obtain ⟨event, logged, -⟩ := met
    exact absurd logged List.not_mem_nil
  | tail _ turn ih =>
    obtain ⟨event, logged, call, refused⟩ := met
    cases turn with
    | begin => exact ih ⟨event, logged, call, refused⟩
    | answer _ _ reply =>
      rcases List.mem_cons.1 logged with rfl | logged
      · exact reply.refused refused
      · exact ih ⟨event, logged, call, refused⟩

end World

/-! ## Looking up numbers that are too wide -/

namespace Operation

variable [TimeScale τ] {s : Store} {r : Repository} {text : String} {i : Int}

theorem fails_get_of_wide {ρ ε : Type} [Ticket ρ ε] (hs : s.WellFormed) (wide : fits i = false)
    (repoId : Int) : (Ticket.get ρ repoId i : Transaction ε).Fails s .integerTooWide := by
  have present : Ticket.tableName ρ ∉ s.withdrawn := by
    rw [hs.present]
    exact List.not_mem_nil
  have bound : ∃ j ∈ [repoId, i], fits j = false :=
    ⟨i, List.mem_cons_of_mem _ List.mem_cons_self, wide⟩
  refine fails_bind.2 (.inl (fails_bind.2 (.inr ⟨(), s, returns_useTable.2 ⟨present, rfl⟩, ?_⟩)))
  exact fails_bind.2 (.inl (fails_bindAll.2 ⟨bound, rfl⟩))

/-- A look for a ticket under a number that is too wide is not told that there is none. -/
theorem outcome_of_wide (hs : s.WellFormed) (hr : r ∈ s.repos.rows)
    (clean : Repository.cleanName text = .ok r.name) (wide : fits i = false) (policy : Policy τ)
    (alone : Alone τ) :
    ∀ op ∈ ([.issue text i, .mergeRequest text i] : List (Operation τ)),
      op.outcome policy alone s = (.error .integerTooWide, s) := by
  have named := hs.named hr clean
  have missed {ρ ε : Type} [Ticket ρ ε] (f : ε → Answer) :
      (f <$> Workflow.ticket ρ text i : Action τ Answer).Obeys Terms.alone (fun _ _ => False)
        (fun e s' => e = .integerTooWide ∧ s' = s) s :=
    obeys_map.2 (Workflow.obeys_sessionOn named fun _ _ =>
      .inr ⟨_, fails_get_of_wide hs wide r.id, rfl, rfl⟩)
  have ends {op : Operation τ} (h : (op.action policy).Obeys Terms.alone (fun _ _ => False)
      (fun e s' => e = .integerTooWide ∧ s' = s) s) :
      op.outcome policy alone s = (.error .integerTooWide, s) := by
    refine outcome_of_obeys (P := fun out => out = (.error .integerTooWide, s)) ?_ alone
    refine h.mono (fun _ _ no => no.elim) ?_
    rintro _ _ ⟨rfl, rfl⟩
    rfl
  exact List.forall_mem_cons.2 ⟨ends (missed _), List.forall_mem_singleton.2 (ends (missed _))⟩

end Operation

/-! ## The law -/

namespace World

variable [TimeScale τ] {directory : Option String} {w : World τ}

/-- Calls fail with failures of the workflow, unless they were given a number of more than 64 bits
or a text without a UTF-8 form, or the surroundings have refused them a request. A number that is
too wide is not looked for at all. -/
structure Classed (faults : Error → Prop) (w : World τ) : Prop where
  usable : w.store.Usable w.store.surrogates
  ended : ∀ (i : Nat) (c : Call τ) (e : Error), w.calls[i]? = some c → c.rest = .done (.error e) →
    e.isWorkflow = true ∨ e = .integerTooWide ∧ c.operation.Wide ∨
      (∃ fault, e = .unwritable fault) ∧ c.operation.Unwritable w.store.surrogates ∨
      w.Met i e ∧ (e.isOpening = true ∨ e = .limitTooLong ∨ faults e)
  wide : ∀ r ∈ w.store.repos.rows, ∀ text, Repository.cleanName text = .ok r.name →
    ∀ i, fits i = false → ∀ (policy : Policy τ) (alone : Alone τ),
      ∀ op ∈ ([.issue text i, .mergeRequest text i] : List (Operation τ)),
        op.outcome policy alone w.store = (.error .integerTooWide, w.store)

/-- **Errors are those of the workflow**, but for numbers and texts that the store does not take and
for what the surroundings refuse. So a command line ends with a status up to three, unless it gives
such a number or is refused so, or fails before the forge is reached. -/
theorem errors_are_classed (h : w.Attained directory faults) (room : w.store.Roomy) :
    w.Classed faults ∧ ∀ (read : Cli.SettingsReader) (host : Host) (terminal : Bool)
      (u : Text.Surrogates) (met : Error → Prop) (arguments : List String) (f : Cli.Finish),
      Cli.Ends read host terminal u met arguments f →
        f.exit.Accounted (Cli.Wide arguments) met := by
  obtain ⟨u, turns⟩ := h
  have usable : w.store.Usable u := Turns.usable turns room
  have watched : w.Watched u := Turns.watched turns room
  obtain rfl : w.store.surrogates = u := usable.surrogates
  refine ⟨⟨usable, fun i c e hc failed => ?_, fun r hr text clean i unfit policy alone =>
    Operation.outcome_of_wide usable.wellFormed hr clean unfit policy alone⟩,
    fun _ _ _ _ _ _ _ => Cli.Ends.accounted⟩
  have obeys := watched i c hc (w.Met i) fun _ met => met
  rw [failed, Program.obeys_done] at obeys
  rcases obeys with workflow | (wide | unwritable) | met
  · exact .inl workflow
  · exact .inr (.inl wide)
  · exact .inr (.inr (.inl unwritable))
  · rcases Attained.refused ⟨_, turns⟩ met with external | kind
    · exact .inl (Error.isWorkflow_of_isExternal external)
    · exact .inr (.inr (.inr ⟨met, kind⟩))

/-- A schedule in which two issues are looked for that are not there, and one is to be added. The
number of the second has more than 64 bits, and the title of the third is a lone surrogate. -/
def lookups : List (Move Binary64) :=
  [.call (.registerRepository "one" "/one"), .serve 0 50, .call (.issue "one" 7), .serve 1 50,
    .call (.issue "one" 9223372036854775808), .serve 2 50,
    .call (.createIssue "one" (some "ann") Text.loneByte (some "")), .serve 3 50]

/-- The world after the schedule. -/
def lookedWorld : World Binary64 :=
  (fresh .empty).replay lookups

theorem lookedWorld_roomy : lookedWorld.store.Roomy where
  repos := by decide +kernel
  issues := by decide +kernel
  mergeRequests := by decide +kernel

/-- A command line that looks for the second issue, on a host without variables and files. -/
def lookupLine : List String := ["issue", "show", "one", "9223372036854775808"]

/-- The command that it comes to. -/
def lookup : Cli.Invocation := ⟨.showIssue "one" 9223372036854775808, false, none⟩

/-- The host. -/
def bareHost : Host := ⟨⟨[], [], 0⟩, Path.ofText "/", .empty⟩

/-- Settings that say nothing. -/
def noSettings : Cli.SettingsReader := fun _ _ => .ok []

theorem route_lookupLine : Cli.route lookupLine = .command lookup := by
  decide +kernel

/-- The law at the three calls, of which one fails as it should, and at the command line. -/
theorem errors_are_classed_of_lookups :
    lookedWorld.Attained none (fun _ => False) ∧ lookedWorld.store.Roomy ∧
    ([1, 2, 3].map fun i => (lookedWorld.answered i).map (·.2)) =
      [some (.error (.notFound (.ticket .issue 7))), some (.error .integerTooWide),
        some (.error (.unwritable ⟨0, 1, 0xdcff⟩))] ∧
    lookedWorld.Classed (fun _ => False) ∧
    ∀ f, Cli.Ends noSettings bareHost false default (fun _ => False) lookupLine f →
      f.exit.Accounted (Cli.Wide lookupLine) fun _ => False := by
  have reached : lookedWorld.Reachable none := replay_reachable lookups
  have attained : lookedWorld.Attained none fun _ => False := reached.attained
  obtain ⟨classed, accounted⟩ := errors_are_classed attained lookedWorld_roomy
  exact ⟨attained, lookedWorld_roomy, by decide +kernel, classed, accounted _ _ _ _ _ _⟩

/-- The command line can end with an error of the engine that escapes, though nothing is refused. -/
theorem lookupLine_escapes : ∃ f : Cli.Finish, f.exit = .escaped (.error .integerTooWide) ∧
    Cli.Ends noSettings bareHost false default (fun _ => False) lookupLine f := by
  obtain ⟨session, files, prepared⟩ :
      ∃ session files, Cli.prepare noSettings bareHost false lookup = (.ok session, files) :=
    ⟨_, _, rfl⟩
  obtain ⟨action, asks⟩ : ∃ action, lookup.command.task { bareHost with files }
      (Cli.policyOf session.settings) = .ok action := ⟨_, rfl⟩
  have task : session.task { bareHost with files } = .ok action := by
    rw [Cli.Session.task, Cli.prepare_ok prepared]
    exact asks
  have ends : action.run.ComesTo (Terms.accounted default fun _ => False) ()
      (.error .integerTooWide) () := by
    obtain rfl := Except.ok.inj asks
    have run : Run none (fun _ => True) (fresh .empty) lookedWorld := replay_run fun _ _ => trivial
    have turns : Turns none (fun _ => False) (fresh .empty) lookedWorld := run.turns
    have usable : lookedWorld.store.Usable default := turns.usable lookedWorld_roomy
    -- The first transaction that is asked for is answered with the error.
    refine .ask (b := .error .integerTooWide) ⟨lookedWorld.store, lookedWorld.store, usable,
      .inr (.inr ⟨0, rfl, ?_⟩), ?_⟩ .done
    · rfl
    · rintro _ ⟨⟨⟩, opening⟩
      cases opening
  exact ⟨_, rfl, .done route_lookupLine prepared task ends⟩

/-- Neither are all errors of calls those of the workflow, nor does no error escape from a command
line where nothing is refused. -/
theorem not_all_of_workflow :
    (¬∀ (w : World Binary64) (i : Nat) (c : Call Binary64) (e : Error), w.Reachable none →
      w.store.Roomy → w.calls[i]? = some c → c.rest = .done (.error e) → e.isWorkflow = true) ∧
    ¬∀ (read : Cli.SettingsReader) (host : Host) (terminal : Bool) (u : Text.Surrogates)
      (arguments : List String) (f : Cli.Finish),
      Cli.Ends read host terminal u (fun _ => False) arguments f →
        ∀ e, f.exit ≠ .escaped (.error e) := by
  refine ⟨fun all => ?_, fun all => ?_⟩
  · have reached : lookedWorld.Reachable none := replay_reachable lookups
    have answered : lookedWorld.answered 2 =
        some (.issue "one" 9223372036854775808, .error .integerTooWide) := rfl
    obtain ⟨c, hc, -, done⟩ := call_of_answered answered
    exact absurd (all lookedWorld 2 c _ reached lookedWorld_roomy hc done) nofun
  · obtain ⟨f, escapes, ends⟩ := lookupLine_escapes
    exact all _ _ _ _ _ _ ends _ escapes

end World

end Forge
