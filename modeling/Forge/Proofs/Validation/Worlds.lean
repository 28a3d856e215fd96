import Forge.Proofs.Replay
import Forge.Proofs.Turn
import Forge.Proofs.Validation.Operations

/-!
# Validation cannot be bypassed

A forge is run with working trees of two sorts: some that answer its calls in whatever way, and some
that are git, which it runs as a command. `World.Hosted` are the worlds of calls of both sorts,
whatever the trees answer and however the commands end. In all of them the store is validated, and
no command is run with a branch that could be taken for anything but a name.
-/

namespace Forge

variable {τ : Type} {directory : Option String} {faults : Error → Prop}

/-- An answer comes from a validated store, and leaves one. -/
theorem Request.Checked.reply {β : Type} {r : Request τ β} {b : β} {s s' : Store}
    (may : r.Checked) (hs : s.Validated) (h : Reply faults r b s s') :
    s'.Validated ∧ r.Told b := by
  have kept {r : Request τ β} (told : r.Told b) (same : s' = s) : s'.Validated ∧ r.Told b := by
    rw [same]
    exact ⟨hs, told⟩
  cases r with
  | transact write limit body =>
    rcases h.transact with ⟨⟨e, rfl, -⟩, rfl⟩ | ⟨now, -, ⟨a, rfl, returned⟩ | ⟨e, rfl, rfl, -⟩⟩
    · exact ⟨hs, nofun⟩
    · refine ⟨may now a s s' hs returned, ?_⟩
      rintro _ ⟨⟩
      exact ⟨now, s, s', hs, returned⟩
    · exact ⟨hs, nofun⟩
  | tree call => exact kept trivial h.2
  | takeLock repoId limit => exact kept trivial h.2
  | clock => exact kept trivial h
  | openTree repo => exact kept trivial h
  | process call => exact kept trivial h
  | dropLock repoId => exact kept trivial h
  | takeFile repoId deadline => exact kept trivial h.2
  | dropFile repoId => exact kept trivial h
  | log record => exact kept trivial h

namespace World

variable [TimeScale τ] {w w' : World τ}

/-- The programs that carry an operation out: as it is, or with its working tree under git. -/
inductive Carries (policy : Policy τ) (op : Operation τ) : Program τ (Except Error Answer) → Prop
  | plain : Carries policy op (op.action policy).run
  | git (c : Git.Checkout) : Carries policy op (Git.carryOutAll c (op.action policy).run)

/-- The world comes from an empty store by calls of operations, some with their working trees under
git, and by answers to their requests. -/
inductive Hosted (directory : Option String) (faults : Error → Prop) : World τ → Prop
  | fresh (surrogates : Text.Surrogates) : Hosted directory faults (fresh (.empty surrogates))
  | begin {w : World τ} {process : Nat} {policy : Policy τ} {op : Operation τ}
      {rest : Program τ (Except Error Answer)} (hosted : Hosted directory faults w)
      (carries : Carries policy op rest) (shared : policy.lockDirectory = directory)
      (alone : directory = none → process = 0) :
      Hosted directory faults { w with calls := w.calls ++ [⟨process, op, rest, {}⟩] }
  | answer {w : World τ} {i : Nat} {c : Call τ} {β : Type} {r : Request τ β}
      {next : β → Program τ (Except Error Answer)} {b : β} {s : Store} {l : Locks}
      (hosted : Hosted directory faults w) (call : w.calls[i]? = some c)
      (asks : c.rest = .ask r next) (reply : Reply faults r b w.store s)
      (grant : w.locks.Grants i c.process r b l) :
      Hosted directory faults
        { store := s
          locks := l
          calls := w.calls.set i
            { c with rest := next b, journal := c.journal.note r b w.store s }
          log := ⟨i, c.operation, c.journal.opened, r, b, w.store, s⟩ :: w.log }

theorem Turn.hosted (h : Turn directory faults w w') (hw : w.Hosted directory faults) :
    w'.Hosted directory faults := by
  cases h with
  | begin shared alone => exact hw.begin .plain shared alone
  | answer call asks reply grant => exact hw.answer call asks reply grant

theorem Attained.hosted (h : w.Attained directory faults) : w.Hosted directory faults := by
  obtain ⟨u, turns⟩ := h
  induction turns with
  | refl => exact .fresh u
  | tail _ turn ih => exact turn.hosted ih

theorem Carries.checked {policy : Policy τ} {op : Operation τ}
    {rest : Program τ (Except Error Answer)} (h : Carries policy op rest) :
    rest.Obeys Terms.checked (fun _ _ => True) () := by
  have keeps : (op.action policy).run.Obeys Terms.checked (fun _ _ => True) () :=
    (Action.obeys_run.1 (op.checked policy)).mono fun _ _ _ => trivial
  cases h with
  | plain => exact keeps
  | git c => exact Git.obeys_carryOutAll c keeps

/-- What the induction over a run carries along: the store is validated, and so is all that the
calls may still ask. -/
theorem Hosted.checked (h : w.Hosted directory faults) : w.store.Validated ∧
    ∀ (i : Nat) (c : Call τ), w.calls[i]? = some c →
      c.rest.Obeys Terms.checked (fun _ _ => True) () := by
  induction h with
  | fresh u =>
    refine ⟨.empty u, fun i c hc => ?_⟩
    simp [World.fresh] at hc
  | begin _ carries _ _ ih =>
    refine ⟨ih.1, fun i c hc => ?_⟩
    rcases call_of_concat hc with hc | ⟨-, rfl⟩
    · exact ih.2 i c hc
    · exact carries.checked
  | @answer w k c' β r next b s l _ call asks reply _ ih =>
    have keeps := ih.2 k c' call
    rw [asks, Program.obeys_step] at keeps
    obtain ⟨validated, told⟩ := keeps.1.reply ih.1 reply
    refine ⟨validated, fun i c hc => ?_⟩
    rcases call_of_set hc with ⟨-, rfl⟩ | ⟨-, hc⟩
    · exact keeps.2 b () told
    · exact ih.2 i c hc

/-- **Validation cannot be bypassed**: all rows are as they would be taken in, and every command that
is about to be run is git with harmless branches. -/
theorem validation_holds (h : w.Hosted directory faults) : w.store.Validated ∧
    ∀ (i : Nat) (c : Call τ) (call : ProcessCall τ)
      (next : ProcessOutcome → Program τ (Except Error Answer)),
      w.calls[i]? = some c → c.rest = .ask (.process call) next → call.Harmless := by
  obtain ⟨validated, keeps⟩ := h.checked
  refine ⟨validated, fun i c call next hc asks => ?_⟩
  have step := keeps i c hc
  rw [asks, Program.obeys_step] at step
  exact step.1

/-- The world in which one more call has begun, with its working tree under git. -/
def callGit (op : Operation τ) (w : World τ) : World τ :=
  { w with
    calls := w.calls ++
      [⟨0, op, Git.carryOutAll ⟨"git", "", "localhost"⟩ (op.action ⟨none, none, none⟩).run, {}⟩] }

/-- The command that call `i` is about to run. -/
def command? (i : Nat) (w : World τ) : Option (ProcessCall τ) :=
  match w.calls[i]? with
  | some ⟨_, _, .ask (.process call) _, _⟩ => some call
  | _ => none

omit [TimeScale τ] in
theorem call_of_command? {i : Nat} {call : ProcessCall τ} (h : w.command? i = some call) :
    ∃ (c : Call τ) (next : ProcessOutcome → Program τ (Except Error Answer)),
      w.calls[i]? = some c ∧ c.rest = .ask (.process call) next := by
  unfold command? at h
  split at h
  · rename_i hc
    cases h
    exact ⟨_, _, hc, rfl⟩
  · cases h

theorem serves_hosted (i n : Nat) (h : w.Hosted directory faults) :
    (w.serves i n).Hosted directory faults := by
  induction n generalizing w with
  | zero => exact h
  | succ n ih =>
    unfold serves
    split
    · exact h
    · rename_i w' served
      have step : Step directory (fun _ => True) w w' := serve_step served
      exact ih (step.turn.hosted h)

/-- A world in which a merge request has been stored by one operation, and another one, under git,
is about to check out its target. -/
def checkoutWorld : World Binary64 :=
  (((fresh .empty).replay
    [.call (.registerRepository "one" "/one"), .serve 0 50,
      .call (.createMergeRequest "one" (some " ann ") " Add it " " feature " "main" (some "")),
      .serve 1 50]).callGit (.merge "one" 1 (some "eve") none)).serves 2 10

/-- The law at this world. -/
theorem validation_holds_of_checkout : checkoutWorld.Hosted none (fun _ => False) ∧
    (checkoutWorld.store.mergeRequests.rows.map fun m => (m.title, m.authorId, m.sourceBranch)) =
      [("Add it", "ann", "feature")] ∧
    checkoutWorld.store.Validated ∧
    ∃ call, checkoutWorld.command? 2 = some call ∧
      call.arguments = ["git", "checkout", "--quiet", "main"] ∧ call.Harmless := by
  have hosted : checkoutWorld.Hosted none fun _ => False :=
    serves_hosted _ _ ((replay_reachable _).attained.hosted.begin (.git _) rfl fun _ => rfl)
  obtain ⟨validated, harmless⟩ := validation_holds hosted
  have waits : checkoutWorld.command? 2 =
      some ⟨["git", "checkout", "--quiet", "main"], "/one", none, none⟩ := by decide +kernel
  obtain ⟨c, next, hc, asks⟩ := call_of_command? waits
  exact ⟨hosted, by decide +kernel, validated, _, waits, rfl, harmless 2 c _ next hc asks⟩

end World

end Forge
