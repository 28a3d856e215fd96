import Forge.Git.Tree
import Forge.Proofs.Deadline
import Forge.Proofs.Replay
import Forge.Proofs.Runs
import Forge.Proofs.Text.Lines

/-!
# Git as a working tree

A call on a working tree is one run of git, and a merge that has succeeded is two. The contract of a
working tree says what a call answers by the ends of its runs, and that it never fails in a way that
the forge does not expect. `carryOut_meets` is this contract for git: it holds whatever limits the
runs are given and whatever they end with, with an exit status, by their limit or before they have
begun, as long as no run exceeds a limit that it was not given. A run that is not carried to any of
these ends, because its limit is none that a clock can wait for or its words cannot be handed over,
has its own fault for the answer of the call. The proof follows the runs along the program:
`Terms.commands` keeps them, and each part of a call has one lemma.
-/

namespace Forge

/-! ## What a failed command says -/

/-- The words `text` are what a failed command has to say: the last line of its error text, or of
its output if it has no error text, or the failure itself if there is nothing but blanks. -/
def CommandFailure.Says (f : CommandFailure) (text : String) : Prop :=
  let said := Text.strip (if f.err = "" then f.out else f.err)
  said = "" ∧ text = f.message ∨ ∃ some_line, text = (Text.lines said).getLast some_line

variable {τ κ σ α : Type}

/-- A command that was run, and how its run ended. -/
structure CommandRun (τ : Type) where
  call : ProcessCall τ
  outcome : ProcessOutcome
deriving DecidableEq

/-- The run that an answered request is, if a command was asked for. -/
def Request.command? : {β : Type} → Request τ β → β → Option (CommandRun τ)
  | _, .process call, outcome => some ⟨call, outcome⟩
  | _, _, _ => none

/-- The commands that were run, in this order. -/
def commands (trace : List (Answered τ κ)) : List (CommandRun τ) :=
  trace.filterMap fun e => e.request.command? e.answer

/-- A run ends by a time limit only if it was given one. -/
def CommandRun.Limited (run : CommandRun τ) : Prop :=
  run.outcome = .timedOut → run.call.limit.isSome = true

instance (run : CommandRun τ) : Decidable run.Limited :=
  inferInstanceAs (Decidable (_ → _))

/-- The exit status of a run that has ended by itself. -/
def ProcessOutcome.status? : ProcessOutcome → Option Int
  | .finished status _ _ => some status
  | _ => none

/-- The fault that has kept a run from ending in any other way. -/
def ProcessOutcome.fault? : ProcessOutcome → Option RunFault
  | .rejected fault => some fault
  | _ => none

/-- Anything may be asked; the state has the commands that were run. -/
def Terms.commands : Terms τ (List (CommandRun τ)) where
  may _ _ := True
  answers r runs b runs' :=
    runs' = runs ++ (r.command? b).toList ∧ ∀ run ∈ r.command? b, run.Limited

namespace Git

open Program

/-! ## The contract -/

/-- What a call on a working tree does, in the words of its errors. -/
def deed : {α : Type} → TreeCall τ α → String
  | _, .branchExists branch => "inspect branch " ++ Text.quoted branch
  | _, .contains branch ancestor _ =>
    "compare branches " ++ Text.quoted ancestor ++ " and " ++ Text.quoted branch
  | _, .checkout branch _ => "checkout target branch " ++ Text.quoted branch
  | _, .merge branch .. => "merge branch " ++ Text.quoted branch
  | _, .abortMerge => "abort merge"

/-- The run of git that decides a call. -/
def Checkout.order (c : Checkout) : {α : Type} → TreeCall τ α → ProcessCall τ
  | _, .branchExists branch =>
    ⟨[c.command, "show-ref", "--verify", "--quiet", "refs/heads/" ++ branch], c.directory, none,
      none⟩
  | _, .contains branch ancestor limit =>
    ⟨[c.command, "merge-base", "--is-ancestor", ancestor, branch], c.directory, none, limit⟩
  | _, .checkout branch limit =>
    ⟨[c.command, "checkout", "--quiet", branch], c.directory, none, limit⟩
  | _, .merge branch message author limit =>
    ⟨[c.command, "merge", "--no-ff", "--no-edit", "-m", message, branch], c.directory,
      some (authorship c author), limit⟩
  | _, .abortMerge => ⟨[c.command, "merge", "--abort"], c.directory, none, none⟩

/-- The run of git that reads the id of the current commit. -/
def Checkout.readHead (c : Checkout) : ProcessCall τ :=
  ⟨[c.command, "rev-parse", "HEAD"], c.directory, none, none⟩

/-- The id of the current commit, or nothing if it could not be read. -/
def head : ProcessOutcome → String
  | .finished status out _ => if status = 0 then Text.strip out else ""
  | _ => ""

/-- An exit status of zero is a yes, one of one is a no, and there is no other answer. -/
structure Decides (first : ProcessOutcome) (result : Except Error Bool) : Prop where
  yes : result = .ok true ↔ first.status? = some 0
  no : result = .ok false ↔ first.status? = some 1

/-- What a call answers after its first run, and what is run later. -/
def Checkout.Answers (c : Checkout) : {α : Type} → TreeCall τ α → ProcessOutcome →
    List (CommandRun τ) → Except Error α → Prop
  | _, .branchExists _, first, later, result => later = [] ∧ Decides first result
  | _, .contains .., first, later, result => later = [] ∧ Decides first result
  | _, .checkout .., first, later, result =>
    later = [] ∧ (result = .ok () ↔ first.status? = some 0)
  | _, .merge .., first, later, result =>
    if first.status? = some 0 then
      ∃ second, later = [⟨c.readHead, second⟩] ∧ result = .ok (head second)
    else later = [] ∧ ∃ e, result = .error e
  | _, .abortMerge, first, later, result => later = [] ∧ (result = .ok () ↔ first.status? = some 0)

variable [TimeScale τ]

/-- The error that a run amounts to which was to carry out a deed: what the command says, what the
operating system says, the limit that the run was given and has exceeded, or the fault that kept it
from ending so. -/
def Explains (deed : String) (run : CommandRun τ) (e : Error) : Prop :=
  match run.outcome with
  | .finished status out err => ∃ text,
    CommandFailure.Says ⟨run.call.arguments, status, out, err⟩ text ∧
      e = .external ("failed to " ++ deed ++ ": " ++ text)
  | .timedOut => ∃ limit, run.call.limit = some limit ∧
    e = .deadline (.step ("failed to " ++ deed ++ ": timed out after " ++ TimeScale.text limit ++
      "s"))
  | .unstartable error => e = .external ("failed to " ++ deed ++ ": " ++ error.message)
  | .rejected fault => e = .unrunnable fault

/-- The contract of a working tree, for a call that has led to these runs and to this result. -/
structure Checkout.Meets (c : Checkout) (call : TreeCall τ α) (runs : List (CommandRun τ))
    (result : Except Error α) : Prop where
  /-- The first run is the one that decides, and the answer and what is run later follow from it. -/
  answers : ∃ first later, runs = ⟨c.order call, first⟩ :: later ∧ c.Answers call first later result
  /-- An error tells of the only run. -/
  explained : ∀ e, result = .error e → ∃ run, runs = [run] ∧ Explains (deed call) run e
  /-- A limit that was exceeded is a missed deadline. -/
  late : ∀ run ∈ runs, run.outcome = .timedOut → ∃ why, result = .error (.deadline why)
  /-- No error is one that the forge does not expect. -/
  external : ∀ e, result = .error e → e.isExternal = true

/-- What a call comes to: the contract, if each of its runs has ended with an exit status, by its
limit or before it had begun, and else the fault of the run that has not. -/
structure Checkout.ComesTo (c : Checkout) (call : TreeCall τ α) (runs : List (CommandRun τ))
    (result : Except Error α) : Prop where
  meets : (∀ run ∈ runs, run.outcome.fault? = none) → c.Meets call runs result
  escapes : ∀ run ∈ runs, ∀ fault, run.outcome.fault? = some fault →
    result = .error (.unrunnable fault)

/-! ## The runs of the parts of a call -/

variable {c : Checkout} {runs : List (CommandRun τ)}

theorem Explains.isExternal {deed : String} {run : CommandRun τ} {e : Error}
    (h : Explains deed run e) (ended : run.outcome.fault? = none) : e.isExternal = true := by
  unfold Explains at h
  split at h
  · obtain ⟨text, -, rfl⟩ := h
    rfl
  · obtain ⟨limit, -, rfl⟩ := h
    rfl
  · exact h ▸ rfl
  next outcome =>
    rw [outcome] at ended
    cases ended

end Git

end Forge
