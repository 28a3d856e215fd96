import Forge.Cli.Run
import Forge.Proofs.Taxonomy.Operations

/-!
# How command lines end

A command carries out a few operations, so it ends like these. A run of a command line ends with a
status up to three, unless an error escapes that comes from a number of more than 64 bits or that
the surroundings have refused a request with, or a fault of the settings, of a directory or of the
account that was met before (`Cli.Ends.accounted`).
-/

namespace Forge

open Transaction Forge.Action

variable {τ : Type}

/-! ## Values of programs -/

/-- The program can come to the value, on answers that the terms allow. -/
inductive Program.ComesTo {σ α : Type} (T : Terms τ σ) : Program τ α → σ → α → σ → Prop
  | done {a : α} {s : σ} : ComesTo T (.done a) s a s
  | ask {β : Type} {r : Request τ β} {next : β → Program τ α} {b : β} {a : α} {s s' s'' : σ}
      (answer : T.answers r s b s') (rest : ComesTo T (next b) s' a s'') :
      ComesTo T (.ask r next) s a s''

/-- What a program comes to is one of the ends that it obeys. -/
theorem Program.Obeys.of_comesTo {σ α : Type} {T : Terms τ σ} {p : Program τ α}
    {post : α → σ → Prop} {s s' : σ} {a : α} (h : p.Obeys T post s) (ends : p.ComesTo T s a s') :
    post a s' := by
  induction ends with
  | done => exact Program.obeys_done.1 h
  | ask answer _ ih => exact ih ((Program.obeys_step.1 h).2 _ _ answer)

/-! ## Commands -/

namespace Cli

/-- The numbers that a command is given. -/
def Command.numbers : Command → List Int
  | .showIssue _ i | .updateIssue _ i .. | .closeIssue _ i _ | .reopenIssue _ i
  | .deleteIssue _ i _ | .dependenciesOf _ i | .dependentsOf _ i | .showMergeRequest _ i
  | .updateMergeRequest _ i .. | .merge _ i .. | .closeMergeRequest _ i _
  | .reopenMergeRequest _ i | .deleteMergeRequest _ i _ => [i]
  | .addDependency _ i j | .removeDependency _ i j | .hasDependency _ i j => [i, j]
  | _ => []

/-- One of the numbers has more than 64 bits. -/
def Command.Wide (c : Command) : Prop :=
  ∃ i ∈ c.numbers, fits i = false

/-- The errors that a command is excused for: a number that is too wide, and any text that has no
UTF-8 form, for this does not escape. -/
def Excused (wide : Prop) (e : Error) : Prop :=
  e = .integerTooWide ∧ wide ∨ ∃ fault, e = .unwritable fault

theorem excuses_text (wide : Prop) (u : Text.Surrogates) (text : String) :
    ExcusesText (Excused wide) u text :=
  fun _ fault => .inr ⟨fault, rfl⟩

section Map

variable {α β : Type*} {f : α → β} {b : β}

theorem confirm_map {confirmed : Bool} {deed : String} {f : Unit → β}
    (h : (confirm confirmed deed).map f = .ok b) : b = f () := by
  unfold confirm at h
  split at h <;> cases h
  rfl

/-- A command that needs a user is made for one that has been found. -/
theorem acting_map {host : Host} {actor : Option String} {f : Option String → β}
    (h : (acting host actor).map f = .ok b) : ∃ user, b = f user := by
  unfold acting at h
  split at h <;> cases h
  exact ⟨_, rfl⟩

end Map

theorem ends_of_ok {u : Text.Surrogates} {excused met : Error → Prop}
    {action action' : Action Binary64 Report}
    (h : (.ok action : Except Failure (Action Binary64 Report)) = .ok action')
    (ends : action.Ends u excused met fun _ => True) : action'.Ends u excused met fun _ => True :=
  Except.ok.inj h ▸ ends

open Workflow in
/-- What a command carries out ends like the operations that it is made of. -/
theorem Command.ends_of_task {host : Host} {policy : Policy Binary64} {c : Command}
    {action : Action Binary64 Report} (h : c.task host policy = .ok action)
    (u : Text.Surrogates) (met : Error → Prop) :
    action.Ends u (Excused c.Wide) met fun _ => True := by
  have number {i : Int} (h : i ∈ c.numbers) : Transaction.Binds (Excused c.Wide) i :=
    fun unfit => .inl ⟨rfl, i, h, unfit⟩
  have text {t : String} : ExcusesText (Excused c.Wide) u t := excuses_text _ _ _
  cases c with
  | addRepository name path =>
    unfold task at h
    dsimp only at h
    split at h
    · cases h
    · exact ends_of_ok h (accounts_map (ends_registerRepository text text))
  | removeRepository name confirmed =>
    obtain rfl := confirm_map h
    exact accounts_map (ends_removeRepository text)
  | deleteIssue repo id confirmed =>
    obtain rfl := confirm_map h
    exact accounts_map (ends_deleteIssue text (number (.head _)))
  | deleteMergeRequest repo id confirmed =>
    obtain rfl := confirm_map h
    exact accounts_map (ends_deleteMergeRequest text (number (.head _)))
  | listIssues repo state order =>
    refine ends_of_ok h (accounts_map ?_)
    cases state with
    | none => exact ends_tickets text
    | some state => exact ends_issuesIn text state
  | listMergeRequests repo state order =>
    refine ends_of_ok h (accounts_map ?_)
    cases state with
    | none => exact ends_tickets text
    | some state => exact ends_mergeRequestsIn text state
  | listRepositories =>
    exact ends_of_ok h (accounts_map ends_repositories)
  | createIssue repo title description actor =>
    obtain ⟨user, rfl⟩ := acting_map h
    exact accounts_map (ends_createIssue text (fun _ _ => text) text fun _ _ => text)
  | showIssue repo id =>
    refine ends_of_ok h (accounts_bind (ends_ticket text (number (.head _))) fun i _ => ?_)
    exact accounts_bind (ends_dependenciesOf text (number (.head _))) fun ds _ =>
      accounts_bind (ends_dependentsOf text (number (.head _))) fun es _ => accounts_pure trivial
  | updateIssue repo id title description =>
    exact ends_of_ok h (accounts_map (ends_updateTicket text (number (.head _)) text
      (fun _ _ => text) fun _ _ _ _ _ => Store.effect_of_updateIssue))
  | closeIssue repo id actor | closeMergeRequest repo id actor =>
    obtain ⟨user, rfl⟩ := acting_map h
    exact accounts_map (ends_closeTicket text (number (.head _)) (fun _ _ => text) rfl)
  | reopenIssue repo id | reopenMergeRequest repo id =>
    exact ends_of_ok h (accounts_map (ends_followTransition text (number (.head _)) nofun rfl))
  | addDependency repo a b =>
    exact ends_of_ok h (accounts_map (ends_addDependency text (number (.head _))
      (number (.tail _ (.head _)))))
  | removeDependency repo a b =>
    exact ends_of_ok h (accounts_map (ends_removeDependency text (number (.head _))
      (number (.tail _ (.head _)))))
  | hasDependency repo a b =>
    exact ends_of_ok h (accounts_map (ends_hasDependency text (number (.head _))
      (number (.tail _ (.head _)))))
  | dependenciesOf repo a =>
    exact ends_of_ok h (accounts_map (ends_dependenciesOf text (number (.head _))))
  | dependentsOf repo a =>
    exact ends_of_ok h (accounts_map (ends_dependentsOf text (number (.head _))))
  | createMergeRequest repo source target title description actor =>
    obtain ⟨user, rfl⟩ := acting_map h
    exact accounts_map (ends_createMergeRequest text (fun _ _ => text) text text text
      fun _ _ => text)
  | showMergeRequest repo id =>
    exact ends_of_ok h (accounts_map (ends_ticket text (number (.head _))))
  | updateMergeRequest repo id title description =>
    exact ends_of_ok h (accounts_map (ends_updateTicket text (number (.head _)) text
      (fun _ _ => text) fun _ _ _ _ _ => Store.effect_of_updateMergeRequest))
  | merge repo id limit actor =>
    obtain ⟨user, rfl⟩ := acting_map h
    exact accounts_map (ends_merge policy limit text (number (.head _)) fun _ _ => text)

/-! ## Exits -/

/-- What can be said of an exit: it is a status up to three, or an error escapes that comes from a
number that is too wide or that the surroundings have refused a request with, or a fault from before
the forge was reached. -/
def Exit.Accounted (wide : Prop) (met : Error → Prop) : Exit → Prop
  | .status code => code ≤ 3
  | .escaped (.error e) => e = .integerTooWide ∧ wide ∨ met e
  | .escaped (.settings _) | .escaped (.directory _) | .escaped (.account _) => True
  | .escaped _ => False

/-- Each class of the workflow has its status, and none is above three. -/
theorem Failure.exit_of_workflow {e : Error} (h : e.isWorkflow = true) :
    ∃ code ≤ 3, (Failure.error e).finish.exit = .status code := by
  cases e with
  | notFound | invalidState | conflict | invalidArgument | storage | external | deadline =>
    exact ⟨1, by decide, rfl⟩
  | unrecorded => exact ⟨3, by decide, rfl⟩
  | engine | _ => cases h

/-- An error is shown, or escapes as it is. -/
theorem Failure.exit_error (e : Error) :
    (∃ code ≤ 3, (Failure.error e).finish.exit = .status code) ∨
      (Failure.error e).finish.exit = .escaped (.error e) := by
  unfold Failure.finish
  split
  · split
    · exact .inl ⟨3, by decide, rfl⟩
    · exact .inl ⟨1, by decide, rfl⟩
  · exact .inr rfl

variable {wide : Prop} {met : Error → Prop}

/-- An error that is accounted for ends a command line with a status, or escapes for one of the
causes that are named. -/
theorem Failure.accounted_error {e : Error} (h : e.Accounted (Excused wide) met) :
    (Failure.error e).finish.exit.Accounted wide met := by
  rcases h with workflow | (⟨rfl, h⟩ | ⟨fault, rfl⟩) | h
  · obtain ⟨code, hcode, ends⟩ := Failure.exit_of_workflow workflow
    rw [ends]
    exact hcode
  · exact .inl ⟨rfl, h⟩
  · exact (by decide : 1 ≤ 3)
  · rcases Failure.exit_error e with ⟨code, hcode, ends⟩ | ends <;> rw [ends]
    · exact hcode
    · exact .inr h

/-- A failure from before the forge was reached. -/
def Failure.isEarly : Failure → Bool
  | .error _ => false
  | _ => true

theorem Failure.accounted_of_early {f : Failure} (h : f.isEarly = true) :
    f.finish.exit.Accounted wide met := by
  unfold Failure.finish
  cases f with
  | error e => cases h
  | refused text => exact (by decide : 1 ≤ 3)
  | mode unknown => exact (by decide : 1 ≤ 3)
  | account missing => trivial
  | settings fault =>
    split
    · exact (by decide : 1 ≤ 3)
    · trivial
  | directory fault =>
    split
    · exact (by decide : 1 ≤ 3)
    · trivial

/-! ## From a command line to its end -/

/-- A command line that does not come to a command ends with status zero or two. -/
theorem route_finished {arguments : List String} {f : Finish}
    (h : route arguments = .finished f) : f.exit = .status 0 ∨ f.exit = .status 2 := by
  have stopped (stop : Stop) : stop.finish.exit = .status 0 ∨ stop.finish.exit = .status 2 := by
    cases stop with
    | help => exact .inl rfl
    | refused => exact .inr rfl
  unfold route at h
  split at h
  · cases h
    exact .inr rfl
  · split at h
    · cases h
      exact .inl rfl
    · split at h
      · cases h
        exact .inl rfl
      · split at h
        · split at h
          · cases h
          · cases h
            exact stopped _
        · cases h
          exact .inr rfl

section Prepare

variable {read : SettingsReader} {host : Host} {terminal : Bool} {i : Invocation}
  {files : FileTree}

theorem prepare_error {failure : Failure}
    (h : prepare read host terminal i = (.error failure, files)) : failure.isEarly = true := by
  unfold prepare at h
  split at h
  · cases h
    rfl
  · split at h
    · cases h
      rfl
    · split at h
      · cases h
        rfl
      · cases h

/-- The session is about the command that was read. -/
theorem prepare_ok {session : Session}
    (h : prepare read host terminal i = (.ok session, files)) : session.invocation = i := by
  unfold prepare at h
  split at h
  · cases h
  · split at h
    · cases h
    · split at h
      · cases h
      · cases h
        rfl

end Prepare

theorem early_of_confirm {α : Type*} {confirmed : Bool} {deed : String} {f : Unit → α}
    {failure : Failure} (h : (confirm confirmed deed).map f = .error failure) :
    failure.isEarly = true := by
  unfold confirm at h
  split at h <;> cases h
  rfl

theorem early_of_acting {α : Type*} {host : Host} {actor : Option String} {f : Option String → α}
    {failure : Failure} (h : (acting host actor).map f = .error failure) :
    failure.isEarly = true := by
  unfold acting at h
  split at h <;> cases h
  rfl

/-- A command that is not even begun has failed early. -/
theorem Command.task_error {host : Host} {policy : Policy Binary64} {c : Command}
    {failure : Failure} (h : c.task host policy = .error failure) : failure.isEarly = true := by
  cases c with
  | addRepository name path =>
    unfold task at h
    dsimp only at h
    split at h <;> cases h
    rfl
  | removeRepository | deleteIssue | deleteMergeRequest => exact early_of_confirm h
  | createIssue | closeIssue | createMergeRequest | merge | closeMergeRequest =>
    exact early_of_acting h
  | _ => exact nomatch (h : Except.ok _ = Except.error failure)

/-- How a run of a command line can end in surroundings that refuse requests with the errors that
are met only. -/
inductive Ends (read : SettingsReader) (host : Host) (terminal : Bool) (u : Text.Surrogates)
    (met : Error → Prop) (arguments : List String) : Finish → Prop
  | routed {f : Finish} (route : route arguments = .finished f) :
      Ends read host terminal u met arguments f
  | unprepared {i : Invocation} {failure : Failure} {files : FileTree}
      (route : route arguments = .command i)
      (prepare : prepare read host terminal i = (.error failure, files)) :
      Ends read host terminal u met arguments failure.finish
  | undone {i : Invocation} {session : Session} {failure : Failure} {files : FileTree}
      (route : route arguments = .command i)
      (prepare : prepare read host terminal i = (.ok session, files))
      (task : session.task { host with files } = .error failure) :
      Ends read host terminal u met arguments failure.finish
  | done {i : Invocation} {session : Session} {action : Action Binary64 Report}
      {x : Except Error Report} {files : FileTree}
      (route : route arguments = .command i)
      (prepare : prepare read host terminal i = (.ok session, files))
      (task : session.task { host with files } = .ok action)
      (ends : action.run.ComesTo (Terms.accounted u met) () x ()) :
      Ends read host terminal u met arguments (session.finish x)

/-- The command line gives a command a number of more than 64 bits. -/
def Wide (arguments : List String) : Prop :=
  ∃ i, route arguments = .command i ∧ i.command.Wide

theorem Ends.accounted {read : SettingsReader} {host : Host} {terminal : Bool}
    {u : Text.Surrogates} {met : Error → Prop} {arguments : List String} {f : Finish}
    (h : Ends read host terminal u met arguments f) :
    f.exit.Accounted (Wide arguments) met := by
  cases h with
  | routed route =>
    rcases route_finished route with h | h <;> rw [h]
    · exact (by decide : 0 ≤ 3)
    · exact (by decide : 2 ≤ 3)
  | unprepared _ prepare => exact Failure.accounted_of_early (prepare_error prepare)
  | undone _ _ task => exact Failure.accounted_of_early (Command.task_error task)
  | @done i session action x files route prepare task ends =>
    obtain rfl := prepare_ok prepare
    have obeys := Action.obeys_run.1 (Command.ends_of_task task u met)
    have accounted := obeys.of_comesTo ends
    cases x with
    | ok report => exact (by decide : 0 ≤ 3)
    | error e =>
      have accounted : e.Accounted (Excused session.invocation.command.Wide) met := accounted
      exact Failure.accounted_error (accounted.mono fun excused =>
        excused.imp_left fun ⟨he, wide⟩ => ⟨he, _, route, wide⟩)

end Cli

end Forge
