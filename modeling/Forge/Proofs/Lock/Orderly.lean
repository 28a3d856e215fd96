import Forge.Proofs.Lock.Gained
import Forge.Proofs.Quiet
import Forge.Proofs.Transcript

/-!
# Programs that hold locks in order

A program is orderly if it takes and gives back locks only by holding them around a part of itself,
which may hold others in the same way (`Program.Orderly`). Whatever an orderly program is answered,
and whatever others do meanwhile, it gives back only what it has taken, and it has gained nothing
when it ends (`Program.Orderly.obeys`). All operations are orderly (`Operation.orderly`).
-/

namespace Forge

open Locks

variable {τ : Type} {α β γ : Type}

namespace Program

theorem bind_done (p : Program τ α) : p.bind .done = p := by
  induction p with
  | done a => rfl
  | ask r next ih => exact congrArg (Program.ask r) (funext ih)

theorem bind_assoc (p : Program τ α) (k : α → Program τ β) (k' : β → Program τ γ) :
    (p.bind k).bind k' = p.bind fun a => (k a).bind k' := by
  induction p with
  | done a => rfl
  | ask r next ih => exact congrArg (Program.ask r) (funext ih)

variable [TimeScale τ]

/-- The program makes requests that are about no lock, and holds locks around orderly actions. -/
inductive Orderly : {α : Type} → Program τ α → Prop
  | done {α : Type} (a : α) : Orderly (.done a)
  | ask {α β : Type} {r : Request τ β} {next : β → Program τ α} (lockless : r.Lockless)
      (onward : ∀ b, Orderly (next b)) : Orderly (.ask r next)
  | hold {α β : Type} {directory : Option String} {repoId : Int} {limit : Option τ}
      {body : Action τ β} {next : Except Error β → Program τ α} (within : Orderly body.run)
      (onward : ∀ r, Orderly (next r)) :
      Orderly ((WorkingTree.hold directory repoId limit body).run.bind next)

theorem Orderly.bind {p : Program τ α} {k : α → Program τ β} (hp : p.Orderly)
    (hk : ∀ a, (k a).Orderly) : (p.bind k).Orderly := by
  induction hp with
  | done a => exact hk a
  | ask lockless _ ih => exact .ask lockless fun b => ih b hk
  | hold within _ _ ih =>
    rw [bind_assoc]
    exact .hold within fun r => ih r hk

/-- A program that takes no locks is orderly. -/
theorem orderly_of_quiet {p : Program τ α} {post : α → Unit → Prop}
    (h : p.Obeys Terms.quiet post ()) : p.Orderly := by
  induction p with
  | done a => exact .done a
  | ask r next ih =>
    obtain ⟨may, goes⟩ := obeys_step.1 h
    refine .ask ?_ fun b => ih b (goes b () trivial)
    cases r with
    | takeLock | dropLock | takeFile | dropFile => exact may.elim
    | _ => trivial

end Program

/-! ## Holding as a program -/

namespace WorkingTree

variable {dir : String} {directory : Option String} {repoId : Int} {body : Action τ α}

/-- What is asked for around the body where there is a directory of lock files. -/
theorem run_holdFile {deadline : Option τ} : (holdFile (some dir) repoId deadline body).run =
    .ask (.takeFile repoId deadline) fun
      | .ok true => .ask (.log ⟨.debug, .locks, acquiredText dir repoId⟩) fun _ =>
          body.run.bind fun r => .ask (.dropFile repoId) fun _ => .done r
      | .ok false => .done (.error (lateForLock repoId))
      | .error e => .done (.error e) := by
  refine congrArg (Program.ask _) (funext fun taken => ?_)
  rcases taken with _ | _ | _ <;> rfl

/-- What is asked for around the body under the lock within the process. -/
theorem run_hold [TimeScale τ] {limit : Option τ} : (hold directory repoId limit body).run =
    .ask .clock fun now => .ask (.takeLock repoId (limit.map TimeScale.nonneg)) fun
      | .ok true => (holdFile directory repoId (limit.map (TimeScale.add now)) body).run.bind fun r =>
          .ask (.dropLock repoId) fun _ => .done r
      | .ok false => .done (.error (lateForLock repoId))
      | .error e => .done (.error e) := by
  refine congrArg (Program.ask _) (funext fun now => ?_)
  refine congrArg (Program.ask _) (funext fun taken => ?_)
  rcases taken with _ | _ | _ <;> rfl

end WorkingTree

namespace Program

/-! ## What an orderly program keeps to -/

/-- At any locks that retain those of the base, the program gives back only what it has taken since,
and ends without having gained any. -/
def Balanced (others : Locks → Locks → Prop) (i process : Nat) (base : Locks) (p : Program τ α) :
    Prop :=
  ∀ l, Retains i base l →
    p.Obeys (Terms.keeping others i process base) (fun _ l' => Gained others i [] l l') l

section Balanced

variable {others : Locks → Locks → Prop} {i process : Nat} {base l l' : Locks} {p : Program τ α}

theorem balanced_done [Std.Refl others] (a : α) :
    (.done a : Program τ α).Balanced others i process base :=
  fun l _ => obeys_done.2 (.refl i l)

variable [IsTrans Locks others]

/-- Parts that give back what they take do so together. -/
theorem Balanced.bind {k : α → Program τ β} (hp : p.Balanced others i process base)
    (hk : ∀ a, (k a).Balanced others i process base) :
    (p.bind k).Balanced others i process base := by
  intro l kept
  refine obeys_bind.2 ((hp l kept).mono fun a l₁ gained => ?_)
  refine (hk a l₁ fun k mine => gained.retains k (kept k mine)).mono fun _ l₂ gained' => ?_
  exact gained.trans gained'

/-- A request that is about no lock changes nothing of what the call holds. -/
theorem balanced_ask {r : Request τ β} {next : β → Program τ α} (lockless : r.Lockless)
    (h : ∀ b, (next b).Balanced others i process base) :
    (Program.ask r next).Balanced others i process base := by
  refine fun l kept => obeys_step.2 ⟨fun k drops => absurd drops (lockless.not_drops k),
    fun b l₁ answers => ?_⟩
  have gained := Terms.gained_of_lockless lockless answers
  exact (h b l₁ fun k mine => gained.retains k (kept k mine)).mono fun _ _ => gained.trans

/-- A lock that has been gained is given back after a balanced program. -/
theorem Balanced.around {drop : Request τ Unit} {k : Lock} (hp : p.Balanced others i process base)
    (drops : ∀ k', drop.Drops process k' → k' = k)
    (gives : ∀ l l' : Locks, l.Grants i process drop () l' → l' = l.assign none k)
    (kept : Retains i base l) (gained : Gained others i [k] l l') :
    (p.bind fun a => .ask drop fun _ => .done a).Obeys (Terms.keeping others i process base)
      (fun _ l'' => Gained others i [] l l'') l' := by
  have fresh := gained.fresh k List.mem_cons_self
  refine obeys_bind.2 ((hp l' fun k mine => gained.retains k (kept k mine)).mono
    fun a l₁ gained₁ => obeys_step.2 ⟨fun k' dropped => ?_, ?_⟩)
  · obtain rfl := drops k' dropped
    exact ⟨gained₁.retains _ (gained.of_mem List.mem_cons_self), fun mine => fresh (kept _ mine)⟩
  · rintro ⟨⟩ _ ⟨l₂, gained₂, grants⟩
    obtain rfl := gives _ _ grants
    exact obeys_done.2 (((gained.trans gained₁).trans gained₂).drop List.not_mem_nil)

variable [Std.Refl others] {body : Action τ α}

/-- A lock file is given back where the body is balanced, whatever the body ends in. -/
theorem balanced_holdFile {directory : Option String} {repoId : Int} {deadline : Option τ}
    (h : body.run.Balanced others i process base) :
    (WorkingTree.holdFile directory repoId deadline body).run.Balanced others i process base := by
  cases directory with
  | none => exact h
  | some dir =>
    rw [WorkingTree.run_holdFile]
    refine fun l kept => obeys_step.2 ⟨nofun, fun taken l₁ answers => ?_⟩
    have gained := Terms.gained_takeFile answers
    rcases taken with e | _ | _
    · exact obeys_done.2 gained
    · exact obeys_done.2 gained
    · refine obeys_step.2 ⟨nofun, fun _ l₂ answers₂ => ?_⟩
      have gained₂ := gained.trans (Terms.gained_of_lockless (by trivial) answers₂)
      exact h.around (fun _ here => here) (fun _ _ grants => grants) kept gained₂

/-- And so is the lock within the process. -/
theorem balanced_hold [TimeScale τ] {directory : Option String} {repoId : Int} {limit : Option τ}
    (h : body.run.Balanced others i process base) :
    (WorkingTree.hold directory repoId limit body).run.Balanced others i process base := by
  rw [WorkingTree.run_hold]
  refine balanced_ask trivial fun now l kept => obeys_step.2 ⟨nofun, fun taken l₁ answers => ?_⟩
  have gained := Terms.gained_takeLock answers
  rcases taken with e | _ | _
  · exact obeys_done.2 gained
  · exact obeys_done.2 gained
  · exact (balanced_holdFile h).around (fun _ here => here) (fun _ _ grants => grants) kept gained

/-- **An orderly program gives back what it takes**, and nothing else. -/
theorem Orderly.balanced [TimeScale τ] (h : p.Orderly) : p.Balanced others i process base := by
  induction h with
  | done a => exact balanced_done a
  | ask lockless _ ih => exact balanced_ask lockless ih
  | hold _ _ within onward => exact (balanced_hold within).bind onward

end Balanced

end Program

/-! ## Operations -/

namespace Action

variable [TimeScale τ]

/-- The action is an orderly program. -/
def Orderly (x : Action τ α) : Prop :=
  x.run.Orderly

theorem orderly_pure (a : α) : (pure a : Action τ α).Orderly :=
  .done _

theorem orderly_throw (e : Error) : (throw e : Action τ α).Orderly :=
  .done _

/-- Parts that hold nothing at their ends follow one another. -/
theorem orderly_bind {x : Action τ α} {k : α → Action τ β} (hx : x.Orderly)
    (hk : ∀ a, (k a).Orderly) : (x >>= k).Orderly := by
  refine Program.Orderly.bind hx fun r => ?_
  cases r with
  | ok a => exact hk a
  | error e => exact .done _

theorem orderly_map {x : Action τ α} {f : α → β} (hx : x.Orderly) : (f <$> x).Orderly := by
  refine Program.Orderly.bind hx fun r => ?_
  cases r <;> exact .done _

/-- A request that is not about locks is orderly. -/
theorem orderly_ask {r : Request τ α} (h : r.Lockless) : (ask r).Orderly :=
  .ask h fun _ => .done _

theorem orderly_demand {r : Request τ (Except Error α)} (h : r.Lockless) : (demand r).Orderly :=
  .ask h fun _ => .done _

theorem orderly_ofExcept (x : Except Error α) : (ofExcept x : Action τ α).Orderly := by
  cases x <;> exact .done _

theorem orderly_log (level : Level) (part : Part) (text : String) :
    (log level part text : Action τ Unit).Orderly :=
  orderly_ask trivial

/-- What an orderly action ends in, taken as a value. -/
theorem orderly_lift {x : Action τ α} (hx : x.Orderly) :
    (ExceptT.lift x.run : Action τ (Except Error α)).Orderly :=
  Program.Orderly.bind hx fun _ => .done _

/-- A quiet action takes no locks at all. -/
theorem orderly_of_quiet {x : Action τ α} (h : x.Quiet) : x.Orderly :=
  Program.orderly_of_quiet (obeys_run.1 h)

/-- What is orderly stays so under a lock. -/
theorem orderly_hold {directory : Option String} {repoId : Int} {limit : Option τ}
    {body : Action τ α} (h : body.Orderly) :
    (WorkingTree.hold directory repoId limit body).Orderly := by
  have held : ((WorkingTree.hold directory repoId limit body).run.bind .done).Orderly :=
    .hold h .done
  rwa [Program.bind_done] at held

end Action

namespace Merge

open Forge.Action

variable [TimeScale τ] {repo : Repository} {request : MergeRequest} {id : Int} {actor : String}
  {deadline : Deadline τ}

theorem orderly_remaining : (remaining deadline).Orderly :=
  orderly_bind (orderly_ask trivial) fun _ => orderly_pure _

theorem orderly_unrecorded {commit reason : String} :
    (unrecorded repo request commit reason : Action τ α).Orderly :=
  orderly_bind (orderly_log ..) fun _ => orderly_throw _

theorem orderly_landed : (landed request : Action τ Bool).Orderly := by
  refine orderly_bind (orderly_ask trivial) fun there => ?_
  cases there with
  | ok there => exact orderly_pure there
  | error e =>
    dsimp only
    split
    · exact orderly_bind (orderly_log ..) fun _ => orderly_pure _
    · exact orderly_throw e

theorem orderly_abort : (abort request : Action τ Unit).Orderly := by
  refine orderly_bind (orderly_ask trivial) fun aborted => ?_
  cases aborted with
  | ok _ => exact orderly_pure ()
  | error e =>
    dsimp only
    split
    · exact orderly_log ..
    · exact orderly_throw e

theorem orderly_mergeBranches : (mergeBranches repo request actor deadline).Orderly := by
  have settle (e : Error) (reason : String) (there : Bool) :
      (if there then unrecorded repo request "" reason
        else do
          abort request
          throw e : Action τ String).Orderly := by
    split
    · exact orderly_unrecorded
    · exact orderly_bind orderly_abort fun _ => orderly_throw e
  refine orderly_bind (orderly_log ..) fun _ => orderly_bind orderly_remaining fun _ =>
    orderly_bind (orderly_demand trivial) fun _ => orderly_bind orderly_remaining fun _ =>
    orderly_bind (orderly_demand trivial) fun upToDate => orderly_bind orderly_remaining fun _ =>
    orderly_bind (orderly_ask trivial) fun merged => ?_
  cases merged with
  | ok commit => exact orderly_pure commit
  | error e =>
    dsimp only
    split
    · split
      · exact orderly_bind (orderly_pure false) fun there => settle e _ there
      · exact orderly_bind orderly_landed fun there => settle e _ there
    · exact orderly_throw e

theorem orderly_record {commit : String} :
    (record repo request actor commit deadline).Orderly := by
  refine orderly_bind (orderly_ask trivial) fun now => ?_
  split
  · exact orderly_unrecorded
  · refine orderly_bind orderly_remaining fun _ => orderly_bind (orderly_ask trivial) fun marked => ?_
    cases marked with
    | ok merged =>
      exact orderly_bind (orderly_of_quiet (Workflow.quiet_logTransition ..)) fun _ =>
        orderly_bind (orderly_log ..) fun _ => orderly_pure merged
    | error e =>
      dsimp only
      split
      · exact orderly_unrecorded
      · exact orderly_unrecorded
      · exact orderly_unrecorded
      · exact orderly_throw _

theorem orderly_underLock : (underLock repo id actor deadline).Orderly := by
  refine orderly_bind orderly_remaining fun _ => ?_
  refine orderly_bind (orderly_demand trivial) fun request => ?_
  split
  · refine orderly_bind (orderly_ask trivial) fun now => ?_
    split
    · exact orderly_throw _
    · exact orderly_bind orderly_mergeBranches fun _ => orderly_record
  · exact orderly_throw _

/-- A merge holds its locks around all that it does to the working tree, and then no more. -/
theorem orderly_run {directory : Option String} {lockLimit limit : Option τ} :
    (run directory lockLimit repo id actor limit).Orderly :=
  orderly_bind (orderly_ask trivial) fun _ => orderly_bind (orderly_ask trivial) fun _ =>
    orderly_hold orderly_underLock

end Merge

/-- Every operation is an orderly program. -/
theorem Operation.orderly [TimeScale τ] (op : Operation τ) (policy : Policy τ) :
    (op.action policy).Orderly := by
  cases hop : op.mergeId? with
  | none => exact Action.orderly_of_quiet (Operation.quiet_action policy hop)
  | some id =>
    obtain ⟨repo, actor, limit, rfl⟩ := Operation.eq_merge hop
    refine Action.orderly_map (Action.orderly_bind (Action.orderly_ofExcept _) fun merger =>
      Action.orderly_bind (Action.orderly_of_quiet (Workflow.quiet_repository repo)) fun r =>
      Action.orderly_bind (Action.orderly_ask trivial) fun _ =>
      Action.orderly_bind (Action.orderly_lift Merge.orderly_run) fun outcome => ?_)
    cases outcome with
    | ok merged => exact Action.orderly_pure merged
    | error e => exact Action.orderly_throw _

end Forge
