import Forge.Lock
import Forge.Proofs.Deadline
import Forge.Proofs.Program
import Forge.Proofs.Replay
import Mathlib.Algebra.Order.Archimedean.Basic
import Mathlib.Tactic.Linarith
import Mathlib.Tactic.NormNum
import Mathlib.Tactic.Positivity

/-!
# Waiting for a lock file

Who waits for a lock file looks at it every `Polling.interval` milliseconds, and the loop counts
nothing. That it ends, and where, is a matter of how its looks, the deadline and the release of the
file lie to each other: the wait ends at the first look at which the file is free or the deadline
has come, and of the two the file goes first (`Polling.wait_eq`). A `Vigil` is the surroundings of a
wait, with the file held by others on any schedule. `Vigil.Lawful` says when the locks of a
repository are got, and when they are given up; it holds of every limit that a wait can have.

Times are seconds in exact arithmetic.
-/

namespace Forge

/-! ## The loop -/

namespace Polling

variable {free due : Nat → Bool}

/-- The wait ends at the first look, of those that are granted, at which the file is free or the
deadline has come. -/
theorem wait_eq {n fuel looks : Nat}
    (onward : ∀ k < n, free (looks + k) = false ∧ due (looks + k) = false)
    (stop : free (looks + n) = true ∨ due (looks + n) = true) (granted : n < fuel) :
    wait free due fuel looks =
      if free (looks + n) then .taken (looks + n) else .late (looks + n) := by
  induction n generalizing fuel looks with
  | zero =>
    obtain ⟨fuel, rfl⟩ := Nat.exists_eq_add_one.2 granted
    simp only [Nat.add_zero] at stop ⊢
    rw [wait]
    split
    · rfl
    · rw [if_pos (stop.resolve_left ‹_›)]
  | succ n ih =>
    obtain ⟨fuel, rfl⟩ := Nat.exists_eq_add_one.2 (Nat.zero_lt_of_lt granted)
    obtain ⟨held, early⟩ := onward 0 (Nat.zero_lt_succ n)
    have next (k : Nat) : looks + (k + 1) = looks + 1 + k := by omega
    rw [Nat.add_zero] at held early
    rw [next] at stop ⊢
    simp only [wait, held, early, Bool.false_eq_true, if_false]
    refine ih (fun k hk => ?_) stop (Nat.lt_of_succ_lt_succ granted)
    rw [← next]
    exact onward (k + 1) (Nat.succ_lt_succ hk)

/-- A file that becomes free at the deadline is taken. -/
example : wait (fun n => decide (3 ≤ n)) (fun n => decide (3 ≤ n)) mostLooks 0 = .taken 3 := by
  decide

/-- There is a first look at which the file is free or the deadline has come, if there is any. -/
theorem exists_stop (free due : Nat → Bool) {looks : Nat} (h : ∃ n, due (looks + n) = true) :
    ∃ n, (∀ k < n, free (looks + k) = false ∧ due (looks + k) = false) ∧
      (free (looks + n) = true ∨ due (looks + n) = true) := by
  have stops : ∃ n, (free (looks + n) || due (looks + n)) = true :=
    h.imp fun n hn => Bool.or_eq_true_iff.2 (.inr hn)
  refine ⟨Nat.find stops, fun k hk => ?_, Bool.or_eq_true_iff.1 (Nat.find_spec stops)⟩
  exact Bool.or_eq_false_iff.1 (Bool.eq_false_iff.2 (Nat.find_min stops hk))

/-- The seconds between two looks. -/
def pause : ℚ := interval / 1000

theorem pause_pos : 0 < pause := by
  norm_num [pause, interval]

end Polling

/-! ## Surroundings -/

/-- The surroundings of a caller whose clock moves only while it sleeps. Others hold the lock files
on a schedule. -/
structure Vigil where
  /-- The time before anything has been slept. -/
  start : ℚ
  /-- Whether nobody else holds the lock file of a repository at a time. -/
  free : Int → ℚ → Bool
  /-- The answers to requests that are about neither time nor locks. -/
  reply : {β : Type} → Request ℚ β → β

namespace Vigil

/-- How often the caller has slept between two looks, and which locks within its process are
taken. -/
structure State where
  slept : Nat
  taken : List Int

variable (v : Vigil)

/-- The time after some sleeps. -/
def clock (slept : Nat) : ℚ :=
  v.start + slept * Polling.pause

/-- Whether a limit is too long for a wait within the process. -/
def tooLong (limit : ℚ) : Prop :=
  (Transaction.bound : ℚ) ≤ limit * 10 ^ 9

instance (limit : ℚ) : Decidable (tooLong limit) :=
  inferInstanceAs (Decidable (_ ≤ _))

/-- How a wait for the lock file of a repository ends. -/
def wait (repoId : Int) (deadline : Option ℚ) (slept : Nat) : Polling.Outcome :=
  Polling.wait (fun n => v.free repoId (v.clock n))
    (fun n => (Deadline.mk deadline).expired (v.clock n)) Polling.mostLooks slept

/-- Answers a request. -/
def answer {β : Type} : Request ℚ β → State → β × State
  | .clock, s => (v.clock s.slept, s)
  | .takeLock repoId limit, s =>
    if ∃ t ∈ limit, tooLong t then (.error .limitTooLong, s)
    else if repoId ∈ s.taken then (.ok false, s)
    else (.ok true, { s with taken := repoId :: s.taken })
  | .dropLock repoId, s => ((), { s with taken := s.taken.erase repoId })
  | .takeFile repoId deadline, s =>
    match v.wait repoId deadline s.slept with
    | .taken slept => (.ok true, { s with slept })
    | .late slept => (.ok false, { s with slept })
    | .unfinished => (.ok false, { s with slept := s.slept + Polling.mostLooks })
  | r, s => (v.reply r, s)

/-- Runs an action. -/
def run {α : Type} (x : Action ℚ α) (s : State) : Except Error α × State :=
  Program.run v.answer (ExceptT.run x) s

/-- What a hold comes to whose body has come to `r`: its lock within the process is given back. -/
def released {α : Type} (repoId : Int) (r : Except Error α × State) : Except Error α × State :=
  (r.1, { r.2 with taken := r.2.taken.erase repoId })

/-- The wait for the lock file of a repository with the limit `T` ends after `n` sleeps, as it
should. -/
structure Ends (dir : String) (repoId : Int) (T : ℚ) (s : State) (n : Nat) : Prop where
  /-- Each sleep follows on a look, before the deadline, that finds the file held. -/
  onward : ∀ k < n, v.free repoId (v.clock (s.slept + k)) = false ∧
    v.clock (s.slept + k) < v.clock s.slept + T
  soon : v.clock (s.slept + n) < v.clock s.slept + max 0 T + Polling.pause
  /-- If the last look finds the file free, the body runs with both locks. -/
  gets : v.free repoId (v.clock (s.slept + n)) = true →
    ∀ {α : Type} (body : Action ℚ α),
      v.run (WorkingTree.hold (some dir) repoId (some T) body) s =
        released repoId (v.run body ⟨s.slept + n, repoId :: s.taken⟩)
  /-- If it finds the file held, the deadline has come, and the body does not run. -/
  givesUp : v.free repoId (v.clock (s.slept + n)) = false →
    v.clock s.slept + T ≤ v.clock (s.slept + n) ∧
      ∀ {α : Type} (body : Action ℚ α),
        v.run (WorkingTree.hold (some dir) repoId (some T) body) s =
          (.error (WorkingTree.lateForLock repoId), ⟨s.slept + n, s.taken⟩)

/-- The wait for the lock file of a repository with the limit `T` ends as it should. -/
def Lawful (dir : String) (repoId : Int) (T : ℚ) (s : State) : Prop :=
  ∃ n, v.Ends dir repoId T s n

variable {v} {α : Type} {s : State} {dir : String} {repoId : Int} {T : ℚ} {body : Action ℚ α}

/-! ## Holding the locks -/

section Run

variable {β : Type}

theorem run_bind {x : Action ℚ β} {k : β → Action ℚ α} : v.run (x >>= k) s =
    match v.run x s with
    | (.ok b, s') => v.run (k b) s'
    | (.error e, s') => (.error e, s') := by
  unfold run
  rw [Action.run_bind]
  rcases Program.run v.answer x.run s with ⟨_ | _, s'⟩ <;> rfl

theorem run_ask {r : Request ℚ β} :
    v.run (Action.ask r) s = (.ok (v.answer r s).1, (v.answer r s).2) :=
  rfl

theorem run_demand {r : Request ℚ (Except Error β)} : v.run (Action.demand r) s = v.answer r s :=
  rfl

theorem run_withCleanup {x : Action ℚ α} {cleanup : Program ℚ Unit} :
    v.run (Action.withCleanup x cleanup) s =
      ((v.run x s).1, (cleanup.run v.answer (v.run x s).2).2) := by
  show Program.run v.answer (Program.bind x.run fun r => cleanup.bind fun _ => .done r) s = _
  rw [Program.run_bind, Program.run_bind]
  rfl

end Run

/-- The lock file is waited for and, if it is got, held around the body. -/
theorem run_holdFile {deadline : Option ℚ} :
    v.run (WorkingTree.holdFile (some dir) repoId deadline body) s =
      match v.wait repoId deadline s.slept with
      | .taken slept => v.run body { s with slept }
      | .late slept => (.error (WorkingTree.lateForLock repoId), { s with slept })
      | .unfinished => (.error (WorkingTree.lateForLock repoId),
          { s with slept := s.slept + Polling.mostLooks }) := by
  unfold WorkingTree.holdFile
  simp only [run_bind, run_demand, answer]
  cases v.wait repoId deadline s.slept with
  | taken slept =>
    simp only [if_true, run_withCleanup, run_bind, Action.log, run_ask, answer]
    rfl
  | late slept | unfinished => rfl

/-- A limit that is too long is refused. -/
theorem run_hold_of_tooLong (long : tooLong (max 0 T)) :
    v.run (WorkingTree.hold (some dir) repoId (some T) body) s = (.error .limitTooLong, s) := by
  have refused : ∃ t ∈ some (max 0 T), tooLong t := ⟨_, rfl, long⟩
  unfold WorkingTree.hold
  simp only [run_bind, Action.clock, run_ask, run_demand, answer, Option.map_some,
    TimeScale.Exact.nonneg_eq, if_pos refused]

/-- A limit that is not too long gets the free lock within the process at once. -/
theorem run_hold (unlocked : repoId ∉ s.taken) (short : ¬ tooLong (max 0 T)) :
    v.run (WorkingTree.hold (some dir) repoId (some T) body) s =
      released repoId (v.run
        (WorkingTree.holdFile (some dir) repoId (some (v.clock s.slept + T)) body)
        { s with taken := repoId :: s.taken }) := by
  have granted : ¬ ∃ t ∈ some (max 0 T), tooLong t := by
    rintro ⟨_, ⟨⟩, long⟩
    exact short long
  unfold WorkingTree.hold
  simp only [run_bind, Action.clock, run_ask, run_demand, answer, Option.map_some,
    TimeScale.Exact.nonneg_eq, TimeScale.Exact.add_eq, if_neg granted, if_neg unlocked, if_true,
    run_withCleanup]
  rfl

/-! ## The end of the wait -/

theorem clock_add (slept n : Nat) : v.clock (slept + n) = v.clock slept + n * Polling.pause := by
  unfold clock
  push_cast
  ring

/-- The clock comes to every deadline. -/
theorem exists_due (deadline : ℚ) (slept : Nat) : ∃ n, deadline ≤ v.clock (slept + n) := by
  obtain ⟨n, hn⟩ := exists_nat_ge ((deadline - v.clock slept) / Polling.pause)
  rw [div_le_iff₀ Polling.pause_pos] at hn
  refine ⟨n, ?_⟩
  rw [clock_add]
  linarith

theorem expired_iff {deadline now : ℚ} :
    (Deadline.mk (some deadline)).expired now = true ↔ deadline ≤ now :=
  TimeScale.Exact.le_iff _ _

/-- The last sleep begins before the deadline, if there is one. -/
theorem soon_of_onward {n : Nat}
    (onward : ∀ k < n, v.clock (s.slept + k) < v.clock s.slept + T) :
    v.clock (s.slept + n) < v.clock s.slept + max 0 T + Polling.pause := by
  have pause := Polling.pause_pos
  cases n with
  | zero =>
    have nonneg := le_max_left 0 T
    rw [Nat.add_zero]
    linarith
  | succ n =>
    have early := onward n (Nat.lt_succ_self n)
    have limit := le_max_right 0 T
    rw [clock_add] at early ⊢
    push_cast
    linarith

/-- No wait with a limit that is not too long is out of looks. -/
theorem lt_mostLooks {n : Nat} (short : ¬ tooLong (max 0 T))
    (soon : v.clock (s.slept + n) < v.clock s.slept + max 0 T + Polling.pause) :
    n < Polling.mostLooks := by
  rw [clock_add] at soon
  simp only [tooLong, Transaction.bound, not_le] at short
  simp only [Polling.pause, Polling.interval] at soon
  push_cast at short soon
  have few : (n : ℚ) < 274877906944 := by linarith
  exact_mod_cast few

/-- With a limit that a wait can have, it ends as it should. -/
theorem lawful_of_limit (unlocked : repoId ∉ s.taken) (short : ¬ tooLong (max 0 T)) :
    v.Lawful dir repoId T s := by
  obtain ⟨n, onward, stop⟩ := Polling.exists_stop (fun n => v.free repoId (v.clock n))
    (fun n => (Deadline.mk (some (v.clock s.slept + T))).expired (v.clock n))
    ((exists_due (v.clock s.slept + T) s.slept).imp fun n => expired_iff.2)
  have early (k : Nat) (hk : k < n) : v.clock (s.slept + k) < v.clock s.slept + T :=
    not_le.1 (mt expired_iff.2 (Bool.eq_false_iff.1 (onward k hk).2))
  have soon := soon_of_onward early
  have wait : v.wait repoId (some (v.clock s.slept + T)) s.slept = _ :=
    Polling.wait_eq onward stop (lt_mostLooks short soon)
  refine ⟨n, fun k hk => ⟨(onward k hk).1, early k hk⟩, soon, fun free α body => ?_,
    fun held => ⟨?_, fun {α} body => ?_⟩⟩
  · rw [run_hold unlocked short, run_holdFile, wait, if_pos free]
  · exact expired_iff.1 (stop.resolve_left (Bool.eq_false_iff.1 held))
  · rw [run_hold unlocked short, run_holdFile, wait, if_neg (Bool.eq_false_iff.1 held)]
    simp only [released, List.erase_cons_head]

/-- **Waiting for a lock file ends, and exactly**, if the lock within the process is free: with every
limit that such a wait can have, it is as it should be. With a longer limit nothing is waited for:
holding the locks fails at once. -/
theorem wait_ends_exactly (v : Vigil) (dir : String) (T : ℚ) (unlocked : repoId ∉ s.taken) :
    (¬ tooLong (max 0 T) → v.Lawful dir repoId T s) ∧
      (tooLong (max 0 T) → ∀ {α : Type} (body : Action ℚ α),
        v.run (WorkingTree.hold (some dir) repoId (some T) body) s = (.error .limitTooLong, s)) :=
  ⟨lawful_of_limit unlocked, fun long _ _ => run_hold_of_tooLong long⟩

/-- Others hold all lock files for 150 milliseconds. -/
def shortly : Vigil where
  start := 0
  free _ now := decide (3 / 20 ≤ now)
  reply r := (r.alone 0 (fun call => .ok call.hoped) .empty).1

theorem shortly_clock (n : Nat) : shortly.clock n = n / 20 := by
  simp only [clock, shortly, Polling.pause, Polling.interval]
  ring

theorem shortly_free (n : Nat) : shortly.free 1 (shortly.clock n) = decide (3 ≤ n) := by
  show decide (3 / 20 ≤ shortly.clock n) = _
  rw [decide_eq_decide, shortly_clock, div_le_div_iff_of_pos_right (by norm_num)]
  exact Nat.ofNat_le_cast

/-- Who can wait for 100 milliseconds looks at 0, 50 and 100 and gives up. With 150 milliseconds, the
look at 150 comes at the deadline, but finds the file free. -/
theorem wait_ends_exactly_of_shortly : (1 : Int) ∉ (⟨0, []⟩ : State).taken ∧
    (∀ body : Action ℚ Unit,
      shortly.run (WorkingTree.hold (some "/locks") 1 (some (1 / 10)) body) ⟨0, []⟩ =
        (.error (WorkingTree.lateForLock 1), ⟨2, []⟩)) ∧
    ∀ body : Action ℚ Unit,
      shortly.run (WorkingTree.hold (some "/locks") 1 (some (3 / 20)) body) ⟨0, []⟩ =
        released 1 (shortly.run body ⟨3, [1]⟩) := by
  have unlocked : (1 : Int) ∉ (⟨0, []⟩ : State).taken := List.not_mem_nil
  have shown : Polling.pause = 1 / 20 := by norm_num [Polling.pause, Polling.interval]
  refine ⟨unlocked, ?_, ?_⟩
  · obtain ⟨n, -, soon, -, givesUp⟩ := (wait_ends_exactly shortly "/locks" (1 / 10)
      unlocked).1 (by decide +kernel)
    simp only [Nat.zero_add, shortly_free] at soon givesUp
    have few : n < 3 := by
      norm_num [shortly_clock, shown] at soon
      have : (n : ℚ) < 3 := by linarith
      exact_mod_cast this
    obtain ⟨due, late⟩ := givesUp (decide_eq_false few.not_ge)
    have many : 2 ≤ n := by
      norm_num [shortly_clock] at due
      have : (2 : ℚ) ≤ n := by linarith
      exact_mod_cast this
    obtain rfl : n = 2 := by omega
    exact fun body => late body
  · obtain ⟨n, onward, -, gets, givesUp⟩ := (wait_ends_exactly shortly "/locks" (3 / 20)
      unlocked).1 (by decide +kernel)
    simp only [Nat.zero_add, shortly_free] at onward gets givesUp
    have few : n ≤ 3 := by
      by_contra more
      exact absurd (onward 3 (not_le.1 more)).1 (by decide)
    have many : 3 ≤ n := by
      by_contra fewer
      have due := (givesUp (decide_eq_false fewer)).1
      norm_num [shortly_clock] at due
      have : (3 : ℚ) ≤ n := by linarith
      exact fewer (by exact_mod_cast this)
    obtain rfl : n = 3 := le_antisymm few many
    exact fun body => gets rfl body

/-- A limit of more than 292 years is refused, though the locks are free. -/
theorem not_lawful_of_tooLong : ¬ ∀ (v : Vigil) (dir : String) (repoId : Int) (T : ℚ) (s : State),
    repoId ∉ s.taken → v.Lawful dir repoId T s := by
  intro lawful
  let idle : Vigil := { shortly with free := fun _ _ => true }
  obtain ⟨n, ends⟩ := lawful idle "/locks" 1 (10 ^ 10) ⟨0, []⟩ List.not_mem_nil
  have long : tooLong (max 0 (10 ^ 10)) := by decide +kernel
  have refused : idle.run (WorkingTree.hold (some "/locks") 1 (some (10 ^ 10)) (pure ())) ⟨0, []⟩ =
      ((.error .limitTooLong : Except Error Unit), ⟨0, []⟩) := run_hold_of_tooLong long
  exact nomatch congrArg Prod.fst ((ends.gets rfl (pure ())).symm.trans refused)

end Vigil

end Forge
