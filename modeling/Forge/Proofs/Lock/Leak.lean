import Forge.Proofs.Frame.Owner
import Forge.Proofs.Lock.Orderly
import Forge.Proofs.Replay

/-!
# Locks never leak

However holding the locks of a repository ends, the caller has gained no lock by it, and its body
runs with exactly the locks of the repository gained. The first is so of every orderly program
(`Program.Orderly.balanced`). The second is about runs that may still be going on. They are taken
apart along the program around the body (`Surrounds`): a run has not come to the body (`Outside`), or
it has come to it by some entry, and is in it or has left it (`Passage`).
-/

namespace Forge

open Locks

variable {τ κ α β : Type}

/-! ## Around a body -/

/-- The run of a program around any body, with what is left of it, has not come to the body. -/
def Outside (whole : Action τ α → Program τ β) (trace : List (Answered τ κ))
    (rest : Program τ β) : Prop :=
  ∀ body, ∃ rest', (whole body).Runs trace rest' ∧ ∀ b, rest = .done b → rest' = .done b

/-- The run of a program around a body has come to the body. Call `i` has gained the locks `ks` on the
way there, and holds on to them until the body has ended. -/
structure Passage (others : Locks → Locks → Prop) (i process : Nat) (ks : List Lock)
    (whole : Action τ α → Program τ β) (body : Action τ α) (trace : List (Answered τ κ))
    (ended : Prop) (l l' : Locks) where
  entry : List (Answered τ κ)
  inside : List (Answered τ κ)
  exit : List (Answered τ κ)
  /-- What is left of the body. -/
  rest : Program τ (Except Error α)
  /-- The locks at the start of the body. -/
  start : Locks
  /-- The locks at its end, or now. -/
  now : Locks
  split : trace = entry ++ (inside ++ exit)
  /-- Nothing of the body is in the entry. -/
  anyBody : ∀ body', ∃ rest', (whole body').Runs entry rest'
  enters : (Terms.company others i process).Along l entry start
  gained : Gained others i ks l start
  runs : body.run.Runs inside rest
  along : (Terms.company others i process).Along start inside now
  retains : Retains i start now
  leaves : (Terms.company others i process).Along now exit l'
  last : exit ≠ [] ∨ ended → ∃ a, rest = .done a

section Around

variable [TimeScale τ] {others : Locks → Locks → Prop} {i process : Nat} {ks : List Lock}
  {whole : Action τ α → Program τ β}

variable (others i process ks whole) in
/-- The program runs orderly bodies with the locks `ks` gained. -/
def Surrounds : Prop :=
  ∀ (κ : Type) (body : Action τ α) (trace : List (Answered τ κ)) (rest : Program τ β) (l l' : Locks),
    body.Orderly → (whole body).Runs trace rest →
    (Terms.company others i process).Along l trace l' →
    Outside whole trace rest ∨
      Nonempty (Passage others i process ks whole body trace (∃ b, rest = .done b) l l')

/-- A program that does not run its body. -/
theorem surrounds_const (p : Program τ β) :
    Surrounds others i process ks fun _ : Action τ α => p :=
  fun _ _ _ rest _ _ _ runs _ => .inl fun _ => ⟨rest, runs, fun _ => id⟩

/-- The body itself. -/
theorem surrounds_body [Std.Refl others] [IsTrans Locks others] :
    Surrounds others i process [] fun body : Action τ α => body.run := by
  intro κ body trace rest l l' orderly runs along
  have kept : (Terms.keeping others i process l).Along l trace l' := along.mono fun _ _ _ _ => id
  have retains := (Program.Runs.obeys runs kept (orderly.balanced l fun _ => id)
    (fun _ _ _ _ may answers => Terms.retains_keeping may answers) fun _ => id).2
  exact .inr ⟨{
    entry := [], inside := trace, exit := [], rest, start := l, now := l'
    split := by rw [List.append_nil, List.nil_append]
    anyBody := fun _ => ⟨_, .stay⟩
    enters := .nil
    gained := .refl i l
    runs, along, retains
    leaves := .nil
    last := fun ended => ended.resolve_left (absurd rfl) }⟩

/-- A request before the body may gain locks. -/
theorem surrounds_ask [IsTrans Locks others] {γ : Type} {r : Request τ γ}
    {next : γ → Action τ α → Program τ β}
    (h : ∀ c, ∃ first later, later ++ first = ks ∧
      (∀ l l', (Terms.company others i process).answers r l c l' → Gained others i first l l') ∧
      Surrounds others i process later (next c)) :
    Surrounds others i process ks fun body => .ask r fun c => next c body := by
  intro κ body trace rest l l' orderly runs along
  cases runs with
  | stay => exact .inl fun _ => ⟨_, .stay, nofun⟩
  | @ask _ _ _ c scene trace _ onward =>
    cases along with
    | @cons _ l₁ _ _ _ answers along =>
      obtain ⟨first, later, rfl, gains, surrounds⟩ := h c
      rcases surrounds κ body _ _ _ _ orderly onward along with outside | ⟨⟨passage⟩⟩
      · refine .inl fun body' => ?_
        obtain ⟨rest', runs', same⟩ := outside body'
        exact ⟨rest', .ask runs', same⟩
      · exact .inr (.intro { passage with
          entry := _ :: passage.entry
          split := congrArg _ passage.split
          anyBody := fun body' => (passage.anyBody body').imp fun _ => .ask
          enters := .cons answers passage.enters
          gained := (gains _ _ answers).trans passage.gained })

/-- A request after the body comes after all of it. -/
theorem surrounds_cleanup (h : Surrounds others i process ks whole) (cleanup : Request τ Unit) :
    Surrounds others i process ks fun body =>
      (whole body).bind fun b => .ask cleanup fun _ => .done b := by
  intro κ body trace rest l l' orderly runs along
  rcases Program.runs_bind_cases (p := whole body) runs with
    ⟨mid, within, rfl⟩ | ⟨b, before, after, rfl, within, onward⟩
  · -- The cleanup is still to come.
    have going (b : β) : mid.bind (fun b => .ask cleanup fun _ => .done b) ≠ .done b := by
      cases mid <;> nofun
    rcases h κ body _ _ _ _ orderly within along with outside | ⟨⟨passage⟩⟩
    · refine .inl fun body' => ?_
      obtain ⟨rest', runs', -⟩ := outside body'
      exact ⟨_, runs'.bind _, fun b ended => absurd ended (going b)⟩
    · exact .inr (.intro { passage with
        anyBody := fun body' => (passage.anyBody body').elim fun _ entered => ⟨_, entered.bind _⟩
        last := fun h => passage.last (.inl (h.resolve_right fun ⟨b, ended⟩ => going b ended)) })
  · obtain ⟨l₁, first, second⟩ := Terms.along_append.1 along
    rcases h κ body _ _ _ _ orderly within first with outside | ⟨⟨passage⟩⟩
    · refine .inl fun body' => ?_
      obtain ⟨rest', runs', same⟩ := outside body'
      obtain rfl := same b rfl
      exact ⟨rest, (runs'.bind _).trans onward, fun _ => id⟩
    · exact .inr (.intro { passage with
        anyBody := fun body' => (passage.anyBody body').elim fun _ entered => ⟨_, entered.bind _⟩
        exit := passage.exit ++ after
        split := (congrArg (· ++ after) passage.split).trans (by simp only [List.append_assoc])
        leaves := Terms.along_append.2 ⟨l₁, passage.leaves, second⟩
        last := fun _ => passage.last (.inr ⟨b, rfl⟩) })

end Around

/-! ## Around the body of a hold -/

/-- The locks of a repository: the one within the process, and the lock file if there is a directory
for these. The one that is taken last comes first. -/
def Lock.all (process : Nat) (directory : Option String) (repoId : Int) : List Lock :=
  match directory with
  | none => [.inner process repoId]
  | some _ => [.file repoId, .inner process repoId]

section Hold

variable [TimeScale τ] {others : Locks → Locks → Prop} [Std.Refl others] [IsTrans Locks others]
  {i process : Nat} {directory : Option String} {repoId : Int}

theorem surrounds_holdFile {dir : String} {deadline : Option τ} :
    Surrounds others i process [.file repoId] fun body : Action τ α =>
      (WorkingTree.holdFile (some dir) repoId deadline body).run := by
  simp only [WorkingTree.run_holdFile]
  refine surrounds_ask fun taken => ?_
  rcases taken with e | _ | _
  · exact ⟨[], _, List.append_nil _, fun _ _ => Terms.gained_takeFile, surrounds_const _⟩
  · exact ⟨[], _, List.append_nil _, fun _ _ => Terms.gained_takeFile, surrounds_const _⟩
  · exact ⟨[.file repoId], [], rfl, fun _ _ => Terms.gained_takeFile,
      surrounds_ask fun _ => ⟨[], [], rfl, fun _ _ => Terms.gained_of_lockless trivial,
        surrounds_cleanup surrounds_body _⟩⟩

/-- The body of a hold runs with exactly the locks of the repository gained. -/
theorem surrounds_hold {limit : Option τ} :
    Surrounds others i process (Lock.all process directory repoId) fun body : Action τ α =>
      (WorkingTree.hold directory repoId limit body).run := by
  simp only [WorkingTree.run_hold]
  refine surrounds_ask fun now => ⟨[], _, List.append_nil _,
    fun _ _ => Terms.gained_of_lockless trivial, surrounds_ask fun taken => ?_⟩
  rcases taken with e | _ | _
  · exact ⟨[], _, List.append_nil _, fun _ _ => Terms.gained_takeLock, surrounds_const _⟩
  · exact ⟨[], _, List.append_nil _, fun _ _ => Terms.gained_takeLock, surrounds_const _⟩
  · cases directory with
    | none =>
      exact ⟨[.inner process repoId], [], rfl, fun _ _ => Terms.gained_takeLock,
        surrounds_cleanup surrounds_body _⟩
    | some dir =>
      exact ⟨[.inner process repoId], [.file repoId], rfl, fun _ _ => Terms.gained_takeLock,
        surrounds_cleanup surrounds_holdFile _⟩

end Hold

/-! ## The law -/

/-- Whenever the program has ended, call `i` has gained no lock and lost none. -/
def Program.Leakless (others : Locks → Locks → Prop) (i process : Nat) (p : Program τ α) : Prop :=
  ∀ (κ : Type) (trace : List (Answered τ κ)) (a : α) (l l' : Locks), p.Runs trace (.done a) →
    (Terms.company others i process).Along l trace l' → Gained others i [] l l'

theorem Program.Orderly.leakless [TimeScale τ] {others : Locks → Locks → Prop} [Std.Refl others]
    [IsTrans Locks others] {i process : Nat} {p : Program τ α} (h : p.Orderly) :
    p.Leakless others i process := by
  intro κ trace a l l' runs along
  have kept : (Terms.keeping others i process l).Along l trace l' := along.mono fun _ _ _ _ => id
  have obeys := (runs.obeys (I := fun _ => True) kept (h.balanced l fun _ => id)
    (fun _ _ _ _ _ _ => id) trivial).1
  have gained := obeys_done.1 obeys
  exact gained

/-- **Locks never leak.** While others change what it does not hold in whatever way, a call that holds
the locks of a repository around an orderly body has gained no lock and lost none when this has
ended, however it has; and the body runs with exactly the locks of the repository gained. The first
is so of all operations. If the others do nothing, the locks are then what they were. Of the calls in
a world of any clients, those that have ended hold no lock. -/
theorem locks_never_leak [TimeScale τ] (others : Locks → Locks → Prop) [Std.Refl others]
    [IsTrans Locks others] (i process : Nat) :
    (∀ (directory : Option String) (repoId : Int) (limit : Option τ),
      (∀ body : Action τ α, body.Orderly →
        (WorkingTree.hold directory repoId limit body).run.Leakless others i process) ∧
      Surrounds others i process (Lock.all process directory repoId) fun body : Action τ α =>
        (WorkingTree.hold directory repoId limit body).run) ∧
    (∀ (op : Operation τ) (policy : Policy τ),
      (op.action policy).run.Leakless others i process) ∧
    (∀ l l' : Locks, Gained (· = ·) i [] l l' → l' = l) ∧
    ∀ (directory : Option String) (faults : Error → Prop) (w : World τ) (c : Call τ)
        (result : Except Error Answer), w.Attained directory faults → w.calls[i]? = some c →
      c.rest = .done result → ∀ k, w.locks.holder k ≠ some i := by
  refine ⟨fun directory repoId limit => ⟨fun body orderly => ?_, surrounds_hold⟩,
    fun op policy => ?_, fun l l' => gained_nil_iff_eq.1, ?_⟩
  · exact Program.Orderly.leakless (Action.orderly_hold orderly)
  · exact Program.Orderly.leakless (op.orderly policy)
  · intro directory faults w c result attained call ended k
    obtain ⟨held, files⟩ := attained.done_frees call ended
    cases k with
    | inner process repoId => exact held (process, repoId)
    | file repoId => exact files repoId

/-- Holding the locks of one repository and then, not waiting for them, those of another. -/
def nested : Action Binary64 Unit :=
  WorkingTree.hold (some "/locks") 1 none
    (WorkingTree.hold (some "/locks") 2 (some TimeScale.zero) (pure ()))

/-- Call 7 holds the lock file of the second repository. -/
def oneTaken : Locks :=
  Locks.free.assign (some 7) (.file 2)

/-- What is asked then. The lock file of the second repository is not given. -/
def nestedTrace : List (Answered Binary64 Unit) :=
  [⟨.clock, TimeScale.zero, ()⟩, ⟨.takeLock 1 none, .ok true, ()⟩, ⟨.takeFile 1 none, .ok true, ()⟩,
    ⟨.log ⟨.debug, .locks, WorkingTree.acquiredText "/locks" 1⟩, (), ()⟩,
    ⟨.clock, TimeScale.zero, ()⟩,
    ⟨.takeLock 2 (some (TimeScale.nonneg TimeScale.zero)), .ok true, ()⟩,
    ⟨.takeFile 2 (some (TimeScale.add TimeScale.zero TimeScale.zero)), .ok false, ()⟩,
    ⟨.dropLock 2, (), ()⟩, ⟨.dropFile 1, (), ()⟩, ⟨.dropLock 1, (), ()⟩]

/-- A merge by a client that nobody disturbs. -/
def mergeAlone : World Binary64 :=
  (World.fresh .empty).replay
    [.call (.registerRepository "one" "/one"), .serve 0 50,
      .call (.createMergeRequest "one" (some "ann") "Add it" "feature" "main" (some "")),
      .serve 1 50, .call (.merge "one" 1 (some "bob") none), .serve 2 50]

/-- The law where the inner one of two holds times out at a lock file, and after a merge. -/
theorem locks_never_leak_of_nested :
    nested.run.Runs nestedTrace (.done (.error (WorkingTree.lateForLock 2))) ∧
    (∃ l, (Terms.company (· = ·) 0 0).Along oneTaken nestedTrace l ∧ l = oneTaken) ∧
    mergeAlone.Reachable none ∧
    mergeAlone.answered 2 = some (.merge "one" 1 (some "bob") none, .ok (.mergeRequest
      ⟨1, 1, "Add it", "", "feature", "main", .merged, "ann", some "bob", some 0, none, none, 0,
        0⟩)) ∧
    ∀ k, mergeAlone.locks.holder k ≠ some 2 := by
  have runs : nested.run.Runs nestedTrace (.done (.error (WorkingTree.lateForLock 2))) :=
    .ask (.ask (.ask (.ask (.ask (.ask (.ask (.ask (.ask (.ask .stay)))))))))
  have along : ∃ l, (Terms.company (· = ·) 0 0).Along oneTaken nestedTrace l :=
    ⟨_, .cons ⟨_, .refl .., rfl⟩ <| .cons ⟨_, .refl .., rfl, rfl⟩ <|
      .cons ⟨_, .refl .., by decide, rfl⟩ <| .cons ⟨_, .refl .., rfl⟩ <|
      .cons ⟨_, .refl .., rfl⟩ <| .cons ⟨_, .refl .., by decide, rfl⟩ <|
      .cons ⟨_, .refl .., by decide, rfl, rfl⟩ <| .cons ⟨_, .refl .., rfl⟩ <|
      .cons ⟨_, .refl .., rfl⟩ <| .cons ⟨_, .refl .., rfl⟩ .nil⟩
  obtain ⟨l, along⟩ := along
  obtain ⟨hold, -, same, -⟩ := locks_never_leak (τ := Binary64) (α := Unit) (· = ·) 0 0
  have gained := (hold (some "/locks") 1 none).1 _ (Action.orderly_hold (Action.orderly_pure ()))
    Unit nestedTrace _ oneTaken l runs along
  have reached : mergeAlone.Reachable none := World.replay_reachable _
  have merged : mergeAlone.answered 2 = some (.merge "one" 1 (some "bob") none, .ok (.mergeRequest
      ⟨1, 1, "Add it", "", "feature", "main", .merged, "ann", some "bob", some 0, none, none, 0,
        0⟩)) := by rfl
  obtain ⟨c, call, -, ended⟩ := World.call_of_answered merged
  obtain ⟨-, -, -, worlds⟩ := locks_never_leak (τ := Binary64) (α := Unit) (· = ·) 2 0
  exact ⟨runs, ⟨l, along, same _ _ gained⟩, reached, merged,
    worlds none (fun _ => False) _ c _ reached.attained call ended⟩

end Forge
