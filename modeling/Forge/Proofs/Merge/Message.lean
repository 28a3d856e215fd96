import Forge.Merge
import Forge.Proofs.Validation.Worlds
import Mathlib.Data.List.TakeWhile
import Std.Data.String.ToInt

/-!
# Messages of merge commits

A merge that is not recorded has to be put right by hand, and what there is to go by is the message
of its commit: the two branches, the merge request and the actor. Branches may hold quotes, and an
actor may hold anything, the words of a message included. But a branch holds no blank and no line
break, and so the message can be read from its start: `Account.read?` finds all four again.
-/

namespace Forge

/-- The branches of a merge request are names of branches. -/
structure MergeRequestIn.Named {σ : Type} (m : MergeRequestIn σ) : Prop where
  source : Branch.isValid m.sourceBranch = true
  target : Branch.isValid m.targetBranch = true

namespace Merge

/-- What is told of a merge. -/
structure Account where
  source : String
  target : String
  id : Int
  actor : String
deriving DecidableEq, Repr

namespace Account

/-- The account of a merge. -/
def ofMerge (m : MergeRequest) (actor : String) : Account :=
  ⟨m.sourceBranch, m.targetBranch, m.id, actor⟩

/-- The characters before the first `stop`, and those after it. -/
def cut (stop : Char) (cs : List Char) : List Char × List Char :=
  (cs.takeWhile (· != stop), (cs.dropWhile (· != stop)).drop 1)

/-- Reads the message of a merge commit. The source goes to the first blank after its quote, the
target to the next end of a line, and the number to the next blank; all the rest is the actor. -/
def read? (message : String) : Option Account :=
  let (source, afterSource) := cut ' ' (message.toList.drop "Merge branch '".length)
  let (target, afterTarget) := cut '\n' (afterSource.drop "into '".length)
  let (number, afterNumber) := cut ' ' (afterTarget.drop "\nMerge request !".length)
  (String.ofList number).toInt?.map fun id =>
    { source := String.ofList source.dropLast
      target := String.ofList target.dropLast
      id
      actor := String.ofList (afterNumber.drop "merged by ".length) }

theorem cut_append {stop : Char} {a : List Char} (h : stop ∉ a) (b : List Char) :
    cut stop (a ++ stop :: b) = (a, b) := by
  have before : ∀ c ∈ a, (c != stop) = true := fun c hc => bne_iff_ne.2 (ne_of_mem_of_not_mem hc h)
  unfold cut
  rw [List.takeWhile_append_of_pos before, List.dropWhile_append_of_pos before]
  simp

end Account

/-! ## What stands in a message -/

/-- A character of a branch name is neither a blank nor a line break. -/
theorem notMem_of_isValid {name : String} (h : Branch.isValid name = true) {c : Char}
    (low : c.toNat ≤ 0x20) : c ∉ name.toList ++ ['\''] := by
  intro mem
  rcases List.mem_append.1 mem with mem | mem
  · exact absurd ((Branch.harmless_of_isValid h).plain c mem).1 (not_lt.2 low)
  · rw [List.mem_singleton.1 mem] at low
    exact absurd low (by decide)

theorem blank_notMem_number (n : Int) : ' ' ∉ (toString n).toList := by
  have digits (k : Nat) : ' ' ∉ k.repr.toList := by
    rw [Nat.toList_repr]
    exact fun mem => absurd (Nat.isDigit_of_mem_toDigits (by decide) (by decide) mem) (by decide)
  rw [Int.toString_eq_repr, Int.repr_eq_if]
  split
  · exact digits _
  · rw [String.toList_append]
    exact List.not_mem_append (by decide) (digits _)

theorem toList_commitMessage (m : MergeRequest) (actor : String) :
    (commitMessage m actor).toList = "Merge branch '".toList ++ ((m.sourceBranch.toList ++ ['\'']) ++
      ' ' :: ("into '".toList ++ ((m.targetBranch.toList ++ ['\'']) ++
        '\n' :: ("\nMerge request !".toList ++ ((toString m.id).toList ++
          ' ' :: ("merged by ".toList ++ actor.toList)))))) := by
  have afterSource : "' into '".toList = ['\''] ++ ' ' :: "into '".toList := rfl
  have afterTarget : "'\n\n".toList ++ "Merge request !".toList =
      ['\''] ++ '\n' :: "\nMerge request !".toList := rfl
  have afterNumber : " merged by ".toList = ' ' :: "merged by ".toList := rfl
  unfold commitMessage
  simp only [String.toList_append]
  rw [List.append_assoc _ "'\n\n".toList]
  simp only [List.append_assoc, List.cons_append, afterSource, afterTarget, afterNumber]

/-- All four are read back. -/
theorem read?_commitMessage {m : MergeRequest} (h : m.Named) (actor : String) :
    Account.read? (commitMessage m actor) = some (.ofMerge m actor) := by
  have source := notMem_of_isValid h.source (c := ' ') (by decide)
  have target := notMem_of_isValid h.target (c := '\n') (by decide)
  have number := blank_notMem_number m.id
  unfold Account.read?
  simp only [toList_commitMessage, ← String.length_toList, List.drop_left,
    Account.cut_append source, Account.cut_append target, Account.cut_append number]
  simp only [String.ofList_toList, List.dropLast_concat, Int.toString_eq_repr, Int.toInt?_repr]
  rfl

/-! ## The law -/

variable {τ : Type}

/-- The merge requests of a forge have names of branches for their branches. -/
theorem named_of_hosted [TimeScale τ] {directory : Option String} {faults : Error → Prop}
    {w : World τ} (h : w.Hosted directory faults) {row : StoredMergeRequest}
    (stored : row ∈ w.store.mergeRequests.rows) : row.Named :=
  have validated := h.checked.1.mergeRequests row stored
  ⟨validated.source, validated.target⟩

/-- **A commit message tells which merge it is of.** Two messages are equal only if the branches,
the merge requests and the actors are, and all of these can be read from one message. The merge
requests that a forge stores are all of this kind. -/
theorem commitMessage_identifies {m m' : MergeRequest} (named : m.Named) (named' : m'.Named)
    (actor actor' : String) :
    (commitMessage m actor = commitMessage m' actor' → m.sourceBranch = m'.sourceBranch ∧
      m.targetBranch = m'.targetBranch ∧ m.id = m'.id ∧ actor = actor') ∧
    Account.read? (commitMessage m actor) =
      some ⟨m.sourceBranch, m.targetBranch, m.id, actor⟩ ∧
    ∀ {τ : Type} [TimeScale τ] {directory : Option String} {faults : Error → Prop} {w : World τ},
      w.Hosted directory faults → ∀ row ∈ w.store.mergeRequests.rows, row.Named := by
  refine ⟨fun same => ?_, read?_commitMessage named actor, fun h row => named_of_hosted h⟩
  have told : Account.ofMerge m actor = Account.ofMerge m' actor' := by
    rw [← Option.some.injEq, ← read?_commitMessage named, ← read?_commitMessage named', same]
  exact Account.mk.inj told

/-- A merge request between branches with quotes and words of a message in their names. -/
def quotingRequest (state : MergeRequestState) : MergeRequest :=
  ⟨7, 1, "Quote", "", "a'-into-'b", "b'-into-'c", state, "ann", none, none, none, none, 0, 0⟩

/-- An actor whose name goes on like a message. -/
def quotingActor : String := "eve'\n\nMerge request !8 merged by bob"

/-- The law at this merge request, before and after it was merged by this actor. -/
theorem commitMessage_identifies_of_quotes :
    (quotingRequest .opened).Named ∧ (quotingRequest .merged).Named ∧
      commitMessage (quotingRequest .opened) quotingActor =
        commitMessage (quotingRequest .merged) quotingActor ∧
      Account.read? (commitMessage (quotingRequest .opened) quotingActor) =
          some ⟨"a'-into-'b", "b'-into-'c", 7, quotingActor⟩ ∧
      World.checkoutWorld.store.mergeRequests.rows.length = 1 ∧
      ∀ row ∈ World.checkoutWorld.store.mergeRequests.rows, row.Named := by
  have source : Branch.isValid "a'-into-'b" = true := by decide
  have target : Branch.isValid "b'-into-'c" = true := by decide
  have named (state : MergeRequestState) : (quotingRequest state).Named := ⟨source, target⟩
  have hosted : World.checkoutWorld.Hosted none fun _ => False :=
    World.serves_hosted _ _ ((World.replay_reachable _).attained.hosted.begin (.git _) rfl
      fun _ => rfl)
  obtain ⟨-, read, stored⟩ :=
    commitMessage_identifies (named .opened) (named .merged) quotingActor quotingActor
  exact ⟨named .opened, named .merged, rfl, read, by decide +kernel, stored hosted⟩

end Merge

end Forge
