import Forge.Program.Request
import Forge.Time.Deadline

/-!
# A scripted working tree

In a rehearsal the working tree is scripted: it knows some branches, and it can be told to fail at
given calls, to take its time, and to have something else happen while it merges. `σ` is the type
of what can be made to happen. Every call is recorded.
-/

namespace Forge.Rehearsal

/-- A failure that a call can be told to end in. -/
inductive Misstep where
  | external (text : String)
  | deadline (text : String)
  | fault (text : String)
deriving DecidableEq, Repr

/-- The error of a failure. -/
def Misstep.error : Misstep → Error
  | .external text => .external text
  | .deadline text => .deadline (.step text)
  | .fault text => .fault text

/-- A call as it is recorded. -/
inductive TreeRecord where
  | opened (path : String) (origin : Option (String × String))
  | branchExists (branch : String)
  | contains (branch ancestor : String) (limit : Option Binary64)
  | checkout (branch : String) (limit : Option Binary64)
  | merge (branch message author : String) (limit : Option Binary64)
  | abort
deriving Repr

/-- What the working tree knows and how it behaves. -/
structure ScriptedTree (σ : Type) where
  branches : List String
  landed : List (String × String)
  checkoutError : Option Misstep
  mergeError : Option Misstep
  failAfterMerge : Option Misstep
  abortError : Option Misstep
  answers : List (Except Misstep Bool)
  onMerge : List σ
  onOpen : List σ
  commit : Option String
  checkoutTime : Int
  containsTime : Int
  mergeTime : Int
  current : Option String
  merges : Nat

namespace ScriptedTree

variable {σ : Type}

/-- The working tree before anything is said about it. -/
def start : ScriptedTree σ where
  branches := ["main", "feature", "hotfix"]
  landed := []
  checkoutError := none
  mergeError := none
  failAfterMerge := none
  abortError := none
  answers := []
  onMerge := []
  onOpen := []
  commit := none
  checkoutTime := 0
  containsTime := 0
  mergeTime := 0
  current := none
  merges := 0

/-- The outcome of a call that fails with the given failure, if there is one. -/
def endingIn (m : Option Misstep) : Except Error Unit :=
  match m with
  | some m => .error m.error
  | none => .ok ()

/-- Answers whether the second branch has been merged into the first, as told or from what has been
merged. -/
def contains (t : ScriptedTree σ) (branch ancestor : String) :
    Except Error Bool × ScriptedTree σ :=
  match t.answers with
  | .ok b :: rest => (.ok b, { t with answers := rest })
  | .error m :: rest => (.error m.error, { t with answers := rest })
  | [] => (.ok (t.landed.contains (branch, ancestor)), t)

/-- Makes a branch the current one. -/
def checkout (t : ScriptedTree σ) (branch : String) : Except Error Unit × ScriptedTree σ :=
  match t.checkoutError with
  | some m => (.error m.error, t)
  | none =>
    if t.branches.contains branch then (.ok (), { t with current := some branch })
    else (.error (.external ("failed to checkout target branch " ++ Text.quoted branch)), t)

/-- The id of the latest merge: the one that was told, or the number of merges in forty digits. -/
def commitText (t : ScriptedTree σ) : String :=
  t.commit.getD (String.ofList (Text.hexDigits 40 t.merges))

/-- Merges a branch into the current one, once what happens meanwhile is over. -/
def merge (t : ScriptedTree σ) (branch : String) : Except Error String × ScriptedTree σ :=
  match t.mergeError with
  | some m => (.error m.error, t)
  | none =>
    if t.branches.contains branch then
      let t := { t with landed := (t.current.getD "", branch) :: t.landed }
      match t.failAfterMerge with
      | some m => (.error m.error, t)
      | none => (.ok t.commitText, t)
    else (.error (.external ("failed to merge branch " ++ Text.quoted branch)), t)

end ScriptedTree

end Forge.Rehearsal
