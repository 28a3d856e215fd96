import Forge.Proofs.Merge.Course

/-!
# The path through the working tree

What a merge calls its working tree for, and in which order. A `Visit` is an answered call; the
visits of one merge lead it from `Stage` to `Stage` by the moves that `Stage.Leads` lists: a
checkout of the target, a look whether the target contains the source, the merge, and after a
refusal of that a second look, unless the first one has settled it, and the undoing of what the
merge has left. `Stage.Ends` says how a merge may end at the stage that it has reached.
-/

namespace Forge

variable {τ : Type}

/-- A call on the working tree with its answer. -/
inductive Visit (τ : Type) where
  | branchExists (branch : String) (answer : Except Error Bool)
  | contains (branch ancestor : String) (limit : Option τ) (answer : Except Error Bool)
  | checkout (branch : String) (limit : Option τ) (answer : Except Error Unit)
  | merge (branch message author : String) (limit : Option τ) (answer : Except Error String)
  | abortMerge (answer : Except Error Unit)
deriving DecidableEq

namespace Visit

/-- Whether the visit undoes a merge. -/
def isAbort : Visit τ → Bool
  | .abortMerge _ => true
  | _ => false

/-- The answer to a merge. -/
def merged? : Visit τ → Option (Except Error String)
  | .merge _ _ _ _ answer => some answer
  | _ => none

end Visit

/-- The visit that an answer to the call makes. -/
def TreeCall.visit : {α : Type} → TreeCall τ α → Except Error α → Visit τ
  | _, .branchExists branch, b => .branchExists branch b
  | _, .contains branch ancestor limit, b => .contains branch ancestor limit b
  | _, .checkout branch limit, b => .checkout branch limit b
  | _, .merge branch message author limit, b => .merge branch message author limit b
  | _, .abortMerge, b => .abortMerge b

namespace Merge

/-- How far a merge has come with its working tree. -/
inductive Stage where
  /-- The tree has not been called. -/
  | fresh
  | checkedOut
  /-- It is known whether the target contains the source. -/
  | compared (there : Bool)
  | merged
  /-- The merge was refused; `there` is what the first look has answered. -/
  | refused (there : Bool) (e : Error)
  /-- The merge was refused, and the second look has not found it to have landed. -/
  | missing (e : Error)
  /-- The merge was refused, but it has landed. -/
  | landed
  /-- The refused merge has been undone, or that has been tried. -/
  | undone (e : Error)
  /-- A call before the merge was refused. -/
  | stopped (e : Error)

namespace Stage

/-- The moves of a merge of one branch into another. -/
inductive Leads (source target : String) : Stage → Visit τ → Stage → Prop
  | checkout {limit : Option τ} : Leads source target .fresh (.checkout target limit (.ok ()))
      .checkedOut
  | noCheckout {limit : Option τ} {e : Error} :
      Leads source target .fresh (.checkout target limit (.error e)) (.stopped e)
  | look {limit : Option τ} {there : Bool} :
      Leads source target .checkedOut (.contains target source limit (.ok there)) (.compared there)
  | noLook {limit : Option τ} {e : Error} :
      Leads source target .checkedOut (.contains target source limit (.error e)) (.stopped e)
  | merge {there : Bool} {message author commit : String} {limit : Option τ} :
      Leads source target (.compared there) (.merge source message author limit (.ok commit))
        .merged
  | noMerge {there : Bool} {message author : String} {limit : Option τ} {e : Error} :
      Leads source target (.compared there) (.merge source message author limit (.error e))
        (.refused there e)
  | landed {e : Error} :
      Leads source target (.refused false e) (.contains target source none (.ok true)) .landed
  | notLanded {e : Error} :
      Leads source target (.refused false e) (.contains target source none (.ok false))
        (.missing e)
  | unknown {e e' : Error} :
      Leads source target (.refused false e) (.contains target source none (.error e'))
        (.missing e)
  | undo {e : Error} {answer : Except Error Unit} :
      Leads source target (.refused true e) (.abortMerge answer) (.undone e)
  | undoMissing {e : Error} {answer : Except Error Unit} :
      Leads source target (.missing e) (.abortMerge answer) (.undone e)

/-- The errors that a merge can fail with at a stage. Where there is none, the merge goes on. -/
def Fails (e : Error) : Stage → Prop
  | .fresh | .merged => True
  | .stopped e' | .undone e' => e = e' ∧ e.isExternal = true
  | .landed => e.isUnrecorded = true
  | .checkedOut | .compared _ | .refused .. | .missing _ => False

/-- The ends of a merge that go with the stage it has reached. -/
def Ends {α : Type} (x : Except Error α) (stage : Stage) : Prop :=
  match x with
  | .ok _ => stage = .merged
  | .error e => stage.Fails e

/-- Whether the merge has been undone. -/
def isUndone : Stage → Bool
  | .undone _ => true
  | _ => false

/-- The error of the merge in the working tree, if that was refused and has not landed. -/
def refusal? : Stage → Option Error
  | .refused _ e | .missing e | .undone e => some e
  | _ => none

end Stage

/-- The visits, in their order, lead to the stage. -/
inductive Path (source target : String) : List (Visit τ) → Stage → Prop
  | start : Path source target [] .fresh
  | step {visits : List (Visit τ)} {visit : Visit τ} {stage stage' : Stage}
      (path : Path source target visits stage) (leads : stage.Leads source target visit stage') :
      Path source target (visits ++ [visit]) stage'

/-! ## Single moves -/

namespace Stage

variable {source target : String} {stage stage' : Stage} {visit : Visit τ}

/-- Nothing follows the undoing of a merge, and the stage tells whether there was one. -/
theorem Leads.isUndone (h : stage.Leads source target visit stage') :
    stage.isUndone = false ∧ stage'.isUndone = visit.isAbort := by
  cases h <;> exact ⟨rfl, rfl⟩

/-- A merge that has succeeded is the last visit. -/
theorem Leads.merged (h : stage.Leads source target visit stage') :
    stage ≠ .merged ∧ ∀ commit, visit.merged? = some (.ok commit) → stage' = .merged := by
  cases h with
  | merge => exact ⟨nofun, fun _ _ => rfl⟩
  | noMerge => exact ⟨nofun, nofun⟩
  | checkout | noCheckout | look | noLook | landed | notLanded | unknown | undo | undoMissing =>
    exact ⟨nofun, nofun⟩

/-- The stages keep the error of a refused merge. -/
theorem Leads.refusal (h : stage.Leads source target visit stage') {e : Error}
    (he : stage'.refusal? = some e) :
    stage.refusal? = some e ∨ visit.merged? = some (.error e) := by
  cases h with
  | noMerge =>
    cases he
    exact .inr rfl
  | notLanded | unknown | undo | undoMissing => exact .inl he
  | checkout | noCheckout | look | noLook | merge | landed => cases he

theorem Fails.classified {e : Error} (h : stage.Fails e) : stage.Fails e.classified := by
  have same : ∀ e' : Error, e'.isExternal = true → e'.classified = e' := by
    intro e' he'
    cases e' <;> first | rfl | cases he'
  cases stage with
  | stopped e' | undone e' =>
    obtain ⟨rfl, external⟩ := h
    rw [same e external]
    exact ⟨rfl, external⟩
  | landed => exact (isUnrecorded_classified e).trans h
  | fresh | merged => trivial
  | checkedOut | compared | refused | missing => exact h

end Stage

/-! ## Whole paths -/

namespace Path

variable {source target : String} {stage : Stage} {visits : List (Visit τ)}

/-- One visit at most undoes the merge, and the stage tells whether there was one. -/
theorem countP_isAbort (h : Path source target visits stage) :
    visits.countP Visit.isAbort = stage.isUndone.toNat := by
  induction h with
  | start => rfl
  | step path leads ih =>
    obtain ⟨before, after⟩ := leads.isUndone
    rw [List.countP_append, ih, before, after, List.countP_singleton]
    cases Visit.isAbort _ <;> rfl

theorem isUndone_of_mem {answer : Except Error Unit} (h : Path source target visits stage)
    (hv : .abortMerge answer ∈ visits) : ∃ e, stage = .undone e := by
  have found : 0 < visits.countP Visit.isAbort := List.countP_pos_iff.2 ⟨_, hv, rfl⟩
  rw [h.countP_isAbort] at found
  cases stage with
  | undone e => exact ⟨e, rfl⟩
  | _ => exact absurd found (Nat.lt_irrefl 0)

/-- After a merge that has succeeded the working tree is left alone. -/
theorem merged_of_mem (h : Path source target visits stage) {visit : Visit τ} {commit : String}
    (hv : visit ∈ visits) (hm : visit.merged? = some (.ok commit)) : stage = .merged := by
  induction h with
  | start => cases hv
  | step path leads ih =>
    obtain ⟨goesOn, last⟩ := leads.merged
    rcases List.mem_append.1 hv with hv | hv
    · exact absurd (ih hv) goesOn
    · rw [List.mem_singleton.1 hv] at hm
      exact last commit hm

/-- The error that a stage keeps is that of the merge in the working tree. -/
theorem refusal (h : Path source target visits stage) {e : Error} (he : stage.refusal? = some e) :
    ∃ visit ∈ visits, visit.merged? = some (.error e) := by
  induction h with
  | start => cases he
  | step path leads ih =>
    rcases leads.refusal he with he | hm
    · obtain ⟨visit, hv, hm⟩ := ih he
      exact ⟨visit, List.mem_append_left _ hv, hm⟩
    · exact ⟨_, List.mem_append_right _ (List.mem_singleton_self _), hm⟩

/-- Where there was no visit, the merge has not come to any stage. -/
theorem eq_fresh (h : Path source target ([] : List (Visit τ)) stage) : stage = .fresh := by
  generalize hv : ([] : List (Visit τ)) = visits at h
  cases h with
  | start => rfl
  | step path leads => exact absurd hv.symm (List.concat_ne_nil _ _)

end Path

end Merge

end Forge
