import Forge.Proofs.Program

/-!
# Runs of programs

A run of a program is the list of the requests that it has had answered, each with its answer and
with what else is known of the moment. What remains of the program may be asked further, or has
ended. A program that obeys its terms still does so after a run whose answers the terms allow.
-/

namespace Forge

variable {τ κ σ α : Type}

/-- A request that has been answered, with the scene of it: what is known beside the answer. -/
structure Answered (τ κ : Type) where
  {β : Type}
  request : Request τ β
  answer : β
  scene : κ

/-- The answers of a list, in this order, lead from the first state to the second. -/
inductive Terms.Along (T : Terms τ σ) : σ → List (Answered τ κ) → σ → Prop
  | nil {s : σ} : Along T s [] s
  | cons {s s' s'' : σ} {e : Answered τ κ} {trace : List (Answered τ κ)}
      (answers : T.answers e.request s e.answer s') (rest : Along T s' trace s'') :
      Along T s (e :: trace) s''

theorem Terms.Along.mono {T T' : Terms τ σ} {s s' : σ} {trace : List (Answered τ κ)}
    (h : T.Along s trace s')
    (sub : ∀ {β : Type} (r : Request τ β) s b s', T.answers r s b s' → T'.answers r s b s') :
    T'.Along s trace s' := by
  induction h with
  | nil => exact .nil
  | cons answers _ ih => exact .cons (sub _ _ _ _ answers) ih

theorem Terms.along_append {T : Terms τ σ} {s s'' : σ} {trace trace' : List (Answered τ κ)} :
    T.Along s (trace ++ trace') s'' ↔ ∃ s', T.Along s trace s' ∧ T.Along s' trace' s'' := by
  constructor
  · intro h
    induction trace generalizing s with
    | nil => exact ⟨s, .nil, h⟩
    | cons e trace ih =>
      cases h with
      | cons answers rest =>
        obtain ⟨s', first, second⟩ := ih rest
        exact ⟨s', .cons answers first, second⟩
  · rintro ⟨s', first, second⟩
    induction first with
    | nil => exact second
    | cons answers _ ih => exact .cons answers (ih second)

namespace Program

/-- The requests of the list, answered as it says, lead from the first program to the second. -/
inductive Runs : Program τ α → List (Answered τ κ) → Program τ α → Prop
  | stay {p : Program τ α} : Runs p [] p
  | ask {β : Type} {r : Request τ β} {next : β → Program τ α} {b : β} {scene : κ}
      {trace : List (Answered τ κ)} {rest : Program τ α} (onward : Runs (next b) trace rest) :
      Runs (.ask r next) (⟨r, b, scene⟩ :: trace) rest

section Parts

variable {β : Type} {p q : Program τ α} {trace trace' : List (Answered τ κ)}

theorem Runs.trans {rest : Program τ α} (h : p.Runs trace q) (h' : q.Runs trace' rest) :
    p.Runs (trace ++ trace') rest := by
  induction h with
  | stay => exact h'
  | ask _ ih => exact .ask (ih h')

theorem Runs.bind (h : p.Runs trace q) (k : α → Program τ β) : (p.bind k).Runs trace (q.bind k) := by
  induction h with
  | stay => exact .stay
  | ask _ ih => exact .ask ih

/-- A run of two programs, one after the other, is still in the first, or has left it. -/
theorem runs_bind_cases {k : α → Program τ β} {rest : Program τ β}
    (h : (p.bind k).Runs trace rest) :
    (∃ mid, p.Runs trace mid ∧ rest = mid.bind k) ∨
      ∃ a before after, trace = before ++ after ∧ p.Runs before (.done a) ∧
        (k a).Runs after rest := by
  induction p generalizing trace with
  | done a => exact .inr ⟨a, [], trace, rfl, .stay, h⟩
  | ask r next ih =>
    cases h with
    | stay => exact .inl ⟨.ask r next, .stay, rfl⟩
    | ask onward =>
      rcases ih _ onward with ⟨mid, runs, rfl⟩ | ⟨a, before, after, rfl, runs, rest⟩
      · exact .inl ⟨mid, .ask runs, rfl⟩
      · exact .inr ⟨a, _ :: before, after, rfl, .ask runs, rest⟩

end Parts

/-- After a run, a program obeys its terms as before, and what every allowed answer to an allowed
request keeps has been kept. -/
theorem Runs.obeys {T : Terms τ σ} {post : α → σ → Prop} {I : σ → Prop} {p rest : Program τ α}
    {trace : List (Answered τ κ)} {s s' : σ} (h : p.Runs trace rest) (along : T.Along s trace s')
    (obeys : p.Obeys T post s)
    (keep : ∀ {β : Type} (r : Request τ β) b s s', T.may r s → T.answers r s b s' → I s → I s')
    (holds : I s) : rest.Obeys T post s' ∧ I s' := by
  induction h generalizing s with
  | stay =>
    cases along
    exact ⟨obeys, holds⟩
  | @ask β r next b scene trace rest onward ih =>
    cases along with
    | cons answers along =>
      obtain ⟨may, goes⟩ := obeys_step.1 obeys
      exact ih along (goes b _ answers) (keep r b s _ may answers holds)

/-! ## Runs against given surroundings -/

section Play

variable (answer : {β : Type} → Request τ β → σ → β × σ) (scene : σ → σ → κ)

/-- The run to the end against surroundings that answer from their state. A scene is what is known
of the states before and after an answer. -/
def play : Program τ α → σ → List (Answered τ κ) × α
  | .done a, _ => ([], a)
  | .ask r next, s =>
    let b := (answer r s).1
    let s' := (answer r s).2
    let later := (next b).play s'
    (⟨r, b, scene s s'⟩ :: later.1, later.2)

theorem play_runs (p : Program τ α) (s : σ) :
    p.Runs (p.play answer scene s).1 (.done (p.play answer scene s).2) := by
  induction p generalizing s with
  | done a => exact .stay
  | ask r next ih => exact .ask (ih _ _)

/-- What is so of every answer of the surroundings is so of the whole run. -/
theorem forall_mem_play {P : Answered τ κ → Prop}
    (h : ∀ {β : Type} (r : Request τ β) (s : σ), P ⟨r, (answer r s).1, scene s (answer r s).2⟩)
    (p : Program τ α) (s : σ) : ∀ e ∈ (p.play answer scene s).1, P e := by
  induction p generalizing s with
  | done a => exact fun e he => absurd he List.not_mem_nil
  | ask r next ih => exact List.forall_mem_cons.2 ⟨h r s, ih _ _⟩

end Play

end Program

end Forge
