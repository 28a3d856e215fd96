import Forge.Program.Basic
import Mathlib.Logic.Basic

/-!
# What a program may ask

`Terms` fix, for a state that is kept beside a program, which requests may be made in it and which
answers lead to which next states. `Program.Obeys` says that a program keeps to the terms whatever
it is answered, and that a condition holds where it ends; `Action.Obeys` is the same with one
condition for values and one for errors. The lemmas turn it into what has to be shown statement by
statement.
-/

namespace Forge

/-- Which requests may be made in a state, and what they can be answered with which next state. -/
structure Terms (τ σ : Type) where
  may {β : Type} (r : Request τ β) (s : σ) : Prop
  answers {β : Type} (r : Request τ β) (s : σ) (b : β) (s' : σ) : Prop

namespace Program

variable {τ σ α β : Type} {T : Terms τ σ}

/-- The program, started in `s`, asks only what the terms allow, and ends so that `post` holds. -/
def Obeys (T : Terms τ σ) (post : α → σ → Prop) : Program τ α → σ → Prop
  | .done a, s => post a s
  | .ask r next, s => T.may r s ∧ ∀ b s', T.answers r s b s' → (next b).Obeys T post s'

@[simp] theorem obeys_done {post : α → σ → Prop} {a : α} {s : σ} :
    (.done a : Program τ α).Obeys T post s ↔ post a s :=
  Iff.rfl

/-- A program obeys at a request if it may ask this, and obeys on after every answer. -/
@[simp] theorem obeys_step {r : Request τ β} {next : β → Program τ α} {post : α → σ → Prop}
    {s : σ} :
    (.ask r next : Program τ α).Obeys T post s ↔
      T.may r s ∧ ∀ b s', T.answers r s b s' → (next b).Obeys T post s' :=
  Iff.rfl

@[simp] theorem obeys_request {r : Request τ α} {post : α → σ → Prop} {s : σ} :
    (request r).Obeys T post s ↔ T.may r s ∧ ∀ b s', T.answers r s b s' → post b s' :=
  Iff.rfl

/-- What follows has to obey from wherever the first part ends. -/
theorem obeys_bind {p : Program τ α} {k : α → Program τ β} {post : β → σ → Prop} {s : σ} :
    (p >>= k).Obeys T post s ↔ p.Obeys T (fun a s => (k a).Obeys T post s) s := by
  show (p.bind k).Obeys T post s ↔ _
  induction p generalizing s with
  | done a => rfl
  | ask r next ih =>
    simp only [Program.bind, Obeys, ih]

/-- What is obeyed is so for a weaker end. -/
theorem Obeys.mono {p : Program τ α} {post post' : α → σ → Prop} {s : σ}
    (h : p.Obeys T post s) (hpost : ∀ a s, post a s → post' a s) : p.Obeys T post' s := by
  induction p generalizing s with
  | done a => exact hpost a s h
  | ask r next ih => exact ⟨h.1, fun b s' hb => ih b (h.2 b s' hb)⟩

theorem obeys_congr {p : Program τ α} {post post' : α → σ → Prop} {s : σ}
    (h : ∀ a s, post a s ↔ post' a s) : p.Obeys T post s ↔ p.Obeys T post' s :=
  ⟨fun hp => hp.mono fun a s => (h a s).1, fun hp => hp.mono fun a s => (h a s).2⟩

end Program

namespace Action

variable {τ σ α β : Type} {T : Terms τ σ} {ok : α → σ → Prop} {err : Error → σ → Prop} {s : σ}

/-- The condition `ok` on values and `err` on errors. -/
def ends (ok : α → σ → Prop) (err : Error → σ → Prop) : Except Error α → σ → Prop
  | .ok a => ok a
  | .error e => err e

/-- The action, started in `s`, asks only what the terms allow, and ends in a value for which `ok`
holds or in an error for which `err` does. -/
def Obeys (T : Terms τ σ) (ok : α → σ → Prop) (err : Error → σ → Prop) (x : Action τ α) (s : σ) :
    Prop :=
  Program.Obeys T (ends ok err) x.run s

theorem Obeys.mono {x : Action τ α} {ok' : α → σ → Prop} {err' : Error → σ → Prop}
    (h : Obeys T ok err x s) (hok : ∀ a s, ok a s → ok' a s) (herr : ∀ e s, err e s → err' e s) :
    Obeys T ok' err' x s := by
  refine Program.Obeys.mono h fun r s hr => ?_
  cases r with
  | ok a => exact hok a s hr
  | error e => exact herr e s hr

@[simp] theorem obeys_pure {a : α} : Obeys T ok err (pure a) s ↔ ok a s :=
  Iff.rfl

@[simp] theorem obeys_throw {e : Error} : Obeys T ok err (throw e : Action τ α) s ↔ err e s :=
  Iff.rfl

@[simp] theorem obeys_bind {x : Action τ α} {k : α → Action τ β} {ok : β → σ → Prop} :
    Obeys T ok err (x >>= k) s ↔ Obeys T (fun a s => Obeys T ok err (k a) s) err x s := by
  refine Program.obeys_bind.trans (Program.obeys_congr fun r s => ?_)
  cases r <;> rfl

@[simp] theorem obeys_map {x : Action τ α} {f : α → β} {ok : β → σ → Prop} :
    Obeys T ok err (f <$> x) s ↔ Obeys T (fun a => ok (f a)) err x s := by
  refine Program.obeys_bind.trans (Program.obeys_congr fun r s => ?_)
  cases r <;> rfl

/-- What an action ends in, taken as a value. -/
@[simp] theorem obeys_lift {x : Action τ α} {ok : Except Error α → σ → Prop} :
    Obeys T ok err (ExceptT.lift x.run) s ↔
      Obeys T (fun a => ok (.ok a)) (fun e => ok (.error e)) x s := by
  refine Program.obeys_bind.trans (Program.obeys_congr fun r s => ?_)
  cases r <;> rfl

@[simp] theorem obeys_ask {r : Request τ α} :
    Obeys T ok err (ask r) s ↔ T.may r s ∧ ∀ b s', T.answers r s b s' → ok b s' :=
  Iff.rfl

@[simp] theorem obeys_attempt {r : Request τ (Except Error α)} {ok : Except Error α → σ → Prop} :
    Obeys T ok err (attempt r) s ↔ T.may r s ∧ ∀ b s', T.answers r s b s' → ok b s' :=
  Iff.rfl

/-- A refusal ends the action as an error does. -/
@[simp] theorem obeys_demand {r : Request τ (Except Error α)} :
    Obeys T ok err (demand r) s ↔
      T.may r s ∧ ∀ b s', T.answers r s b s' → ends ok err b s' :=
  Iff.rfl

/-- A value that may be an error ends the action at once. -/
@[simp] theorem obeys_ofExcept {x : Except Error α} :
    Obeys T ok err (ofExcept x) s ↔ ends ok err x s := by
  cases x <;> rfl

@[simp] theorem obeys_log {level : Level} {part : Part} {text : String} {ok : Unit → σ → Prop} :
    Obeys T ok err (log level part text) s ↔
      T.may (.log ⟨level, part, text⟩) s ∧
        ∀ u s', T.answers (.log ⟨level, part, text⟩) s u s' → ok u s' :=
  Iff.rfl

@[simp] theorem obeys_clock {ok : τ → σ → Prop} :
    Obeys T ok err clock s ↔ T.may .clock s ∧ ∀ t s', T.answers .clock s t s' → ok t s' :=
  Iff.rfl

/-- What an action obeys is what its program does, with one end for values and one for errors. -/
theorem obeys_run {x : Action τ α} :
    Obeys T ok err x s ↔ Program.Obeys T (ends ok err) x.run s :=
  Iff.rfl

/-- A cleanup comes between the end of the body and the conditions. -/
@[simp] theorem obeys_withCleanup {x : Action τ α} {cleanup : Program τ Unit} :
    Obeys T ok err (withCleanup x cleanup) s ↔
      Obeys T (fun a => cleanup.Obeys T fun _ => ok a) (fun e => cleanup.Obeys T fun _ => err e)
        x s := by
  refine Program.obeys_bind.trans (Program.obeys_congr fun r s => Program.obeys_bind.trans ?_)
  cases r <;> rfl

end Action

/-! ## Running -/

section Run

variable {τ σ α β : Type} (answer : {γ : Type} → Request τ γ → σ → γ × σ)

/-- A run of two parts is a run of the second from where the first has ended. -/
theorem Program.run_bind (p : Program τ α) (k : α → Program τ β) (s : σ) :
    (p.bind k).run answer s = (k (p.run answer s).1).run answer (p.run answer s).2 := by
  induction p generalizing s with
  | done a => rfl
  | ask r next ih => exact ih _ _

/-- An action goes on where it has not failed. -/
theorem Action.run_bind (x : Action τ α) (k : α → Action τ β) (s : σ) :
    Program.run answer (x >>= k).run s =
      match Program.run answer x.run s with
      | (.ok a, s') => Program.run answer (k a).run s'
      | (.error e, s') => (.error e, s') := by
  show Program.run answer (Program.bind x.run _) s = _
  rw [Program.run_bind]
  show Program.run answer (ExceptT.bindCont k _) _ = _
  rcases Program.run answer x.run s with ⟨_ | _, s'⟩ <;> rfl

end Run

-- The lemmas above are all that is ever unfolded: a program is not run to see what it obeys.
attribute [irreducible] Program.Obeys Action.Obeys

end Forge
