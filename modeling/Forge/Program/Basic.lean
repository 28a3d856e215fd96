import Forge.Program.Request

/-!
# Programs

A `Program` is an answer, or a request and what to do with its answer. The same program can be run
against one surrounding that answers from a state (`run`), and stepped through request by request
where several of them share their surroundings. An `Action` is a program that may fail.
-/

namespace Forge

/-- A value, or a request together with the program that follows on its answer. -/
inductive Program (τ : Type) (α : Type) : Type 1 where
  | done (a : α)
  | ask {β : Type} (request : Request τ β) (next : β → Program τ α)

namespace Program

variable {τ α β σ : Type}

/-- The first program, and then the second on its value. -/
def bind : Program τ α → (α → Program τ β) → Program τ β
  | .done a, k => k a
  | .ask r next, k => .ask r fun b => bind (next b) k

instance : Monad (Program τ) where
  pure := .done
  bind := bind

/-- The program that makes one request and answers its answer. -/
def request (r : Request τ α) : Program τ α :=
  .ask r .done

/-- Runs a program against surroundings that answer each request from their state. -/
def run (answer : {β : Type} → Request τ β → σ → β × σ) : Program τ α → σ → α × σ
  | .done a, s => (a, s)
  | .ask r next, s =>
    let (b, s') := answer r s
    (next b).run answer s'

end Program

/-- A program that may fail. -/
abbrev Action (τ : Type) : Type → Type 1 := ExceptT Error (Program τ)

namespace Action

variable {τ α : Type}

/-- Makes a request that does not fail. -/
def ask (r : Request τ α) : Action τ α :=
  ExceptT.lift (Program.request r)

/-- Makes a request and fails if its answer is an error. -/
def demand (r : Request τ (Except Error α)) : Action τ α :=
  ExceptT.mk (Program.request r)

/-- Makes a request and answers its value or its error. -/
def attempt (r : Request τ (Except Error α)) : Action τ (Except Error α) :=
  ask r

/-- The value, or the failure. -/
def ofExcept : Except Error α → Action τ α
  | .ok a => pure a
  | .error e => throw e

/-- Runs the body, and then the cleanup, however the body has ended. -/
def withCleanup (body : Action τ α) (cleanup : Program τ Unit) : Action τ α :=
  ExceptT.mk do
    let r ← body.run
    cleanup
    pure r

/-- Makes a log record. -/
def log (level : Level) (part : Part) (text : String) : Action τ Unit :=
  ask (.log ⟨level, part, text⟩)

/-- The monotonic clock. -/
def clock : Action τ τ := ask .clock

end Action

end Forge
