import Forge.Store.Basic
import Forge.Store.Cell

/-!
# Transactions

A transaction is a run of statements on a store. One that fails leaves behind what its statements
did up to then, so that several can be tried one after another; `commit` keeps the changes of a
whole transaction that succeeds and drops those of one that fails.
-/

namespace Forge

/-- Statements that take a store to an answer, or an error, and a store. -/
structure Transaction (α : Type) where
  run : Store → Except Error α × Store

namespace Transaction

variable {α β : Type}

instance : Monad Transaction where
  pure a := ⟨fun s => (.ok a, s)⟩
  bind t k := ⟨fun s =>
    match t.run s with
    | (.ok a, s') => (k a).run s'
    | (.error e, s') => (.error e, s')⟩

/-- The transaction that only fails. -/
def fail (e : Error) : Transaction α := ⟨fun s => (.error e, s)⟩

/-- The value of a function of the store. -/
def view (f : Store → α) : Transaction α := ⟨fun s => (.ok (f s), s)⟩

/-- The store as it stands. -/
def whole : Transaction Store := view fun s => s

/-- The change of the store by a function. -/
def change (f : Store → Store) : Transaction Unit := ⟨fun s => (.ok (), f s)⟩

/-- The transaction that answers a value, or fails with an error. -/
def ofExcept : Except Error α → Transaction α
  | .ok a => pure a
  | .error e => fail e

/-- Fails with a report of the engine. -/
def refuse (e : EngineError) : Transaction α := fail (.engine e)

/-- Fails with `e` unless `b` holds. -/
def ensure (b : Bool) (e : Error) : Transaction Unit :=
  if b then pure () else fail e

/-- Runs a transaction as a whole: the changes of one that fails are dropped. -/
def commit (t : Transaction α) (s : Store) : Except Error α × Store :=
  match t.run s with
  | (.ok a, s') => (.ok a, s')
  | (.error e, _) => (.error e, s)

/-- Fails at the first parameter of a statement that the engine cannot take. -/
def bindCells (parameters : List Cell) : Transaction Unit := do
  let surrogates ← view Store.surrogates
  match parameters.findSome? (Cell.refusal? surrogates) with
  | some e => fail e
  | none => pure ()

/-- Fails unless all parameters of a statement, which are whole numbers, fit into 64 bits. -/
def bindAll (parameters : List Int) : Transaction Unit :=
  ensure (parameters.all fits) .integerTooWide

/-- Fails unless a statement's own table is there. -/
def useTable (name : TableName) : Transaction Unit := do
  let withdrawn ← view Store.withdrawn
  if withdrawn.contains name then refuse (.noSuchTable name.text) else pure ()

/-- The whole store; fails unless all its tables are there. -/
def allTables : Transaction Store := do
  for name in TableName.all do useTable name
  whole

/-- Fails unless the table is there to which the rows of a changed table refer. -/
def useParent (name : TableName) : Transaction Unit := do
  let withdrawn ← view Store.withdrawn
  if withdrawn.contains name then refuse (.noSuchTable ("main." ++ name.text)) else pure ()

/-- Fails with a violated constraint unless `b` holds. -/
def check (b : Bool) (v : Violation) : Transaction Unit :=
  ensure b (.engine (.violated v))

/-- The value of a required column, or the violation of its constraint. -/
def required (table : TableName) (column : String) : Option α → Transaction α
  | some a => pure a
  | none => refuse (.violated (.missingValue table column))

end Transaction

end Forge
