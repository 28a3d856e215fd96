import Forge.Error

/-!
# Cells

A `Cell` is the value of a column in a statement, or a parameter of it. The engine takes whole
numbers of 64 bits and texts that have a UTF-8 form; `Cell.refusal?` is the error for another cell.
-/

namespace Forge

/-- The value of a column in a statement. -/
inductive Cell where
  | null
  | int (i : Int)
  | text (s : String)
deriving DecidableEq, Repr

namespace Transaction

/-- The least whole number above those that fit into 64 bits with a sign, two to the power of
63. -/
def bound : Int := 9223372036854775808

/-- Whether a whole number fits into 64 bits. -/
def fits (i : Int) : Bool :=
  decide (-bound ≤ i) && decide (i < bound)

end Transaction

namespace Cell

/-- The cell of an optional text. -/
def ofText? : Option String → Cell
  | some s => .text s
  | none => .null

/-- The cell of an optional whole number. -/
def ofInt? : Option Int → Cell
  | some i => .int i
  | none => .null

/-- The error of the engine for a parameter that it cannot take. -/
def refusal? (surrogates : Text.Surrogates) : Cell → Option Error
  | .null => none
  | .int i => if Transaction.fits i then none else some .integerTooWide
  | .text s => (surrogates.fault? s).map .unwritable

/-- The text in the cell, if there is a value. -/
def asText? : Cell → Option String
  | .null => none
  | .int i => some (toString i)
  | .text s => some s

/-- The whole number in the cell, if it holds one. -/
def asInt? : Cell → Option Int
  | .null => none
  | .int i => some i
  | .text s => s.toInt?

end Cell

end Forge
