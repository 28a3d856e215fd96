import Forge.Named
import Forge.Store.Cell

/-!
# Columns

A column of a table is seen as a `Field` of its rows: how its value is read from a row and written
to one. Statements that set columns by name pass a `Cell`, which is brought to the type of the
column: whole numbers become texts in columns of text, and a required column takes no empty cell.
A name is that of a column whatever the case of its ASCII letters, and of several values that a
statement gives to one column the last counts.
-/

namespace Forge

namespace Column

/-- The form in which names of columns are compared, with ASCII capitals made small. -/
def folded (name : String) : List Char := name.toList.map Char.toLower

/-- Whether two names are names of one column. -/
def same (a b : String) : Bool := folded a == folded b

/-- The value that a statement gives to a column: the last one under a name of it. -/
def given? (column : String) : List (String × Cell) → Option Cell
  | [] => none
  | (name, c) :: values =>
    match given? column values with
    | some later => some later
    | none => if same name column then some c else none

end Column

/-- A column of rows of type `ρ`. -/
inductive Field (ρ : Type) where
  | text (get : ρ → String) (set : String → ρ → ρ)
  | optionalText (get : ρ → Option String) (set : Option String → ρ → ρ)
  | int (get : ρ → Int) (set : Int → ρ → ρ)
  | optionalInt (get : ρ → Option Int) (set : Option Int → ρ → ρ)

namespace Field

variable {ρ : Type}

/-- The value of the column in a row. -/
def read : Field ρ → ρ → Cell
  | .text get _, r => .text (get r)
  | .optionalText get _, r => Cell.ofText? (get r)
  | .int get _, r => .int (get r)
  | .optionalInt get _, r => Cell.ofInt? (get r)

/-- The row with the column set, unless the column is required and the cell has no value for it. -/
def write? : Field ρ → Cell → ρ → Option ρ
  | .text _ set, c, r => c.asText?.map fun s => set s r
  | .optionalText _ set, c, r => some (set c.asText? r)
  | .int _ set, c, r => c.asInt?.map fun i => set i r
  | .optionalInt _ set, c, r => some (set c.asInt? r)

end Field

end Forge
