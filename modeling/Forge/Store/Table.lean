/-!
# Tables

A table is a list of rows in the order in which they were added, and the last id it has given
out. Ids count up and none is given out twice, also after rows have been removed.
-/

namespace Forge

/-- Rows of type `ρ`, and the last id that one of them got. -/
structure Table (ρ : Type) where
  rows : List ρ
  lastId : Int
deriving Repr, DecidableEq

namespace Table

variable {ρ : Type}

/-- The table that has never had a row. -/
def empty : Table ρ := ⟨[], 0⟩

/-- The id that the next row gets. -/
def nextId (t : Table ρ) : Int := t.lastId + 1

/-- The table with one more row, built from its id. -/
def insert (t : Table ρ) (build : Int → ρ) : Table ρ :=
  ⟨t.rows ++ [build t.nextId], t.nextId⟩

/-- The table with every row that satisfies `p` changed by `f`. -/
def modify (t : Table ρ) (p : ρ → Bool) (f : ρ → ρ) : Table ρ :=
  ⟨t.rows.map fun r => if p r then f r else r, t.lastId⟩

/-- The table without the rows that satisfy `p`. -/
def remove (t : Table ρ) (p : ρ → Bool) : Table ρ :=
  ⟨t.rows.filter fun r => !p r, t.lastId⟩

/-- Whether some row satisfies `p`. -/
def any (t : Table ρ) (p : ρ → Bool) : Bool := t.rows.any p

/-- The number of rows that satisfy `p`. -/
def count (t : Table ρ) (p : ρ → Bool) : Nat := t.rows.countP p

end Table

end Forge
