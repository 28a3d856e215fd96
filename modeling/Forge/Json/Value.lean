import Forge.Named
import Forge.Number.Decimal

/-!
# JSON values

The output of a command can be a JSON document. A value keeps the order of the members of its
objects, and tells whole numbers, which have any size, from doubles.
-/

namespace Forge

/-- A JSON value. -/
inductive Json where
  | null
  | bool (b : Bool)
  | int (i : Int)
  | real (x : Binary64)
  | str (s : String)
  | arr (items : List Json)
  | obj (members : List (String × Json))
deriving Repr, Inhabited

namespace Json

/-- The value of a text or of nothing. -/
def ofText? : Option String → Json
  | some s => .str s
  | none => .null

/-- The value of a whole number or of nothing. -/
def ofInt? : Option Int → Json
  | some i => .int i
  | none => .null

mutual

/-- The value with every text in it changed, keys as well. -/
def mapTexts (f : String → String) : Json → Json
  | .str s => .str (f s)
  | .arr vs => .arr (mapItems f vs)
  | .obj ms => .obj (mapMembers f ms)
  | v => v

/-- The items with every text in them changed. -/
def mapItems (f : String → String) : List Json → List Json
  | [] => []
  | v :: vs => mapTexts f v :: mapItems f vs

/-- The members with every text in them changed. -/
def mapMembers (f : String → String) : List (String × Json) → List (String × Json)
  | [] => []
  | (k, v) :: ms => (f k, mapTexts f v) :: mapMembers f ms

end

end Json

end Forge
