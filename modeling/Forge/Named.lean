/-!
# Named values

Objects, rows and assignments are lists of named values, kept in the order in which the names
first came up.
-/

namespace Forge.Named

variable {β : Type}

/-- The list with `name` set to `value`: a name that is there keeps its place, a new one goes to
the end. -/
def put (name : String) (value : β) : List (String × β) → List (String × β)
  | [] => [(name, value)]
  | (n, v) :: l => if n = name then (n, value) :: l else (n, v) :: put name value l

/-- The value of a name. -/
def get? (name : String) : List (String × β) → Option β
  | [] => none
  | (n, v) :: l => if n = name then some v else get? name l

end Forge.Named
