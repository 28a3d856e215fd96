import Forge.Named
import Forge.Number.Binary64

/-!
# TOML values

A document is a table: names with values, in the order in which they were first set. A value of a
date or a time is kept as it was written, because no setting is one.
-/

namespace Forge.Toml

/-- The value of a key. No document holds `nothing`; it stands for a key that was given no value
by other means. -/
inductive Value where
  | nothing
  | flag (b : Bool)
  | whole (i : Int)
  | real (x : Binary64)
  | text (s : String)
  | moment (written : String)
  | list (items : List Value)
  | table (members : List (String × Value))
deriving Repr, Inhabited

/-- A table of a document. -/
abbrev Table := List (String × Value)

/-- Why a text is no document. -/
inductive Fault where
  | malformed
  | tooManyDigits (count : Nat)
deriving DecidableEq, Repr

/-- No reading. -/
def refuse {α : Type} : Except Fault α := .error .malformed

end Forge.Toml
