import Forge.Entity
import Forge.Json.Value
import Forge.Time.Stamp

/-!
# Showing values

How lists of tickets show times, states and long titles, and in which order.
-/

namespace Forge.Cli

/-- The text of a time in milliseconds, or a dash if it has none. -/
def timeText (ms : Int) : String :=
  (Stamp.isoText? ms).getD "-"

/-- The characters of a text up to an end, which counts from the end of the text if it is
negative. -/
def upTo (cs : List Char) (stop : Int) : List Char :=
  if 0 ≤ stop then cs.take stop.toNat else cs.take (cs.length + stop).toNat

/-- The text without the blanks around it, cut to a number of characters. A text that is cut ends
in three points, if there is room for them. -/
def truncate (text : String) (limit : Int) : String :=
  let cs := Text.trim Text.isBlank text.toList
  if cs.length ≤ limit then String.ofList cs
  else if limit ≤ 3 then String.ofList (upTo cs limit)
  else String.ofList (upTo cs (limit - 3) ++ ['.', '.', '.'])

/-- The orders of a list of tickets. -/
inductive Order where
  | created
  | updated
deriving DecidableEq, Repr

/-- The name of an order. -/
def Order.text : Order → String
  | .created => "created"
  | .updated => "updated"

/-- The order of a name. Every other name leaves the list as it is. -/
def Order.ofText (s : String) : Order :=
  if s = Order.updated.text then .updated else .created

/-- The latest update first, of tickets updated at one time the one with the greater id. Tickets
that agree in both stay in the order they have. -/
def latestFirst {α : Type} (updatedAt id : α → Int) (rows : List α) : List α :=
  rows.mergeSort fun a b =>
    decide (updatedAt b < updatedAt a) || (updatedAt a == updatedAt b && decide (id b ≤ id a))

/-- The list in an order, the list being the newest first. -/
def sortRows {α : Type} (order : Order) (updatedAt id : α → Int) (rows : List α) : List α :=
  match order with
  | .created => rows
  | .updated => latestFirst updatedAt id rows

/-- The colours of states. -/
def stateColours : List (String × String) :=
  [("open", "green"), ("merged", "magenta"), ("closed", "red")]

/-- The text of a state between the marks of its colour, if it has one. -/
def styledState (state : String) : String :=
  match Named.get? state stateColours with
  | some colour => "[" ++ colour ++ "]" ++ state ++ "[/" ++ colour ++ "]"
  | none => state

end Forge.Cli
