import Forge.Cli.Mode
import Forge.Log

/-!
# Drawings

In the rich mode a command draws tables and panels, and log records are drawn too. A drawing says
what is drawn and on which console; how it looks there is the business of the terminal.
-/

namespace Forge.Cli

/-- A console: the error output or the output, with or without the means of a terminal. -/
structure Console where
  errors : Bool
  rich : Bool
deriving DecidableEq, Repr

/-- A drawing. -/
inductive Drawing where
  | table (title : String) (columns : List (String × Bool)) (rows : List (List String))
      (console : Console)
  | panel (title body : String) (console : Console)
  | record (level : Level) (text : String)
deriving DecidableEq, Repr

namespace Drawing

/-- The columns of a table: all but the last keep their text on one line. -/
def columnsOf : List String → List (String × Bool)
  | [] => []
  | [h] => [(h, false)]
  | h :: hs => (h, true) :: columnsOf hs

/-- A table with a title and a row of headers. -/
def tableOf (console : Console) (title : String) (headers : List String)
    (rows : List (List String)) : Drawing :=
  .table title (columnsOf headers) rows console

/-- A panel with a title. An empty body is replaced. -/
def block (console : Console) (title body empty : String) : Drawing :=
  let shown := Text.strip body
  .panel title (if shown = "" then empty else shown) console

/-- What a panel shows if nothing is said about its empty body. -/
def nothingThere : String := "(none)"

/-- A drawing in lines of text, for an output that cannot show it better. -/
def text : Drawing → String
  | .table title columns rows _ =>
    let line (cells : List String) : String := "  ".intercalate cells ++ "\n"
    title ++ "\n" ++ line (columns.map (·.1)) ++ String.join (rows.map line)
  | .panel title body _ => title ++ "\n" ++ body ++ "\n"
  | .record level text => level.text ++ " " ++ text ++ "\n"

end Drawing

end Forge.Cli
