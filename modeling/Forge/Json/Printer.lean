import Forge.Json.Value
import Forge.Text.Quoted

/-!
# JSON documents

A document is laid out over lines, two blanks deeper for every level; an empty array or object
stays on one line. Characters stand as they are, except the quote, the backslash and the control
characters below the blank.
-/

namespace Forge.Json

/-- One character of a string in a document. -/
def escapeChar (c : Char) : List Char :=
  if c = '"' ∨ c = '\\' then ['\\', c]
  else if c = '\n' then ['\\', 'n']
  else if c = '\r' then ['\\', 'r']
  else if c = '\t' then ['\\', 't']
  else if c.toNat = 8 then ['\\', 'b']
  else if c.toNat = 12 then ['\\', 'f']
  else if c.toNat < 0x20 then '\\' :: 'u' :: Text.hexDigits 4 c.toNat
  else [c]

/-- A string in a document. -/
def renderString (s : String) : List Char :=
  '"' :: s.toList.flatMap escapeChar ++ ['"']

/-- A line end and the blanks before the next line at a depth. -/
def newLine (depth : Nat) : List Char :=
  '\n' :: List.replicate (2 * depth) ' '

mutual

/-- A value at a depth. -/
def renderAt (depth : Nat) : Json → List Char
  | .null => "null".toList
  | .bool true => "true".toList
  | .bool false => "false".toList
  | .int i => (toString i).toList
  | .real x => x.documentText.toList
  | .str s => renderString s
  | .arr [] => ['[', ']']
  | .arr (v :: vs) =>
    '[' :: newLine (depth + 1) ++ renderAt (depth + 1) v ++ renderItems (depth + 1) vs ++
      newLine depth ++ [']']
  | .obj [] => ['\x7b', '\x7d']
  | .obj ((k, v) :: ms) =>
    '\x7b' :: newLine (depth + 1) ++ renderString k ++ ':' :: ' ' :: renderAt (depth + 1) v ++
      renderMembers (depth + 1) ms ++ newLine depth ++ ['\x7d']

/-- The items after the first. -/
def renderItems (depth : Nat) : List Json → List Char
  | [] => []
  | v :: vs => ',' :: newLine depth ++ renderAt depth v ++ renderItems depth vs

/-- The members after the first. -/
def renderMembers (depth : Nat) : List (String × Json) → List Char
  | [] => []
  | (k, v) :: ms =>
    ',' :: newLine depth ++ renderString k ++ ':' :: ' ' :: renderAt depth v ++
      renderMembers depth ms

end

/-- The document of a value. -/
def render (v : Json) : String :=
  String.ofList (renderAt 0 v)

end Forge.Json
