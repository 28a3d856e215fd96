import Forge.Json.Printer
import Forge.Text.Surrogates

/-!
# JSON lines

A value on one line, without blanks and in the common alphabet: every character outside it stands
as the numbers of its code units, and one that stands for a surrogate as the code point of that.
-/

namespace Forge.Json

/-- A code unit by its number. -/
def unitText (n : Nat) : List Char := '\\' :: 'u' :: Text.hexDigits 4 n

variable (surrogates : Text.Surrogates)

/-- One character of a string on a line. -/
def lineChar (c : Char) : List Char :=
  let n := c.toNat
  if c = '"' ∨ c = '\\' then ['\\', c]
  else if 0x20 ≤ n ∧ n < 0x7f then [c]
  else if n < 0x10000 then unitText n
  else if surrogates.holds c then unitText (surrogates.code c)
  else unitText (0xd800 + (n - 0x10000) / 0x400) ++ unitText (0xdc00 + (n - 0x10000) % 0x400)

/-- A string on a line. -/
def lineString (s : String) : String :=
  String.ofList ('"' :: s.toList.flatMap (lineChar surrogates) ++ ['"'])

mutual

/-- A value on one line. -/
def line : Json → String
  | .null => "null"
  | .bool b => if b then "true" else "false"
  | .int i => toString i
  | .real x => x.documentText
  | .str s => lineString surrogates s
  | .arr vs => "[" ++ ",".intercalate (lineItems vs) ++ "]"
  | .obj ms => "\x7b" ++ ",".intercalate (lineMembers ms) ++ "\x7d"

/-- The items of an array on a line. -/
def lineItems : List Json → List String
  | [] => []
  | v :: vs => line v :: lineItems vs

/-- The members of an object on a line. -/
def lineMembers : List (String × Json) → List String
  | [] => []
  | (k, v) :: ms => (lineString surrogates k ++ ":" ++ line v) :: lineMembers ms

end

end Forge.Json
