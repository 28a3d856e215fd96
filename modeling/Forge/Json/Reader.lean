import Forge.Json.Value
import Forge.Text.Numeral
import Forge.Text.Surrogates

/-!
# Reading JSON documents

`read?` answers the value of a document. A number without a point and an exponent is a whole
number of any size, every other one a double; the three names for infinities and for no number are
read as well. Of two members with one key the later value stands in the earlier place. A code unit
of a surrogate that has no partner is read as the character that stands for it.
-/

namespace Forge.Json

/-- The text from the first character that is no blank of the format. -/
def skipBlanks (cs : List Char) : List Char :=
  cs.dropWhile fun c => c == ' ' || c == '\n' || c == '\r' || c == '\t'

/-- The number that four digits in base sixteen stand for. -/
def codeUnit? (a b c d : Char) : Option Nat := do
  let a ← Text.hexDigit? a
  let b ← Text.hexDigit? b
  let c ← Text.hexDigit? c
  let d ← Text.hexDigit? d
  some (((a * 16 + b) * 16 + c) * 16 + d)

variable (surrogates : Text.Surrogates)

/-- The character of a code unit that is no half of a pair. -/
def loneUnit (u : Nat) : Char :=
  if 0xd800 ≤ u ∧ u < 0xe000 then surrogates.character u else Char.ofNat u

/-- The characters up to the closing quote, and the text after it. -/
def readString? : List Char → Option (List Char × List Char)
  | [] => none
  | '"' :: r => some ([], r)
  | '\\' :: 'u' :: a :: b :: c :: d :: '\\' :: 'u' :: a' :: b' :: c' :: d' :: r => do
    let u ← codeUnit? a b c d
    let u' ← codeUnit? a' b' c' d'
    if 0xd800 ≤ u ∧ u < 0xdc00 ∧ 0xdc00 ≤ u' ∧ u' < 0xe000 then
      let (cs, rest) ← readString? r
      some (Char.ofNat (0x10000 + (u - 0xd800) * 0x400 + (u' - 0xdc00)) :: cs, rest)
    else
      let (cs, rest) ← readString? ('\\' :: 'u' :: a' :: b' :: c' :: d' :: r)
      some (loneUnit surrogates u :: cs, rest)
  | '\\' :: 'u' :: a :: b :: c :: d :: r => do
    let u ← codeUnit? a b c d
    let (cs, rest) ← readString? r
    some (loneUnit surrogates u :: cs, rest)
  | '\\' :: e :: r => do
    let c ← match e with
      | '"' => some '"'
      | '\\' => some '\\'
      | '/' => some '/'
      | 'b' => some '\x08'
      | 'f' => some '\x0c'
      | 'n' => some '\n'
      | 'r' => some '\r'
      | 't' => some '\t'
      | _ => none
    let (cs, rest) ← readString? r
    some (c :: cs, rest)
  | c :: r => do
    let (cs, rest) ← readString? r
    some (c :: cs, rest)

/-- Whether a character can stand in a number. -/
def isNumberChar (c : Char) : Bool :=
  (Text.plainDigit? c).isSome || c == '-' || c == '+' || c == '.' || c == 'e' || c == 'E'

/-- The number that a row of number characters stands for. -/
def number? (cs : List Char) : Option Json :=
  let (negative, body) := match cs with
    | '-' :: r => (true, r)
    | r => (false, r)
  if body.all fun c => (Text.plainDigit? c).isSome then
    let n := Text.ofDigits (body.filterMap Text.plainDigit?)
    if body.isEmpty then none else some (.int (if negative then -(n : Int) else n))
  else (Text.decimal? body).map fun d => .real (Binary64.ofDecimal negative d)

mutual

/-- The first value of the text, and the text after it. -/
def readValue? : Nat → List Char → Option (Json × List Char)
  | 0, _ => none
  | fuel + 1, cs =>
    match skipBlanks cs with
    | 'n' :: 'u' :: 'l' :: 'l' :: r => some (.null, r)
    | 't' :: 'r' :: 'u' :: 'e' :: r => some (.bool true, r)
    | 'f' :: 'a' :: 'l' :: 's' :: 'e' :: r => some (.bool false, r)
    | 'N' :: 'a' :: 'N' :: r => some (.real .nan, r)
    | 'I' :: 'n' :: 'f' :: 'i' :: 'n' :: 'i' :: 't' :: 'y' :: r =>
      some (.real (.infinite false), r)
    | '-' :: 'I' :: 'n' :: 'f' :: 'i' :: 'n' :: 'i' :: 't' :: 'y' :: r =>
      some (.real (.infinite true), r)
    | '"' :: r => (readString? surrogates r).map fun (s, r) => (.str (String.ofList s), r)
    | '[' :: r =>
      match skipBlanks r with
      | ']' :: r => some (.arr [], r)
      | r => (readItems? fuel r).map fun (vs, r) => (.arr vs, r)
    | '\x7b' :: r =>
      match skipBlanks r with
      | '\x7d' :: r => some (.obj [], r)
      | r => (readMembers? fuel [] r).map fun (ms, r) => (.obj ms, r)
    | r =>
      (number? (r.takeWhile isNumberChar)).map fun v => (v, r.dropWhile isNumberChar)

/-- The items up to the closing bracket. -/
def readItems? : Nat → List Char → Option (List Json × List Char)
  | 0, _ => none
  | fuel + 1, cs => do
    let (v, r) ← readValue? fuel cs
    match skipBlanks r with
    | ']' :: r => some ([v], r)
    | ',' :: r =>
      let (vs, r) ← readItems? fuel r
      some (v :: vs, r)
    | _ => none

/-- The members up to the closing brace, after the members `done`. -/
def readMembers? : Nat → List (String × Json) → List Char →
    Option (List (String × Json) × List Char)
  | 0, _, _ => none
  | fuel + 1, done, cs => do
    match skipBlanks cs with
    | '"' :: r =>
      let (k, r) ← readString? surrogates r
      match skipBlanks r with
      | ':' :: r =>
        let (v, r) ← readValue? fuel r
        let done := Named.put (String.ofList k) v done
        match skipBlanks r with
        | '\x7d' :: r => some (done, r)
        | ',' :: r => readMembers? fuel done r
        | _ => none
      | _ => none
    | _ => none

end

/-- The value of a document. -/
def read? (s : String) : Option Json :=
  let cs := s.toList
  match readValue? surrogates (cs.length + 1) cs with
  | some (v, r) => if (skipBlanks r).isEmpty then some v else none
  | none => none

end Forge.Json
