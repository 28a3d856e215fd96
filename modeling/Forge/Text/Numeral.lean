import Forge.Number.Decimal
import Forge.Text.Blank
import Forge.Text.Quoted

/-!
# Numbers written as text

A number may stand between blanks, may have a sign, may be written with the decimal digits of any
script, and may have single underscores between digits. `readInt` reads whole numbers and
`readReal` doubles, which may also have a fraction, an exponent, or be infinite or no number.
-/

namespace Forge.Text

/-- The blanks that may stand around a number: all but the information separators. -/
def isNumberBlank (c : Char) : Bool :=
  isBlank c && !(decide (0x1c ≤ c.toNat) && decide (c.toNat ≤ 0x1f))

/-- The most digits that a whole number may be written with. -/
def maxDigits : Nat := 4300

/-- Why a text is no whole number. -/
inductive NumeralError where
  | malformed (text : String)
  | tooLong (count : Nat)
deriving DecidableEq, Repr

/-- What is shown of a malformed numeral: its quoted form, cut after 200 characters. -/
def NumeralError.message : NumeralError → String
  | .malformed text =>
    "invalid literal for int() with base 10: " ++ String.ofList ((quoted text).toList.take 200)
  | .tooLong count =>
    "Exceeds the limit (4300 digits) for integer string conversion: value has " ++
      toString count ++ " digits; use sys.set_int_max_str_digits() to increase the limit"

/-- A sign at the start of a text: whether it is a minus, and what follows it. -/
def takeSign : List Char → Bool × List Char
  | '-' :: r => (true, r)
  | '+' :: r => (false, r)
  | r => (false, r)

/-- The values of a row of digits that takes up the whole text, with single underscores between
digits only. -/
def digitRow? : List Char → Option (List Nat)
  | [] => none
  | [c] => (digitValue? c).map ([·])
  | c :: '_' :: r => do
    let d ← digitValue? c
    let ds ← digitRow? r
    some (d :: ds)
  | c :: r => do
    let d ← digitValue? c
    let ds ← digitRow? r
    some (d :: ds)

/-- The whole number that a text stands for. -/
def readInt (s : String) : Except NumeralError Int :=
  let (negative, body) := takeSign (trim isNumberBlank s.toList)
  match digitRow? body with
  | none => .error (.malformed s)
  | some ds =>
    if maxDigits < ds.length then .error (.tooLong ds.length)
    else .ok (if negative then -(ofDigits ds : Int) else ofDigits ds)

/-- The digits at the start of a text, with single underscores between them, and the rest. -/
def spanDigits : List Char → List Nat × List Char
  | [] => ([], [])
  | c :: '_' :: r =>
    match digitValue? c, spanDigits r with
    | none, _ => ([], c :: '_' :: r)
    | some d, ([], _) => ([d], '_' :: r)
    | some d, (ds, rest) => (d :: ds, rest)
  | c :: r =>
    match digitValue? c, spanDigits r with
    | none, _ => ([], c :: r)
    | some d, (ds, rest) => (d :: ds, rest)

/-- The exponent at the start of a text: an `e`, a sign and digits. `none` means that an `e` has
no digits after it. -/
def spanExponent? : List Char → Option (Int × List Char)
  | c :: r =>
    if c = 'e' ∨ c = 'E' then
      let (negative, r) := takeSign r
      match spanDigits r with
      | ([], _) => none
      | (ds, rest) => some (if negative then -(ofDigits ds : Int) else ofDigits ds, rest)
    else some (0, c :: r)
  | [] => some (0, [])

/-- The unsigned decimal that takes up the whole text: digits with a point among them or not, at
least one digit, and an exponent or none. -/
def decimal? (cs : List Char) : Option Decimal := do
  let (whole, r) := spanDigits cs
  let (fraction, r) := match r with
    | '.' :: r => spanDigits r
    | r => ([], r)
  if whole.isEmpty && fraction.isEmpty then none
  else
    let (e, r) ← spanExponent? r
    if r.isEmpty then some ⟨ofDigits (whole ++ fraction), e - fraction.length⟩ else none

/-- The text with the letters of the common alphabet in lower case. -/
def plainLower (cs : List Char) : List Char :=
  cs.map Char.toLower

/-- The double that a text stands for. -/
def readReal? (s : String) : Option Binary64 :=
  let (negative, body) := takeSign (trim isNumberBlank s.toList)
  let word := String.ofList (plainLower body)
  if word = "inf" ∨ word = "infinity" then some (.infinite negative)
  else if word = "nan" then some .nan
  else (decimal? body).map fun d => Binary64.ofDecimal negative d

end Forge.Text
