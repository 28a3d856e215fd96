import Forge.Text.Digit
import Forge.Text.Quoted
import Forge.Toml.Value

/-!
# Text in TOML documents

Blanks, comments, the four kinds of strings, and keys. A string in single quotes stands for what is
written; in one in double quotes a backslash starts an escape. Three quotes open a string of
several lines.
-/

namespace Forge.Toml

/-! ## Blanks and comments -/

/-- The blanks within a line. -/
def isBlank (c : Char) : Bool := c == ' ' || c == '\t'

/-- The blanks within a line and line ends. -/
def isSpace (c : Char) : Bool := isBlank c || c == '\n'

/-- The characters that stand nowhere within a line. -/
def isControl (c : Char) : Bool := (decide (c.toNat < 0x20) && c != '\t') || c.toNat == 0x7f

/-- The characters that stand nowhere in a string of several lines. -/
def isControlAmongLines (c : Char) : Bool := isControl c && c != '\n'

/-- The text after the blanks. -/
def skipBlanks (cs : List Char) : List Char := cs.dropWhile isBlank

/-- The text after a comment, if it starts with one. -/
def skipComment : List Char → Except Fault (List Char)
  | '#' :: cs =>
    if (cs.takeWhile (· != '\n')).any isControl then refuse
    else .ok (cs.dropWhile (· != '\n'))
  | cs => .ok cs

/-- The text after all blanks, line ends and comments. -/
def skipSpace : Nat → List Char → Except Fault (List Char)
  | 0, cs => .ok cs
  | fuel + 1, cs => do
    match ← skipComment (cs.dropWhile isSpace) with
    | [] => .ok []
    | c :: r => if isSpace c then skipSpace fuel (c :: r) else .ok (c :: r)

/-! ## Strings -/

/-- The number of a row of digits in base sixteen. -/
def hexNumber? (cs : List Char) : Option Nat :=
  cs.foldl (fun n c => do some ((← n) * 16 + (← Text.hexDigit? c))) (some 0)

/-- The character whose number is written with `width` digits. -/
def escapedNumber (width : Nat) (cs : List Char) : Except Fault (List Char × List Char) :=
  let ds := cs.take width
  match hexNumber? ds with
  | some n =>
    if ds.length = width ∧ (n < 0xd800 ∨ (0xe000 ≤ n ∧ n ≤ 0x10ffff)) then
      .ok ([Char.ofNat n], cs.drop width)
    else refuse
  | none => refuse

/-- The line end that a backslash has hidden, with the blanks around it, up to the next line that
is not blank. -/
def hiddenLineEnd (cs : List Char) : Except Fault (List Char × List Char) :=
  match skipBlanks cs with
  | [] => .ok ([], [])
  | '\n' :: r => .ok ([], r.dropWhile isSpace)
  | _ => refuse

/-- What the text after a backslash stands for. -/
def escaped (amongLines : Bool) : List Char → Except Fault (List Char × List Char)
  | 'b' :: r => .ok (['\x08'], r)
  | 't' :: r => .ok (['\t'], r)
  | 'n' :: r => .ok (['\n'], r)
  | 'f' :: r => .ok (['\x0c'], r)
  | 'r' :: r => .ok (['\r'], r)
  | '"' :: r => .ok (['"'], r)
  | '\\' :: r => .ok (['\\'], r)
  | 'u' :: r => escapedNumber 4 r
  | 'U' :: r => escapedNumber 8 r
  | c :: r => if amongLines && isSpace c then hiddenLineEnd (c :: r) else refuse
  | [] => refuse

/-- The characters up to the closing double quote. -/
def basicString : Nat → List Char → Except Fault (List Char × List Char)
  | 0, _ => refuse
  | _, [] => refuse
  | _, '"' :: r => .ok ([], r)
  | fuel + 1, '\\' :: r => do
    let (c, r) ← escaped false r
    let (cs, r) ← basicString fuel r
    .ok (c ++ cs, r)
  | fuel + 1, c :: r =>
    if isControl c then refuse
    else do
      let (cs, r) ← basicString fuel r
      .ok (c :: cs, r)

/-- The characters up to three closing double quotes. -/
def basicLines : Nat → List Char → Except Fault (List Char × List Char)
  | 0, _ => refuse
  | _, [] => refuse
  | _, '"' :: '"' :: '"' :: r => .ok ([], r)
  | fuel + 1, '\\' :: r => do
    let (c, r) ← escaped true r
    let (cs, r) ← basicLines fuel r
    .ok (c ++ cs, r)
  | fuel + 1, c :: r =>
    if isControlAmongLines c then refuse
    else do
      let (cs, r) ← basicLines fuel r
      .ok (c :: cs, r)

/-- The characters up to the closing single quote. -/
def literalString : List Char → Except Fault (List Char × List Char)
  | [] => refuse
  | '\'' :: r => .ok ([], r)
  | c :: r =>
    if isControl c then refuse
    else do
      let (cs, r) ← literalString r
      .ok (c :: cs, r)

/-- The characters up to three closing single quotes. -/
def literalLines : List Char → Except Fault (List Char × List Char)
  | [] => refuse
  | '\'' :: '\'' :: '\'' :: r => .ok ([], r)
  | c :: r =>
    if isControlAmongLines c then refuse
    else do
      let (cs, r) ← literalLines r
      .ok (c :: cs, r)

/-- Takes up to two more quotes, which belong to the string that has just been closed by three. -/
def withLastQuotes (q : Char) (cs : List Char) : List Char → List Char × List Char
  | a :: b :: r =>
    if a = q then if b = q then (cs ++ [q, q], r) else (cs ++ [q], b :: r) else (cs, a :: b :: r)
  | [a] => if a = q then (cs ++ [q], []) else (cs, [a])
  | [] => (cs, [])

/-- The text after one line end. -/
def skipLineEnd : List Char → List Char
  | '\n' :: r => r
  | r => r

/-- A string of one or several lines, from its opening quote on. -/
def anyString : List Char → Except Fault (String × List Char)
  | '"' :: '"' :: '"' :: r => do
    let (cs, r) ← basicLines (r.length + 1) (skipLineEnd r)
    let (cs, r) := withLastQuotes '"' cs r
    .ok (String.ofList cs, r)
  | '\'' :: '\'' :: '\'' :: r => do
    let (cs, r) ← literalLines (skipLineEnd r)
    let (cs, r) := withLastQuotes '\'' cs r
    .ok (String.ofList cs, r)
  | '"' :: r => do
    let (cs, r) ← basicString (r.length + 1) r
    .ok (String.ofList cs, r)
  | '\'' :: r => do
    let (cs, r) ← literalString r
    .ok (String.ofList cs, r)
  | _ => refuse

/-! ## Keys -/

/-- The characters of a key without quotes. -/
def isBare (c : Char) : Bool :=
  let n := c.toNat
  (decide (97 ≤ n) && decide (n ≤ 122)) || (decide (65 ≤ n) && decide (n ≤ 90)) ||
    (decide (48 ≤ n) && decide (n ≤ 57)) || c == '-' || c == '_'

/-- One name of a key: bare or a string of one line. -/
def keyPart : List Char → Except Fault (String × List Char)
  | '"' :: r => do
    let (cs, r) ← basicString (r.length + 1) r
    .ok (String.ofList cs, r)
  | '\'' :: r => do
    let (cs, r) ← literalString r
    .ok (String.ofList cs, r)
  | cs =>
    let bare := cs.takeWhile isBare
    if bare.isEmpty then refuse else .ok (String.ofList bare, cs.dropWhile isBare)

/-- A key: names with points between them. -/
def key : Nat → List Char → Except Fault (List String × List Char)
  | 0, _ => refuse
  | fuel + 1, cs => do
    let (name, r) ← keyPart cs
    match skipBlanks r with
    | '.' :: r =>
      let (names, r) ← key fuel (skipBlanks r)
      .ok (name :: names, r)
    | r => .ok ([name], r)

end Forge.Toml
