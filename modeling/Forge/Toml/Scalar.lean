import Forge.Text.Numeral
import Forge.Time.Calendar
import Forge.Toml.Value

/-!
# Numbers, dates and times in TOML documents

Each reader answers the value at the start of a text and the text after it, or nothing if there is
no such value. A number is as long as it can be; what stands after it is for the caller to judge.
-/

namespace Forge.Toml

/-! ## Numbers -/

/-- The rest of a row of digits, single underscores between them. -/
def moreDigits (isDigit : Char → Bool) : List Char → List Char × List Char
  | '_' :: c :: r =>
    if isDigit c then
      let (ds, rest) := moreDigits isDigit r
      (c :: ds, rest)
    else ([], '_' :: c :: r)
  | c :: r =>
    if isDigit c then
      let (ds, rest) := moreDigits isDigit r
      (c :: ds, rest)
    else ([], c :: r)
  | [] => ([], [])

/-- A row of digits, at least one. -/
def digitRow? (isDigit : Char → Bool) : List Char → Option (List Char × List Char)
  | c :: r =>
    if isDigit c then
      let (ds, rest) := moreDigits isDigit r
      some (c :: ds, rest)
    else none
  | [] => none

/-- Whether a character is a digit of a base up to sixteen. -/
def isDigitOf (base : Nat) (c : Char) : Bool :=
  match (if c.toNat < 128 then Text.plainDigit? c.toLower else none) with
  | some d => decide (d < base)
  | none => base == 16 && decide (97 ≤ c.toLower.toNat) && decide (c.toLower.toNat ≤ 102)

/-- The value of a digit of a base up to sixteen. -/
def digitOf (c : Char) : Nat :=
  (Text.plainDigit? c).getD (c.toLower.toNat - 87)

/-- The natural that digits of a base stand for. -/
def ofBase (base : Nat) (ds : List Char) : Nat :=
  ds.foldl (fun n c => n * base + digitOf c) 0

/-- A whole number in base two, eight or sixteen. -/
def based? : List Char → Option (Int × List Char)
  | '0' :: 'x' :: r => (digitRow? (isDigitOf 16) r).map fun (ds, r) => ((ofBase 16 ds : Int), r)
  | '0' :: 'o' :: r => (digitRow? (isDigitOf 8) r).map fun (ds, r) => ((ofBase 8 ds : Int), r)
  | '0' :: 'b' :: r => (digitRow? (isDigitOf 2) r).map fun (ds, r) => ((ofBase 2 ds : Int), r)
  | _ => none

/-- The digits before the point: a zero alone, or a row that does not start with zero. -/
def wholePart? : List Char → Option (List Char × List Char)
  | '0' :: r => some (['0'], r)
  | r => digitRow? (isDigitOf 10) r

/-- A point and the digits after it. -/
def fraction? : List Char → Option (List Char × List Char)
  | '.' :: r => digitRow? (isDigitOf 10) r
  | _ => none

/-- An exponent. -/
def exponent? : List Char → Option (Int × List Char)
  | c :: r =>
    if c = 'e' ∨ c = 'E' then
      let (negative, r) := Text.takeSign r
      (digitRow? (isDigitOf 10) r).map fun (ds, r) =>
        (if negative then -(ofBase 10 ds : Int) else ofBase 10 ds, r)
    else none
  | [] => none

/-- A number in base ten. -/
def decimalNumber? (cs : List Char) : Option (Except Fault (Value × List Char)) :=
  let (negative, body) := Text.takeSign cs
  match wholePart? body with
  | none => none
  | some (whole, r) =>
    let (fraction, afterFraction) := (fraction? r).getD ([], r)
    match exponent? afterFraction, fraction.isEmpty with
    | none, true =>
      if Text.maxDigits < whole.length then some (.error (.tooManyDigits whole.length))
      else
        let n : Int := ofBase 10 whole
        some (.ok (.whole (if negative then -n else n), r))
    | e, _ =>
      let (exponent, rest) := e.getD (0, afterFraction)
      let d : Decimal := ⟨ofBase 10 (whole ++ fraction), exponent - fraction.length⟩
      some (.ok (.real (Binary64.ofDecimal negative d), rest))

/-- The doubles that have names. -/
def namedNumber? (cs : List Char) : Option (Value × List Char) :=
  let (negative, body) := Text.takeSign cs
  match body with
  | 'i' :: 'n' :: 'f' :: r => some (.real (.infinite negative), r)
  | 'n' :: 'a' :: 'n' :: r => some (.real .nan, r)
  | _ => none

/-! ## Dates and times -/

/-- The number of exactly `width` digits. -/
def fixedNumber? (width : Nat) (cs : List Char) : Option (Nat × List Char) :=
  let ds := cs.take width
  if ds.length = width ∧ ds.all (isDigitOf 10) then some (ofBase 10 ds, cs.drop width) else none

/-- A given character. -/
def mark? (c : Char) : List Char → Option (List Char)
  | d :: r => if d = c then some r else none
  | [] => none

/-- Hour and minute. -/
def hourMinute? (cs : List Char) : Option (List Char) := do
  let (hour, r) ← fixedNumber? 2 cs
  let r ← mark? ':' r
  let (minute, r) ← fixedNumber? 2 r
  if hour < 24 ∧ minute < 60 then some r else none

/-- The text after a time of day. -/
def time? (cs : List Char) : Option (List Char) := do
  let r ← hourMinute? cs
  let r ← mark? ':' r
  let (second, r) ← fixedNumber? 2 r
  if second < 60 then
    match r with
    | '.' :: c :: rest =>
      if isDigitOf 10 c then some (rest.dropWhile (isDigitOf 10)) else some r
    | _ => some r
  else none

/-- The text after a difference from universal time, if there is one. -/
def afterZone (cs : List Char) : List Char :=
  match cs with
  | c :: r =>
    if c = 'Z' ∨ c = 'z' then r
    else if c = '+' ∨ c = '-' then (hourMinute? r).getD cs
    else cs
  | [] => []

/-- Year, month and day. -/
def date? (cs : List Char) : Option (Date × List Char) := do
  let (year, r) ← fixedNumber? 4 cs
  let r ← mark? '-' r
  let (month, r) ← fixedNumber? 2 r
  let r ← mark? '-' r
  let (day, r) ← fixedNumber? 2 r
  if 1 ≤ month ∧ month ≤ 12 ∧ 1 ≤ day ∧ day ≤ 31 then some (⟨year, month, day⟩, r) else none

/-- The text after the time of day that may follow a date. -/
def afterTime (cs : List Char) : List Char :=
  match cs with
  | c :: r =>
    if c = 'T' ∨ c = 't' ∨ c = ' ' then
      match time? r with
      | some r => afterZone r
      | none => cs
    else cs
  | [] => []

/-- The value of what stands before `rest`, as it is written. -/
def momentBefore (cs rest : List Char) : Value × List Char :=
  (.moment (String.ofList (cs.take (cs.length - rest.length))), rest)

/-- A date with or without a time. One that the calendar does not have is a fault. -/
def dateTime? (cs : List Char) : Option (Except Fault (Value × List Char)) :=
  (date? cs).map fun (d, r) =>
    if d.isReal then .ok (momentBefore cs (afterTime r)) else refuse

/-- A time of day. -/
def timeOfDay? (cs : List Char) : Option (Value × List Char) :=
  (time? cs).map fun r => momentBefore cs r

end Forge.Toml
