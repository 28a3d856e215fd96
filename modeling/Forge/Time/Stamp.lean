import Forge.Number.Binary64
import Forge.Text.Digit
import Forge.Time.Calendar

/-!
# Time stamps

Times are whole milliseconds since the start of 1970. `isoText?` shows the second that a time lies
in. It goes through a double of seconds, whose fraction is rounded to microseconds; `splitSeconds`
carries a fraction that rounds up to a second, and borrows one for a negative fraction. Only the
years 1 to 9999 have a text.
-/

namespace Forge.Stamp

/-- A number below one hundred with two digits. -/
def twoDigits (n : Nat) : List Char :=
  [Char.ofNat (48 + n / 10 % 10), Char.ofNat (48 + n % 10)]

/-- Year, month and day, then hour, minute and second, with the given separator between date and
time. The year has no leading zeros. -/
def layOut (separator : Char) (m : Moment) : List Char :=
  (toString m.date.year).toList ++ '-' :: twoDigits m.date.month ++ '-' :: twoDigits m.date.day ++
    separator :: twoDigits m.hour ++ ':' :: twoDigits m.minute ++ ':' :: twoDigits m.second

/-- The whole seconds and the microseconds of a double of seconds. -/
def splitSeconds? (t : Binary64) : Option (Int × Int) := do
  let whole ← t.truncate?
  let micros ← ((t.sub (Binary64.ofInt whole)).mulNat 1000000).round?
  if 1000000 ≤ micros then some (whole + 1, micros - 1000000)
  else if micros < 0 then some (whole - 1, micros + 1000000)
  else some (whole, micros)

/-- The second that a time in milliseconds lies in, unless it is out of range. -/
def secondOf? (ms : Int) : Option Int :=
  (splitSeconds? ((Binary64.ofInt ms).divNat 1000)).map (·.1)

/-- The text of a time in milliseconds, unless its year is not one of 1 to 9999. -/
def isoText? (ms : Int) : Option String := do
  let s ← secondOf? ms
  let m := Moment.ofSeconds s
  if 1 ≤ m.date.year ∧ m.date.year ≤ 9999 then some (String.ofList (layOut 'T' m ++ ['Z']))
  else none

/-- The time at the start of a log line, with its milliseconds. -/
def logText (ms : Int) : String :=
  let fraction := (ms % 1000).toNat
  String.ofList (layOut ' ' (Moment.ofSeconds (ms / 1000)) ++
    [',', Char.ofNat (48 + fraction / 100), Char.ofNat (48 + fraction / 10 % 10),
      Char.ofNat (48 + fraction % 10)])

end Forge.Stamp
