import Forge.Number.Binary64
import Forge.Text.Digit

/-!
# Decimal text of doubles

A decimal is `digits · 10 ^ exponent`. `Binary64.ofDecimal` rounds one to the nearest double;
`shortest` finds the decimal with the fewest digits that reads back as a given double, the nearest
of those, and `rounded` the nearest decimal of a given number of digits. How digits and exponent
are laid out is a matter of the `Layout`: they are `plain` for values in messages,
`document` for values in JSON documents, and `general` for durations.
-/

namespace Forge

/-- The decimal `digits · 10 ^ exponent`. -/
structure Decimal where
  digits : Nat
  exponent : Int
deriving DecidableEq, Repr

namespace Binary64

/-- The double nearest to `± digits · 10 ^ exponent`. Decimals far out of range are answered
without computing their powers. -/
def ofDecimal (negative : Bool) (d : Decimal) : Binary64 :=
  let size : Int := (Text.digitsOf d.digits).length + d.exponent
  if d.digits = 0 then zeroOf negative
  else if 400 < size then .infinite negative
  else if size < -400 then zeroOf negative
  else if 0 ≤ d.exponent then ofRatio negative (d.digits * Nat.pow 10 d.exponent.toNat) 1
  else ofRatio negative d.digits (Nat.pow 10 (-d.exponent).toNat)

end Binary64

namespace Decimal

open Number

/-- The magnitude `m · 2 ^ e` divided by `10 ^ k`, as numerator and denominator. -/
def onGrid (m : Nat) (e k : Int) : Nat × Nat :=
  let n := if 0 ≤ e then m * Nat.pow 2 e.toNat else m
  let d := if 0 ≤ e then 1 else Nat.pow 2 (-e).toNat
  if 0 ≤ k then (n, d * Nat.pow 10 k.toNat) else (n * Nat.pow 10 (-k).toNat, d)

/-- The number of digits before the point of `m · 2 ^ e`, for a positive `m`: the `p` with
`10 ^ (p - 1) ≤ m · 2 ^ e < 10 ^ p`. -/
def pointPlace (m : Nat) (e : Int) : Int :=
  if 0 ≤ e then (Text.digitsOf (m * Nat.pow 2 e.toNat)).length
  else
    let d := Nat.pow 2 (-e).toNat
    if d ≤ m then (Text.digitsOf (m / d)).length
    else
      -- below one: count the zeros after the point through the inverse
      let z : Int := (Text.digitsOf (d / m)).length
      if d ≤ m * Nat.pow 10 (z - 1).toNat then 2 - z else 1 - z

/-- The decimal of `count` significant digits nearest to `m · 2 ^ e`, the even one of two. -/
def rounded (m : Nat) (e : Int) (count : Nat) : Decimal :=
  let k := pointPlace m e - count
  let q := onGrid m e k
  ⟨roundHalfEven q.1 q.2, k⟩

/-- The nearest of the decimals next to `m · 2 ^ e` with `count` digits that read back as the
double `x`. -/
def readsBack? (x : Binary64) (m : Nat) (e : Int) (count : Nat) : Option Decimal :=
  let k := pointPlace m e - count
  let q := onGrid m e k
  let low : Decimal := ⟨q.1 / q.2, k⟩
  let high : Decimal := ⟨q.1 / q.2 + 1, k⟩
  let near : Decimal := ⟨roundHalfEven q.1 q.2, k⟩
  let far := if near = low then high else low
  if Binary64.ofDecimal false near = x then some near
  else if Binary64.ofDecimal false far = x then some far
  else none

/-- The decimal with the fewest digits that reads back as the positive double `m · 2 ^ e`. -/
def shortest (m : Nat) (e : Int) : Decimal :=
  let x := Binary64.finite false m e
  ((List.range 17).findSome? fun n => readsBack? x m e (n + 1)).getD (rounded m e 17)

/-- The same decimal without zeros at the end of its digits. -/
def normalize (d : Decimal) : Decimal :=
  let zeros := ((Text.digitsOf d.digits).reverse.takeWhile (· == '0')).length
  if d.digits = 0 then d else ⟨d.digits / Nat.pow 10 zeros, d.exponent + zeros⟩

/-- How a double is laid out: positional notation serves when the point stands after more than
`positionalAbove` and at most `positionalUpTo` digits, `wholeMark` follows a positional number
without a fraction, and the last two texts stand for what is no finite number. -/
structure Layout where
  positionalAbove : Int
  positionalUpTo : Int
  wholeMark : String
  infinity : String
  noNumber : String

/-- Values in messages: the point is always written, and powers of ten start at 10^16. -/
def Layout.plain : Layout := ⟨-4, 16, ".0", "inf", "nan"⟩

/-- Values in JSON documents: as in messages, but for the names of what is no number. -/
def Layout.document : Layout := ⟨-4, 16, ".0", "Infinity", "NaN"⟩

/-- Durations: six digits, and no point in whole numbers. -/
def Layout.general : Layout := ⟨-4, 6, "", "inf", "nan"⟩

/-- The exponent after its mark: a sign and at least two digits. -/
def exponentText (e : Int) : List Char :=
  let ds := Text.digitsOf e.natAbs
  'e' :: (if e < 0 then '-' else '+') :: (if ds.length < 2 then '0' :: ds else ds)

/-- The digits with their point or their exponent. -/
def layOut (l : Layout) (d : Decimal) : List Char :=
  let d := d.normalize
  let ds := Text.digitsOf d.digits
  let place : Int := ds.length + d.exponent
  if l.positionalAbove < place ∧ place ≤ l.positionalUpTo then
    if place ≤ 0 then '0' :: '.' :: List.replicate (-place).toNat '0' ++ ds
    else if ds.length ≤ place then
      ds ++ List.replicate (place.toNat - ds.length) '0' ++ l.wholeMark.toList
    else ds.take place.toNat ++ '.' :: ds.drop place.toNat
  else
    let fraction := ds.drop 1
    ds.take 1 ++ (if fraction.isEmpty then [] else '.' :: fraction) ++ exponentText (place - 1)

end Decimal

namespace Binary64

/-- The text of a double from the decimal that `digitsOf` chooses for it. -/
def textWith (l : Decimal.Layout) (choose : Nat → Int → Decimal) (x : Binary64) : String :=
  let sign := if x.isNegative then ['-'] else []
  match x with
  | .nan => l.noNumber
  | .infinite _ => String.ofList (sign ++ l.infinity.toList)
  | .finite _ m e =>
    let body := if m = 0 then '0' :: l.wholeMark.toList else Decimal.layOut l (choose m e)
    String.ofList (sign ++ body)

/-- The shortest text that reads back, as messages show it. -/
def text (x : Binary64) : String :=
  x.textWith .plain Decimal.shortest

/-- The shortest text that reads back, as JSON documents hold it. -/
def documentText (x : Binary64) : String :=
  x.textWith .document Decimal.shortest

/-- The text with six significant digits. -/
def generalText (x : Binary64) : String :=
  x.textWith .general fun m e => Decimal.rounded m e 6

end Binary64

end Forge
