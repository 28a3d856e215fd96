import Forge.Number.Rounding

/-!
# Double-precision numbers

Durations and times in seconds are binary numbers of 53 significant bits. A number is a sign, a
mantissa and a power of two; every operation is the exact rational one followed by `ofRat`, which
rounds to the nearest number and from the middle to the even mantissa. No operation of the machine
is used, so all of them can be reasoned about.
-/

namespace Forge

/-- A double: a signed multiple of a power of two, an infinity, or no number. Finite ones come from
`Binary64.ofRatio` and have `mantissa < 2 ^ 53` and `-1074 ≤ exponent ≤ 971`, with
`2 ^ 52 ≤ mantissa` unless the exponent is least. -/
inductive Binary64 where
  | finite (negative : Bool) (mantissa : Nat) (exponent : Int)
  | infinite (negative : Bool)
  | nan
deriving DecidableEq, Repr

namespace Binary64

open Number

/-- The least mantissa of a double whose exponent is not the least, two to the power of 52. -/
def leastFull : Nat := 4503599627370496

/-- The least exponent of a finite number. -/
def minExponent : Int := -1074

/-- The greatest exponent of a finite number. -/
def maxExponent : Int := 971

/-- The zero of the given sign. -/
def zeroOf (negative : Bool) : Binary64 := .finite negative 0 minExponent

instance : Inhabited Binary64 := ⟨zeroOf false⟩

/-- The number nearest to `n / d`, of the given sign; an infinity if it is out of range. -/
def ofRatio (negative : Bool) (n d : Nat) : Binary64 :=
  if n = 0 then zeroOf negative
  else
    let e := max (floorLog2 n d - 52) minExponent
    let q := scaleDown n d e
    let m := roundHalfEven q.1 q.2
    let (m, e) := if m = 2 * leastFull then (leastFull, e + 1) else (m, e)
    if e ≤ maxExponent then .finite negative m e else .infinite negative

/-- The number nearest to a rational; `zeroSign` is the sign of a zero. -/
def ofRat (q : Rat) (zeroSign : Bool) : Binary64 :=
  if q = 0 then zeroOf zeroSign else ofRatio (decide (q < 0)) q.num.natAbs q.den

/-- The number nearest to an integer. -/
def ofInt (i : Int) : Binary64 :=
  ofRatio (decide (i < 0)) i.natAbs 1

/-- The number nearest to an integer, unless the integer is out of range. -/
def ofInt? (i : Int) : Option Binary64 :=
  match ofInt i with
  | .infinite _ => none
  | x => some x

/-- The power of two as a rational. -/
def pow2 (e : Int) : Rat :=
  if 0 ≤ e then ((Nat.pow 2 e.toNat : Nat) : Rat) else mkRat 1 (Nat.pow 2 (-e).toNat)

/-- The exact value of a finite number. -/
def toRat? : Binary64 → Option Rat
  | .finite negative m e =>
    let v := (m : Rat) * pow2 e
    some (if negative then -v else v)
  | _ => none

/-- Whether the sign bit is set. -/
def isNegative : Binary64 → Bool
  | .finite negative _ _ => negative
  | .infinite negative => negative
  | .nan => false

/-- The number with the other sign. -/
def neg : Binary64 → Binary64
  | .finite negative m e => .finite (!negative) m e
  | .infinite negative => .infinite (!negative)
  | .nan => .nan

/-- The sum. A sum of zero is positive unless both terms are negative zeros. -/
def add (x y : Binary64) : Binary64 :=
  match x, y with
  | .nan, _ | _, .nan => .nan
  | .infinite a, .infinite b => if a = b then .infinite a else .nan
  | .infinite a, _ => .infinite a
  | _, .infinite b => .infinite b
  | .finite a _ _, .finite b _ _ =>
    ofRat ((x.toRat?.getD 0) + (y.toRat?.getD 0)) (a && b)

/-- The difference. -/
def sub (x y : Binary64) : Binary64 :=
  x.add y.neg

/-- The product with a positive natural. -/
def mulNat (x : Binary64) (k : Nat) : Binary64 :=
  match x with
  | .finite a _ _ => ofRat (x.toRat?.getD 0 * (k : Rat)) a
  | y => y

/-- The quotient by a positive natural. -/
def divNat (x : Binary64) (k : Nat) : Binary64 :=
  match x with
  | .finite a _ _ => ofRat (x.toRat?.getD 0 / (k : Rat)) a
  | y => y

/-- Whether `x` is less than `y`; false when one of them is no number. -/
def lt (x y : Binary64) : Bool :=
  match x, y with
  | .nan, _ | _, .nan => false
  | .infinite a, .infinite b => a && !b
  | .infinite a, _ => a
  | _, .infinite b => !b
  | .finite .., .finite .. => decide (x.toRat?.getD 0 < y.toRat?.getD 0)

/-- Whether `x` is at most `y`; false when one of them is no number. -/
def le (x y : Binary64) : Bool :=
  match x, y with
  | .nan, _ | _, .nan => false
  | .infinite a, .infinite b => a || !b
  | .infinite a, _ => a
  | _, .infinite b => !b
  | .finite .., .finite .. => decide (x.toRat?.getD 0 ≤ y.toRat?.getD 0)

/-- The integer nearest to a finite number, the even one when two are equally near. -/
def round? : Binary64 → Option Int
  | .finite negative m e =>
    let q := scaleDown m 1 (-e)
    let n := roundHalfEven q.1 q.2
    some (if negative then -(n : Int) else n)
  | _ => none

/-- The integer part of a finite number. -/
def truncate? : Binary64 → Option Int
  | .finite negative m e =>
    let n := if 0 ≤ e then m * Nat.pow 2 e.toNat else m / Nat.pow 2 (-e).toNat
    some (if negative then -(n : Int) else n)
  | _ => none

/-- The bit of the sign, two to the power of 63. -/
def signBit : Nat := 9223372036854775808

/-- The 64 bits of the interchange format. -/
def toBits : Binary64 → Nat
  | .finite negative m e =>
    let body := if m < leastFull then m else (e + 1075).toNat * leastFull + (m - leastFull)
    (if negative then signBit else 0) + body
  | .infinite negative => (if negative then signBit else 0) + 2047 * leastFull
  | .nan => 2047 * leastFull + leastFull / 2

end Binary64

end Forge
