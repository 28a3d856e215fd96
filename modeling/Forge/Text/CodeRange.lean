/-!
# Runs of code points

Tables of character properties are lists of runs: a `CodeRange` is a closed interval of code
points, a `CodeShift` moves every `step`-th code point of an interval by one displacement.
-/

namespace Forge.Text

/-- A closed interval of code points. -/
structure CodeRange where
  first : Nat
  last : Nat
deriving Repr, DecidableEq

namespace CodeRange

/-- Whether the interval holds the code point of `c`. -/
def contains (r : CodeRange) (c : Char) : Bool :=
  decide (r.first ≤ c.toNat) && decide (c.toNat ≤ r.last)

/-- Whether one of the intervals holds the code point of `c`. -/
def anyContains (rs : List CodeRange) (c : Char) : Bool :=
  rs.any fun r => r.contains c

end CodeRange

/-- Every `step`-th code point from `first` to `last` moves by `delta`. -/
structure CodeShift where
  first : Nat
  last : Nat
  step : Nat
  delta : Int
deriving Repr, DecidableEq

namespace CodeShift

/-- Whether the run moves the code point of `c`. -/
def moves (s : CodeShift) (c : Char) : Bool :=
  decide (s.first ≤ c.toNat) && decide (c.toNat ≤ s.last) && (c.toNat - s.first) % s.step == 0

/-- The character that `c` becomes when the run moves it. -/
def shifted (s : CodeShift) (c : Char) : Char :=
  Char.ofNat (Int.toNat (c.toNat + s.delta))

/-- The image of `c` under the first run that moves it, and `c` itself if none does. -/
def applyAll (ss : List CodeShift) (c : Char) : Char :=
  match ss.find? (fun s => s.moves c) with
  | some s => s.shifted c
  | none => c

end CodeShift

end Forge.Text
