/-!
# Rounding a quotient

The quotient of two naturals is rounded to a natural: to the nearest one, and from the middle to
the even one. Everything that turns an exact ratio into fewer digits goes through this rule.
-/

namespace Forge.Number

/-- The natural nearest to `n / d`, the even one when two are equally near. -/
def roundHalfEven (n d : Nat) : Nat :=
  let q := n / d
  let r := n % d
  if 2 * r < d then q else if d < 2 * r then q + 1 else q + q % 2

/-- The greatest `k` with `2 ^ k ≤ n / d`, for positive `n` and `d`. -/
def floorLog2 (n d : Nat) : Int :=
  let k : Int := (Nat.log2 n : Int) - (Nat.log2 d : Int)
  if (if 0 ≤ k then d * Nat.pow 2 k.toNat ≤ n else d ≤ n * Nat.pow 2 (-k).toNat) then k else k - 1

/-- The quotient `n / d` divided by `2 ^ e`, again as numerator and denominator. -/
def scaleDown (n d : Nat) (e : Int) : Nat × Nat :=
  if 0 ≤ e then (n, d * Nat.pow 2 e.toNat) else (n * Nat.pow 2 (-e).toNat, d)

end Forge.Number
