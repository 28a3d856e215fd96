import Forge.Number.Binary64
import Mathlib.Algebra.Order.Field.Power
import Mathlib.Algebra.Order.Floor.Semifield
import Mathlib.Data.Nat.Log
import Mathlib.Data.Rat.Cast.Order
import Mathlib.Data.Rat.Floor
import Mathlib.Tactic.FieldSimp
import Mathlib.Tactic.Linarith
import Mathlib.Tactic.Positivity
import Mathlib.Tactic.Ring

/-!
# How near the nearest double is

Rounding a number to a double changes it by at most one part in `2 ^ 53`, if it is neither too small
for a full mantissa nor out of range (`Binary64.near_ofRat`), and does not change a whole number of
at most 53 bits (`Binary64.value_ofInt`). Rounding to a whole number moves by at most one half.
-/

namespace Forge

namespace Number

/-! ## Quotients of naturals -/

variable {n d : Nat}

theorem abs_roundHalfEven_sub (pos : 0 < d) : |(roundHalfEven n d : ℚ) - n / d| ≤ 1 / 2 := by
  have hd : (0 : ℚ) < d := by exact_mod_cast pos
  have split : (n : ℚ) / d = (n / d : Nat) + (n % d : Nat) / d := by
    field_simp
    exact_mod_cast (Nat.div_add_mod n d).symm
  have nonneg : (0 : ℚ) ≤ (n % d : Nat) / d := by positivity
  unfold roundHalfEven
  dsimp only
  rw [split, abs_le]
  split_ifs with below above
  · have near : ((n % d : Nat) : ℚ) / d < 1 / 2 := by
      rw [div_lt_div_iff₀ hd two_pos]
      exact_mod_cast (by omega : n % d * 2 < 1 * d)
    constructor <;> linarith
  · have near : (1 : ℚ) / 2 < (n % d : Nat) / d := by
      rw [div_lt_div_iff₀ two_pos hd]
      exact_mod_cast (by omega : 1 * d < n % d * 2)
    have less : ((n % d : Nat) : ℚ) / d < 1 := by
      rw [div_lt_one hd]
      exact_mod_cast Nat.mod_lt n pos
    push_cast
    constructor <;> linarith
  · have middle : ((n % d : Nat) : ℚ) / d = 1 / 2 := by
      rw [div_eq_div_iff hd.ne' two_ne_zero]
      exact_mod_cast (by omega : n % d * 2 = 1 * d)
    have bit : (((n / d) % 2 : Nat) : ℚ) ≤ 1 := by exact_mod_cast (by omega : n / d % 2 ≤ 1)
    have nonneg : (0 : ℚ) ≤ ((n / d) % 2 : Nat) := by positivity
    rw [middle, Nat.cast_add]
    constructor <;> linarith

theorem roundHalfEven_one (n : Nat) : roundHalfEven n 1 = n := by
  simp [roundHalfEven, Nat.mod_one]

theorem cast_pow_two {k : Int} (h : 0 ≤ k) : ((Nat.pow 2 k.toNat : Nat) : ℚ) = 2 ^ k := by
  obtain ⟨k, rfl⟩ := Int.eq_ofNat_of_zero_le h
  rw [Nat.pow_eq, Int.toNat_natCast, zpow_natCast]
  exact Nat.cast_pow 2 k

/-- A quotient lies between two powers of two. -/
theorem floorLog2_spec (hn : 0 < n) (hd : 0 < d) :
    (2 : ℚ) ^ floorLog2 n d ≤ n / d ∧ (n : ℚ) / d < 2 ^ (floorLog2 n d + 1) := by
  have pos : (0 : ℚ) < d := by exact_mod_cast hd
  have below (k : Int) : (if 0 ≤ k then d * Nat.pow 2 k.toNat ≤ n
      else d ≤ n * Nat.pow 2 (-k).toNat) ↔ (2 : ℚ) ^ k ≤ n / d := by
    rw [le_div_iff₀ pos]
    split_ifs with sign
    · rw [← cast_pow_two sign, mul_comm]
      exact_mod_cast Iff.rfl
    · have inverse : (2 : ℚ) ^ k * 2 ^ (-k) = 1 := by
        rw [← zpow_add₀ two_ne_zero, add_neg_cancel, zpow_zero]
      have scale : (0 : ℚ) < 2 ^ (-k) := by positivity
      have scaled : (2 : ℚ) ^ k * d * 2 ^ (-k) = d := by rw [mul_right_comm, inverse, one_mul]
      have cast : (d ≤ n * Nat.pow 2 (-k).toNat) ↔ (d : ℚ) ≤ n * 2 ^ (-k) := by
        rw [← cast_pow_two (by omega)]
        exact_mod_cast Iff.rfl
      rw [cast, ← mul_le_mul_iff_left₀ (b := 2 ^ k * (d : ℚ)) scale, scaled]
  have low : (2 : ℚ) ^ Nat.log2 n ≤ n := by exact_mod_cast Nat.log2_self_le hn.ne'
  have high : (n : ℚ) < 2 ^ (Nat.log2 n + 1) := by exact_mod_cast Nat.lt_log2_self
  have low' : (2 : ℚ) ^ Nat.log2 d ≤ d := by exact_mod_cast Nat.log2_self_le hd.ne'
  have high' : (d : ℚ) < 2 ^ (Nat.log2 d + 1) := by exact_mod_cast Nat.lt_log2_self
  unfold floorLog2
  dsimp only
  generalize exponent : (Nat.log2 n : Int) - Nat.log2 d = k
  by_cases h : (2 : ℚ) ^ k ≤ n / d
  · rw [if_pos ((below k).2 h)]
    refine ⟨h, ?_⟩
    rw [div_lt_iff₀ pos]
    calc (n : ℚ) < 2 ^ (Nat.log2 n + 1) := high
      _ = 2 ^ (k + 1) * 2 ^ Nat.log2 d := by
        rw [← zpow_natCast, ← zpow_natCast, ← zpow_add₀ two_ne_zero]
        congr 1
        push_cast
        omega
      _ ≤ 2 ^ (k + 1) * d := by gcongr
  · rw [if_neg (mt (below k).1 h), sub_add_cancel]
    refine ⟨?_, not_le.1 h⟩
    rw [le_div_iff₀ pos]
    calc (2 : ℚ) ^ (k - 1) * d ≤ 2 ^ (k - 1) * 2 ^ (Nat.log2 d + 1) := by gcongr
      _ = 2 ^ Nat.log2 n := by
        rw [← zpow_natCast, ← zpow_natCast, ← zpow_add₀ two_ne_zero]
        congr 1
        push_cast
        omega
      _ ≤ n := low

theorem scaleDown_pos (hd : 0 < d) (e : Int) : 0 < (scaleDown n d e).2 := by
  unfold scaleDown
  split
  · exact Nat.mul_pos hd (Nat.pow_pos two_pos)
  · exact hd

theorem scaleDown_ratio (n d : Nat) (e : Int) :
    ((scaleDown n d e).1 : ℚ) / (scaleDown n d e).2 = n / d / 2 ^ e := by
  unfold scaleDown
  split
  · next sign => rw [Nat.cast_mul, cast_pow_two sign, div_div]
  · next sign =>
    rw [Nat.cast_mul, cast_pow_two (by omega), zpow_neg]
    field_simp

end Number

namespace Binary64

open Number

theorem pow2_eq (e : Int) : pow2 e = 2 ^ e := by
  unfold pow2
  split
  · next sign => exact cast_pow_two sign
  · next sign =>
    rw [Rat.mkRat_eq_div, cast_pow_two (by omega), zpow_neg, Int.cast_one, one_div, inv_inv]

/-- The mantissa that a quotient is rounded to, before a carry. -/
def mantissa (n d : Nat) (e : Int) : Nat :=
  roundHalfEven (scaleDown n d e).1 (scaleDown n d e).2

variable {n d : Nat} {negative : Bool}

theorem abs_mantissa_sub (hd : 0 < d) (e : Int) :
    |(mantissa n d e : ℚ) * 2 ^ e - n / d| ≤ 2 ^ e / 2 := by
  have scale : (0 : ℚ) < 2 ^ e := by positivity
  have near := abs_roundHalfEven_sub (n := (scaleDown n d e).1) (scaleDown_pos (n := n) hd e)
  rw [scaleDown_ratio] at near
  have scaled : (mantissa n d e : ℚ) * 2 ^ e - n / d =
      ((mantissa n d e : ℚ) - n / d / 2 ^ e) * 2 ^ e := by
    field_simp
  rw [scaled, abs_mul, abs_of_pos scale]
  calc |(mantissa n d e : ℚ) - n / d / 2 ^ e| * 2 ^ e ≤ 1 / 2 * 2 ^ e := by gcongr; exact near
    _ = 2 ^ e / 2 := by ring

/-- The exponent of the double nearest to a quotient, before a carry. -/
def exponentOf (n d : Nat) : Int :=
  max (floorLog2 n d - 52) minExponent

/-- Mantissa and exponent of the double nearest to a quotient, after a carry. -/
def parts (n d : Nat) : Nat × Int :=
  if mantissa n d (exponentOf n d) = 2 * leastFull then (leastFull, exponentOf n d + 1)
  else (mantissa n d (exponentOf n d), exponentOf n d)

theorem ofRatio_eq (hn : 0 < n) :
    ofRatio negative n d = if (parts n d).2 ≤ maxExponent then
      .finite negative (parts n d).1 (parts n d).2 else .infinite negative := by
  simp only [ofRatio, if_neg hn.ne']
  rfl

/-- The carry does not change the number. -/
theorem parts_value (n d : Nat) :
    ((parts n d).1 : ℚ) * 2 ^ (parts n d).2 =
      mantissa n d (exponentOf n d) * 2 ^ exponentOf n d := by
  unfold parts
  split
  · next carry =>
    rw [carry, zpow_add₀ two_ne_zero, zpow_one]
    push_cast
    ring
  · rfl

theorem parts_exponent_le (n d : Nat) : (parts n d).2 ≤ exponentOf n d + 1 := by
  unfold parts
  split <;> dsimp only <;> omega

theorem parts_near (hn : 0 < n) (hd : 0 < d) :
    |((parts n d).1 : ℚ) * 2 ^ (parts n d).2 - n / d| ≤ n / d / 2 ^ 53 + 2 ^ (-1075 : ℤ) := by
  have low := (floorLog2_spec hn hd).1
  have full : (2 : ℚ) ^ (floorLog2 n d - 52) / 2 ≤ n / d / 2 ^ 53 := by
    rw [zpow_sub₀ two_ne_zero, div_div]
    gcongr
    norm_num
  have least : (2 : ℚ) ^ minExponent / 2 = 2 ^ (-1075 : ℤ) := by
    rw [div_eq_mul_inv, ← zpow_sub_one₀ (two_ne_zero (α := ℚ))]
    rfl
  rw [parts_value]
  refine (abs_mantissa_sub hd _).trans ?_
  unfold exponentOf
  rcases max_choice (floorLog2 n d - 52) minExponent with h | h <;> rw [h]
  · exact full.trans (le_add_of_nonneg_right (by positivity))
  · rw [least]
    exact le_add_of_nonneg_left (by positivity)

/-! ## Values -/

/-- The exact value of a finite number, and zero for the others. -/
def value (x : Binary64) : ℚ :=
  x.toRat?.getD 0

/-- The number is finite. -/
def Finite (x : Binary64) : Prop :=
  ∃ negative m e, x = .finite negative m e

theorem value_finite (negative : Bool) (m : Nat) (e : Int) :
    (finite negative m e).value = (if negative then -1 else 1) * (m * 2 ^ e) := by
  cases negative <;> simp [value, toRat?, pow2_eq]

theorem finite_zeroOf (negative : Bool) : (zeroOf negative).Finite :=
  ⟨negative, 0, minExponent, rfl⟩

theorem value_zeroOf (negative : Bool) : (zeroOf negative).value = 0 := by
  simp [zeroOf, value_finite]

/-- The number stands for `q` as well as a double can: up to one part in `2 ^ 53`, or up to half of
the least positive number. -/
def Near (x : Binary64) (q : ℚ) : Prop :=
  x.Finite ∧ |x.value - q| ≤ |q| / 2 ^ 53 + 2 ^ (-1075 : ℤ)

theorem near_zeroOf (negative : Bool) : (zeroOf negative).Near 0 := by
  refine ⟨finite_zeroOf negative, ?_⟩
  rw [value_zeroOf, sub_zero, abs_zero]
  positivity

theorem ofRatio_near (negative : Bool) (n : Nat) (hd : 0 < d) :
    (ofRatio negative n d = .infinite negative ∧ (2 : ℚ) ^ (1023 : ℤ) ≤ n / d) ∨
      (ofRatio negative n d).Near ((if negative then -1 else 1) * (n / d)) := by
  rcases Nat.eq_zero_or_pos n with rfl | hn
  · right
    rw [ofRatio, if_pos rfl, Nat.cast_zero, zero_div, mul_zero]
    exact near_zeroOf negative
  have near := parts_near hn hd
  have low := (floorLog2_spec hn hd).1
  have size : |(if negative then -1 else 1 : ℚ)| = 1 := by cases negative <;> simp
  have ratio : |(n : ℚ) / d| = n / d := abs_of_nonneg (by positivity)
  rw [ofRatio_eq hn]
  by_cases range : (parts n d).2 ≤ maxExponent
  · right
    rw [if_pos range]
    refine ⟨⟨_, _, _, rfl⟩, ?_⟩
    rw [value_finite, ← mul_sub, abs_mul, abs_mul, size, one_mul, one_mul, ratio]
    exact near
  · left
    have large : 1023 ≤ floorLog2 n d := by
      have bound := parts_exponent_le n d
      unfold exponentOf minExponent at bound
      unfold maxExponent at range
      omega
    exact ⟨if_neg range, (zpow_le_zpow_right₀ one_le_two large).trans low⟩

theorem sign_mul_natAbs_div_den (q : ℚ) :
    (if decide (q < 0) then -1 else 1 : ℚ) * (q.num.natAbs / q.den) = q := by
  have numerator : (q.num.natAbs : ℚ) = |(q.num : ℚ)| := by rw [Nat.cast_natAbs, Int.cast_abs]
  conv_rhs => rw [← Rat.num_div_den q]
  rw [numerator]
  by_cases negative : q < 0
  · rw [if_pos (decide_eq_true negative), abs_of_neg (by exact_mod_cast Rat.num_neg.2 negative)]
    ring
  · rw [if_neg (by simpa using negative),
      abs_of_nonneg (by exact_mod_cast Rat.num_nonneg.2 (not_lt.1 negative)), one_mul]

/-- A rational is rounded to a number near to it, unless it is out of range. -/
theorem ofRat_near (q : ℚ) (zeroSign : Bool) :
    ((∃ negative, ofRat q zeroSign = .infinite negative) ∧ (2 : ℚ) ^ (1023 : ℤ) ≤ |q|) ∨
      (ofRat q zeroSign).Near q := by
  unfold ofRat
  split
  · next zero =>
    rw [zero]
    exact .inr (near_zeroOf zeroSign)
  · have same := sign_mul_natAbs_div_den q
    have den : 0 < q.den := q.den_pos
    rcases ofRatio_near (decide (q < 0)) q.num.natAbs den with ⟨h, large⟩ | near
    · refine .inl ⟨⟨_, h⟩, large.trans_eq ?_⟩
      rw [← same, abs_mul, abs_of_nonneg (a := (q.num.natAbs : ℚ) / q.den) (by positivity), same]
      split <;> simp
    · rw [same] at near
      exact .inr near

theorem near_ofRat {q : ℚ} (small : |q| < 2 ^ (1023 : ℤ)) (zeroSign : Bool) :
    (ofRat q zeroSign).Near q :=
  (ofRat_near q zeroSign).resolve_left fun h => absurd small (not_lt.2 h.2)

/-- An error that is easy to reckon with. -/
theorem Near.close {x : Binary64} {q : ℚ} (h : x.Near q) : |x.value - q| ≤ (|q| + 1) / 2 ^ 53 := by
  have tiny : (2 : ℚ) ^ (-1075 : ℤ) ≤ 2 ^ (-53 : ℤ) :=
    zpow_le_zpow_right₀ one_le_two (by decide)
  have part : (2 : ℚ) ^ (-53 : ℤ) = 1 / 2 ^ 53 := by rw [zpow_neg, one_div]; rfl
  rw [add_div, ← part]
  exact h.2.trans (by gcongr)

/-- A number at least one keeps half of its size. -/
theorem Near.half_le {x : Binary64} {q : ℚ} (h : x.Near q) (large : 1 ≤ |q|) :
    |q| / 2 ≤ |x.value| := by
  have apart := abs_sub_abs_le_abs_sub q x.value
  rw [abs_sub_comm] at apart
  have error : (|q| + 1) / 2 ^ 53 ≤ |q| / 2 := by
    rw [div_le_div_iff₀ (by positivity) two_pos]
    norm_num
    linarith
  linarith [h.close]

/-- Numbers of moderate size are in range. -/
theorem near_of_le {q : ℚ} (moderate : |q| ≤ 2 ^ 60) (zeroSign : Bool) :
    (ofRat q zeroSign).Near q := by
  have range : (2 : ℚ) ^ (60 : ℤ) < 2 ^ (1023 : ℤ) := zpow_lt_zpow_right₀ one_lt_two (by decide)
  exact near_ofRat (moderate.trans_lt (by exact_mod_cast range)) zeroSign

theorem ofInt_eq_ofRat (i : Int) : ofInt i = ofRat i false := by
  unfold ofRat ofInt
  split
  · next zero => rw [Int.cast_eq_zero.1 zero]; rfl
  · simp

/-- A whole number of at most 53 bits is a double. -/
theorem value_ofInt {i : Int} (small : i.natAbs < 2 ^ 53) :
    (ofInt i).Finite ∧ (ofInt i).value = i := by
  rcases Nat.eq_zero_or_pos i.natAbs with zero | hn
  · rw [Int.natAbs_eq_zero.1 zero]
    exact ⟨finite_zeroOf false, (value_zeroOf false).trans Int.cast_zero.symm⟩
  have exponent : exponentOf i.natAbs 1 ≤ 0 := by
    have low := (floorLog2_spec hn one_pos).1
    have bound : (2 : ℚ) ^ floorLog2 i.natAbs 1 < 2 ^ (53 : ℤ) := by
      refine low.trans_lt ?_
      rw [Nat.cast_one, div_one]
      exact_mod_cast small
    have := (zpow_lt_zpow_iff_right₀ one_lt_two).1 bound
    unfold exponentOf minExponent
    omega
  have whole : (scaleDown i.natAbs 1 (exponentOf i.natAbs 1)).2 = 1 := by
    unfold scaleDown
    split
    · rw [le_antisymm exponent ‹_›]; rfl
    · rfl
  have unrounded : (mantissa i.natAbs 1 (exponentOf i.natAbs 1) : ℚ) * 2 ^ exponentOf i.natAbs 1 =
      i.natAbs := by
    have ratio := scaleDown_ratio i.natAbs 1 (exponentOf i.natAbs 1)
    rw [whole, Nat.cast_one, div_one, div_one] at ratio
    rw [mantissa, whole, roundHalfEven_one, ratio]
    field_simp
  have range : (parts i.natAbs 1).2 ≤ maxExponent := by
    have := parts_exponent_le i.natAbs 1
    unfold maxExponent
    omega
  rw [ofInt, ofRatio_eq hn, if_pos range]
  refine ⟨⟨_, _, _, rfl⟩, ?_⟩
  rw [value_finite, parts_value, unrounded, Nat.cast_natAbs, Int.cast_abs]
  by_cases negative : i < 0
  · rw [if_pos (decide_eq_true negative), abs_of_neg (by exact_mod_cast negative)]
    ring
  · rw [if_neg (by simpa using negative), abs_of_nonneg (by exact_mod_cast not_lt.1 negative),
      one_mul]

theorem value_ofRat_intCast {i : Int} (small : i.natAbs < 2 ^ 53) (zeroSign : Bool) :
    (ofRat i zeroSign).Finite ∧ (ofRat i zeroSign).value = i := by
  by_cases zero : (i : ℚ) = 0
  · rw [ofRat, if_pos zero, zero]
    exact ⟨finite_zeroOf zeroSign, value_zeroOf zeroSign⟩
  · have same : ofRat i zeroSign = ofInt i := by
      rw [ofInt_eq_ofRat, ofRat, ofRat, if_neg zero, if_neg zero]
    rw [same]
    exact value_ofInt small

/-! ## Arithmetic -/

variable {x y : Binary64}

theorem Finite.sub_eq (hx : x.Finite) (hy : y.Finite) :
    ∃ zeroSign, x.sub y = ofRat (x.value - y.value) zeroSign := by
  obtain ⟨a, m, e, rfl⟩ := hx
  obtain ⟨b, k, f, rfl⟩ := hy
  refine ⟨a && !b, ?_⟩
  have negated : (finite (!b) k f).value = -(finite b k f).value := by
    cases b <;> simp [value_finite]
  rw [sub_eq_add_neg, ← negated]
  rfl

theorem Finite.mulNat_eq (hx : x.Finite) (k : Nat) :
    ∃ zeroSign, x.mulNat k = ofRat (x.value * k) zeroSign := by
  obtain ⟨a, m, e, rfl⟩ := hx
  exact ⟨a, rfl⟩

theorem Finite.divNat_eq (hx : x.Finite) (k : Nat) :
    ∃ zeroSign, x.divNat k = ofRat (x.value / k) zeroSign := by
  obtain ⟨a, m, e, rfl⟩ := hx
  exact ⟨a, rfl⟩

/-- Rounding to a whole number moves by at most one half. -/
theorem Finite.round_near (hx : x.Finite) :
    ∃ i : Int, x.round? = some i ∧ |(i : ℚ) - x.value| ≤ 1 / 2 := by
  obtain ⟨negative, m, e, rfl⟩ := hx
  have near := abs_roundHalfEven_sub (n := (scaleDown m 1 (-e)).1)
    (scaleDown_pos (n := m) one_pos (-e))
  rw [scaleDown_ratio, Nat.cast_one, div_one, zpow_neg, div_inv_eq_mul] at near
  refine ⟨_, rfl, ?_⟩
  rw [value_finite]
  cases negative
  · simpa using near
  · rw [abs_sub_comm] at near
    simpa [add_comm, sub_eq_add_neg] using near

theorem natFloor_mul_zpow (m : Nat) (e : Int) :
    (if 0 ≤ e then m * Nat.pow 2 e.toNat else m / Nat.pow 2 (-e).toNat) = ⌊(m : ℚ) * 2 ^ e⌋₊ := by
  split
  · next sign => rw [← cast_pow_two sign, ← Nat.cast_mul, Nat.floor_natCast]
  · next sign =>
    rw [← Nat.floor_div_eq_div (K := ℚ), cast_pow_two (by omega), zpow_neg, div_inv_eq_mul]

/-- The integer part of a number that is not negative is its floor. -/
theorem Finite.truncate_of_nonneg (hx : x.Finite) (nonneg : 0 ≤ x.value) :
    x.truncate? = some ⌊x.value⌋ := by
  obtain ⟨negative, m, e, rfl⟩ := hx
  have magnitude : (0 : ℚ) ≤ m * 2 ^ e := by positivity
  rw [value_finite] at nonneg ⊢
  simp only [truncate?, natFloor_mul_zpow, Int.natCast_floor_eq_floor magnitude]
  cases negative
  · simp
  · have zero : (m : ℚ) * 2 ^ e = 0 := le_antisymm (by simpa using nonneg) magnitude
    simp [zero]

/-- The integer part of a number that is not positive is its ceiling. -/
theorem Finite.truncate_of_nonpos (hx : x.Finite) (nonpos : x.value ≤ 0) :
    x.truncate? = some ⌈x.value⌉ := by
  obtain ⟨negative, m, e, rfl⟩ := hx
  have magnitude : (0 : ℚ) ≤ m * 2 ^ e := by positivity
  rw [value_finite] at nonpos ⊢
  simp only [truncate?, natFloor_mul_zpow, Int.natCast_floor_eq_floor magnitude]
  cases negative
  · have zero : (m : ℚ) * 2 ^ e = 0 := le_antisymm (by simpa using nonpos) magnitude
    simp [zero]
  · simp [Int.ceil_neg]

theorem Finite.truncate_near (hx : x.Finite) :
    ∃ whole : Int, x.truncate? = some whole ∧ |(whole : ℚ) - x.value| ≤ 1 := by
  rcases le_total 0 x.value with nonneg | nonpos
  · refine ⟨_, hx.truncate_of_nonneg nonneg, abs_le.2 ⟨?_, ?_⟩⟩
    · linarith [Int.lt_floor_add_one x.value]
    · linarith [Int.floor_le x.value]
  · refine ⟨_, hx.truncate_of_nonpos nonpos, abs_le.2 ⟨?_, ?_⟩⟩
    · linarith [Int.le_ceil x.value]
    · linarith [Int.ceil_lt_add_one x.value]

end Binary64

end Forge
