import Ekaette.Lib.PyNumber
import Mathlib.Algebra.Order.Field.Power
import Mathlib.Data.Int.Log
import Mathlib.Data.Rat.Floor

set_option autoImplicit false

/-! # Doubles

Arithmetic on doubles: the exact result, rounded to the nearest of them, and to the one with an even
significand where two are equally near. Zeros have no sign here. -/

namespace Binary64

/-! ## Rounding -/

/-- The nearest integer, the even one of two. -/
def roundEven (x : ℚ) : ℤ :=
  if x - ⌊x⌋ < 1 / 2 then ⌊x⌋
  else if 1 / 2 < x - ⌊x⌋ then ⌊x⌋ + 1
  else ⌊x⌋ + ⌊x⌋ % 2

/-- The exponent of the last place of the doubles about `q`. -/
def ulpExponent (q : ℚ) : ℤ := max (Int.log 2 |q| - 52) (-1074)

/-- `q` as a multiple of the last place, rounded. -/
def nearest (q : ℚ) : ℚ := roundEven (q / 2 ^ ulpExponent q) * 2 ^ ulpExponent q

/-- The double next to `q`. -/
@[irreducible] def round (q : ℚ) : PyFloat :=
  if 2 ^ 1024 ≤ |nearest q| then .inf (decide (q < 0)) else .fin (nearest q)

example : round (1 / 10) = .fin (3602879701896397 / 2 ^ 55) := by decide +kernel

theorem abs_roundEven_sub_le (x : ℚ) : |(roundEven x : ℚ) - x| ≤ 1 / 2 := by
  have hlow := Int.floor_le x
  have hhigh := Int.lt_floor_add_one x
  rw [roundEven, abs_le]
  split_ifs with hdown hup
  · constructor <;> linarith
  · push_cast
    constructor <;> linarith
  · -- a tie: the floor, or the integer above it
    have htie : x - ⌊x⌋ = 1 / 2 := le_antisymm (not_lt.1 hup) (not_lt.1 hdown)
    have hnonneg : (0 : ℚ) ≤ (⌊x⌋ % 2 : ℤ) := by exact_mod_cast Int.emod_nonneg ⌊x⌋ two_ne_zero
    have hle : ((⌊x⌋ % 2 : ℤ) : ℚ) ≤ 1 := by exact_mod_cast (show ⌊x⌋ % 2 ≤ 1 by omega)
    push_cast
    constructor <;> linarith

/-- What is not below the least normal double has 53 significant digits. -/
theorem two_pow_le_div_ulp {q : ℚ} (hq : 2 ^ (-1022 : ℤ) ≤ q) : 2 ^ 52 ≤ q / 2 ^ ulpExponent q := by
  have hpos : 0 < q := lt_of_lt_of_le (by positivity) hq
  have hlog : (-1022 : ℤ) ≤ Int.log 2 q :=
    (Int.zpow_le_iff_le_log one_lt_two hpos).1 (by exact_mod_cast hq)
  have hulp : ulpExponent q = Int.log 2 q - 52 := by
    rw [ulpExponent, abs_of_pos hpos]
    exact max_eq_left (by omega)
  rw [hulp, le_div_iff₀ (by positivity)]
  calc (2 : ℚ) ^ 52 * 2 ^ (Int.log 2 q - 52) = 2 ^ Int.log 2 q := by
        rw [← zpow_natCast, ← zpow_add₀ two_ne_zero]
        congr 1
        push_cast
        ring
    _ ≤ q := by exact_mod_cast Int.zpow_log_le_self one_lt_two hpos

/-- **Relative error** of rounding: half a unit in the 53rd place. -/
theorem abs_nearest_sub_le {q : ℚ} (hq : 2 ^ (-1022 : ℤ) ≤ q) : |nearest q - q| ≤ q / 2 ^ 53 := by
  have hulp : (0 : ℚ) < 2 ^ ulpExponent q := by positivity
  have hround := abs_roundEven_sub_le (q / 2 ^ ulpExponent q)
  have hdigits := two_pow_le_div_ulp hq
  rw [le_div_iff₀ hulp] at hdigits
  have hsplit : nearest q - q = (roundEven (q / 2 ^ ulpExponent q) - q / 2 ^ ulpExponent q) *
      2 ^ ulpExponent q := by
    rw [nearest, sub_mul, div_mul_cancel₀ q hulp.ne']
  rw [hsplit, abs_mul, abs_of_pos hulp]
  calc |(roundEven (q / 2 ^ ulpExponent q) : ℚ) - q / 2 ^ ulpExponent q| * 2 ^ ulpExponent q
      ≤ 1 / 2 * 2 ^ ulpExponent q := mul_le_mul_of_nonneg_right hround hulp.le
    _ ≤ q / 2 ^ 53 := by
        rw [le_div_iff₀ (by positivity)]
        linarith

/-- A normal result is at least this part of what was rounded. -/
theorem le_of_round_eq_fin {q v : ℚ} (hq : 2 ^ (-1022 : ℤ) ≤ q) (h : round q = .fin v) :
    q * (1 - 1 / 2 ^ 53) ≤ v := by
  rw [round] at h
  split_ifs at h
  rw [← PyFloat.fin.inj h]
  have hlow := (abs_le.1 (abs_nearest_sub_le hq)).1
  rw [mul_sub, mul_one, mul_one_div]
  linarith

/-! ## Operations -/

/-- The finite float; none for an infinity, where a conversion raises `OverflowError`. -/
def finite? : PyFloat → Option ℚ
  | .fin q => some q
  | _ => none

/-- `float(n)`; none where it raises `OverflowError`. -/
def ofInt (n : ℤ) : Option ℚ := finite? (round n)

/-- `n / d` of integers; none where it raises `OverflowError`. -/
def trueDiv (n d : ℤ) : Option ℚ := finite? (round (n / d))

/-- `x * y`. -/
def mul : PyFloat → PyFloat → PyFloat
  | .fin x, .fin y => round (x * y)
  | .inf a, .inf b => .inf (a != b)
  | .fin x, .inf b => if x = 0 then .nan else .inf (decide (x < 0) != b)
  | .inf a, .fin y => if y = 0 then .nan else .inf (a != decide (y < 0))
  | _, _ => .nan

/-- `x + y`. -/
def add : PyFloat → PyFloat → PyFloat
  | .fin x, .fin y => round (x + y)
  | .inf a, .inf b => if a = b then .inf a else .nan
  | .fin _, .inf b => .inf b
  | .inf a, .fin _ => .inf a
  | _, _ => .nan

/-- `n <= x` of an integer and a float, which compare by value. -/
def intLe (n : ℤ) : PyFloat → Bool
  | .fin q => decide ((n : ℚ) ≤ q)
  | .inf negative => !negative
  | .nan => false

/-- `int(x)`; none where it raises. -/
def toInt? : PyFloat → Option ℤ
  | .fin q => some (q.num.tdiv q.den)
  | _ => none

theorem finite?_eq_some {x : PyFloat} {q : ℚ} (h : finite? x = some q) : x = .fin q := by
  cases x with
  | fin r => rw [Option.some.inj h]
  | nan => cases h
  | inf negative => cases h

/-- A positive integer is at least a normal double. -/
theorem normal_of_one_le {q : ℚ} (hq : 1 ≤ q) : 2 ^ (-1022 : ℤ) ≤ q :=
  (zpow_le_one_of_nonpos₀ one_le_two (by norm_num)).trans hq

/-- `int(x)` of a float that is not below an integer. -/
theorem le_toInt {n k : ℤ} {q : ℚ} (hn : 0 ≤ n) (hq : (n : ℚ) ≤ q) (h : toInt? (.fin q) = some k) :
    n ≤ k := by
  have hk : q.num.tdiv q.den = k := Option.some.inj h
  have hnum : 0 ≤ q.num := Rat.num_nonneg.2 (le_trans (by exact_mod_cast hn) hq)
  rw [← hk, Int.tdiv_eq_ediv_of_nonneg hnum, ← Rat.floor_def]
  exact Int.le_floor.2 hq

end Binary64
