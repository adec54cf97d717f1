import Mathlib.Data.Int.Log
import Mathlib.Data.Rat.Floor
import Mathlib.Tactic.Linarith

/-! IEEE 754 binary64 values, as far as comparisons and rounding see them. The
two zeros are one value, since no operation of interest tells them apart. -/
namespace Foundation

inductive Double where
  | finite (value : ℚ)
  | inf (negative : Bool)
  | nan
  deriving DecidableEq, Repr

namespace Double

/-- The ordered comparison; it is false as soon as one side is not a number. -/
def lt : Double → Double → Bool
  | nan, _ => false
  | _, nan => false
  | finite a, finite b => a < b
  | finite _, inf negative => !negative
  | inf negative, finite _ => negative
  | inf a, inf b => a && !b

/-- Numeric equality, under which a NaN differs from itself. -/
def eq : Double → Double → Bool
  | nan, _ => false
  | a, b => a = b

def le (a b : Double) : Bool := a.lt b || a.eq b

def neg : Double → Double
  | finite a => finite (-a)
  | inf negative => inf !negative
  | nan => nan

def isFinite : Double → Bool
  | finite _ => true
  | _ => false

/-- Round to the nearest integer, ties to even. -/
def roundHalfEven (q : ℚ) : ℤ :=
  let below := ⌊q⌋
  let rest := q - below
  if rest < 1 / 2 then below
  else if 1 / 2 < rest then below + 1
  else if below % 2 = 0 then below else below + 1

/-- The binary64 value nearest to a rational, ties to even, with gradual
underflow and overflow to an infinity. -/
def ofRat (q : ℚ) : Double :=
  if q = 0 then finite 0
  else
    let ulp : ℚ := 2 ^ max (Int.log 2 |q| - 52) (-1074)
    let rounded := roundHalfEven (q / ulp) * ulp
    if |rounded| < 2 ^ 1024 then finite rounded else inf (q < 0)

/-- The rounded difference, with the infinities and the value that is no number as
the standard has them. -/
def sub : Double → Double → Double
  | nan, _ => nan
  | _, nan => nan
  | finite a, finite b => ofRat (a - b)
  | finite _, inf negative => inf !negative
  | inf negative, finite _ => inf negative
  | inf a, inf b => if a = b then nan else inf a

/-- Whether a value is an integer, which infinities are not. -/
def isInteger : Double → Bool
  | finite q => q.den = 1
  | _ => false

/-- The value as a 32-bit integer, the way bit operators read their operands:
truncated towards zero and wrapped around. -/
def toInt32 : Double → ℤ
  | finite q => ((if 0 ≤ q then ⌊q⌋ else ⌈q⌉) + 2 ^ 31) % 2 ^ 32 - 2 ^ 31
  | _ => 0

theorem roundHalfEven_intCast (n : ℤ) : roundHalfEven (n : ℚ) = n := by
  simp [roundHalfEven]

/-- Integers of at most 53 bits are values. -/
theorem ofRat_intCast {n : ℤ} (h : n.natAbs < 2 ^ 53) : ofRat (n : ℚ) = finite n := by
  unfold ofRat
  by_cases hZero : n = 0
  · simp [hZero]
  · have hAbs : |(n : ℚ)| = (n.natAbs : ℚ) := by
      rw [← Int.cast_abs, Int.abs_eq_natAbs, Int.cast_natCast]
    have hLog : Nat.log 2 n.natAbs < 53 :=
      Nat.log_lt_of_lt_pow (by simpa using hZero) h
    have hExp : max ((Nat.log 2 n.natAbs : ℤ) - 52) (-1074) = -((52 - Nat.log 2 n.natAbs : ℕ) : ℤ) := by
      omega
    have hScaled : (n : ℚ) / 2 ^ (-((52 - Nat.log 2 n.natAbs : ℕ) : ℤ)) =
        ((n * 2 ^ (52 - Nat.log 2 n.natAbs) : ℤ) : ℚ) := by
      rw [zpow_neg, div_inv_eq_mul, zpow_natCast]
      push_cast
      rfl
    have hBack : ((n * 2 ^ (52 - Nat.log 2 n.natAbs) : ℤ) : ℚ) *
        2 ^ (-((52 - Nat.log 2 n.natAbs : ℕ) : ℤ)) = n := by
      rw [← hScaled, div_mul_cancel₀ _ (zpow_ne_zero _ two_ne_zero)]
    have hSmall : |(n : ℚ)| < 2 ^ 1024 := by
      rw [hAbs]
      calc (n.natAbs : ℚ) < 2 ^ 53 := by exact_mod_cast h
        _ ≤ 2 ^ 1024 := pow_le_pow_right₀ (by norm_num) (by norm_num)
    have hNe : (n : ℚ) ≠ 0 := by exact_mod_cast hZero
    simp only [hNe, if_false, hAbs, Int.log_natCast, hExp, hScaled, roundHalfEven_intCast, hBack]
    rw [← hAbs, if_pos hSmall]

end Double
end Foundation
