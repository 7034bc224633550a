import Mathlib.Algebra.Order.Field.Power
import Mathlib.Data.Rat.Cast.Order
import Mathlib.Tactic.FieldSimp
import Mathlib.Tactic.Linarith
import Mathlib.Tactic.NormNum
import Mathlib.Tactic.Positivity
import SourceGrade.Number.Rounding

set_option autoImplicit false

/-!
# How far rounding moves a number

A double keeps 53 bits of a number, so it is off by no more than half of the last one, and a number
with few bits stays as it is. Below 128 this leaves 47 places after the binary point, and no number
is moved across a multiple of one half.
-/

namespace SourceGrade.Number

/-! ## The nearest integer -/

theorem floor_le_halfEven (q : Rat) : q.floor ≤ halfEven q := by
  unfold halfEven
  dsimp only
  split_ifs <;> omega

/-- The nearest integer is off by at most one half. -/
theorem halfEven_error (q : Rat) : |(halfEven q : Rat) - q| ≤ 1 / 2 := by
  have hbelow : (q.floor : Rat) ≤ q := Rat.floor_le q
  have habove : q < (q.floor : Rat) + 1 := by exact_mod_cast Rat.lt_floor_add_one q
  rw [abs_le]
  unfold halfEven
  dsimp only
  split_ifs <;> push_cast <;> constructor <;> linarith

/-- No number is moved below an integer. -/
theorem le_halfEven {q : Rat} {n : Int} (h : (n : Rat) ≤ q) : n ≤ halfEven q :=
  (Rat.le_floor_iff.mpr h).trans (floor_le_halfEven q)

/-! ## Powers of two -/

theorem natCast_power (n : Nat) : ((power 2 n : Nat) : Rat) = (2 : Rat) ^ (n : Int) := by
  unfold power
  rw [Nat.pow_eq]
  push_cast
  rw [zpow_natCast]

theorem twoPow_eq_zpow (e : Int) : twoPow e = (2 : Rat) ^ e := by
  unfold twoPow
  split
  · rename_i he
    rw [natCast_power, Int.toNat_of_nonneg he]
  · rename_i he
    rw [natCast_power, Int.toNat_of_nonneg (by omega), zpow_neg, one_div, inv_inv]

theorem natAbs_num_of_pos {q : Rat} (hq : 0 < q) : ((q.num.natAbs : Int) : Rat) = q.num := by
  have hnum : (0 : Int) < q.num := Rat.num_pos.mpr hq
  exact_mod_cast congrArg ((↑) : Int → Rat) (Int.natAbs_of_nonneg hnum.le)

/-- A positive number is larger than the power of two one below the difference of the lengths of
its numerator and denominator. -/
theorem zpow_log2_lt {q : Rat} (hq : 0 < q) :
    (2 : Rat) ^ ((Nat.log2 q.num.natAbs : Int) - Nat.log2 q.den - 1) < q := by
  have hnum : (0 : Int) < q.num := Rat.num_pos.mpr hq
  have hden : (0 : Rat) < q.den := by exact_mod_cast q.den_pos
  have hlow : (2 : Rat) ^ (Nat.log2 q.num.natAbs) ≤ q.num := by
    rw [← natAbs_num_of_pos hq]
    exact_mod_cast Nat.log2_self_le (by omega)
  have hhigh : (q.den : Rat) < 2 ^ (Nat.log2 q.den + 1) := by exact_mod_cast Nat.lt_log2_self
  have hsplit : (2 : Rat) ^ ((Nat.log2 q.num.natAbs : Int) - Nat.log2 q.den - 1) =
      2 ^ (Nat.log2 q.num.natAbs) / 2 ^ (Nat.log2 q.den + 1) := by
    rw [sub_sub, zpow_sub₀ (by norm_num), zpow_natCast]
    congr 1
  calc (2 : Rat) ^ ((Nat.log2 q.num.natAbs : Int) - Nat.log2 q.den - 1)
      = 2 ^ (Nat.log2 q.num.natAbs) / 2 ^ (Nat.log2 q.den + 1) := hsplit
    _ < 2 ^ (Nat.log2 q.num.natAbs) / (q.den : Rat) :=
        div_lt_div_of_pos_left (by positivity) hden hhigh
    _ ≤ (q.num : Rat) / q.den := div_le_div_of_nonneg_right hlow hden.le
    _ = q := Rat.num_div_den q

/-- A number below a power of two has a smaller exponent. -/
theorem floorLogTwo_lt {q : Rat} (hq : 0 < q) {k : Int} (h : q < 2 ^ k) : floorLogTwo q < k := by
  have htwo : (1 : Rat) < 2 := by norm_num
  unfold floorLogTwo
  dsimp only
  split
  · rename_i hle
    rw [twoPow_eq_zpow] at hle
    exact (zpow_lt_zpow_iff_right₀ htwo).mp (hle.trans_lt h)
  · exact (zpow_lt_zpow_iff_right₀ htwo).mp ((zpow_log2_lt hq).trans h)

/-! ## The nearest double -/

/-- The exponent of the last place of the nearest double. -/
def lastPlace (q : Rat) : Int := max (floorLogTwo q - 52) (-1074)

theorem nearestDouble_zero : nearestDouble 0 = 0 := if_pos rfl

theorem nearestDouble_of_pos {q : Rat} (hq : 0 < q) :
    nearestDouble q = (halfEven (q / 2 ^ lastPlace q) : Rat) * 2 ^ lastPlace q := by
  have hmagnitude : magnitude q = q := if_neg (not_lt.mpr hq.le)
  unfold nearestDouble lastPlace
  rw [if_neg hq.ne']
  dsimp only
  rw [hmagnitude, twoPow_eq_zpow]

/-- A number below 128 is rounded to a multiple of a power of two that divides the last of 46
binary places. -/
theorem lastPlace_le {q : Rat} (hpos : 0 < q) (hlt : q < 128) : lastPlace q ≤ -46 := by
  have hlog : floorLogTwo q < 7 := floorLogTwo_lt hpos (by norm_num; exact hlt)
  unfold lastPlace
  omega

/-- A number below 128 is moved by no more than half of the last of 46 binary places. -/
theorem nearestDouble_error {q : Rat} (hnonneg : 0 ≤ q) (hlt : q < 128) :
    |nearestDouble q - q| ≤ 1 / 2 ^ 47 := by
  rcases hnonneg.eq_or_lt with rfl | hpos
  · rw [nearestDouble_zero]
    norm_num
  · have heq := nearestDouble_of_pos hpos
    have he := lastPlace_le hpos hlt
    generalize lastPlace q = e at heq he
    have hunit : (0 : Rat) < 2 ^ e := zpow_pos (by norm_num) e
    have hsmall : (2 : Rat) ^ e ≤ 2 ^ (-46 : Int) := zpow_le_zpow_right₀ (by norm_num) he
    have hscaled : nearestDouble q - q = ((halfEven (q / 2 ^ e) : Rat) - q / 2 ^ e) * 2 ^ e := by
      rw [heq, sub_mul, div_mul_cancel₀ q hunit.ne']
    calc |nearestDouble q - q|
        = |(halfEven (q / 2 ^ e) : Rat) - q / 2 ^ e| * 2 ^ e := by
          rw [hscaled, abs_mul, abs_of_pos hunit]
      _ ≤ 1 / 2 * 2 ^ (-46 : Int) :=
          mul_le_mul (halfEven_error _) hsmall hunit.le (by norm_num)
      _ = 1 / 2 ^ 47 := by norm_num

/-- A number below 128 is not moved below a multiple of one half. -/
theorem half_le_nearestDouble {q : Rat} (hnonneg : 0 ≤ q) (hlt : q < 128) {m : Int}
    (hm : (m : Rat) / 2 ≤ q) : (m : Rat) / 2 ≤ nearestDouble q := by
  rcases hnonneg.eq_or_lt with rfl | hpos
  · rwa [nearestDouble_zero]
  · have heq := nearestDouble_of_pos hpos
    have he := lastPlace_le hpos hlt
    generalize lastPlace q = e at heq he
    have hunit : (0 : Rat) < 2 ^ e := zpow_pos (by norm_num) e
    -- In units of the last place, a multiple of one half is an integer.
    have hwhole : (m : Rat) / 2 / 2 ^ e = ((m * 2 ^ (-1 - e).toNat : Int) : Rat) := by
      have hexp : (2 : Rat) ^ (-1 - e).toNat = 2 ^ (-1 - e) := by
        rw [← zpow_natCast, Int.toNat_of_nonneg (by omega)]
      push_cast
      rw [hexp, zpow_sub₀ (by norm_num), zpow_neg_one, div_div, mul_div_assoc', ← div_eq_mul_inv,
        div_div]
    have hunits : ((m * 2 ^ (-1 - e).toNat : Int) : Rat) ≤ q / 2 ^ e := by
      rw [← hwhole]
      exact div_le_div_of_nonneg_right hm hunit.le
    rw [heq, ← div_le_iff₀ hunit, hwhole]
    exact_mod_cast le_halfEven hunits

end SourceGrade.Number
