import SourceGrade.Number.Amount
import SourceGrade.Proofs.Number.Monotone

set_option autoImplicit false

/-!
# Numbers that are not too large

A number up to the largest power of two that a double can hold does not overflow, and an integer
can be written if and only if it has at most `maxDigits` digits.
-/

namespace SourceGrade

namespace Number

theorem lastPlace_le_of_lt {q : Rat} (hq : 0 < q) {k : Int} (hlt : q < 2 ^ k) {n : Int}
    (hk : k ≤ n + 53) (hn : -1074 ≤ n) : lastPlace q ≤ n := by
  have hlog : floorLogTwo q < k := floorLogTwo_lt hq hlt
  unfold lastPlace
  omega

/-- A number up to a power of two is not rounded above it. -/
theorem nearestDouble_le_of_le_zpow {q : Rat} (hq : 0 ≤ q) {k : Int} (hk : -1074 ≤ k)
    (h : q ≤ 2 ^ k) : nearestDouble q ≤ 2 ^ k := by
  rcases hq.eq_or_lt with rfl | hpos
  · rw [nearestDouble_zero]
    exact (zpow_pos (by norm_num) k).le
  · have hless : (2 : Rat) ^ k < 2 ^ (k + 1) := zpow_lt_zpow_right₀ (by norm_num) (by omega)
    have hplace : lastPlace q ≤ k := lastPlace_le_of_lt hpos (h.trans_lt hless) (by omega) hk
    exact nearestDouble_le_zpow hpos hplace h

/-- The sign of a number plays no part where it is not negative. -/
theorem overflows_iff {q : Rat} (hq : 0 ≤ q) :
    overflows q = true ↔ (2 : Rat) ^ (1024 : Int) ≤ nearestDouble q := by
  have hmagnitude : magnitude (nearestDouble q) = nearestDouble q :=
    if_neg (not_lt.mpr (nearestDouble_nonneg hq))
  unfold overflows
  rw [hmagnitude, twoPow_eq_zpow, decide_eq_true_iff]

theorem not_overflows {q : Rat} (hq : 0 ≤ q) (hle : q ≤ 2 ^ (1023 : Int)) :
    overflows q = false := by
  rw [← Bool.not_eq_true, overflows_iff hq, not_le]
  have hless : (2 : Rat) ^ (1023 : Int) < 2 ^ (1024 : Int) :=
    zpow_lt_zpow_right₀ (by norm_num) (by norm_num)
  exact (nearestDouble_le_of_le_zpow hq (by decide) hle).trans_lt hless

theorem divide_eq_ok {a b : Int} (h : 0 ≤ (a : Rat) / b) (hle : (a : Rat) / b ≤ 2 ^ (1023 : Int)) :
    divide a b = .ok (quotient a b) := by
  unfold divide quotientFits
  rw [not_overflows h hle]
  rfl

/-- An integer has no more digits than one is written with. -/
def IsShort (n : Int) : Prop := n.natAbs < power 10 maxDigits

theorem writingFault?_eq_none_iff {n : Int} : writingFault? n = none ↔ IsShort n := by
  unfold writingFault?
  split
  · rename_i hfew
    exact iff_of_true rfl hfew
  · rename_i hmany
    exact iff_of_false (Option.some_ne_none _) hmany

end Number

/-- An integer does not overflow; a double need not be turned into one. -/
def Amount.Fits : Amount → Prop
  | whole n => Number.overflows n = false
  | double _ => True

theorem Amount.fixedFault?_eq_none_iff {a : Amount} : a.fixedFault? = none ↔ a.Fits := by
  cases a with
  | whole n =>
    show (if Number.overflows n then some Number.Fault.overflow else none) = none ↔
      Number.overflows n = false
    cases Number.overflows n <;> simp
  | double x => exact iff_of_true rfl trivial

end SourceGrade
