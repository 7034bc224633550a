import SourceGrade.Proofs.Number.Rounding

set_option autoImplicit false

/-!
# Rounding keeps the order

A larger number is never rounded to a smaller double. Within one binary exponent this is so because
the nearest integer keeps the order; between two exponents lies a power of two, which neither
rounding passes.
-/

namespace SourceGrade.Number

/-! ## The nearest integer -/

theorem halfEven_le_floor_add_one (q : Rat) : halfEven q ≤ q.floor + 1 := by
  unfold halfEven
  dsimp only
  split_ifs <;> omega

/-- A number nearer to the integer below it is rounded down. -/
theorem halfEven_of_rest_lt {q : Rat} (h : q - q.floor < 1 / 2) : halfEven q = q.floor := by
  unfold halfEven
  dsimp only
  rw [if_pos h]

/-- A number nearer to the integer above it is rounded up. -/
theorem halfEven_of_lt_rest {q : Rat} (h : 1 / 2 < q - q.floor) : halfEven q = q.floor + 1 := by
  unfold halfEven
  dsimp only
  rw [if_neg (not_lt.mpr h.le), if_pos h]

/-- The nearest integer keeps the order. -/
theorem halfEven_mono {p q : Rat} (h : p ≤ q) : halfEven p ≤ halfEven q := by
  have hfloor : p.floor ≤ q.floor := Rat.le_floor_iff.mpr ((Rat.floor_le p).trans h)
  rcases h.eq_or_lt with rfl | hless
  · exact le_refl _
  rcases hfloor.lt_or_eq with hlt | heq
  · calc halfEven p ≤ p.floor + 1 := halfEven_le_floor_add_one p
      _ ≤ q.floor := hlt
      _ ≤ halfEven q := floor_le_halfEven q
  · -- Two different numbers with the same integer below them are not both ties.
    rcases lt_or_ge (p - p.floor) (1 / 2) with hdown | hup
    · calc halfEven p = q.floor := by rw [halfEven_of_rest_lt hdown, heq]
        _ ≤ halfEven q := floor_le_halfEven q
    · have hrest : 1 / 2 < q - q.floor := by rw [heq] at hup; linarith
      calc halfEven p ≤ q.floor + 1 := heq ▸ halfEven_le_floor_add_one p
        _ = halfEven q := (halfEven_of_lt_rest hrest).symm

theorem halfEven_intCast (n : Int) : halfEven (n : Rat) = n := by
  have hrest : (n : Rat) - (n : Rat).floor < 1 / 2 := by
    rw [Rat.floor_intCast, sub_self]
    norm_num
  rw [halfEven_of_rest_lt hrest, Rat.floor_intCast]

/-- No number is moved above an integer. -/
theorem halfEven_le {q : Rat} {n : Int} (h : q ≤ (n : Rat)) : halfEven q ≤ n :=
  (halfEven_mono h).trans_eq (halfEven_intCast n)

/-! ## The nearest double -/

/-- A positive number is below the power of two after its exponent. -/
theorem lt_zpow_floorLogTwo {q : Rat} (hq : 0 < q) : q < 2 ^ (floorLogTwo q + 1) := by
  have hden : (0 : Rat) < q.den := by exact_mod_cast q.den_pos
  unfold floorLogTwo
  dsimp only
  rw [twoPow_eq_zpow]
  split
  · have hhigh : (q.num : Rat) < 2 ^ (Nat.log2 q.num.natAbs + 1) := by
      rw [← natAbs_num_of_pos hq]
      exact_mod_cast Nat.lt_log2_self
    have hlow : (2 : Rat) ^ Nat.log2 q.den ≤ q.den := by
      exact_mod_cast Nat.log2_self_le q.den_pos.ne'
    have hsplit : (2 : Rat) ^ ((Nat.log2 q.num.natAbs : Int) - Nat.log2 q.den + 1) =
        2 ^ (Nat.log2 q.num.natAbs + 1) / 2 ^ Nat.log2 q.den := by
      rw [sub_add_eq_add_sub, zpow_sub₀ (by norm_num), zpow_natCast]
      congr 1
    calc q = (q.num : Rat) / q.den := (Rat.num_div_den q).symm
      _ < 2 ^ (Nat.log2 q.num.natAbs + 1) / (q.den : Rat) := div_lt_div_of_pos_right hhigh hden
      _ ≤ 2 ^ (Nat.log2 q.num.natAbs + 1) / 2 ^ Nat.log2 q.den :=
          div_le_div_of_nonneg_left (by positivity) (by positivity) hlow
      _ = 2 ^ ((Nat.log2 q.num.natAbs : Int) - Nat.log2 q.den + 1) := hsplit.symm
  · rename_i hgt
    rw [sub_add_cancel]
    exact not_le.mp hgt

theorem zpow_floorLogTwo_le {q : Rat} (hq : 0 < q) : (2 : Rat) ^ floorLogTwo q ≤ q := by
  by_contra hlt
  exact absurd (floorLogTwo_lt hq (not_le.mp hlt)) (lt_irrefl _)

theorem floorLogTwo_mono {p q : Rat} (hp : 0 < p) (h : p ≤ q) : floorLogTwo p ≤ floorLogTwo q :=
  Int.lt_add_one_iff.mp (floorLogTwo_lt hp (h.trans_lt (lt_zpow_floorLogTwo (hp.trans_le h))))

/-- A power of two is a whole number of last places, unless it is smaller than they are. -/
theorem exists_zpow_eq {e k : Int} (h : e ≤ k) : ∃ n : Int, (2 : Rat) ^ k = n * 2 ^ e := by
  refine ⟨2 ^ (k - e).toNat, ?_⟩
  have hexp : (2 : Rat) ^ (k - e).toNat = 2 ^ (k - e) := by
    rw [← zpow_natCast, Int.toNat_of_nonneg (by omega)]
  push_cast
  rw [hexp, ← zpow_add₀ (by norm_num), sub_add_cancel]

/-- A number is not rounded below a power of two. -/
theorem zpow_le_nearestDouble {q : Rat} {k : Int} (hplace : lastPlace q ≤ k)
    (h : (2 : Rat) ^ k ≤ q) : (2 : Rat) ^ k ≤ nearestDouble q := by
  have hq : 0 < q := (zpow_pos (by norm_num) k).trans_le h
  have hunit : (0 : Rat) < 2 ^ lastPlace q := zpow_pos (by norm_num) _
  obtain ⟨n, hn⟩ := exists_zpow_eq hplace
  rw [nearestDouble_of_pos hq, hn]
  refine mul_le_mul_of_nonneg_right ?_ hunit.le
  exact_mod_cast le_halfEven ((le_div_iff₀ hunit).mpr (hn ▸ h))

/-- A number is not rounded above a power of two. -/
theorem nearestDouble_le_zpow {q : Rat} {k : Int} (hq : 0 < q) (hplace : lastPlace q ≤ k)
    (h : q ≤ (2 : Rat) ^ k) : nearestDouble q ≤ (2 : Rat) ^ k := by
  have hunit : (0 : Rat) < 2 ^ lastPlace q := zpow_pos (by norm_num) _
  obtain ⟨n, hn⟩ := exists_zpow_eq hplace
  rw [nearestDouble_of_pos hq, hn]
  refine mul_le_mul_of_nonneg_right ?_ hunit.le
  exact_mod_cast halfEven_le ((div_le_iff₀ hunit).mpr (hn ▸ h))

/-- A positive number is not rounded below zero. -/
theorem nearestDouble_nonneg {q : Rat} (hq : 0 ≤ q) : 0 ≤ nearestDouble q := by
  rcases hq.eq_or_lt with rfl | hpos
  · rw [nearestDouble_zero]
  · have hunit : (0 : Rat) < 2 ^ lastPlace q := zpow_pos (by norm_num) _
    rw [nearestDouble_of_pos hpos]
    refine mul_nonneg ?_ hunit.le
    exact_mod_cast le_halfEven (n := 0) (by exact_mod_cast (div_pos hpos hunit).le)

/-- Of two numbers that are not negative the larger one has no smaller nearest double. -/
theorem nearestDouble_mono {p q : Rat} (hp : 0 ≤ p) (h : p ≤ q) :
    nearestDouble p ≤ nearestDouble q := by
  rcases hp.eq_or_lt with rfl | hpos
  · rw [nearestDouble_zero]
    exact nearestDouble_nonneg h
  · have hqpos : 0 < q := hpos.trans_le h
    have hlog := floorLogTwo_mono hpos h
    have hplace : lastPlace p ≤ lastPlace q := by unfold lastPlace; omega
    rcases hplace.eq_or_lt with heq | hlt
    · have hunit : (0 : Rat) < 2 ^ lastPlace q := zpow_pos (by norm_num) _
      rw [nearestDouble_of_pos hpos, nearestDouble_of_pos hqpos, heq]
      refine mul_le_mul_of_nonneg_right ?_ hunit.le
      exact_mod_cast halfEven_mono (div_le_div_of_nonneg_right h hunit.le)
    · -- The power of two with the exponent of the larger number lies between the two.
      unfold lastPlace at hlt
      have hless : floorLogTwo p + 1 ≤ floorLogTwo q := by omega
      have hbelow : p ≤ 2 ^ floorLogTwo q :=
        (lt_zpow_floorLogTwo hpos).le.trans (zpow_le_zpow_right₀ (by norm_num) hless)
      calc nearestDouble p ≤ 2 ^ floorLogTwo q :=
            nearestDouble_le_zpow hpos (by unfold lastPlace; omega) hbelow
        _ ≤ nearestDouble q :=
            zpow_le_nearestDouble (by unfold lastPlace; omega) (zpow_floorLogTwo_le hqpos)

/-- A number that is no smaller than the least positive double is not rounded below it. -/
theorem least_le_nearestDouble {q : Rat} (h : (2 : Rat) ^ (-1074 : Int) ≤ q) :
    (2 : Rat) ^ (-1074 : Int) ≤ nearestDouble q := by
  have hpos : (0 : Rat) < 2 ^ (-1074 : Int) := zpow_pos (by norm_num) _
  have hlog : floorLogTwo ((2 : Rat) ^ (-1074 : Int)) < -1073 :=
    floorLogTwo_lt hpos (zpow_lt_zpow_right₀ (by norm_num) (by norm_num))
  have hplace : lastPlace ((2 : Rat) ^ (-1074 : Int)) ≤ -1074 := by unfold lastPlace; omega
  exact (zpow_le_nearestDouble hplace (le_refl _)).trans (nearestDouble_mono hpos.le h)

/-! ## Percentages -/

section

variable {part whole : Nat}

theorem percent_natCast (part whole : Nat) :
    percent part whole = nearestDouble (nearestDouble ((part : Rat) / (whole : Rat)) * 100) := by
  unfold percent quotient
  rw [Int.cast_natCast, Int.cast_natCast]

theorem percent_zero (whole : Nat) : percent (0 : Nat) whole = 0 := by
  rw [percent_natCast, Nat.cast_zero, zero_div, nearestDouble_zero, zero_mul, nearestDouble_zero]

theorem percent_nonneg (part whole : Nat) : 0 ≤ percent part whole := by
  rw [percent_natCast]
  exact nearestDouble_nonneg (mul_nonneg (nearestDouble_nonneg (by positivity)) (by norm_num))

/-- A larger part has no smaller percentage. -/
theorem percent_mono {part' whole' : Nat}
    (h : (part : Rat) / (whole : Rat) ≤ (part' : Rat) / (whole' : Rat)) :
    percent part whole ≤ percent part' whole' := by
  have hquotient := nearestDouble_mono (by positivity) h
  rw [percent_natCast, percent_natCast]
  refine nearestDouble_mono (mul_nonneg (nearestDouble_nonneg (by positivity)) (by norm_num)) ?_
  exact mul_le_mul_of_nonneg_right hquotient (by norm_num)

/-- A part that is not zero has a percentage that is not zero, unless the whole is too large. -/
theorem percent_pos (hpart : 0 < part) (hwhole : 0 < whole) (hsmall : whole ≤ 2 ^ 1074) :
    0 < percent part whole := by
  have hone : (1 : Rat) ≤ part := by exact_mod_cast hpart
  have hpos : (0 : Rat) < whole := by exact_mod_cast hwhole
  have hleast : (0 : Rat) < 2 ^ (-1074 : Int) := zpow_pos (by norm_num) _
  have hle : (whole : Rat) ≤ 2 ^ (1074 : Int) := by exact_mod_cast hsmall
  have hquotient : (2 : Rat) ^ (-1074 : Int) ≤ (part : Rat) / whole := by
    calc (2 : Rat) ^ (-1074 : Int) = 1 / 2 ^ (1074 : Int) := by rw [zpow_neg, one_div]
      _ ≤ 1 / (whole : Rat) := one_div_le_one_div_of_le hpos hle
      _ ≤ (part : Rat) / whole := div_le_div_of_nonneg_right hone hpos.le
  have hrounded := least_le_nearestDouble hquotient
  rw [percent_natCast]
  refine hleast.trans_le (least_le_nearestDouble (hrounded.trans ?_))
  exact le_mul_of_one_le_right (hleast.le.trans hrounded) (by norm_num)

end

end SourceGrade.Number
