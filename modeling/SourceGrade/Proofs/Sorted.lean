import SourceGrade.Sorted

set_option autoImplicit false

/-!
# Searching ascending arrays

`Sorted.lowerBound` halves an interval of positions. `Sorted.Brackets` is what each halving keeps:
everything before the interval is smaller than the number that is looked for, and nothing after it
is. From it follow the two readings of the result that the indexes of a text rely on: a count of
the smaller entries, and the place of the first entry that is not smaller.
-/

namespace SourceGrade

/-- The first number from `start` on that has a property. -/
structure IsFirst (P : Nat → Prop) (start i : Nat) : Prop where
  /-- It is not before the start. -/
  le : start ≤ i
  /-- It has the property. -/
  holds : P i
  /-- No earlier number has it. -/
  least : ∀ j, start ≤ j → j < i → ¬ P j

theorem IsFirst.unique {P : Nat → Prop} {start i j : Nat} (hi : IsFirst P start i)
    (hj : IsFirst P start j) : i = j := by
  rcases Nat.lt_trichotomy i j with hlt | heq | hgt
  · exact absurd hi.holds (hj.least i hi.le hlt)
  · exact heq
  · exact absurd hj.holds (hi.least j hj.le hgt)

/-- Where one number has the property, there is a first one. -/
theorem IsFirst.exists_le {P : Nat → Prop} {start i : Nat} (hle : start ≤ i) (hi : P i) :
    ∃ j, j ≤ i ∧ IsFirst P start j := by
  induction i using Nat.strongRecOn with
  | ind i ih =>
    by_cases hearlier : ∃ k, start ≤ k ∧ k < i ∧ P k
    · obtain ⟨k, hk, hki, hP⟩ := hearlier
      obtain ⟨j, hj, hfirst⟩ := ih k hki hk hP
      exact ⟨j, Nat.le_trans hj (Nat.le_of_lt hki), hfirst⟩
    · exact ⟨i, Nat.le_refl i, hle, hi, fun k hk hki hP => hearlier ⟨k, hk, hki, hP⟩⟩

/-- Only the numbers from the start on matter. -/
theorem isFirst_congr {P Q : Nat → Prop} {start i : Nat} (h : ∀ j, start ≤ j → (P j ↔ Q j)) :
    IsFirst P start i ↔ IsFirst Q start i := by
  constructor
  · intro hi
    exact ⟨hi.le, (h i hi.le).mp hi.holds, fun j hj hlt hQ => hi.least j hj hlt ((h j hj).mpr hQ)⟩
  · intro hi
    exact ⟨hi.le, (h i hi.le).mpr hi.holds, fun j hj hlt hP => hi.least j hj hlt ((h j hj).mp hP)⟩

/-- A bound that the property implies can take the place of the start. -/
theorem isFirst_and_le_iff {P : Nat → Prop} {start bound i : Nat} (h : start ≤ bound) :
    IsFirst (fun j => bound ≤ j ∧ P j) start i ↔ IsFirst P bound i := by
  constructor
  · intro hi
    refine ⟨hi.holds.1, hi.holds.2, fun j hj hlt hP => ?_⟩
    exact hi.least j (Nat.le_trans h hj) hlt ⟨hj, hP⟩
  · intro hi
    refine ⟨Nat.le_trans h hi.le, ⟨hi.le, hi.holds⟩, fun j _ hlt hP => ?_⟩
    exact hi.least j hP.1 hlt hP.2

/-- The first number is not changed by a limit that it stays below. -/
theorem isFirst_and_lt_iff {P : Nat → Prop} {start stop i : Nat} :
    IsFirst (fun j => P j ∧ j < stop) start i ↔ IsFirst P start i ∧ i < stop := by
  constructor
  · intro hi
    refine ⟨⟨hi.le, hi.holds.1, fun j hj hlt hP => ?_⟩, hi.holds.2⟩
    exact hi.least j hj hlt ⟨hP, Nat.lt_trans hlt hi.holds.2⟩
  · rintro ⟨hi, hstop⟩
    exact ⟨hi.le, ⟨hi.holds, hstop⟩, fun j hj hlt hP => hi.least j hj hlt hP.1⟩

/-- A start without the property can be passed over. -/
theorem isFirst_succ_iff {P : Nat → Prop} {start i : Nat} (h : ¬ P start) :
    IsFirst P start i ↔ IsFirst P (start + 1) i := by
  constructor
  · intro hi
    have hne : start ≠ i := fun heq => h (heq ▸ hi.holds)
    exact ⟨Nat.lt_of_le_of_ne hi.le hne, hi.holds, fun j hj => hi.least j (Nat.le_of_succ_le hj)⟩
  · intro hi
    refine ⟨Nat.le_of_succ_le hi.le, hi.holds, fun j hj hlt hP => ?_⟩
    rcases Nat.eq_or_lt_of_le hj with rfl | hlt'
    · exact h hP
    · exact hi.least j hlt' hlt hP

/-- All numbers can be moved by the same distance. -/
theorem isFirst_add_iff {P : Nat → Prop} {start i : Nat} (m : Nat) :
    IsFirst P (start + m) (i + m) ↔ IsFirst (fun j => P (j + m)) start i := by
  constructor
  · intro hi
    refine ⟨Nat.le_of_add_le_add_right hi.le, hi.holds, fun j hj hlt => ?_⟩
    exact hi.least (j + m) (Nat.add_le_add_right hj m) (Nat.add_lt_add_right hlt m)
  · intro hi
    refine ⟨Nat.add_le_add_right hi.le m, hi.holds, fun j hj hlt => ?_⟩
    have hj' : j = j - m + m := by omega
    rw [hj']
    exact hi.least (j - m) (by omega) (by omega)

namespace Sorted

/-- The entries of an array do not decrease. -/
def Ascending (xs : Array Nat) : Prop := xs.toList.Pairwise (· ≤ ·)

theorem Ascending.getElem_le {xs : Array Nat} (hs : Ascending xs) {i j : Nat} (hij : i ≤ j)
    (hj : j < xs.size) : xs[i] ≤ xs[j] := by
  rcases Nat.lt_or_eq_of_le hij with hlt | rfl
  · exact List.pairwise_iff_getElem.mp hs i j (by simp; omega) (by simpa using hj) hlt
  · exact Nat.le_refl _

/-- The positions from `lo` up to `hi` separate the entries that are smaller than `x` from those
that are not. -/
structure Brackets (xs : Array Nat) (x lo hi : Nat) : Prop where
  /-- The interval is not reversed. -/
  le : lo ≤ hi
  /-- It lies in the array. -/
  le_size : hi ≤ xs.size
  /-- What stands before it is smaller. -/
  below : ∀ (i : Nat) (h : i < xs.size), i < lo → xs[i] < x
  /-- What stands after it is not smaller. -/
  above : ∀ (i : Nat) (h : i < xs.size), hi ≤ i → x ≤ xs[i]

theorem brackets_whole (xs : Array Nat) (x : Nat) : Brackets xs x 0 xs.size where
  le := Nat.zero_le _
  le_size := Nat.le_refl _
  below := fun _ _ hi => absurd hi (Nat.not_lt_zero _)
  above := fun _ h hi => absurd h (Nat.not_lt_of_le hi)

/-- The upper half remains where the middle entry is smaller. -/
theorem Brackets.upperHalf {xs : Array Nat} {x lo hi mid : Nat} (hs : Ascending xs)
    (h : Brackets xs x lo hi) (hmid : mid < hi) (hsize : mid < xs.size)
    (hlt : xs[mid] < x) : Brackets xs x (mid + 1) hi where
  le := hmid
  le_size := h.le_size
  below := fun _ _ hle =>
    Nat.lt_of_le_of_lt (hs.getElem_le (Nat.le_of_lt_succ hle) hsize) hlt
  above := h.above

/-- The lower half remains where the middle entry is not smaller. -/
theorem Brackets.lowerHalf {xs : Array Nat} {x lo hi mid : Nat} (hs : Ascending xs)
    (h : Brackets xs x lo hi) (hlo : lo ≤ mid) (hmid : mid < hi) (hsize : mid < xs.size)
    (hge : x ≤ xs[mid]) : Brackets xs x lo mid where
  le := hlo
  le_size := Nat.le_trans (Nat.le_of_lt hmid) h.le_size
  below := h.below
  above := fun _ hi hle => Nat.le_trans hge (hs.getElem_le hle hi)

/-- A search with enough fuel ends at a single position that separates the array. -/
theorem lowerBoundFrom_brackets {xs : Array Nat} {x : Nat} (hs : Ascending xs) (fuel : Nat) :
    ∀ {lo hi : Nat}, Brackets xs x lo hi → hi - lo ≤ fuel →
      Brackets xs x (lowerBoundFrom xs x fuel lo hi) (lowerBoundFrom xs x fuel lo hi) := by
  induction fuel with
  | zero =>
    intro lo hi h hfuel
    have heq : hi = lo := by have := h.le; omega
    subst heq
    exact h
  | succ fuel ih =>
    intro lo hi h hfuel
    unfold lowerBoundFrom
    by_cases hlt : lo < hi
    · have hmid : (lo + hi) / 2 < hi := by omega
      have hsize : (lo + hi) / 2 < xs.size := Nat.lt_of_lt_of_le hmid h.le_size
      simp only [hlt, if_true, Array.getD_eq_getD_getElem?, Array.getElem?_eq_getElem hsize,
        Option.getD_some]
      split
      · rename_i hx
        exact ih (h.upperHalf hs hmid hsize hx) (by omega)
      · rename_i hx
        exact ih (h.lowerHalf hs (by omega) hmid hsize (Nat.le_of_not_lt hx)) (by omega)
    · have heq : hi = lo := by have := h.le; omega
      subst heq
      simpa using h

theorem lowerBound_brackets {xs : Array Nat} (hs : Ascending xs) (x : Nat) :
    Brackets xs x (lowerBound xs x) (lowerBound xs x) :=
  lowerBoundFrom_brackets hs xs.size (brackets_whole xs x) (by omega)

/-- The search splits the entries into those that are smaller and those that are not. -/
theorem lowerBound_split {xs : Array Nat} (hs : Ascending xs) (x : Nat) :
    (∀ y ∈ xs.toList.take (lowerBound xs x), y < x) ∧
      ∀ y ∈ xs.toList.drop (lowerBound xs x), x ≤ y := by
  have h := lowerBound_brackets hs x
  constructor
  · intro y hy
    obtain ⟨i, hi, rfl⟩ := List.mem_take_iff_getElem.mp hy
    exact h.below i (by simp at hi; omega) (by omega)
  · intro y hy
    obtain ⟨i, hi, rfl⟩ := List.mem_drop_iff_getElem.mp hy
    exact h.above _ (by simpa [Nat.add_comm] using hi) (Nat.le_add_right _ _)

/-- The search counts the smaller entries. -/
theorem lowerBound_eq_countP {xs : Array Nat} (hs : Ascending xs) (x : Nat) :
    lowerBound xs x = xs.toList.countP (· < x) := by
  obtain ⟨hbelow, habove⟩ := lowerBound_split hs x
  have hle : lowerBound xs x ≤ xs.toList.length := (lowerBound_brackets hs x).le_size
  have htake : (xs.toList.take (lowerBound xs x)).countP (· < x) = lowerBound xs x := by
    rw [List.countP_eq_length.mpr fun y hy => decide_eq_true (hbelow y hy), List.length_take]
    exact Nat.min_eq_left hle
  have hdrop : (xs.toList.drop (lowerBound xs x)).countP (· < x) = 0 := by
    rw [List.countP_eq_zero]
    intro y hy
    simpa using habove y hy
  calc lowerBound xs x
      = (xs.toList.take (lowerBound xs x)).countP (· < x) +
          (xs.toList.drop (lowerBound xs x)).countP (· < x) := by rw [htake, hdrop, Nat.add_zero]
    _ = xs.toList.countP (· < x) := by rw [← List.countP_append, List.take_append_drop]

/-- The search finds the first entry that is not smaller. -/
theorem getElem?_lowerBound_eq_some_iff {xs : Array Nat} (hs : Ascending xs) (x i : Nat) :
    xs[lowerBound xs x]? = some i ↔ IsFirst (· ∈ xs) x i := by
  have h := lowerBound_brackets hs x
  constructor
  · intro hi
    obtain ⟨hsize, rfl⟩ := Array.getElem?_eq_some_iff.mp hi
    refine ⟨h.above _ hsize (Nat.le_refl _), Array.getElem_mem hsize, ?_⟩
    intro j hxj hji hj
    obtain ⟨k, hk, rfl⟩ := Array.getElem_of_mem hj
    have hle : lowerBound xs x ≤ k :=
      Nat.le_of_not_lt fun hlt => Nat.not_lt_of_le hxj (h.below k hk hlt)
    exact Nat.not_lt_of_le (hs.getElem_le hle hk) hji
  · intro hi
    obtain ⟨k, hk, rfl⟩ := Array.getElem_of_mem hi.holds
    have hle : lowerBound xs x ≤ k :=
      Nat.le_of_not_lt fun hlt => Nat.not_lt_of_le hi.le (h.below k hk hlt)
    have hsize : lowerBound xs x < xs.size := Nat.lt_of_le_of_lt hle hk
    have hxr : x ≤ xs[lowerBound xs x] := h.above _ hsize (Nat.le_refl _)
    rw [Array.getElem?_eq_getElem hsize]
    refine congrArg some (Nat.le_antisymm (hs.getElem_le hle hk) (Nat.le_of_not_lt ?_))
    exact fun hlt => hi.least _ hxr hlt (Array.getElem_mem hsize)

end Sorted

end SourceGrade
