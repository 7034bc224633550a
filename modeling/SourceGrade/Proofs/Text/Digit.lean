import Mathlib.Data.List.Chain
import Mathlib.Data.List.TakeWhile
import SourceGrade.Proofs.Sorted
import SourceGrade.Text.Blank
import SourceGrade.Text.Digit
import SourceGrade.Text.Word

set_option autoImplicit false

/-!
# Digits among the characters

A digit of any script is a word character and is not blank. The digits come in blocks of ten, so
it is enough to look at the blocks: none of them meets a blank, and each lies between two
neighbouring entries of the table of word characters.
-/

namespace SourceGrade.Text

/-! ## Stretches of a set of characters -/

/-- Whether the code points from `first` to `last` lie in one of the stretches of members that the
given changes of membership bound. -/
def coversStretch (first last : Nat) : List Nat → Bool
  | a :: b :: rest => (a ≤ first && last < b) || coversStretch first last rest
  | _ => false

theorem exists_le_of_coversStretch {first last : Nat} :
    ∀ {toggles : List Nat}, coversStretch first last toggles = true → ∃ x ∈ toggles, x ≤ first
  | [], h => absurd h (by simp [coversStretch])
  | [_], h => absurd h (by simp [coversStretch])
  | a :: b :: rest, h => by
    simp only [coversStretch, Bool.or_eq_true, Bool.and_eq_true, decide_eq_true_eq] at h
    rcases h with ⟨ha, -⟩ | h
    · exact ⟨a, List.mem_cons_self, ha⟩
    · obtain ⟨x, hx, hle⟩ := exists_le_of_coversStretch h
      exact ⟨x, List.mem_cons_of_mem a (List.mem_cons_of_mem b hx), hle⟩

/-- In a stretch of members the number of changes up to a code point is odd. -/
theorem countP_of_coversStretch {first last n : Nat} (hfirst : first ≤ n) (hlast : n ≤ last) :
    ∀ {toggles : List Nat}, toggles.Pairwise (· ≤ ·) → coversStretch first last toggles = true →
      toggles.countP (· < n + 1) % 2 = 1
  | [], _, h => absurd h (by simp [coversStretch])
  | [_], _, h => absurd h (by simp [coversStretch])
  | a :: b :: rest, hs, h => by
    have hab : a ≤ b := List.rel_of_pairwise_cons hs List.mem_cons_self
    simp only [coversStretch, Bool.or_eq_true, Bool.and_eq_true, decide_eq_true_eq] at h
    by_cases hb : b < n + 1
    · -- Both changes are counted, and the stretch is a later one.
      have hrest : coversStretch first last rest = true := h.resolve_left fun h => by omega
      have ih := countP_of_coversStretch hfirst hlast hs.of_cons.of_cons hrest
      have ha : a < n + 1 := by omega
      simp only [List.countP_cons, ha, hb, decide_true, if_true]
      omega
    · -- No change after the first one is counted.
      have hlater : ∀ x ∈ rest, b ≤ x := fun x hx => List.rel_of_pairwise_cons hs.of_cons hx
      have hzero : rest.countP (· < n + 1) = 0 := by
        rw [List.countP_eq_zero]
        intro x hx
        have := hlater x hx
        simp only [decide_eq_true_eq]
        omega
      have ha : a < n + 1 := by
        rcases h with ⟨ha, -⟩ | h
        · omega
        · obtain ⟨x, hx, hle⟩ := exists_le_of_coversStretch h
          have := hlater x hx
          omega
      simp only [List.countP_cons, hzero, ha, hb, decide_true, decide_false, if_true,
        Bool.false_eq_true, if_false]

/-- The blocks of ten code points that are left when the first of them are taken away as long as
they lie in a stretch of members, stretch by stretch. -/
def blocksLeft : List Nat → List Nat → List Nat
  | a :: b :: rest, zeros => blocksLeft rest (zeros.dropWhile fun z => a ≤ z && z + 9 < b)
  | _, zeros => zeros

theorem coversStretch_of_not_mem_blocksLeft {z : Nat} :
    ∀ {toggles zeros : List Nat}, z ∈ zeros → z ∉ blocksLeft toggles zeros →
      coversStretch z (z + 9) toggles = true
  | [], _, hz, hleft => absurd hz hleft
  | [_], _, hz, hleft => absurd hz hleft
  | a :: b :: rest, zeros, hz, hleft => by
    unfold blocksLeft at hleft
    unfold coversStretch
    by_cases hin : (a ≤ z && z + 9 < b) = true
    · rw [hin, Bool.true_or]
    · have hkept : z ∈ zeros.dropWhile fun z => a ≤ z && z + 9 < b := by
        rw [← List.takeWhile_append_dropWhile (p := fun z => a ≤ z && z + 9 < b) (l := zeros),
          List.mem_append] at hz
        exact hz.resolve_left fun htake =>
          hin (List.mem_takeWhile_imp (p := fun z => a ≤ z && z + 9 < b) htake)
      rw [coversStretch_of_not_mem_blocksLeft hkept hleft, Bool.or_true]

theorem contains_of_coversStretch {s : CharSet} {first last : Nat} {c : Char}
    (hs : s.toggles.toList.Pairwise (· ≤ ·)) (h : coversStretch first last s.toggles.toList = true)
    (hfirst : first ≤ c.toNat) (hlast : c.toNat ≤ last) : s.contains c = true := by
  unfold CharSet.contains Sorted.upperBound
  rw [Sorted.lowerBound_eq_countP hs, beq_iff_eq]
  exact countP_of_coversStretch hfirst hlast hs h

/-! ## The blocks of digits -/

theorem pairwise_wordChars : wordChars.toggles.toList.Pairwise (· ≤ ·) :=
  List.isChain_iff_pairwise.mp (by decide +kernel)

theorem blocksLeft_digitZeros : blocksLeft wordChars.toggles.toList digitZeros = [] := by
  decide +kernel

theorem isBlank_digitZeros :
    ∀ z ∈ digitZeros, ∀ k < 10, isBlank (Char.ofNat (z + k)) = false := by
  decide +kernel

/-- A digit stands in one of the blocks. -/
theorem exists_digitZero {c : Char} (h : isDigit c = true) :
    ∃ z ∈ digitZeros, z ≤ c.toNat ∧ c.toNat ≤ z + 9 := by
  unfold isDigit digitValue? at h
  split at h
  · split at h
    · rename_i hc
      have hlow : '0'.toNat ≤ c.toNat := hc.1
      have hhigh : c.toNat ≤ '9'.toNat := hc.2
      exact ⟨0x30, by decide, hlow, hhigh⟩
    · exact absurd h (by simp)
  · rw [Option.isSome_map, List.find?_isSome] at h
    obtain ⟨z, hz, hin⟩ := h
    simp only [Bool.and_eq_true, decide_eq_true_eq] at hin
    exact ⟨z, hz, hin.1, by omega⟩

/-- A digit is a word character. -/
theorem isWord_of_isDigit {c : Char} (h : isDigit c = true) : isWord c = true := by
  unfold isWord
  split
  · rename_i hascii
    unfold isDigit digitValue? at h
    rw [if_pos hascii] at h
    split at h
    · rename_i hc
      simp [isAsciiWord, hc.1, hc.2]
    · exact absurd h (by simp)
  · obtain ⟨z, hz, hle, hle'⟩ := exists_digitZero h
    have hleft : z ∉ blocksLeft wordChars.toggles.toList digitZeros := by
      rw [blocksLeft_digitZeros]
      exact List.not_mem_nil
    exact contains_of_coversStretch pairwise_wordChars
      (coversStretch_of_not_mem_blocksLeft hz hleft) hle hle'

/-- A digit is not blank. -/
theorem isBlank_of_isDigit {c : Char} (h : isDigit c = true) : isBlank c = false := by
  obtain ⟨z, hz, hle, hle'⟩ := exists_digitZero h
  have hblank := isBlank_digitZeros z hz (c.toNat - z) (by omega)
  rwa [Nat.add_sub_cancel' hle, Char.ofNat_toNat] at hblank

end SourceGrade.Text
