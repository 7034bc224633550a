set_option autoImplicit false

/-!
# Sorted arrays of numbers

Offsets into a text are collected in ascending order, so a question about an offset is answered by
halving the array instead of walking it.
-/

namespace SourceGrade.Sorted

/-- The search of `lowerBound` between the positions `lo` and `hi`, halving at most `fuel` times. -/
def lowerBoundFrom (xs : Array Nat) (x : Nat) : Nat → Nat → Nat → Nat
  | 0, lo, _ => lo
  | fuel + 1, lo, hi =>
    if lo < hi then
      let mid := (lo + hi) / 2
      if xs.getD mid 0 < x then lowerBoundFrom xs x fuel (mid + 1) hi
      else lowerBoundFrom xs x fuel lo mid
    else lo

/-- How many entries of an ascending array are smaller than `x`. -/
def lowerBound (xs : Array Nat) (x : Nat) : Nat := lowerBoundFrom xs x xs.size 0 xs.size

/-- How many entries of an ascending array are at most `x`. -/
def upperBound (xs : Array Nat) (x : Nat) : Nat := lowerBound xs (x + 1)

end SourceGrade.Sorted
