import Mathlib.Data.List.Induction
import SourceGrade.Proofs.Sorted
import SourceGrade.Text.Lines

set_option autoImplicit false

/-!
# Offsets in a text

An index of a text lists, in ascending order, the offsets at which something happens.
`Text.offsetsWhere` is what such a list has to be: it asks of the piece from the beginning of the
text to an offset, so it grows at its end as the text does, and a depth that depends on all that
came before can be asked for as well as a single character.
-/

namespace SourceGrade.Text

/-- The offsets for which the piece of a text up to them, with the character at them, has a
property. -/
def offsetsWhere (ok : List Char → Bool) (t : List Char) : List Nat :=
  (List.range t.length).filter fun i => ok (t.take (i + 1))

theorem mem_offsetsWhere {ok : List Char → Bool} {t : List Char} {i : Nat} :
    i ∈ offsetsWhere ok t ↔ i < t.length ∧ ok (t.take (i + 1)) = true := by
  simp [offsetsWhere]

/-- One more character adds its offset or nothing. -/
theorem offsetsWhere_concat (ok : List Char → Bool) (t : List Char) (c : Char) :
    offsetsWhere ok (t ++ [c]) =
      offsetsWhere ok t ++ if ok (t ++ [c]) then [t.length] else [] := by
  have hearlier : (List.range t.length).filter (fun i => ok ((t ++ [c]).take (i + 1))) =
      offsetsWhere ok t := by
    refine List.filter_congr fun i hi => ?_
    have hlt : i < t.length := List.mem_range.mp hi
    rw [List.take_append_of_le_length hlt]
  have hlast : (t ++ [c]).take (t.length + 1) = t ++ [c] := List.take_of_length_le (by simp)
  conv => lhs; unfold offsetsWhere
  rw [List.length_append, List.length_singleton, List.range_succ, List.filter_append, hearlier,
    List.filter_cons, List.filter_nil, hlast]

/-- A longer text has the offsets of the shorter one, and then others. -/
theorem offsetsWhere_append (ok : List Char → Bool) (s t : List Char) :
    ∃ later, offsetsWhere ok (s ++ t) = offsetsWhere ok s ++ later := by
  induction t using List.reverseRecOn with
  | nil => exact ⟨[], by rw [List.append_nil, List.append_nil]⟩
  | append_singleton t c ih =>
    obtain ⟨later, hlater⟩ := ih
    rw [← List.append_assoc, offsetsWhere_concat, hlater, List.append_assoc]
    exact ⟨_, rfl⟩

theorem pairwise_offsetsWhere (ok : List Char → Bool) (t : List Char) :
    (offsetsWhere ok t).Pairwise (· < ·) :=
  List.pairwise_lt_range.filter _

theorem ascending_of_toList_eq {xs : Array Nat} {ok : List Char → Bool} {t : List Char}
    (h : xs.toList = offsetsWhere ok t) : Sorted.Ascending xs := by
  unfold Sorted.Ascending
  rw [h]
  exact (pairwise_offsetsWhere ok t).imp Nat.le_of_lt

/-- The offsets before a given one are those of the text that is cut there. -/
theorem countP_offsetsWhere (ok : List Char → Bool) (t : List Char) (x : Nat) :
    (offsetsWhere ok t).countP (· < x) = (offsetsWhere ok (t.take x)).length := by
  induction t using List.reverseRecOn with
  | nil => simp [offsetsWhere]
  | append_singleton t c ih =>
    rw [offsetsWhere_concat, List.countP_append, ih]
    by_cases hx : x ≤ t.length
    · have hlast : ([t.length] : List Nat).countP (· < x) = 0 := by simpa using hx
      rw [List.take_append_of_le_length hx]
      split
      · rw [hlast, Nat.add_zero]
      · rfl
    · have hlast : ([t.length] : List Nat).countP (· < x) = 1 := by simp; omega
      rw [List.take_of_length_le (by omega), List.take_of_length_le (by simp; omega),
        offsetsWhere_concat, List.length_append]
      split
      · rw [hlast, List.length_singleton]
      · rfl

/-! ## Single characters -/

/-- Whether a piece ends in the given character. -/
def endsIn (c : Char) (piece : List Char) : Bool := piece.getLast? == some c

@[simp] theorem endsIn_concat (c d : Char) (piece : List Char) :
    endsIn c (piece ++ [d]) = (d == c) := by
  simp [endsIn]

theorem mem_offsetsWhere_endsIn {c : Char} {t : List Char} {i : Nat} :
    i ∈ offsetsWhere (endsIn c) t ↔ t[i]? = some c := by
  rw [mem_offsetsWhere]
  constructor
  · rintro ⟨hi, hc⟩
    rw [List.take_add_one, List.getElem?_eq_getElem hi, Option.toList_some, endsIn_concat] at hc
    rw [List.getElem?_eq_getElem hi, eq_of_beq hc]
  · intro hc
    obtain ⟨hi, hget⟩ := List.getElem?_eq_some_iff.mp hc
    refine ⟨hi, ?_⟩
    rw [List.take_add_one, hc, Option.toList_some, endsIn_concat, beq_self_eq_true]

namespace LineIndex

/-- The index lists the line feeds. -/
theorem newlines_ofText (t : List Char) :
    (ofText t).newlines.toList = offsetsWhere (endsIn '\n') t := by
  unfold ofText
  induction t using List.reverseRecOn with
  | nil => rfl
  | append_singleton t c ih =>
    rw [offsetsWhere_concat, ← ih, List.zipIdx_append, List.filterMap_append, endsIn_concat]
    by_cases hc : c = '\n' <;> simp [hc]

/-- The line of an offset ends at the first line feed from there on. -/
theorem lineEnd?_ofText_eq_some_iff {t : List Char} {start i : Nat} :
    (ofText t).lineEnd? start = some i ↔ IsFirst (fun j => t[j]? = some '\n') start i := by
  have hs : Sorted.Ascending (ofText t).newlines := ascending_of_toList_eq (newlines_ofText t)
  unfold lineEnd?
  rw [Sorted.getElem?_lowerBound_eq_some_iff hs]
  simp only [← Array.mem_toList_iff, newlines_ofText, mem_offsetsWhere_endsIn]

end LineIndex

end SourceGrade.Text
