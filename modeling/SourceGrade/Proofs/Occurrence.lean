set_option autoImplicit false

/-!
# Occurrences of a piece

The places of a list at which a piece begins, and how many of them there are. Occurrences may
overlap.
-/

namespace SourceGrade

variable {α : Type} [DecidableEq α] {piece l : List α} {i : Nat}

/-- The places of a list at which a piece begins, counted from zero. -/
def occurrences (piece l : List α) : List Nat :=
  (List.range l.length).filter fun i => piece.isPrefixOf (l.drop i)

theorem mem_occurrences (hne : piece ≠ []) : i ∈ occurrences piece l ↔ piece <+: l.drop i := by
  unfold occurrences
  rw [List.mem_filter, List.mem_range, List.isPrefixOf_iff_prefix, and_iff_right_iff_imp]
  intro hprefix
  refine Nat.lt_of_not_le fun hle => hne ?_
  rw [List.drop_of_length_le hle] at hprefix
  exact List.prefix_nil.mp hprefix

theorem lt_length_of_mem_occurrences (h : i ∈ occurrences piece l) : i < l.length :=
  List.mem_range.mp (List.mem_filter.mp h).1

/-- A piece begins at the first entry, or where it begins among the others. -/
theorem length_occurrences_cons (a : α) (l piece : List α) :
    (occurrences piece (a :: l)).length =
      (if piece <+: a :: l then 1 else 0) + (occurrences piece l).length := by
  unfold occurrences
  rw [List.length_cons, List.range_succ_eq_map, List.filter_cons, List.filter_map, List.drop_zero]
  simp only [List.isPrefixOf_iff_prefix]
  split
  · rw [List.length_cons, List.length_map, Nat.add_comm]
    rfl
  · rw [List.length_map, Nat.zero_add]
    rfl

/-- A piece begins at no more than one place if no two of its places differ. -/
theorem length_occurrences_le_one_iff (piece l : List α) :
    (occurrences piece l).length ≤ 1 ↔
      ∀ i ∈ occurrences piece l, ∀ j ∈ occurrences piece l, i = j := by
  have hnodup : (occurrences piece l).Nodup := List.nodup_range.filter _
  match hplaces : occurrences piece l with
  | [] => simp
  | [i] => simp
  | i :: j :: rest =>
    rw [hplaces, List.nodup_cons] at hnodup
    refine iff_of_false (by simp) fun hall => hnodup.1 ?_
    rw [hall i List.mem_cons_self j (List.mem_cons_of_mem i List.mem_cons_self)]
    exact List.mem_cons_self

end SourceGrade
