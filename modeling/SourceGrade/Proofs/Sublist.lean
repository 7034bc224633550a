set_option autoImplicit false

/-!
# Sublists

What remains of a list when repetitions are erased, before or after a change of its entries, and
when less of it is picked out.
-/

namespace SourceGrade

variable {α β : Type}

theorem eraseDupsBy_sublist (r : α → α → Bool) (l : List α) : (l.eraseDupsBy r).Sublist l := by
  -- The rest is filtered before its repetitions are erased, so the induction is on the length.
  generalize hn : l.length = n
  induction n using Nat.strongRecOn generalizing l with
  | ind n ih =>
    cases l with
    | nil => exact List.Sublist.refl []
    | cons a l =>
      rw [List.eraseDupsBy_cons]
      have hle : (l.filter fun b => r b a = false).length ≤ l.length := List.length_filter_le _ _
      have hlt : (l.filter fun b => r b a = false).length < n := by
        rw [← hn, List.length_cons]
        omega
      exact ((ih _ hlt _ rfl).trans List.filter_sublist).cons_cons a

/-- Repetitions are erased before or after a change that keeps them apart. -/
theorem eraseDupsBy_map {r : α → α → Bool} {r' : β → β → Bool} {f : α → β}
    (h : ∀ a b, r' (f a) (f b) = r a b) (l : List α) :
    (l.map f).eraseDupsBy r' = (l.eraseDupsBy r).map f := by
  -- The rest is filtered before its repetitions are erased, so the induction is on the length.
  generalize hn : l.length = n
  induction n using Nat.strongRecOn generalizing l with
  | ind n ih =>
    cases l with
    | nil => rfl
    | cons a l =>
      have hlt : (l.filter fun b => r b a = false).length < n := by
        have := List.length_filter_le (fun b => r b a = false) l
        rw [← hn, List.length_cons]
        omega
      rw [List.map_cons, List.eraseDupsBy_cons, List.eraseDupsBy_cons, List.map_cons,
        List.filter_map, ← ih _ hlt _ rfl]
      simp only [Function.comp_def, h]

/-- What is picked out by fewer rules is a sublist of what is picked out by more. -/
theorem filterMap_sublist_filterMap {less more : α → Option β}
    (h : ∀ a b, less a = some b → more a = some b) (l : List α) :
    (l.filterMap less).Sublist (l.filterMap more) := by
  induction l with
  | nil => exact List.Sublist.refl []
  | cons a l ih =>
    cases hless : less a with
    | none =>
      rw [List.filterMap_cons_none hless]
      cases hmore : more a with
      | none =>
        rw [List.filterMap_cons_none hmore]
        exact ih
      | some b =>
        rw [List.filterMap_cons_some hmore]
        exact ih.cons b
    | some b =>
      rw [List.filterMap_cons_some hless, List.filterMap_cons_some (h a b hless)]
      exact ih.cons_cons b

theorem contains_of_subset [BEq α] [LawfulBEq α] {few many : List α} (h : few ⊆ many) {a : α}
    (hin : few.contains a = true) : many.contains a = true :=
  List.contains_iff_mem.mpr (h (List.contains_iff_mem.mp hin))

end SourceGrade
