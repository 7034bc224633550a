import SourceGrade.Number.Total

set_option autoImplicit false

/-!
# Totals and counts

Totals do not depend on the order of what is added up. The counts of the different entries of a list
add up to its length.
-/

namespace SourceGrade

namespace Number

theorem total_map_add {α : Type} (f g : α → Nat) (l : List α) :
    total (l.map fun a => f a + g a) = total (l.map f) + total (l.map g) := by
  induction l with
  | nil => rfl
  | cons a l ih =>
    rw [List.map_cons, List.map_cons, List.map_cons, total_cons, total_cons, total_cons, ih]
    omega

theorem total_map_mul {α : Type} (f : α → Nat) (k : Nat) (l : List α) :
    total (l.map fun a => f a * k) = total (l.map f) * k := by
  induction l with
  | nil => exact (Nat.zero_mul k).symm
  | cons a l ih => rw [List.map_cons, List.map_cons, total_cons, total_cons, ih, Nat.add_mul]

theorem signedTotal_eq_of_perm {ms ns : List Int} (h : ms.Perm ns) :
    signedTotal ms = signedTotal ns := by
  induction h with
  | nil => rfl
  | cons n _ ih => rw [signedTotal_cons, signedTotal_cons, ih]
  | swap m n ns =>
    rw [signedTotal_cons, signedTotal_cons, signedTotal_cons, signedTotal_cons]
    exact Int.add_left_comm n m _
  | trans _ _ ihl ihr => exact ihl.trans ihr

/-- A total lies between as many times the least and the greatest of what is added up. -/
theorem signedTotal_bounds {low high : Int} {ns : List Int} (h : ∀ n ∈ ns, low ≤ n ∧ n ≤ high) :
    ns.length * low ≤ signedTotal ns ∧ signedTotal ns ≤ ns.length * high := by
  induction ns with
  | nil => simp
  | cons n ns ih =>
    obtain ⟨hlow, hhigh⟩ := h n List.mem_cons_self
    obtain ⟨ihlow, ihhigh⟩ := ih fun m hm => h m (List.mem_cons_of_mem n hm)
    rw [signedTotal_cons, List.length_cons, Int.natCast_succ, Int.add_mul, Int.add_mul,
      Int.one_mul, Int.one_mul]
    omega

end Number

section

variable {α : Type} [BEq α]

theorem length_filter_ne_lt (a : α) (l : List α) :
    (l.filter fun b => !b == a).length < (a :: l).length :=
  Nat.lt_succ_of_le (List.length_filter_le _ _)

theorem count_add_length_filter_ne (a : α) (l : List α) :
    l.count a + (l.filter fun b => !b == a).length = l.length := by
  have hsplit := List.length_eq_countP_add_countP (· == a) (l := l)
  rw [← List.countP_eq_length_filter, hsplit]
  simp [List.count]

variable [LawfulBEq α]

theorem nodup_eraseDups : (l : List α) → l.eraseDups.Nodup
  | [] => List.nodup_nil
  | a :: l => by
    rw [List.eraseDups_cons, List.nodup_cons, List.mem_eraseDups]
    refine ⟨fun hmem => ?_, nodup_eraseDups _⟩
    simpa using (List.mem_filter.mp hmem).2
  termination_by l => l.length
  decreasing_by exact length_filter_ne_lt a l

/-- The counts of the different entries of a list add up to its length. -/
theorem total_count_eraseDups : (l : List α) →
    Number.total (l.eraseDups.map fun a => l.count a) = l.length
  | [] => rfl
  | a :: l => by
    have hothers : ((l.filter fun b => !b == a).eraseDups.map fun b => (a :: l).count b) =
        (l.filter fun b => !b == a).eraseDups.map fun b => (l.filter fun b => !b == a).count b := by
      refine List.map_congr_left fun b hb => ?_
      have hkept : (!b == a) = true := (List.mem_filter.mp (List.mem_eraseDups.mp hb)).2
      have hne : a ≠ b := by
        rintro rfl
        simp at hkept
      rw [List.count_cons_of_ne hne, List.count_filter (p := fun b => !b == a) hkept]
    have hsplit := count_add_length_filter_ne a l
    rw [List.eraseDups_cons, List.map_cons, Number.total_cons, hothers, total_count_eraseDups,
      List.count_cons_self, List.length_cons]
    omega
  termination_by l => l.length
  decreasing_by exact length_filter_ne_lt a l

end

end SourceGrade
