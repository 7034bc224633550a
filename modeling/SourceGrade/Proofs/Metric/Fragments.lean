import SourceGrade.Metric.Duplication
import SourceGrade.Proofs.Count
import SourceGrade.Proofs.First
import SourceGrade.Proofs.Occurrence

set_option autoImplicit false

/-!
# The places of fragments

Fragments are counted as they are met on one pass over the lines. Counted over the places at which
they begin, they come to the same: a fragment is repeated if it begins at two places or more, and
the repeated fragments stand in the order of their first places.
-/

namespace SourceGrade

namespace Duplication

/-- The lines of a fragment. -/
def Fragment.lines (f : Fragment) : List (List Char) := [f.first, f.second, f.third]

theorem Fragment.lines_ne_nil (f : Fragment) : f.lines ≠ [] := List.cons_ne_nil _ _

/-- The places among lines at which a fragment begins, counted from zero. -/
def places (lines : List (List Char)) (f : Fragment) : List Nat := occurrences f.lines lines

variable {lines : List (List Char)} {f : Fragment} {i : Nat}

theorem mem_places : i ∈ places lines f ↔ f.lines <+: lines.drop i :=
  mem_occurrences f.lines_ne_nil

/-- The first of the lines begins a fragment with the two after it. -/
theorem lines_prefix_iff {a b c : List Char} :
    f.lines <+: a :: b :: c :: lines ↔ ⟨a, b, c⟩ = f := by
  obtain ⟨x, y, z⟩ := f
  unfold Fragment.lines
  simp only [List.cons_prefix_cons, List.nil_prefix, and_true, Fragment.mk.injEq, eq_comm]

/-- A fragment does not begin where fewer lines are left than it has. -/
theorem not_lines_prefix_drop (h : lines.length < fragmentLines) : ¬f.lines <+: lines.drop i := by
  intro hprefix
  have hle : fragmentLines ≤ (lines.drop i).length := hprefix.length_le
  rw [List.length_drop] at hle
  omega

/-- Only lines that are too few for a fragment have none. -/
theorem length_lt_of_no_fragment
    (h : ∀ a b c rest, lines = a :: b :: c :: rest → False) : lines.length < fragmentLines := by
  match lines, h with
  | [], _ => exact Nat.zero_lt_succ 2
  | [_], _ => exact Nat.lt_add_of_pos_right (Nat.zero_lt_succ 1)
  | [_, _], _ => exact Nat.lt_succ_self 2
  | a :: b :: c :: rest, h => exact (h a b c rest rfl).elim

/-- The fragments of lines are those that begin at their places. -/
theorem getElem?_fragmentsOf_eq_some_iff :
    (fragmentsOf lines)[i]? = some f ↔ f.lines <+: lines.drop i := by
  fun_induction fragmentsOf lines generalizing i with
  | case1 a b c rest ih =>
    cases i with
    | zero =>
      rw [List.getElem?_cons_zero, List.drop_zero, lines_prefix_iff, Option.some.injEq]
    | succ i => rw [List.getElem?_cons_succ, List.drop_succ_cons, ih]
  | case2 lines hshort =>
    exact iff_of_false (by simp) (not_lines_prefix_drop (length_lt_of_no_fragment hshort))

/-- A fragment is taken as often as there are places at which it begins. -/
theorem count_fragmentsOf (lines : List (List Char)) (f : Fragment) :
    (fragmentsOf lines).count f = (places lines f).length := by
  fun_induction fragmentsOf lines with
  | case1 a b c rest ih =>
    unfold places at ih ⊢
    rw [List.count_cons, length_occurrences_cons, ih, Nat.add_comm]
    simp only [lines_prefix_iff, beq_iff_eq]
  | case2 lines hshort =>
    have hnone : places lines f = [] := by
      refine List.eq_nil_iff_forall_not_mem.mpr fun i hi => ?_
      exact not_lines_prefix_drop (length_lt_of_no_fragment hshort) (mem_places.mp hi)
    rw [hnone]
    rfl

/-! ## Repeated fragments -/

/-- The fragments that occur more than once, in the order in which they first occur. -/
def repeatedOf (fragments : List Fragment) : List Fragment :=
  fragments.eraseDups.filter fun f => 1 < fragments.count f

theorem repeated_eq_map (fragments : List Fragment) :
    repeated fragments = (repeatedOf fragments).map fun f => (f, fragments.count f) := by
  unfold repeated repeatedOf
  rw [List.filter_map]
  rfl

/-- A fragment is repeated if it begins at two places or more. -/
theorem mem_repeatedOf_iff :
    f ∈ repeatedOf (fragmentsOf lines) ↔ 2 ≤ (places lines f).length := by
  unfold repeatedOf
  rw [List.mem_filter, List.mem_eraseDups, decide_eq_true_eq, count_fragmentsOf,
    ← List.count_pos_iff, count_fragmentsOf]
  omega

/-- Repeated fragments stand in the order of their first places. -/
theorem pairwise_repeatedOf (lines : List (List Char)) :
    (repeatedOf (fragmentsOf lines)).Pairwise fun f g =>
      ∃ i ∈ places lines f, ∀ j ∈ places lines g, i < j := by
  have hfirsts : (fragmentsOf lines).eraseDups = firstsBy id (fragmentsOf lines) :=
    eraseDupsBy_eq_firstsBy id (fragmentsOf lines)
  unfold repeatedOf
  rw [hfirsts]
  refine ((pairwise_firstsBy id (fragmentsOf lines)).filter _).imp ?_
  rintro f g ⟨i, hi, hbefore⟩
  refine ⟨i, mem_places.mpr (getElem?_fragmentsOf_eq_some_iff.mp hi), fun j hj => hbefore j ?_⟩
  rw [getElem?_fragmentsOf_eq_some_iff.mpr (mem_places.mp hj), Option.map_some]

/-- The repeated fragments occur as often as there are fragments that are repeated. -/
theorem total_count_repeatedOf (fragments : List Fragment) :
    Number.total ((repeatedOf fragments).map fun f => fragments.count f) =
      fragments.countP fun f => 1 < fragments.count f := by
  have hfilter : repeatedOf fragments =
      (fragments.filter fun f => 1 < fragments.count f).eraseDups := by
    have hfirsts : ∀ fs : List Fragment, fs.eraseDups = firstsBy id fs := eraseDupsBy_eq_firstsBy id
    unfold repeatedOf
    rw [hfirsts, hfirsts]
    exact filter_firstsBy id (fun f => 1 < fragments.count f) fragments
  rw [hfilter, List.countP_eq_length_filter, ← total_count_eraseDups]
  refine congrArg Number.total (List.map_congr_left fun f hf => ?_)
  have hkept := (List.mem_filter.mp (List.mem_eraseDups.mp hf)).2
  exact (List.count_filter (p := fun f => 1 < fragments.count f) hkept).symm

end Duplication

end SourceGrade
