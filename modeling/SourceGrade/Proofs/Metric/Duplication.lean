import SourceGrade.Proofs.Metric.Fragments
import SourceGrade.Proofs.Number.Monotone

set_option autoImplicit false

/-!
# The account of repeated fragments

What is reported of a text that repeats itself, told by the places at which its fragments begin: how
many fragments begin at several places, which of them are listed, and the share of the lines in all
their occurrences. The share is exact before it is rounded, twice, to a double; `exactPercentage` is
the exact one, and rounding does not move it past zero or past the whole.
-/

namespace SourceGrade

namespace Duplication

/-! ## Percentages -/

theorem atMostAll_eq_min (q : Rat) : atMostAll q = min 100 q := by
  unfold atMostAll
  split_ifs with h
  · exact (min_eq_right h).symm
  · exact (min_eq_left (le_of_not_ge h)).symm

theorem atMostAll_le (q : Rat) : atMostAll q ≤ 100 := by
  rw [atMostAll_eq_min]
  exact min_le_left 100 q

theorem atMostAll_nonneg {q : Rat} (h : 0 ≤ q) : 0 ≤ atMostAll q := by
  rw [atMostAll_eq_min]
  exact le_min (by norm_num) h

theorem atMostAll_pos {q : Rat} (h : 0 < q) : 0 < atMostAll q := by
  rw [atMostAll_eq_min]
  exact lt_min (by norm_num) h

theorem atMostAll_mono {p q : Rat} (h : p ≤ q) : atMostAll p ≤ atMostAll q := by
  rw [atMostAll_eq_min, atMostAll_eq_min]
  exact min_le_min_left 100 h

theorem share_pos {part whole : Nat} (hpart : 0 < part) (hwhole : 0 < whole) :
    0 < share part whole := by
  unfold share
  exact atMostAll_pos (by positivity)

theorem share_zero (whole : Nat) : share 0 whole = 0 := by
  unfold share
  rw [Nat.cast_zero, zero_div, zero_mul, atMostAll_eq_min]
  norm_num

/-! ## The share of repeated lines -/

/-- The percentage of repeated lines before it is rounded. -/
def exactPercentage (lines : List (List Char)) : Rat :=
  share (repeatedLines (repeated (fragmentsOf lines))) lines.length

/-- The number of lines in all occurrences of fragments, three for each place at which one
begins. -/
def linesAtPlaces (lines : List (List Char)) (found : List Fragment) : Nat :=
  Number.total (found.map fun f => 3 * (places lines f).length)

theorem repeatedLines_eq_linesAtPlaces (lines : List (List Char)) :
    repeatedLines (repeated (fragmentsOf lines)) =
      linesAtPlaces lines (repeatedOf (fragmentsOf lines)) := by
  unfold repeatedLines linesAtPlaces
  rw [repeated_eq_map, List.map_map]
  refine congrArg Number.total (List.map_congr_left fun f _ => ?_)
  rw [← count_fragmentsOf, Nat.mul_comm]
  rfl

/-- Each fragment that is repeated counts for its three lines. -/
theorem repeatedLines_repeated (fragments : List Fragment) :
    repeatedLines (repeated fragments) = fragments.countP (fun f => 1 < fragments.count f) * 3 := by
  unfold repeatedLines
  rw [repeated_eq_map, List.map_map, ← total_count_repeatedOf,
    ← Number.total_map_mul]
  rfl

theorem repeatedLines_eq_zero_iff (fragments : List Fragment) :
    repeatedLines (repeated fragments) = 0 ↔ repeatedOf fragments = [] := by
  have hthree : (3 : Nat) ≠ 0 := Nat.succ_ne_zero 2
  rw [repeatedLines_repeated, Nat.mul_eq_zero, or_iff_left hthree, List.countP_eq_zero]
  unfold repeatedOf
  rw [List.filter_eq_nil_iff]
  simp only [List.mem_eraseDups]

theorem instances_ofSignificant (lines : List (List Char)) :
    (ofSignificant lines).instances = (repeatedOf (fragmentsOf lines)).length := by
  cases lines with
  | nil => rfl
  | cons line lines =>
    show ((repeated (fragmentsOf (line :: lines))).length : Int) = _
    rw [repeated_eq_map, List.length_map]

theorem fragments_ofSignificant (lines : List (List Char)) :
    (ofSignificant lines).fragments = ((repeatedOf (fragmentsOf lines)).take listedFragments).map
      fun f => ⟨String.ofList (f.first.take previewLength), (places lines f).length⟩ := by
  cases lines with
  | nil => rfl
  | cons line lines =>
    show ((repeated (fragmentsOf (line :: lines))).take listedFragments).map _ = _
    rw [repeated_eq_map, ← List.map_take, List.map_map]
    refine List.map_congr_left fun f _ => ?_
    rw [← count_fragmentsOf]
    rfl

theorem percentage_ofSignificant (lines : List (List Char)) :
    (ofSignificant lines).percentage =
      atMostAll (Number.percent (repeatedLines (repeated (fragmentsOf lines))) lines.length) := by
  cases lines with
  | nil => decide +kernel
  | cons line lines => rfl

theorem repeatedOf_eq_nil_of_lines_eq_nil {lines : List (List Char)} (h : lines = []) :
    repeatedOf (fragmentsOf lines) = [] := by
  subst h
  rfl

/-- A measure of the repeated lines that vanishes only for none of them vanishes exactly where no
fragment is repeated. -/
theorem measure_eq_zero_iff {lines : List (List Char)} (measure : Nat → Rat)
    (hpos : ∀ part, 0 < part → 0 < lines.length → 0 < measure part) (hzero : measure 0 = 0) :
    measure (repeatedLines (repeated (fragmentsOf lines))) = 0 ↔
      repeatedOf (fragmentsOf lines) = [] := by
  constructor
  · intro hvanishes
    by_contra hsome
    have hpart := Nat.pos_of_ne_zero (mt (repeatedLines_eq_zero_iff _).mp hsome)
    have hwhole := List.length_pos_iff.mpr fun h => hsome (repeatedOf_eq_nil_of_lines_eq_nil h)
    exact absurd hvanishes (hpos _ hpart hwhole).ne'
  · intro hnone
    rw [(repeatedLines_eq_zero_iff _).mpr hnone, hzero]

theorem exactPercentage_eq_zero_iff (lines : List (List Char)) :
    exactPercentage lines = 0 ↔ repeatedOf (fragmentsOf lines) = [] :=
  measure_eq_zero_iff (share · lines.length) (fun _ => share_pos) (share_zero _)

theorem percentage_eq_zero_iff {lines : List (List Char)} (hsmall : lines.length ≤ 2 ^ 1074) :
    (ofSignificant lines).percentage = 0 ↔ repeatedOf (fragmentsOf lines) = [] := by
  rw [percentage_ofSignificant]
  refine measure_eq_zero_iff (fun part => atMostAll (Number.percent part lines.length))
    (fun _ hpart hwhole => atMostAll_pos (Number.percent_pos hpart hwhole hsmall)) ?_
  show atMostAll (Number.percent (0 : Nat) lines.length) = 0
  rw [Number.percent_zero, atMostAll_eq_min]
  norm_num

/-! ## The account -/

/-- What is reported of lines that repeat themselves. -/
structure AccountsFor (lines : List (List Char)) (found : List Fragment) (d : Duplication) :
    Prop where
  /-- Found are the fragments that begin at two places or more. -/
  mem_found : ∀ f, f ∈ found ↔ 2 ≤ (places lines f).length
  /-- They stand in the order of their first places. -/
  ordered : found.Pairwise fun f g => ∃ i ∈ places lines f, ∀ j ∈ places lines g, i < j
  instances : d.instances = found.length
  /-- The first five are listed with the number of their places. -/
  fragments : d.fragments = (found.take 5).map fun f =>
    ⟨String.ofList (f.first.take 60), (places lines f).length⟩
  /-- The exact percentage is that of the lines in all occurrences, at most all of them. -/
  exact : exactPercentage lines =
    min 100 (100 * (linesAtPlaces lines found : Rat) / (lines.length : Rat))
  /-- Where there are no lines, nothing is repeated. -/
  empty : lines = [] → exactPercentage lines = 0
  /-- The percentage is rounded once as a quotient and once as a percentage. -/
  percentage : d.percentage =
    min 100 (Number.nearestDouble (Number.nearestDouble
      ((linesAtPlaces lines found : Rat) / (lines.length : Rat)) * 100))

/-- What a percentage tells. -/
structure TellsRepetition (lines : List (List Char)) (d : Duplication) : Prop where
  exact_nonneg : 0 ≤ exactPercentage lines
  exact_le : exactPercentage lines ≤ 100
  exact_eq_zero_iff : exactPercentage lines = 0 ↔ d.instances = 0
  nonneg : 0 ≤ d.percentage
  le : d.percentage ≤ 100
  /-- A double is zero for no other reason, unless there are more lines than it can count. -/
  eq_zero_iff : lines.length ≤ 2 ^ 1074 → (d.percentage = 0 ↔ d.instances = 0)
  instances_eq_zero_iff : d.instances = 0 ↔
    ∀ f, ∀ i ∈ places lines f, ∀ j ∈ places lines f, i = j
  instances_of_nodup : lines.Nodup → d.instances = 0

theorem accountsFor_ofSignificant (lines : List (List Char)) :
    AccountsFor lines (repeatedOf (fragmentsOf lines)) (ofSignificant lines) where
  mem_found _ := mem_repeatedOf_iff
  ordered := pairwise_repeatedOf lines
  instances := instances_ofSignificant lines
  fragments := fragments_ofSignificant lines
  exact := by
    unfold exactPercentage share
    rw [atMostAll_eq_min, repeatedLines_eq_linesAtPlaces, mul_comm, mul_div_assoc]
  empty h := (exactPercentage_eq_zero_iff lines).mpr (repeatedOf_eq_nil_of_lines_eq_nil h)
  percentage := by
    rw [percentage_ofSignificant, atMostAll_eq_min, repeatedLines_eq_linesAtPlaces]
    unfold Number.percent Number.quotient
    rw [Int.cast_natCast, Int.cast_natCast]

theorem instances_eq_zero_iff_repeatedOf (lines : List (List Char)) :
    (ofSignificant lines).instances = 0 ↔ repeatedOf (fragmentsOf lines) = [] := by
  rw [instances_ofSignificant, Int.natCast_eq_zero, List.length_eq_zero_iff]

/-- Nothing is repeated exactly if every fragment begins at one place at most. -/
theorem repeatedOf_eq_nil_iff (lines : List (List Char)) :
    repeatedOf (fragmentsOf lines) = [] ↔
      ∀ f, ∀ i ∈ places lines f, ∀ j ∈ places lines f, i = j := by
  rw [List.eq_nil_iff_forall_not_mem]
  refine forall_congr' fun f => ?_
  rw [mem_repeatedOf_iff]
  unfold places
  rw [← length_occurrences_le_one_iff]
  omega

/-- Different lines are in different fragments. -/
theorem eq_of_mem_places_of_nodup {lines : List (List Char)} (h : lines.Nodup) {f : Fragment}
    {i j : Nat} (hi : i ∈ places lines f) (hj : j ∈ places lines f) : i = j := by
  have hfirst : ∀ k ∈ places lines f, lines[k]? = some f.first := by
    intro k hk
    obtain ⟨rest, hrest⟩ := mem_places.mp hk
    rw [← List.head?_drop, ← hrest]
    rfl
  obtain ⟨hlt, -⟩ := List.getElem?_eq_some_iff.mp (hfirst i hi)
  exact (List.getElem?_inj hlt h).mp ((hfirst i hi).trans (hfirst j hj).symm)

theorem tellsRepetition_ofSignificant (lines : List (List Char)) :
    TellsRepetition lines (ofSignificant lines) where
  exact_nonneg := atMostAll_nonneg (by positivity)
  exact_le := atMostAll_le _
  exact_eq_zero_iff := by
    rw [exactPercentage_eq_zero_iff, instances_eq_zero_iff_repeatedOf]
  nonneg := by
    rw [percentage_ofSignificant]
    exact atMostAll_nonneg (Number.percent_nonneg _ _)
  le := by
    rw [percentage_ofSignificant]
    exact atMostAll_le _
  eq_zero_iff hsmall := by
    rw [percentage_eq_zero_iff hsmall, instances_eq_zero_iff_repeatedOf]
  instances_eq_zero_iff := by
    rw [instances_eq_zero_iff_repeatedOf, repeatedOf_eq_nil_iff]
  instances_of_nodup h := by
    rw [instances_eq_zero_iff_repeatedOf, repeatedOf_eq_nil_iff]
    exact fun f i hi j hj => eq_of_mem_places_of_nodup h hi hj

/-- The account of a text that repeats itself: what is found, what is reported of it, and what the
percentage tells. -/
theorem exists_accountsFor_ofText (t : List Char) :
    ∃ found, AccountsFor (significantLines t) found (ofText t) ∧
      TellsRepetition (significantLines t) (ofText t) :=
  ⟨_, accountsFor_ofSignificant _, tellsRepetition_ofSignificant _⟩

end Duplication

end SourceGrade
