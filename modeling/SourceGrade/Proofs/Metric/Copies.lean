import SourceGrade.Proofs.Metric.Duplication
import SourceGrade.Proofs.Text.Lines

set_option autoImplicit false

/-!
# Copies of significant lines

A text to which a run of its own significant lines is appended repeats itself no less than before.
Every fragment of the appended lines was a fragment of the text, so at least three times as many
repeated lines are added as there are fragments in the run, which is no fewer than the lines that
are added as soon as the run holds a fragment at all.
-/

namespace SourceGrade

namespace Text

/-- A text with lines appended to it, each after a line feed. -/
def withLines (t : List Char) (added : List (List Char)) : List Char :=
  t ++ added.flatMap fun line => '\n' :: line

theorem lines_withLines (t : List Char) {added : List (List Char)}
    (h : ∀ line ∈ added, '\n' ∉ line) : lines (withLines t added) = lines t ++ added := by
  induction added generalizing t with
  | nil => rw [withLines, List.flatMap_nil, List.append_nil, List.append_nil]
  | cons line added ih =>
    rw [List.forall_mem_cons] at h
    have hone : withLines t (line :: added) = withLines (t ++ '\n' :: line) added := by
      unfold withLines
      rw [List.flatMap_cons, List.append_assoc]
    rw [hone, ih _ h.2, lines_append_lineFeed, lines_of_notMem h.1, List.append_assoc,
      List.singleton_append]

end Text

namespace Duplication

open Text (withLines lines_withLines lineFeed_notMem_of_mem_lines trim trim_trim trim_sublist)

/-- A significant line is still significant where it stands by itself. -/
theorem significantLines_withLines (t : List Char) {run : List (List Char)}
    (h : run ⊆ significantLines t) :
    significantLines (withLines t run) = significantLines t ++ run := by
  have hline : ∀ line ∈ run, '\n' ∉ line ∧ trim line = line ∧ isSignificant line = true := by
    intro line hmem
    obtain ⟨hmem, hsignificant⟩ := List.mem_filter.mp (h hmem)
    obtain ⟨whole, hwhole, rfl⟩ := List.mem_map.mp hmem
    have hfree := lineFeed_notMem_of_mem_lines hwhole
    exact ⟨fun hin => hfree ((trim_sublist whole).subset hin), trim_trim whole, hsignificant⟩
  have htrim : run.map trim = run :=
    (List.map_congr_left fun line hmem => (hline line hmem).2.1).trans (List.map_id' run)
  unfold significantLines
  rw [lines_withLines t fun line hmem => (hline line hmem).1, List.map_append, List.filter_append,
    htrim, List.filter_eq_self.mpr fun line hmem => (hline line hmem).2.2]

/-- Lines in front take no fragment away. -/
theorem fragmentsOf_sublist_append (w r : List (List Char)) :
    (fragmentsOf r).Sublist (fragmentsOf (w ++ r)) := by
  induction w with
  | nil => exact List.Sublist.refl _
  | cons a w ih =>
    refine ih.trans ?_
    rw [List.cons_append]
    match w ++ r with
    | [] => exact List.Sublist.refl _
    | [b] => exact List.Sublist.refl _
    | b :: c :: rest => exact List.sublist_cons_self _ _

/-- The fragments of lines are still there where others follow, and so are those of the others. -/
theorem fragmentsOf_append_sublist (w r : List (List Char)) :
    (fragmentsOf w ++ fragmentsOf r).Sublist (fragmentsOf (w ++ r)) := by
  fun_induction fragmentsOf w with
  | case1 a b c rest ih => exact ih.cons_cons ⟨a, b, c⟩
  | case2 w hshort =>
    rw [List.nil_append]
    exact fragmentsOf_sublist_append w r

/-- A run of lines has no other fragments than all the lines have. -/
theorem fragmentsOf_run_sublist {r w : List (List Char)} (h : r <:+: w) :
    (fragmentsOf r).Sublist (fragmentsOf w) := by
  obtain ⟨before, after, rfl⟩ := h
  have hwhole := fragmentsOf_append_sublist (before ++ r) after
  exact (fragmentsOf_sublist_append before r).trans
    ((List.sublist_append_left _ _).trans hwhole)

theorem length_fragmentsOf (lines : List (List Char)) :
    (fragmentsOf lines).length = lines.length - 2 := by
  fun_induction fragmentsOf lines with
  | case1 a b c rest ih =>
    rw [List.length_cons, ih]
    rfl
  | case2 lines hshort =>
    have hlt : lines.length < 3 := length_lt_of_no_fragment hshort
    rw [List.length_nil]
    omega

/-- A run of lines that is appended again adds the lines of all its fragments. -/
theorem repeatedLines_append {r w : List (List Char)} (h : r <:+: w) :
    repeatedLines (repeated (fragmentsOf w)) + (r.length - 2) * 3 ≤
      repeatedLines (repeated (fragmentsOf (w ++ r))) := by
  have hboth : (fragmentsOf w ++ fragmentsOf r).Sublist (fragmentsOf (w ++ r)) :=
    fragmentsOf_append_sublist w r
  have hcount : ∀ f, (fragmentsOf w).count f + (fragmentsOf r).count f ≤
      (fragmentsOf (w ++ r)).count f := by
    intro f
    rw [← List.count_append]
    exact hboth.count_le f
  -- What was repeated still is, and every fragment of the run has an occurrence in the old lines.
  have hold : (fragmentsOf w).countP (fun f => 1 < (fragmentsOf w).count f) ≤
      (fragmentsOf w).countP fun f => 1 < (fragmentsOf (w ++ r)).count f := by
    refine List.countP_mono_left fun f _ hf => ?_
    have hmore := hcount f
    rw [decide_eq_true_eq] at hf ⊢
    omega
  have hnew : (fragmentsOf r).countP (fun f => 1 < (fragmentsOf (w ++ r)).count f) =
      r.length - 2 := by
    rw [← length_fragmentsOf, List.countP_eq_length]
    intro f hf
    have hmore := hcount f
    have hcopy := List.count_pos_iff.mpr hf
    have horiginal := List.count_pos_iff.mpr ((fragmentsOf_run_sublist h).subset hf)
    rw [decide_eq_true_eq]
    omega
  have htotal := hboth.countP_le (p := fun f => 1 < (fragmentsOf (w ++ r)).count f)
  rw [List.countP_append, hnew] at htotal
  rw [repeatedLines_repeated, repeatedLines_repeated, ← Nat.add_mul]
  exact Nat.mul_le_mul_right 3 ((Nat.add_le_add_right hold _).trans htotal)

/-! ## The share of repeated lines -/

section

variable {part part' whole added : Nat}

/-- A part that grows by no less than the whole becomes no smaller a share of it, unless it is no
less than the whole. -/
theorem quotient_grows (hwhole : 0 < whole) (h : part + added ≤ part') :
    (part : Rat) / (whole : Rat) ≤ (part' : Rat) / ((whole + added : Nat) : Rat) ∨
      whole + added ≤ part' := by
  rcases Nat.lt_or_ge part' (whole + added) with hless | hall
  · left
    have hpart : part ≤ whole := by omega
    have hcross : part * (whole + added) ≤ part' * whole :=
      calc part * (whole + added) = part * whole + part * added := Nat.mul_add ..
        _ ≤ part * whole + whole * added := Nat.add_le_add_left (Nat.mul_le_mul_right _ hpart) _
        _ = (part + added) * whole := by rw [Nat.add_mul, Nat.mul_comm whole added]
        _ ≤ part' * whole := Nat.mul_le_mul_right _ h
    rw [div_le_div_iff₀ (by exact_mod_cast hwhole) (by exact_mod_cast Nat.add_pos_left hwhole _)]
    exact_mod_cast hcross
  · exact .inr hall

/-- A part that is no less than the whole is all of it. -/
theorem share_of_le (hwhole : 0 < whole) (h : whole ≤ part) : share part whole = 100 := by
  have hpos : (0 : Rat) < whole := by exact_mod_cast hwhole
  have hone : (1 : Rat) ≤ (part : Rat) / whole := (one_le_div hpos).mpr (by exact_mod_cast h)
  unfold share
  rw [atMostAll_eq_min]
  exact min_eq_left (by linarith)

theorem share_grows (hwhole : 0 < whole) (h : part + added ≤ part') :
    share part whole ≤ share part' (whole + added) := by
  rcases quotient_grows hwhole h with hgrows | hall
  · exact atMostAll_mono (mul_le_mul_of_nonneg_right hgrows (by norm_num))
  · rw [share_of_le (Nat.add_pos_left hwhole _) hall]
    exact atMostAll_le _

theorem percent_of_le (hwhole : 0 < whole) (h : whole ≤ part) :
    100 ≤ Number.percent part whole := by
  have hpos : (0 : Rat) < whole := by exact_mod_cast hwhole
  have hall : Number.percent (1 : Nat) (1 : Nat) = 100 := by decide +kernel
  rw [← hall]
  refine Number.percent_mono ?_
  rw [Nat.cast_one, div_one]
  exact (one_le_div hpos).mpr (by exact_mod_cast h)

/-- The double that is reported of an exact percentage: it is rounded as a quotient and once more as
a percentage, and is at most all. -/
def rounded (q : Rat) : Rat :=
  atMostAll (Number.nearestDouble (Number.nearestDouble (q / 100) * 100))

/-- What is rounded is the exact percentage. Cutting it at the whole before it is rounded makes no
difference, since nothing beyond the whole is rounded to less. -/
theorem atMostAll_percent_eq_rounded (hwhole : 0 < whole) :
    atMostAll (Number.percent part whole) = rounded (share part whole) := by
  rcases Nat.lt_or_ge part whole with hless | hall
  · have hquotient : (part : Rat) / whole * 100 ≤ 100 := by
      have hone : (part : Rat) / whole ≤ 1 :=
        div_le_one_of_le₀ (by exact_mod_cast hless.le) (Nat.cast_nonneg whole)
      linarith
    unfold rounded share Number.percent Number.quotient
    rw [atMostAll_eq_min ((part : Rat) / whole * 100), min_eq_right hquotient,
      mul_div_cancel_right₀ _ (by norm_num), Int.cast_natCast, Int.cast_natCast]
  · rw [share_of_le hwhole hall, atMostAll_eq_min, min_eq_left (percent_of_le hwhole hall)]
    decide +kernel

/-- The percentage that is reported is the exact one, rounded. -/
theorem percentage_eq_rounded (t : List Char) :
    (ofText t).percentage = rounded (exactPercentage (significantLines t)) := by
  unfold ofText
  cases significantLines t with
  | nil => decide +kernel
  | cons line lines =>
    rw [percentage_ofSignificant]
    exact atMostAll_percent_eq_rounded (Nat.succ_pos lines.length)

theorem atMostAll_percent_grows (hwhole : 0 < whole) (h : part + added ≤ part') :
    atMostAll (Number.percent part whole) ≤
      atMostAll (Number.percent part' (whole + added : Nat)) := by
  rcases quotient_grows hwhole h with hgrows | hall
  · exact atMostAll_mono (Number.percent_mono hgrows)
  · have hfull := percent_of_le (Nat.add_pos_left hwhole added) hall
    rw [atMostAll_eq_min (Number.percent part' _), min_eq_left hfull]
    exact atMostAll_le _

end

/-- Appending a run of its own significant lines to a text makes it repeat itself, and never lowers
the share of repeated lines. This holds of the exact share and of what is reported of it, which is
the exact one rounded to a double. A double is positive only if it can count the lines. -/
theorem percentage_withLines (t : List Char) {run : List (List Char)}
    (hrun : run <:+: significantLines t) (hlong : 3 ≤ run.length) :
    exactPercentage (significantLines t) ≤ exactPercentage (significantLines (withLines t run)) ∧
      0 < exactPercentage (significantLines (withLines t run)) ∧
      (ofText t).percentage ≤ (ofText (withLines t run)).percentage ∧
      ((significantLines (withLines t run)).length ≤ 2 ^ 1074 →
        0 < (ofText (withLines t run)).percentage) ∧
      ∀ text, (ofText text).percentage = rounded (exactPercentage (significantLines text)) := by
  have hlines := significantLines_withLines t hrun.subset
  have hmore := repeatedLines_append hrun
  have hgrows : repeatedLines (repeated (fragmentsOf (significantLines t))) + run.length ≤
      repeatedLines (repeated (fragmentsOf (significantLines t ++ run))) := by omega
  have hwhole : 0 < (significantLines t).length := by
    have hle := hrun.length_le
    omega
  unfold ofText
  rw [percentage_ofSignificant, percentage_ofSignificant, hlines]
  unfold exactPercentage
  rw [List.length_append]
  refine ⟨share_grows hwhole hgrows, share_pos (by omega) (by omega), ?_, fun hsmall => ?_,
    percentage_eq_rounded⟩
  · exact atMostAll_percent_grows hwhole hgrows
  · exact atMostAll_pos (Number.percent_pos (by omega) (by omega) hsmall)

/-- Four lines that are all different. -/
def fourLines : List Char :=
  "const sum = add(a, b);\nconst mean = sum / 2;\n\nreport(sum, mean);\nreturn mean * 100;".toList

/-- The last three of them. -/
def lastThree : List (List Char) :=
  ["const mean = sum / 2;", "report(sum, mean);", "return mean * 100;"].map String.toList

theorem lastThree_run : lastThree <:+: significantLines fourLines :=
  ⟨["const sum = add(a, b);".toList], [], by decide +kernel⟩

theorem percentage_withLines_lastThree :
    (lastThree <:+: significantLines fourLines ∧ 3 ≤ lastThree.length) ∧
      exactPercentage (significantLines fourLines) ≤
        exactPercentage (significantLines (withLines fourLines lastThree)) ∧
      0 < exactPercentage (significantLines (withLines fourLines lastThree)) ∧
      (ofText fourLines).percentage ≤ (ofText (withLines fourLines lastThree)).percentage ∧
      ((significantLines (withLines fourLines lastThree)).length ≤ 2 ^ 1074 →
        0 < (ofText (withLines fourLines lastThree)).percentage) ∧
      ∀ text, (ofText text).percentage = rounded (exactPercentage (significantLines text)) :=
  ⟨⟨lastThree_run, by decide⟩, percentage_withLines fourLines lastThree_run (by decide)⟩

end Duplication

end SourceGrade
