import SourceGrade.Proofs.Project.Arrivals
import SourceGrade.Proofs.Report.Penalties
import SourceGrade.Proofs.Report.Totals
import SourceGrade.Report.Markdown

set_option autoImplicit false

/-!
# Bars of overall scores

A bar whose parts are out of range cannot be drawn. The score of a text lies between zero and the
best one, rounding does not move the mean of such scores out of that range, and the bar of a score
in it has parts that are no wider than the whole. So of the summaries of files only those fail to be
written whose integers are too long.
-/

namespace SourceGrade

theorem Number.truncate_bounds {q : Rat} {n : Int} (hnonneg : 0 ≤ q) (hlt : q < n + 1) :
    0 ≤ truncate q ∧ truncate q ≤ n := by
  have hfloor : truncate q = q.floor := if_neg (not_lt.mpr hnonneg)
  have hless : q.floor < n + 1 := by
    rw [Rat.floor_lt_iff]
    exact_mod_cast hlt
  rw [hfloor]
  exact ⟨Rat.le_floor_iff.mpr hnonneg, Int.lt_add_one_iff.mp hless⟩

/-! ## Scores in their range -/

/-- A score that some text may have. -/
def Score.InRange (n : Int) : Prop := 0 ≤ n ∧ n ≤ Score.best

instance (n : Int) : Decidable (Score.InRange n) := inferInstanceAs (Decidable (_ ∧ _))

theorem Report.inRange_ofReadable (settings : AnalysisSettings) (filename : String)
    (t : List Char) : Score.InRange (Report.ofReadable settings filename t).score :=
  (Score.accountsFor_ofSignals _).inRange

namespace Summary

/-- A mean of scores is in their range, however often it is rounded on the way. -/
theorem inRange_meanScore {scores : List Int} (hne : scores ≠ [])
    (hscores : ∀ n ∈ scores, Score.InRange n) : Score.InRange (meanScore scores) := by
  obtain ⟨hnonneg, hmost⟩ := exactMean_bounds hne hscores
  have hmean := Number.nearestDouble_nonneg hnonneg
  have hmean' : Number.nearestDouble (exactMean scores) ≤ 100 :=
    (Number.nearestDouble_mono hnonneg hmost).trans_eq (by decide +kernel)
  have hup : 0 ≤ Number.nearestDouble (Number.nearestDouble (exactMean scores) + 1 / 2) :=
    Number.nearestDouble_nonneg (by linarith)
  have hup' : Number.nearestDouble (Number.nearestDouble (exactMean scores) + 1 / 2) ≤ 201 / 2 :=
    (Number.nearestDouble_mono (q := 201 / 2) (by linarith) (by linarith)).trans_eq
      (by decide +kernel)
  exact Number.truncate_bounds hup (hup'.trans_lt (by norm_num [Score.best]))

end Summary

namespace Project

/-- The overall score of files is in range, and zero where there is no report. -/
theorem inRange_ofFiles (settings : AnalysisSettings) (files : List SourceFile) :
    Score.InRange (ofFiles settings files).overallScore := by
  have hreports : ∀ r ∈ reportsOf (files.map (analyse settings)), Score.InRange r.score := by
    intro r hr
    obtain ⟨a, ha, hreport⟩ := mem_reportsOf.mp hr
    obtain ⟨file, -, rfl⟩ := List.mem_map.mp ha
    obtain ⟨-, rfl⟩ := Report.ofText_eq_ok_iff.mp hreport
    exact Report.inRange_ofReadable settings file.name file.text
  show Score.InRange (Summary.ofGraded (reportsOf (files.map (analyse settings)))).overallScore
  generalize reportsOf (files.map (analyse settings)) = reports at hreports
  unfold Summary.ofGraded
  split
  · decide
  · rename_i hsome
    have hne : reports ≠ [] := mt List.isEmpty_iff.mpr hsome
    refine Summary.inRange_meanScore (Summary.scores_ranking_ne_nil hne) fun n hn => ?_
    obtain ⟨r, hr, rfl⟩ := List.mem_map.mp hn
    exact hreports r ((Summary.ranking_perm reports).mem_iff.mp hr)

end Project

/-! ## Drawing and writing -/

namespace Markdown

theorem quotient_bounds {score : Int} (h : Score.InRange score) :
    0 ≤ ((barWidth * score : Int) : Rat) / ((100 : Int) : Rat) ∧
      ((barWidth * score : Int) : Rat) / ((100 : Int) : Rat) ≤ 30 := by
  obtain ⟨hnonneg, hbest⟩ := h
  have hscore : (0 : Rat) ≤ score := by exact_mod_cast hnonneg
  have hscore' : (score : Rat) ≤ 100 := by exact_mod_cast hbest
  unfold barWidth
  push_cast
  constructor
  · positivity
  · linarith

/-- The filled part of the bar of a score is a part of it. -/
theorem filledWidth_bounds {score : Int} (h : Score.InRange score) :
    0 ≤ filledWidth score barWidth ∧ filledWidth score barWidth ≤ barWidth := by
  obtain ⟨hnonneg, hmost⟩ := quotient_bounds h
  have hrounded := (Number.nearestDouble_mono hnonneg hmost).trans_eq (by decide +kernel :
    Number.nearestDouble 30 = 30)
  exact Number.truncate_bounds (Number.nearestDouble_nonneg hnonneg)
    (hrounded.trans_lt (by norm_num [barWidth]))

theorem checkPart_eq_ok {n : Int} (hnonneg : 0 ≤ n) (hle : n ≤ barWidth) :
    checkPart n = .ok () := by
  unfold barWidth at hle
  unfold checkPart widthRange widthRoom
  rw [if_neg (by omega), if_neg (by omega)]

/-- The bar of a score can be drawn. -/
theorem drawBar_eq_ok {score : Int} (h : Score.InRange score) :
    drawBar score barWidth = .ok (progressBar score barWidth) := by
  obtain ⟨hnonneg, hmost⟩ := quotient_bounds h
  obtain ⟨hfilled, hfilled'⟩ := filledWidth_bounds h
  have hpower : (30 : Rat) ≤ 2 ^ (1023 : Int) :=
    (by norm_num : (30 : Rat) ≤ 2 ^ (5 : Int)).trans
      (zpow_le_zpow_right₀ (by norm_num) (by norm_num))
  have hdivide := Number.divide_eq_ok hnonneg (hmost.trans hpower)
  have hrest := checkPart_eq_ok (n := barWidth - filledWidth score barWidth) (by omega) (by omega)
  have hpart := checkPart_eq_ok hfilled hfilled'
  unfold filledWidth at hpart hrest
  unfold drawBar
  rw [hdivide]
  dsimp only
  rw [hpart, hrest]
  rfl

/-- The summary of files is written if all its integers can be. -/
theorem generate_ofFiles (writtenAt : String) (settings : AnalysisSettings)
    (files : List SourceFile)
    (hshort : ∀ n ∈ integers (Project.ofFiles settings files), Number.IsShort n) :
    generate writtenAt (some (Project.ofFiles settings files)) =
      .ok (ofSummary writtenAt (some (Project.ofFiles settings files))) := by
  have hwritten : (integers (Project.ofFiles settings files)).findSome? Number.writingFault? =
      none :=
    List.findSome?_eq_none_iff.mpr fun n hn => Number.writingFault?_eq_none_iff.mpr (hshort n hn)
  unfold generate
  dsimp only
  rw [drawBar_eq_ok (Project.inRange_ofFiles settings files), hwritten]
  exact ite_self _

end Markdown

end SourceGrade
