import Mathlib.Data.List.Basic
import SourceGrade.Proofs.Report.Analysis
import SourceGrade.Proofs.Report.Score

set_option autoImplicit false

/-!
# More lenient settings

Settings that ask for less find less: no smell, naming issue or long function is found that stricter
settings do not find, and the score is no lower. The number of characters that are scanned for the
end of a body is not a matter of leniency, since it decides what a function is.
-/

namespace SourceGrade

/-- Settings that are at least as lenient as stricter ones and scan bodies as far. -/
structure AnalysisSettings.Relaxes (lenient strict : AnalysisSettings) : Prop where
  bodyScanLimit : lenient.bodyScanLimit = strict.bodyScanLimit
  maxLineLength : strict.maxLineLength ≤ lenient.maxLineLength
  maxNestingDepth : strict.maxNestingDepth ≤ lenient.maxNestingDepth
  longFunctionLines : strict.longFunctionLines ≤ lenient.longFunctionLines
  magicNumberAllowlist : strict.magicNumberAllowlist ⊆ lenient.magicNumberAllowlist
  shortNameAllowlist : strict.shortNameAllowlist ⊆ lenient.shortNameAllowlist

namespace FunctionSummary

theorem longFunctions_sublist {strict lenient : AnalysisSettings}
    (h : strict.longFunctionLines ≤ lenient.longFunctionLines) (fs : List FunctionInfo) :
    (ofFunctions lenient fs).longFunctions.Sublist (ofFunctions strict fs).longFunctions := by
  refine List.monotone_filter_right fs fun f hf => ?_
  have hlong : lenient.longFunctionLines < f.lineCount := of_decide_eq_true hf
  exact decide_eq_true (Int.lt_of_le_of_lt h hlong)

end FunctionSummary

namespace Report

theorem score_assemble (settings : AnalysisSettings) (filename : String) (language : Language)
    (t : List Char) (functions : List FunctionInfo) (issues : List NamingIssue)
    (smells : List Smell) :
    (assemble settings filename language t functions issues smells).score =
      (Score.ofSignals (signals settings language t functions issues smells)).points := rfl

theorem countSeverity_le {smells smells' : List Smell} (h : smells'.Sublist smells)
    (severity : String) : countSeverity severity smells' ≤ countSeverity severity smells :=
  Int.ofNat_le.mpr h.countP_le

/-- A report with fewer findings has no lower score. -/
theorem score_assemble_le {strict lenient : AnalysisSettings} (filename : String)
    (language : Language) (t : List Char) (functions : List FunctionInfo)
    {issues issues' : List NamingIssue} {smells smells' : List Smell}
    (hlong : strict.longFunctionLines ≤ lenient.longFunctionLines)
    (hissues : issues'.Sublist issues) (hsmells : smells'.Sublist smells) :
    (assemble strict filename language t functions issues smells).score ≤
      (assemble lenient filename language t functions issues' smells').score := by
  rw [score_assemble, score_assemble]
  refine Score.points_antitone ?_
  exact {
    averageComplexity := fun _ h => h
    duplication := fun _ h => h
    namingIssues := Int.ofNat_le.mpr hissues.length_le
    codeLines := Int.le_refl _
    longFunctions :=
      Int.ofNat_le.mpr (FunctionSummary.longFunctions_sublist hlong functions).length_le
    errorSmells := countSeverity_le hsmells "error"
    warningSmells := countSeverity_le hsmells "warning"
    commentRatio := fun _ h => h }

theorem smells_ofReadable_sublist {strict lenient : AnalysisSettings} (h : lenient.Relaxes strict)
    (filename : String) (t : List Char) :
    (ofReadable lenient filename t).smells.Sublist (ofReadable strict filename t).smells :=
  Smell.listed_sublist h.maxLineLength h.maxNestingDepth h.magicNumberAllowlist t

theorem namingIssues_ofReadable_sublist {strict lenient : AnalysisSettings}
    (h : lenient.Relaxes strict) (filename : String) (t : List Char) :
    (ofReadable lenient filename t).namingIssues.Sublist
      (ofReadable strict filename t).namingIssues := by
  unfold ofReadable
  rw [h.bodyScanLimit]
  exact NamingIssue.listed_sublist h.shortNameAllowlist _ _ t

theorem longFunctions_ofReadable_sublist {strict lenient : AnalysisSettings}
    (h : lenient.Relaxes strict) (filename : String) (t : List Char) :
    (ofReadable lenient filename t).functions.longFunctions.Sublist
      (ofReadable strict filename t).functions.longFunctions := by
  unfold ofReadable
  rw [h.bodyScanLimit]
  exact FunctionSummary.longFunctions_sublist h.longFunctionLines _

theorem score_ofReadable_le {strict lenient : AnalysisSettings} (h : lenient.Relaxes strict)
    (filename : String) (t : List Char) :
    (ofReadable strict filename t).score ≤ (ofReadable lenient filename t).score := by
  have hissues := namingIssues_ofReadable_sublist h filename t
  have hsmells := smells_ofReadable_sublist h filename t
  unfold ofReadable at hissues hsmells ⊢
  rw [h.bodyScanLimit] at hissues hsmells ⊢
  exact score_assemble_le filename _ t _ h.longFunctionLines hissues hsmells

/-- Where strict settings give a report, more lenient ones give one with no more findings and no
lower score. -/
theorem ofText_relaxed {strict lenient : AnalysisSettings} (h : lenient.Relaxes strict)
    {filename : String} {t : List Char} {r : Report} (hr : ofText strict filename t = .ok r) :
    ∃ r', ofText lenient filename t = .ok r' ∧ r'.smells.Sublist r.smells ∧
      r'.namingIssues.Sublist r.namingIssues ∧
      r'.functions.longFunctions.Sublist r.functions.longFunctions ∧ r.score ≤ r'.score := by
  obtain ⟨hread, rfl⟩ := ofText_eq_ok_iff.mp hr
  refine ⟨ofReadable lenient filename t, ofText_eq_ok_iff.mpr ⟨hread, rfl⟩, ?_, ?_, ?_, ?_⟩
  · exact smells_ofReadable_sublist h filename t
  · exact namingIssues_ofReadable_sublist h filename t
  · exact longFunctions_ofReadable_sublist h filename t
  · exact score_ofReadable_le h filename t

/-- Settings that allow for more than the usual ones. -/
def roomy : AnalysisSettings where
  maxLineLength := 200
  maxNestingDepth := 6
  longFunctionLines := 80
  magicNumberAllowlist := 42 :: Smell.usualNumbers
  shortNameAllowlist := "n" :: NamingIssue.customaryNames

/-- A comparison with a number that the usual settings do not allow. -/
def comparison : List Char := "let n = a == 42;".toList

theorem ofText_relaxed_comparison :
    roomy.Relaxes {} ∧ ∃ r', ofText roomy "a.js" comparison = .ok r' ∧
      r'.smells.Sublist (ofReadable {} "a.js" comparison).smells ∧
      r'.namingIssues.Sublist (ofReadable {} "a.js" comparison).namingIssues ∧
      r'.functions.longFunctions.Sublist
        (ofReadable {} "a.js" comparison).functions.longFunctions ∧
      (ofReadable {} "a.js" comparison).score ≤ r'.score := by
  have hrelaxes : roomy.Relaxes {} := {
    bodyScanLimit := rfl
    maxLineLength := by decide
    maxNestingDepth := by decide
    longFunctionLines := by decide
    magicNumberAllowlist := List.subset_cons_self 42 _
    shortNameAllowlist := List.subset_cons_self "n" _ }
  have hread : Smell.Readable comparison := Smell.readable_of_length_le (by decide)
  exact ⟨hrelaxes, ofText_relaxed hrelaxes (ofText_eq_ok_iff.mpr ⟨hread, rfl⟩)⟩

end Report

end SourceGrade
