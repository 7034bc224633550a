import SourceGrade.Proofs.Metric.LineCount
import SourceGrade.Proofs.Report.Analysis

set_option autoImplicit false

/-!
# Places in reports

Every number of a line that a report mentions is the number of a line of the text, whichever way it
was found: by counting the lines as they are cut, or by looking an offset up among the line feeds.
-/

namespace SourceGrade

open Text (lines lineAt)

/-- A number counts one of the lines of a text. -/
structure Text.HasLine (t : List Char) (number : Int) : Prop where
  one_le : 1 ≤ number
  le_length : number ≤ (lines t).length

theorem Text.hasLine_lineAt (t : List Char) (offset : Nat) : HasLine t (lineAt t offset) where
  one_le := Int.ofNat_le.mpr (one_le_lineAt t offset)
  le_length := Int.ofNat_le.mpr (lineAt_le_length_lines t offset)

theorem Text.hasLine_lineOf (t : List Char) (offset : Nat) :
    HasLine t ((LineIndex.ofText t).lineOf offset) := by
  rw [LineIndex.lineOf_ofText]
  exact hasLine_lineAt t offset

/-- The lines are counted from one. -/
theorem Text.hasLine_of_lt {t : List Char} {i : Nat} (h : i < (lines t).length) :
    HasLine t ((i + 1 : Nat) : Int) where
  one_le := Int.ofNat_le.mpr (Nat.le_add_left 1 i)
  le_length := Int.ofNat_le.mpr h

/-! ## Smells -/

namespace Smell

/-- The line of a finding is one of the text. -/
theorem FoundOn.hasLine {t : List Char} {f : Finding} {number : Nat} (h : FoundOn t f number) :
    Text.HasLine t number := by
  cases h with
  | longLine hi length => exact Text.hasLine_of_lt hi
  | todo hmem => exact Text.hasLine_lineAt t _
  | deepNesting hi depth => exact Text.hasLine_of_lt hi
  | debugOutput hcall hmem => exact Text.hasLine_lineAt t _
  | magicNumber hmem => exact Text.hasLine_lineAt t _
  | emptyCatch hmem => exact Text.hasLine_lineAt t _

/-- Every smell is on a line of the text. -/
theorem hasLine_of_mem_listed {length depth : Int} {numbers : List Int} {t : List Char}
    {s : Smell} (h : s ∈ listed length depth numbers t) : Text.HasLine t s.line := by
  obtain ⟨f, number, hfound, rfl⟩ := exists_foundOn_of_mem_listed h
  exact hfound.hasLine

end Smell

/-! ## Names -/

namespace FunctionInfo

theorem LiesIn.hasLine {t : List Char} {f : FunctionInfo} (h : LiesIn t f) :
    Text.HasLine t f.startLine := by
  obtain ⟨start, -, hline, -⟩ := h.begins
  exact hline ▸ Text.hasLine_lineAt t start

end FunctionInfo

namespace NamingIssue

/-- The issue with the name of a function is on the line of the function. -/
theorem line_of_issue? {convention : Option NamingConvention} {f : FunctionInfo}
    {issue : NamingIssue} (h : issue? convention f = some issue) : issue.line = f.startLine := by
  unfold issue? at h
  cases hf : ofFunction convention f with
  | error e =>
    rw [hf] at h
    cases h
  | ok o =>
    rw [hf] at h
    subst h
    unfold ofFunction at hf
    repeat' split at hf
    all_goals cases hf
    rfl

/-- Every naming issue is on a line of the text, if the functions are. -/
theorem hasLine_of_mem_listed {language : Language} {fs : List FunctionInfo}
    {allowed : List String} {t : List Char} {issue : NamingIssue}
    (hfs : ∀ f ∈ fs, FunctionInfo.LiesIn t f) (h : issue ∈ listed language fs allowed t) :
    Text.HasLine t issue.line := by
  unfold listed at h
  rcases List.mem_append.mp h with h | h
  · obtain ⟨f, hf, hissue⟩ := List.mem_filterMap.mp h
    exact line_of_issue? hissue ▸ (hfs f hf).hasLine
  · unfold ofVariables at h
    obtain ⟨hit, -, h⟩ := List.mem_filterMap.mp h
    dsimp only at h
    split at h
    · cases h
    · obtain rfl := Option.some.inj h
      exact Text.hasLine_lineOf t hit.start

end NamingIssue

/-! ## Reports -/

namespace FunctionSummary

/-- The functions of a summary, under whichever heading they are listed. -/
def Lists (s : FunctionSummary) (f : FunctionInfo) : Prop :=
  f ∈ s.all ∨ f ∈ s.longFunctions ∨ f ∈ s.complexFunctions

theorem mem_of_lists_ofFunctions {settings : AnalysisSettings} {fs : List FunctionInfo}
    {f : FunctionInfo} (h : (ofFunctions settings fs).Lists f) : f ∈ fs := by
  rcases h with h | h | h
  · exact h
  · exact List.mem_of_mem_filter h
  · exact List.mem_of_mem_filter h

end FunctionSummary

namespace Report

/-- All places that a report mentions lie in a text, whose lines it counts. -/
structure LiesIn (t : List Char) (r : Report) : Prop where
  /-- The lines of the text are counted. -/
  total : r.lines.total = (Text.lines t).length
  /-- Every function begins on a line of the text and ends on one, and its body is a piece of the
  text that begins on its line. -/
  functions : ∀ f, r.functions.Lists f → Text.HasLine t f.startLine ∧ FunctionInfo.LiesIn t f
  /-- Every name that is reported stands on a line of the text. -/
  namingIssues : ∀ issue ∈ r.namingIssues, Text.HasLine t issue.line
  /-- Every smell is on a line of the text. -/
  smells : ∀ s ∈ r.smells, Text.HasLine t s.line

theorem liesIn_ofReadable (settings : AnalysisSettings) (filename : String) (t : List Char) :
    LiesIn t (ofReadable settings filename t) := by
  have hfs : ∀ f ∈ FunctionInfo.find (Language.ofFilename filename) t settings.bodyScanLimit,
      FunctionInfo.LiesIn t f := fun f => FunctionInfo.liesIn_of_mem_find
  constructor
  · exact LineCount.total_ofText _ t
  · intro f hf
    have h := hfs f (FunctionSummary.mem_of_lists_ofFunctions hf)
    exact ⟨h.hasLine, h⟩
  · exact fun issue => NamingIssue.hasLine_of_mem_listed hfs
  · exact fun s => Smell.hasLine_of_mem_listed

/-- Every place that a report of a text mentions lies in the text. -/
theorem liesIn_of_ofText {settings : AnalysisSettings} {filename : String} {t : List Char}
    {r : Report} (h : ofText settings filename t = .ok r) : LiesIn t r := by
  obtain ⟨-, rfl⟩ := ofText_eq_ok_iff.mp h
  exact liesIn_ofReadable settings filename t

/-- A function without an end, on the last line. -/
def openFunction : List Char := "// TODO\nfunction Do_it(a) \x7b\n  if (a == 42)".toList

theorem liesIn_openFunction :
    ofText {} "a.js" openFunction = .ok (ofReadable {} "a.js" openFunction) ∧
      LiesIn openFunction (ofReadable {} "a.js" openFunction) := by
  have hread : Smell.Readable openFunction := Smell.readable_of_length_le (by decide)
  have hreport : ofText {} "a.js" openFunction = .ok (ofReadable {} "a.js" openFunction) :=
    ofText_eq_ok_iff.mpr ⟨hread, rfl⟩
  exact ⟨hreport, liesIn_of_ofText hreport⟩

end Report

end SourceGrade
