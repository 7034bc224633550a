import SourceGrade.Proofs.Metric.Naming
import SourceGrade.Proofs.Metric.Smell
import SourceGrade.Report.Basic

set_option autoImplicit false

/-!
# When a text has a report

Of all the passes over a text only the reading of its numbers may fail. So a text has a report
exactly when none of its operands has more digits than a number is read from, whatever the file is
called and whatever the settings are.
-/

namespace SourceGrade.Report

/-- The report of a text all of whose numbers can be read. -/
def ofReadable (settings : AnalysisSettings) (filename : String) (t : List Char) : Report :=
  let language := Language.ofFilename filename
  let functions := FunctionInfo.find language t settings.bodyScanLimit
  assemble settings filename language t functions
    (NamingIssue.listed language functions settings.shortNameAllowlist t)
    (Smell.listed settings.maxLineLength settings.maxNestingDepth settings.magicNumberAllowlist t)

/-- A text with smells that can be listed has the report that is assembled from them. -/
theorem ofText_of_smells {settings : AnalysisSettings} {t : List Char} {smells : List Smell}
    (filename : String)
    (h : Smell.ofText settings.maxLineLength settings.maxNestingDepth
      settings.magicNumberAllowlist t = .ok smells) :
    ofText settings filename t = .ok (ofReadable settings filename t) := by
  obtain ⟨-, rfl⟩ := Smell.ofText_eq_ok_iff.mp h
  unfold ofText
  dsimp only
  rw [NamingIssue.ofText_find, h]
  rfl

theorem ofText_of_smells_eq_error {settings : AnalysisSettings} {t : List Char} {e : SmellError}
    (filename : String)
    (h : Smell.ofText settings.maxLineLength settings.maxNestingDepth
      settings.magicNumberAllowlist t = .error e) :
    ofText settings filename t = .error (.smells e) := by
  unfold ofText
  dsimp only
  rw [NamingIssue.ofText_find, h]
  rfl

theorem ofText_eq_ok_iff {settings : AnalysisSettings} {filename : String} {t : List Char}
    {r : Report} :
    ofText settings filename t = .ok r ↔
      Smell.Readable t ∧ ofReadable settings filename t = r := by
  constructor
  · intro h
    cases hs : Smell.ofText settings.maxLineLength settings.maxNestingDepth
        settings.magicNumberAllowlist t with
    | error e =>
      rw [ofText_of_smells_eq_error filename hs] at h
      cases h
    | ok smells =>
      rw [ofText_of_smells filename hs] at h
      exact ⟨(Smell.ofText_eq_ok_iff.mp hs).1, Except.ok.inj h⟩
  · rintro ⟨hread, rfl⟩
    exact ofText_of_smells filename (Smell.ofText_eq_ok_iff.mpr ⟨hread, rfl⟩)

/-- All functions of the report are those that are summed up. -/
theorem all_ofFunctions (settings : AnalysisSettings) (fs : List FunctionInfo) :
    (FunctionSummary.ofFunctions settings fs).all = fs :=
  rfl

/-- A report sums up the functions that are found as far as its settings allow. -/
theorem functions_of_ofText {settings : AnalysisSettings} {filename : String} {t : List Char}
    {r : Report} (h : ofText settings filename t = .ok r) :
    r.functions = .ofFunctions settings
      (FunctionInfo.find (Language.ofFilename filename) t settings.bodyScanLimit) := by
  obtain ⟨-, rfl⟩ := ofText_eq_ok_iff.mp h
  rfl

/-- The functions of a report are all that are found. -/
theorem all_of_ofText {settings : AnalysisSettings} {filename : String} {t : List Char}
    {r : Report} (h : ofText settings filename t = .ok r) :
    r.functions.all =
      FunctionInfo.find (Language.ofFilename filename) t settings.bodyScanLimit := by
  rw [functions_of_ofText h]
  exact all_ofFunctions settings _

/-- A report has the issues with the names of its functions and variables. -/
theorem namingIssues_of_ofText {settings : AnalysisSettings} {filename : String} {t : List Char}
    {r : Report} (h : ofText settings filename t = .ok r) :
    r.namingIssues = NamingIssue.listed (Language.ofFilename filename)
      (FunctionInfo.find (Language.ofFilename filename) t settings.bodyScanLimit)
      settings.shortNameAllowlist t := by
  obtain ⟨-, rfl⟩ := ofText_eq_ok_iff.mp h
  rfl

/-- A text without a report has an operand of too many digits, and the error tells how many. -/
theorem exists_of_ofText_eq_error {settings : AnalysisSettings} {filename : String}
    {t : List Char} {e : AnalysisError} (h : ofText settings filename t = .error e) :
    ∃ start digits, Smell.OperandAt t start digits ∧ Number.maxDigits < digits.length ∧
      e = .smells (.tooManyDigits digits.length) := by
  cases hs : Smell.ofText settings.maxLineLength settings.maxNestingDepth
      settings.magicNumberAllowlist t with
  | error e' =>
    rw [ofText_of_smells_eq_error filename hs] at h
    obtain rfl := Except.error.inj h
    obtain ⟨start, digits, hat, hmany, rfl⟩ := Smell.exists_of_ofText_eq_error hs
    exact ⟨start, digits, hat, hmany, rfl⟩
  | ok smells =>
    rw [ofText_of_smells filename hs] at h
    cases h

/-- A text has a report if and only if all its operands are short enough to be read, and otherwise
the error names the number of digits of one that is not. -/
theorem returns_iff_operands_short (settings : AnalysisSettings) (filename : String)
    (t : List Char) :
    ((∃ r, ofText settings filename t = .ok r) ↔
      ∀ start digits, Smell.OperandAt t start digits → digits.length ≤ Number.maxDigits) ∧
    ∀ e, ofText settings filename t = .error e →
      ∃ start digits, Smell.OperandAt t start digits ∧ Number.maxDigits < digits.length ∧
        e = .smells (.tooManyDigits digits.length) := by
  refine ⟨⟨?_, ?_⟩, fun e => exists_of_ofText_eq_error⟩
  · rintro ⟨r, hr⟩
    exact (ofText_eq_ok_iff.mp hr).1
  · intro hread
    exact ⟨ofReadable settings filename t, ofText_eq_ok_iff.mpr ⟨hread, rfl⟩⟩

/-- A comparison with a number of 4301 digits. -/
def longComparison : List Char := ['=', '='] ++ List.replicate 4301 '1'

theorem operandAt_longComparison :
    Smell.OperandAt longComparison 0 (List.replicate 4301 '1') := by
  refine ⟨['=', '='], [], [], ?_⟩
  exact {
    text := by rw [List.append_nil]; rfl
    operator := by decide
    blank := fun c hc => absurd hc List.not_mem_nil
    digit := fun c hc => by rw [List.eq_of_mem_replicate hc]; decide
    two_le := by rw [List.length_replicate]; decide
    edge := rfl }

/-- A text of one such comparison has no report. -/
theorem longComparison_has_no_report : ¬∃ r, ofText {} "a.js" longComparison = .ok r := by
  rintro ⟨r, hr⟩
  have hle := (ofText_eq_ok_iff.mp hr).1 0 _ operandAt_longComparison
  rw [List.length_replicate] at hle
  exact absurd hle (by decide)

end SourceGrade.Report
