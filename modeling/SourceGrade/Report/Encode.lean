import SourceGrade.Report.Summary
import SourceGrade.Value.Basic

set_option autoImplicit false

/-!
# Reports as values

The form in which reports and summaries are handed to other programs. Bodies of functions are left
out unless they are asked for.
-/

namespace SourceGrade

/-- The lines by what they hold. -/
def LineCount.toValue (n : LineCount) : Value := .table [
  ("total", .int n.total), ("blank", .int n.blank), ("comment", .int n.comment),
  ("code", .int n.code)]

/-- A function, with its body if that is asked for. -/
def FunctionInfo.toValue (bodies : Bool) (f : FunctionInfo) : Value :=
  let entries := [
    ("name", Value.text f.name), ("start_line", .int f.startLine),
    ("line_count", .int f.lineCount), ("complexity", .int f.complexity)]
  .table (if bodies then entries ++ [("body", .text (String.ofList f.body))] else entries)

/-- The functions of a text, in summary. -/
def FunctionSummary.toValue (bodies : Bool) (s : FunctionSummary) : Value :=
  let functions : List FunctionInfo → Value := fun fs => .list (fs.map (·.toValue bodies))
  .table [
    ("total", .int s.total), ("average_complexity", .ofRat s.averageComplexity),
    ("max_complexity", .int s.maxComplexity), ("long_functions", functions s.longFunctions),
    ("complex_functions", functions s.complexFunctions), ("all", functions s.all)]

/-- A repeated fragment. -/
def RepeatedFragment.toValue (f : RepeatedFragment) : Value :=
  .table [("preview", .text f.preview), ("occurrences", .int f.occurrences)]

/-- How far a text repeats itself. -/
def Duplication.toValue (d : Duplication) : Value := .table [
  ("percentage", .ofRat d.percentage), ("instances", .int d.instances),
  ("fragments", .list (d.fragments.map (·.toValue)))]

/-- A naming issue. -/
def NamingIssue.toValue (n : NamingIssue) : Value := .table [
  ("kind", .text n.kind), ("name", .text n.name), ("expected", .text n.expected),
  ("line", .int n.line)]

/-- A smell. -/
def Smell.toValue (s : Smell) : Value := .table [
  ("kind", .text s.kind), ("line", .int s.line), ("message", .text s.message),
  ("severity", .text s.severity)]

/-- A penalty. -/
def Penalty.toValue (p : Penalty) : Value :=
  .table [("metric", .text p.metric), ("value", .text p.value), ("delta", .int p.delta)]

/-- A score. -/
def Score.toValue (s : Score) : Value := .table [
  ("score", .int s.points), ("grade", .text s.grade.letter),
  ("penalties", .list (s.penalties.map (·.toValue)))]

/-- A report, with the bodies of its functions if they are asked for. -/
def Report.toValue (bodies : Bool) (r : Report) : Value := .table [
  ("filename", .text r.filename), ("language", .text r.language), ("score", .int r.score),
  ("grade", .text r.grade), ("lines", r.lines.toValue),
  ("functions", r.functions.toValue bodies), ("classes", .int r.classes),
  ("imports", .list (r.imports.map .text)), ("duplication", r.duplication.toValue),
  ("naming_issues", .list (r.namingIssues.map (·.toValue))),
  ("code_smells", .list (r.smells.map (·.toValue))),
  ("comment_ratio", .ofRat r.commentRatio),
  ("penalties", .list (r.penalties.map (·.toValue)))]

/-- A summary, with the bodies of functions if they are asked for. -/
def Summary.toValue (bodies : Bool) (s : Summary) : Value := .table [
  ("reports", .list (s.reports.map (·.toValue bodies))),
  ("overall_score", .int s.overallScore), ("overall_grade", .text s.overallGrade.letter),
  ("grade_distribution", .table (s.gradeCounts.map fun p => (p.1.letter, .int p.2))),
  ("total_smells", .int s.totalSmells), ("total_functions", .int s.totalFunctions),
  ("total_code_lines", .int s.totalCodeLines),
  ("average_duplication", .ofRat s.averageDuplication),
  ("languages", .table (s.languages.map fun p => (p.1, .int p.2))),
  ("skipped", .list (s.skipped.map .text))]

end SourceGrade
