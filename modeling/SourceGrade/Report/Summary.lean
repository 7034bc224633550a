import SourceGrade.Report.Basic
import SourceGrade.Number.Total

set_option autoImplicit false

/-!
# Summaries

A summary ranks the reports of a project, the worst first, and adds up their figures. Reports may
arrive in any order: the ranking is by score and then by file name, and everything else is computed
from the ranking. Means are computed in doubles, so the functions that compute them ask for a
rounding; without one (`id`) they compute the exact means.
-/

namespace SourceGrade

/-- The reports of a project with their totals. -/
structure Summary where
  /-- The reports, the worst first. -/
  reports : List Report := []
  overallScore : Int := 0
  /-- The grade of the mean score. -/
  overallGrade : Grade := .f
  /-- The number of reports of each grade, the best grade first. -/
  gradeCounts : List (Grade × Nat) := Grade.all.map fun g => (g, 0)
  totalSmells : Int := 0
  totalFunctions : Int := 0
  totalCodeLines : Int := 0
  /-- The mean percentage of repeated lines. -/
  averageDuplication : Rat := 0
  /-- The number of reports of each language, in the order of the ranking. -/
  languages : List (String × Nat) := []
  /-- The files that could not be analysed. -/
  skipped : List String := []
  deriving DecidableEq, Repr

/-- Why reports cannot be summed up. -/
inductive SummaryError where
  /-- A double cannot hold their mean score. -/
  | mean (e : Number.Fault)
  /-- A report has a letter that is no grade. -/
  | unknownGrade (letter : String)
  deriving DecidableEq, Repr

namespace Summary

/-- Whether a report is ranked no later than another: by score, then by file name. -/
def ranksBefore (a b : Report) : Bool :=
  a.score < b.score || (a.score == b.score && !(b.filename < a.filename))

/-- The reports from the worst to the best. -/
def ranking (reports : List Report) : List Report := reports.mergeSort ranksBefore

/-- The mean of scores, rounded half up. -/
def meanScore (scores : List Int) (round : Rat → Rat := Number.nearestDouble) : Int :=
  let mean := round ((Number.signedTotal scores : Rat) / ((scores.length : Int) : Rat))
  Number.truncate (round (mean + 1 / 2))

/-- The sum of doubles, rounded after each addition. -/
def sumDoubles (xs : List Rat) (round : Rat → Rat := Number.nearestDouble) : Rat :=
  xs.foldl (fun sum x => round (sum + x)) 0

/-- The mean of doubles, as a double. -/
def meanDouble (xs : List Rat) (round : Rat → Rat := Number.nearestDouble) : Rat :=
  round (sumDoubles xs round / (xs.length : Rat))

/-- The number of reports of each grade. -/
def countGrades (reports : List Report) : List (Grade × Nat) :=
  Grade.all.map fun g => (g, reports.countP (·.grade == g.letter))

/-- The number of reports of each language, in the order in which the languages first occur. -/
def countLanguages (reports : List Report) : List (String × Nat) :=
  let tags := reports.map (·.language)
  tags.eraseDups.map fun tag => (tag, tags.count tag)

/-- The summary of ranked reports, of which there is at least one. -/
def ofRanked (ranked : List Report) (round : Rat → Rat := Number.nearestDouble) : Summary :=
  let overall := meanScore (ranked.map (·.score)) round
  { reports := ranked
    overallScore := overall
    overallGrade := Grade.ofScore overall
    gradeCounts := countGrades ranked
    totalSmells := Number.signedTotal (ranked.map fun r => (r.smells.length : Int))
    totalFunctions := Number.signedTotal (ranked.map (·.functions.total))
    totalCodeLines := Number.signedTotal (ranked.map (·.lines.code))
    averageDuplication := meanDouble (ranked.map (·.duplication.percentage)) round
    languages := countLanguages ranked }

/-- The summary of reports in any order, all of which have the letter of a grade. -/
def ofGraded (reports : List Report) (round : Rat → Rat := Number.nearestDouble) : Summary :=
  if reports.isEmpty then {} else ofRanked (ranking reports) round

/-- The summary of reports in any order. Their mean score is computed first, and then the first
report of the ranking is refused whose letter is no grade. -/
def ofReports (reports : List Report) (round : Rat → Rat := Number.nearestDouble) :
    Except SummaryError Summary :=
  let ranked := ranking reports
  match Number.divide (Number.signedTotal (ranked.map (·.score))) ranked.length with
  | .error e => .error (.mean e)
  | .ok _ =>
    match ranked.find? fun r => (Grade.ofLetter? r.grade).isNone with
    | some r => .error (.unknownGrade r.grade)
    | none => .ok (ofGraded reports round)

end Summary

/-- A file with its text. -/
structure SourceFile where
  name : String
  text : List Char
  deriving DecidableEq, Repr

/-- What came of the analysis of a file. -/
structure Arrival where
  filename : String
  /-- The report, or why there is none. -/
  outcome : Except AnalysisError Report

namespace Project

/-- What comes of the analysis of a file. -/
def analyse (settings : AnalysisSettings) (file : SourceFile) : Arrival :=
  ⟨file.name, Report.ofText settings file.name file.text⟩

/-- The reports among the arrivals. -/
def reportsOf (arrivals : List Arrival) : List Report :=
  arrivals.filterMap fun a => a.outcome.toOption

/-- The files among the arrivals that could not be analysed. -/
def failuresOf (arrivals : List Arrival) : List (String × AnalysisError) :=
  arrivals.filterMap fun a =>
    match a.outcome with
    | .ok _ => none
    | .error e => some (a.filename, e)

/-- The summary of arrivals in any order. Files that could not be analysed are listed by name. -/
def ofArrivals (arrivals : List Arrival) : Summary :=
  { Summary.ofGraded (reportsOf arrivals) with
    skipped := ((failuresOf arrivals).map (·.1)).mergeSort fun a b => !(b < a) }

/-- The files with a later text of the same name in the place of an earlier one. -/
def addFile (files : List SourceFile) (file : SourceFile) : List SourceFile :=
  if files.any (·.name == file.name) then
    files.map fun f => if f.name == file.name then file else f
  else files ++ [file]

/-- The files of a list in which a later one replaces an earlier one of the same name. -/
def distinctFiles (files : List SourceFile) : List SourceFile := files.foldl addFile []

/-- The summary of files with distinct names. -/
def ofFiles (settings : AnalysisSettings) (files : List SourceFile) : Summary :=
  ofArrivals (files.map (analyse settings))

end Project

end SourceGrade
