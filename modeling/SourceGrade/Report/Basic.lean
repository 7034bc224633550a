import SourceGrade.Config.Settings
import SourceGrade.Metric.Declarations
import SourceGrade.Metric.Duplication
import SourceGrade.Metric.LineCount
import SourceGrade.Metric.Naming
import SourceGrade.Metric.Smell
import SourceGrade.Number.Amount
import SourceGrade.Report.Score
import SourceGrade.Number.Total

set_option autoImplicit false

/-!
# Reports

A report holds all that was measured of one text, with its score. `Report.ofText` makes one. The
name of the file decides nothing but the language.
-/

namespace SourceGrade

/-- The functions of a text, in summary. -/
structure FunctionSummary where
  total : Int := 0
  /-- Their mean complexity to one decimal place, and one where there is no function. -/
  averageComplexity : Rat := 1
  /-- Their greatest complexity, and one where there is no function. -/
  maxComplexity : Int := 1
  /-- The functions that are too long. -/
  longFunctions : List FunctionInfo := []
  /-- The functions that are too complex. -/
  complexFunctions : List FunctionInfo := []
  all : List FunctionInfo := []
  deriving DecidableEq, Repr

namespace FunctionSummary

/-- The mean complexity of functions as a double, and one where there is none. -/
def meanComplexity (fs : List FunctionInfo) : Rat :=
  if fs.isEmpty then 1 else Number.quotient (Number.signedTotal (fs.map (·.complexity))) fs.length

/-- The summary of functions. -/
def ofFunctions (settings : AnalysisSettings) (fs : List FunctionInfo) : FunctionSummary where
  total := fs.length
  averageComplexity := Number.roundTo 1 (meanComplexity fs)
  maxComplexity := ((fs.map (·.complexity)).max?).getD 1
  longFunctions := fs.filter fun f => settings.longFunctionLines < f.lineCount
  complexFunctions := fs.filter fun f => settings.complexFunctionThreshold < f.complexity
  all := fs

/-- The summary of functions with their mean complexity before it is rounded to a place, if a double
can hold that. -/
def summarize (settings : AnalysisSettings) (fs : List FunctionInfo) :
    Except Number.Fault (FunctionSummary × Rat) :=
  if fs.isEmpty then .ok (ofFunctions settings fs, meanComplexity fs)
  else do
    let mean ← Number.divide (Number.signedTotal (fs.map (·.complexity))) fs.length
    pure (ofFunctions settings fs, mean)

end FunctionSummary

/-- All that was measured of one text. -/
structure Report where
  filename : String
  language : String
  score : Int
  grade : String
  /-- The lines by what they hold. -/
  lines : LineCount := {}
  functions : FunctionSummary := {}
  classes : Int := 0
  imports : List String := []
  duplication : Duplication := {}
  /-- The names that break the convention. -/
  namingIssues : List NamingIssue := []
  smells : List Smell := []
  /-- The comment lines in percent of the code lines, to one decimal place. -/
  commentRatio : Rat := 0
  /-- The points that were lost. -/
  penalties : List Penalty := []
  deriving DecidableEq, Repr

/-- Why a text cannot be analysed. -/
inductive AnalysisError where
  | naming (e : NamingError)
  | smells (e : SmellError)
  deriving DecidableEq, Repr

namespace AnalysisError

/-- What is said of a text that cannot be analysed. -/
def message : AnalysisError → String
  | naming .emptyName => "string index out of range"
  | smells (.tooManyDigits n) =>
    "Exceeds the limit (" ++ toString Number.maxDigits ++
      " digits) for integer string conversion: value has " ++ toString n ++
      " digits; use sys.set_int_max_str_digits() to increase the limit"

end AnalysisError

namespace Report

/-- The number of smells of a severity. -/
def countSeverity (severity : String) (smells : List Smell) : Int :=
  smells.countP (·.severity == severity)

/-- The signals from which a report is scored. -/
def signals (settings : AnalysisSettings) (language : Language) (t : List Char)
    (functions : List FunctionInfo) (issues : List NamingIssue) (smells : List Smell) :
    ScoreInputs where
  averageComplexity := .double (.finite (FunctionSummary.meanComplexity functions))
  duplication := .double (.finite (Duplication.ofText t).percentage)
  namingIssues := issues.length
  codeLines := (LineCount.ofText language t).code
  longFunctions := (FunctionSummary.ofFunctions settings functions).longFunctions.length
  errorSmells := countSeverity "error" smells
  warningSmells := countSeverity "warning" smells
  commentRatio := .double (.finite (LineCount.ofText language t).commentRatio)

/-- The report of a text in a given language, with the issues and smells that were found in it. Its
signals are scored as what they are, since no text has so many of them that they could not be
written. -/
def assemble (settings : AnalysisSettings) (filename : String) (language : Language)
    (t : List Char) (functions : List FunctionInfo) (issues : List NamingIssue)
    (smells : List Smell) : Report :=
  let lines := LineCount.ofText language t
  let score := Score.ofSignals (signals settings language t functions issues smells)
  { filename
    language := language.tag
    score := score.points
    grade := score.grade.letter
    lines
    functions := .ofFunctions settings functions
    classes := Metric.countTypes language t
    imports := Metric.imports language t
    duplication := .ofText t
    namingIssues := issues
    smells
    commentRatio := Number.roundTo 1 lines.commentRatio
    penalties := score.penalties }

/-- The report of a text. -/
def ofText (settings : AnalysisSettings) (filename : String) (t : List Char) :
    Except AnalysisError Report := do
  let language := Language.ofFilename filename
  let functions := FunctionInfo.find language t settings.bodyScanLimit
  let issues ←
    (NamingIssue.ofText language functions settings.shortNameAllowlist t).mapError .naming
  let smells ←
    (Smell.ofText settings.maxLineLength settings.maxNestingDepth settings.magicNumberAllowlist
      t).mapError .smells
  pure (assemble settings filename language t functions issues smells)

end Report

end SourceGrade
