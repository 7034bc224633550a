import SourceGrade.Report.Summary

set_option autoImplicit false

/-!
# Summaries in Markdown

A summary is written as sections with a blank line between
them: a heading, the overall score, the grades, the ranking of the files, one section for each file
and a closing line with the time at which the summary was written.
-/

namespace SourceGrade.Markdown

open Pattern (inOrder)

/-- A run of asterisks before a character that is not blank. -/
def starsBefore : Pattern :=
  inOrder [Pattern.atLeastOne (· == '*'), .ahead (Pattern.one fun c => !Text.isBlank c)]

/-- A run of asterisks after a character that is not blank. -/
def starsAfter : Pattern :=
  inOrder [.after fun c => !Text.isBlank c, Pattern.atLeastOne (· == '*')]

/-- A vertical bar or a backtick with a backslash before it, any other character by itself. -/
def escapeChar (c : Char) : List Char := if c = '|' ∨ c = '\x60' then ['\\', c] else [c]

/-- The characters with vertical bars, backticks and the asterisks next to ink escaped. -/
def escapeChars (t : List Char) : List Char :=
  starsAfter.putBefore ['\\'] (starsBefore.putBefore ['\\'] (t.flatMap escapeChar))

/-- A text with vertical bars, backticks and the asterisks next to ink escaped. -/
def escape (s : String) : String := String.ofList (escapeChars s.toList)

/-- A character several times, and not at all for a negative number. -/
def bar (c : Char) (n : Int) : String := String.ofList (List.replicate n.toNat c)

/-- The width of the bar of the overall score. -/
def barWidth : Int := 30

/-- How much of a bar of the given width is filled, as far as the score reaches towards 100. -/
def filledWidth (score width : Int) : Int := Number.truncate (Number.quotient (width * score) 100)

/-- A bar of the given width that is filled as far as the score reaches towards 100. -/
def progressBar (score width : Int) : String :=
  let filled := filledWidth score width
  "[" ++ bar '█' filled ++ bar '░' (width - filled) ++ "]"

/-- Why a bar cannot be drawn. -/
inductive BarError where
  /-- Its score or the width of a part is out of range. -/
  | outOfRange
  /-- A part is wider than there is room for. -/
  | noRoom
  deriving DecidableEq, Repr

/-- The widths of a part that are in range lie below this number, in either direction. -/
def widthRange : Int := 9223372036854775808

/-- The width of a part for which there is no room. -/
def widthRoom : Int := 10000000000

/-- Whether a part of a bar can be drawn. -/
def checkPart (n : Int) : Except BarError Unit :=
  if n < -widthRange ∨ widthRange ≤ n then .error .outOfRange
  else if widthRoom ≤ n then .error .noRoom
  else .ok ()

/-- A bar that is drawn if its parts can be drawn. Its filled part comes first. -/
def drawBar (score width : Int) : Except BarError String :=
  match Number.divide (width * score) 100 with
  | .error _ => .error .outOfRange
  | .ok part => do
    let filled := Number.truncate part
    checkPart filled
    checkPart (width - filled)
    pure (progressBar score width)

/-- The sign of a grade, and nothing for a letter that is no grade. -/
def gradeSign (letter : String) : String :=
  match Grade.ofLetter? letter with
  | some .a => "🟢"
  | some .b => "🟢"
  | some .c => "🟡"
  | some .d => "🟠"
  | some .f => "🔴"
  | none => ""

/-- The sign of a severity, and nothing for an unknown one. -/
def severitySign (severity : String) : String :=
  if severity = "error" then "🔴"
  else if severity = "warning" then "🟡"
  else if severity = "info" then "⚪"
  else ""

/-- Lines, one below the other. -/
def stacked (lines : List String) : String := "\n".intercalate lines

/-- Paragraphs with a blank line between them. -/
def apart (paragraphs : List String) : String := "\n\n".intercalate paragraphs

/-- A row of a table. -/
def row (cells : List String) : String := "| " ++ " | ".intercalate cells ++ " |"

/-- A text as code. -/
def code (s : String) : String := "`" ++ escape s ++ "`"

/-- The heading with the number of files. -/
def heading (s : Summary) : String :=
  stacked ["# 📊 Code Quality Report", "",
    "**Files analyzed:** " ++ toString s.reports.length, "", "---"]

/-- The languages in alphabetical order, or a dash. -/
def languageList (s : Summary) : String :=
  let names := ", ".intercalate ((s.languages.map (·.1)).mergeSort fun a b => !(b < a))
  if names.isEmpty then "-" else names

/-- The overall score and the totals. -/
def overview (s : Summary) : String :=
  stacked ["## 📈 Overall", "", "```",
    progressBar s.overallScore barWidth ++ " " ++ toString s.overallScore ++ "/100  grade " ++
      s.overallGrade.letter,
    "```", "", "| Metric | Value |", "|--------|-------|",
    row ["Code lines", Number.grouped s.totalCodeLines],
    row ["Functions", toString s.totalFunctions],
    row ["Code smells", toString s.totalSmells],
    row ["Avg duplication", Number.fixed 1 s.averageDuplication ++ "%"],
    row ["Languages", languageList s]]

/-- The row of a grade. -/
def gradeRow (p : Grade × Nat) : String :=
  row [gradeSign p.1.letter ++ " " ++ p.1.letter, toString p.2, bar '█' p.2]

/-- The number of files of each grade. -/
def distribution (s : Summary) : String :=
  stacked (["## 🎓 Grade distribution", "", "| Grade | Files | |", "|-------|-------|---|"] ++
    s.gradeCounts.map gradeRow)

/-- The row of a file in the ranking. -/
def fileRow (r : Report) : String :=
  row [code r.filename, r.language, toString r.score, r.grade, toString r.lines.code,
    toString r.functions.total, toString r.smells.length]

/-- The lines above the rows of the ranking. -/
def rankingHead : List String := [
  "| File | Language | Score | Grade | Code lines | Functions | Smells |",
  "|------|----------|-------|-------|------------|-----------|--------|"]

/-- The files, the worst first. -/
def ranking (s : Summary) : String :=
  stacked (["## 📁 Files (worst first)", ""] ++ rankingHead ++ s.reports.map fileRow)

/-- The row of a penalty. -/
def penaltyRow (p : Penalty) : String :=
  row [escape p.metric, escape p.value, toString p.delta]

/-- What a file lost its points for. -/
def penaltyParagraphs (r : Report) : List String :=
  if r.penalties.isEmpty then ["✅ No penalties."]
  else [stacked ["| Metric | Value | Penalty |", "|--------|-------|---------|"],
    stacked (r.penalties.map penaltyRow)]

/-- Functions with a later one of the same name and line in the place of an earlier one. -/
def putFunction (fs : List FunctionInfo) (f : FunctionInfo) : List FunctionInfo :=
  let same : FunctionInfo → Bool := fun g => g.name == f.name && g.startLine == f.startLine
  if fs.any same then fs.map fun g => if same g then f else g else fs ++ [f]

/-- The functions that are too complex, and then those that are too long. -/
def flagged (r : Report) : List FunctionInfo :=
  (r.functions.complexFunctions ++ r.functions.longFunctions).foldl putFunction []

/-- A function that is to be improved. -/
def flaggedItem (f : FunctionInfo) : String :=
  code f.name ++ " (line " ++ toString f.startLine ++ ", " ++ toString f.lineCount ++
    " lines, complexity " ++ toString f.complexity ++ ")"

/-- The functions that are to be improved, if there are any. -/
def flaggedParagraphs (r : Report) : List String :=
  let fs := flagged r
  if fs.isEmpty then []
  else ["**Functions to refactor:** " ++ ", ".intercalate (fs.map flaggedItem)]

/-- The number of smells that are listed for a file. -/
def listedSmells : Nat := 15

/-- A smell. -/
def smellItem (s : Smell) : String :=
  "- " ++ severitySign s.severity ++ " L" ++ toString s.line ++ ": " ++ escape s.message

/-- The smells of a file, if there are any. Only the first ones are listed. -/
def smellParagraphs (r : Report) : List String :=
  if r.smells.isEmpty then []
  else
    let count := r.smells.length
    let more :=
      if listedSmells < count then ["- ...and " ++ toString (count - listedSmells) ++ " more"]
      else []
    ["**Code smells (" ++ toString count ++ "):**",
      stacked ((r.smells.take listedSmells).map smellItem ++ more)]

/-- A naming issue. -/
def namingItem (n : NamingIssue) : String :=
  code n.name ++ " L" ++ toString n.line ++ " (expected " ++ n.expected ++ ")"

/-- The naming issues of a file, if there are any. -/
def namingParagraphs (r : Report) : List String :=
  if r.namingIssues.isEmpty then []
  else ["**Naming:** " ++ ", ".intercalate (r.namingIssues.map namingItem)]

/-- A repeated fragment. -/
def fragmentItem (f : RepeatedFragment) : String :=
  "- " ++ code f.preview ++ " ×" ++ toString f.occurrences

/-- The repeated fragments of a file, if there are any. -/
def fragmentParagraphs (r : Report) : List String :=
  if r.duplication.fragments.isEmpty then []
  else ["**Duplicated fragments:**", stacked (r.duplication.fragments.map fragmentItem)]

/-- All about one file. -/
def fileSection (r : Report) : String :=
  apart (["### " ++ gradeSign r.grade ++ " " ++ code r.filename ++ " — " ++ toString r.score ++
      "/100 (" ++ r.grade ++ ")"] ++
    penaltyParagraphs r ++ flaggedParagraphs r ++ smellParagraphs r ++ namingParagraphs r ++
    fragmentParagraphs r)

/-- The closing lines. -/
def footer (writtenAt : String) : String :=
  stacked ["---", "", "*Generated by Code Quality Analyzer*", "*" ++ writtenAt ++ "*"]

/-- What is written where there is nothing to sum up. -/
def nothingAnalysed : String := "# Code Quality Report\n\n**No files analyzed.**"

/-- A summary in Markdown, or the message that there is none, where all that is in it can be
written. `writtenAt` is the time that the closing line names. -/
def ofSummary (writtenAt : String) : Option Summary → String
  | none => nothingAnalysed
  | some s =>
    if s.reports.isEmpty then nothingAnalysed
    else
      apart ([heading s, overview s, distribution s, ranking s] ++ s.reports.map fileSection ++
        [footer writtenAt])

/-! ## Summaries that cannot be written -/

/-- Why a summary cannot be written in Markdown. -/
inductive Fault where
  /-- The bar of the overall score cannot be drawn. -/
  | bar (e : BarError)
  /-- An integer cannot be written. -/
  | integer (e : Number.Fault)
  deriving DecidableEq, Repr

/-- The integers in the section of a file. -/
def fileIntegers (r : Report) : List Int :=
  [r.score, r.lines.code, r.functions.total] ++ r.penalties.map (·.delta) ++
    ((flagged r).flatMap fun f => [f.startLine, f.lineCount, f.complexity]) ++
    (r.smells.take listedSmells).map (·.line) ++ r.namingIssues.map (·.line) ++
    r.duplication.fragments.map (·.occurrences)

/-- The integers that are written for a summary, other than the numbers of what it lists. -/
def integers (s : Summary) : List Int :=
  [s.overallScore, s.totalCodeLines, s.totalFunctions, s.totalSmells] ++
    s.reports.flatMap fileIntegers

/-- A summary in Markdown, if there is one and it can be written. -/
def generate (writtenAt : String) (summary : Option Summary) : Except Fault String :=
  match summary with
  | none => .ok (ofSummary writtenAt none)
  | some s =>
    if s.reports.isEmpty then .ok (ofSummary writtenAt (some s))
    else
      match drawBar s.overallScore barWidth with
      | .error e => .error (.bar e)
      | .ok _ =>
        match (integers s).findSome? Number.writingFault? with
        | some e => .error (.integer e)
        | none => .ok (ofSummary writtenAt (some s))

end SourceGrade.Markdown
