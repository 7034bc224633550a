import SourceGrade.Number.Amount
import SourceGrade.Number.Total

set_option autoImplicit false

/-!
# Scores and grades

A score starts at 100 and loses points for each of eight signals. Most signals are graded in tiers,
of which the highest one that is exceeded counts. Every loss is listed as a penalty, so the score
can be recomputed from the list. A penalty names the value of its signal. There is no score where a
value cannot be written, and most values are written even if they cost nothing.
-/

namespace SourceGrade

/-- A letter for a score. -/
inductive Grade where
  /-- At least 90. -/
  | a
  /-- At least 80. -/
  | b
  /-- At least 70. -/
  | c
  /-- At least 60. -/
  | d
  /-- Less than 60. -/
  | f
  deriving DecidableEq, Repr

namespace Grade

/-- All grades, the best one first. -/
def all : List Grade := [a, b, c, d, f]

/-- The letter of a grade. -/
def letter : Grade → String
  | a => "A"
  | b => "B"
  | c => "C"
  | d => "D"
  | f => "F"

/-- The grade of a letter. -/
def ofLetter? (s : String) : Option Grade := all.find? (·.letter == s)

/-- The grade of a score. -/
def ofScore (score : Rat) : Grade :=
  if 90 ≤ score then a
  else if 80 ≤ score then b
  else if 70 ≤ score then c
  else if 60 ≤ score then d
  else f

/-- The grade of a number. What is no number has the worst one. -/
def ofDouble : Double → Grade
  | .finite q => ofScore q
  | .minusZero => ofScore 0
  | .infinite negative => if negative then f else a
  | .undefined => f

end Grade

/-- A loss of points. -/
structure Penalty where
  metric : String
  value : String
  /-- The points, as a negative number. -/
  delta : Int
  deriving DecidableEq, Repr

/-- The signals that a score is made from. -/
structure ScoreInputs where
  /-- The mean complexity of the functions. -/
  averageComplexity : Amount := .double (.finite 1)
  duplication : Amount := .double (.finite 0)
  /-- The number of names that break the convention. -/
  namingIssues : Int := 0
  codeLines : Int := 0
  /-- The number of functions that are too long. -/
  longFunctions : Int := 0
  /-- The number of smells that count as errors. -/
  errorSmells : Int := 0
  /-- The number of smells that count as warnings. -/
  warningSmells : Int := 0
  /-- The comment lines in percent of the code lines. -/
  commentRatio : Amount := .double (.finite 0)
  deriving DecidableEq, Repr

/-- A score with what led to it. -/
structure Score where
  /-- The points that are left, from 0 to 100. -/
  points : Int
  grade : Grade
  /-- The points that were lost, signal by signal. -/
  penalties : List Penalty
  deriving DecidableEq, Repr

/-- What a signal costs. -/
structure Charge where
  metric : String
  value : String
  /-- The points to be lost. A signal that does not cost anything is not listed. -/
  points : Int
  /-- What keeps the value from being written, if it is written at all. -/
  fault? : Option Number.Fault := none
  deriving DecidableEq, Repr

namespace Score

/-- The points of an untroubled text. -/
def best : Int := 100

/-- A limit and the points that are lost beyond it. -/
structure Tier where
  /-- The value that has to be exceeded. -/
  limit : Rat
  points : Int

/-- The tiers of the mean complexity. -/
def complexityTiers : List Tier := [⟨15, 25⟩, ⟨10, 15⟩, ⟨7, 8⟩]

/-- The tiers of the percentage of repeated lines. -/
def duplicationTiers : List Tier := [⟨20, 20⟩, ⟨10, 12⟩, ⟨5, 5⟩]

/-- The tiers of the number of naming issues. -/
def namingTiers : List Tier := [⟨10, 15⟩, ⟨5, 8⟩, ⟨0, 3⟩]

/-- The tiers of the number of code lines. -/
def lengthTiers : List Tier := [⟨500, 10⟩, ⟨300, 5⟩]

/-- The points of the first tier whose limit is exceeded. -/
def tierPoints (tiers : List Tier) (exceeds : Rat → Bool) : Int :=
  match tiers.find? fun tier => exceeds tier.limit with
  | some tier => tier.points
  | none => 0

/-- Whether a count is greater than a limit. -/
def countExceeds (n : Int) (limit : Rat) : Bool := limit < n

/-- A number with its noun, in the plural unless the number is one. -/
def counted (n : Int) (noun : String) : String :=
  if n = 1 then toString n ++ " " ++ noun else toString n ++ " " ++ noun ++ "s"

/-- The points for functions that are too long: the same for each of the first three, and then the
most. -/
def longFunctionPoints (n : Int) : Int := if 3 < n then 15 else 5 * n

/-- The points for errors: the same for each, up to a most. -/
def errorPoints (n : Int) : Int := min (n * 5) 20

/-- The points for warnings: none for a few, then the same for each, up to a most. -/
def warningPoints (n : Int) : Int := if 5 < n then min (n * 2) 15 else 0

/-- The points for too few comments, which a short text does not need. -/
def commentPoints (ratio : Amount) (codeLines : Int) : Int :=
  if ratio.isBelow 3 ∧ 50 < codeLines then 5 else 0

/-- The charge for an amount, which is written in any case. -/
def amountCharge (metric : String) (a : Amount) (unit : String) (tiers : List Tier) : Charge where
  metric
  value := a.fixed 1 ++ unit
  points := tierPoints tiers a.exceeds
  fault? := a.fixedFault?

/-- The charge for a count, which is written in any case. -/
def countCharge (metric : String) (n : Int) (noun : String) (points : Int) : Charge where
  metric
  value := counted n noun
  points
  fault? := Number.writingFault? n

/-- A charge whose value is only written if it costs anything. -/
def ifCostly (c : Charge) : Charge :=
  { c with fault? := if 0 < c.points then c.fault? else none }

/-- What the eight signals cost, in the order in which they are listed. -/
def charges (s : ScoreInputs) : List Charge := [
  amountCharge "Average Complexity" s.averageComplexity "" complexityTiers,
  amountCharge "Duplication" s.duplication "%" duplicationTiers,
  countCharge "Naming" s.namingIssues "issue"
    (tierPoints namingTiers (countExceeds s.namingIssues)),
  countCharge "File Length" s.codeLines "line" (tierPoints lengthTiers (countExceeds s.codeLines)),
  countCharge "Long Functions" s.longFunctions "function" (longFunctionPoints s.longFunctions),
  countCharge "Critical Issues" s.errorSmells "error" (errorPoints s.errorSmells),
  ifCostly (countCharge "Warnings" s.warningSmells "warning" (warningPoints s.warningSmells)),
  ifCostly {
    metric := "Comment Ratio"
    value := s.commentRatio.fixed 1 ++ "%"
    points := commentPoints s.commentRatio s.codeLines
    fault? := s.commentRatio.fixedFault? }]

/-- The penalty of a charge, if the charge costs anything. -/
def penaltyOf? (c : Charge) : Option Penalty :=
  if 0 < c.points then some ⟨c.metric, c.value, -c.points⟩ else none

/-- The penalties for the signals, in their order. -/
def penaltiesOf (s : ScoreInputs) : List Penalty := (charges s).filterMap penaltyOf?

/-- The points that penalties leave. -/
def pointsAfter (ps : List Penalty) : Int :=
  max 0 (min best (best + Number.signedTotal (ps.map (·.delta))))

/-- The score of signals all of whose values can be written. -/
def ofSignals (s : ScoreInputs) : Score :=
  let ps := penaltiesOf s
  let points := pointsAfter ps
  ⟨points, Grade.ofScore points, ps⟩

/-- The score of the signals. The first value that is written and cannot be is the fault. -/
def ofInputs (s : ScoreInputs) : Except Number.Fault Score :=
  match (charges s).findSome? (·.fault?) with
  | some e => .error e
  | none => .ok (ofSignals s)

end Score

end SourceGrade
