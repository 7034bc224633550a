import SourceGrade.Number.Rounding
import SourceGrade.Pattern.Hits
import SourceGrade.Text.Blank
import SourceGrade.Text.Lines
import SourceGrade.Language.Registry
import SourceGrade.Number.Total

set_option autoImplicit false

/-!
# Repeated fragments

A fragment is three consecutive significant lines. A text repeats itself as far as its fragments
occur more than once. Short lines, comments and imports are not significant, because they resemble
each other without being copies.
-/

namespace SourceGrade

/-- A fragment that occurs several times. -/
structure RepeatedFragment where
  /-- The beginning of its first line. -/
  preview : String
  /-- The number of places at which it occurs. -/
  occurrences : Int
  deriving DecidableEq, Repr

/-- How far a text repeats itself. -/
structure Duplication where
  /-- The share of repeated lines, from 0 to 100. -/
  percentage : Rat := 0
  /-- The number of different fragments that are repeated. -/
  instances : Int := 0
  fragments : List RepeatedFragment := []
  deriving DecidableEq, Repr

namespace Duplication

open Pattern (word inOrder anyOf)

/-- A line of at most this many characters is not significant. -/
def shortLine : Nat := 10

/-- The number of fragments that are listed. -/
def listedFragments : Nat := 5

/-- The number of characters of a preview. -/
def previewLength : Nat := 60

/-- The beginning of a comment, of an import or of a directive. -/
def insignificantStart : Pattern :=
  anyOf [word "//", word "/*", word "*", word "#", inOrder [word "import", .wordEdge],
    inOrder [word "using", .wordEdge]]

/-- Whether a trimmed line is long enough and is no comment, import or directive. -/
def isSignificant (line : List Char) : Bool :=
  shortLine < line.length && !insignificantStart.matchesStart line

/-- The significant lines of a text, trimmed. -/
def significantLines (t : List Char) : List (List Char) :=
  ((Text.lines t).map Text.trim).filter isSignificant

/-- Three consecutive lines. -/
structure Fragment where
  first : List Char
  second : List Char
  third : List Char
  deriving DecidableEq, Repr

/-- The number of lines of a fragment. -/
def fragmentLines : Nat := 3

/-- The fragments of a list of lines, one for each line that two more follow. -/
def fragmentsOf : List (List Char) → List Fragment
  | a :: b :: c :: rest => ⟨a, b, c⟩ :: fragmentsOf (b :: c :: rest)
  | _ => []

/-- The fragments that occur more than once with the number of their occurrences, in the order in
which they first occur. -/
def repeated (fragments : List Fragment) : List (Fragment × Nat) :=
  (fragments.eraseDups.map fun f => (f, fragments.count f)).filter fun p => 1 < p.2

/-- The number of lines in all occurrences of the repeated fragments. Occurrences may overlap. -/
def repeatedLines (repeats : List (Fragment × Nat)) : Nat :=
  Number.total (repeats.map fun p => p.2 * fragmentLines)

/-- A percentage, or 100 in the place of one that is larger. -/
def atMostAll (q : Rat) : Rat := if q ≤ 100 then q else 100

/-- The share of `part` in `whole` in percent, at most 100, without any rounding. -/
def share (part whole : Nat) : Rat := atMostAll ((part : Rat) / (whole : Rat) * 100)

/-- How far a list of significant lines repeats itself. -/
def ofSignificant (lines : List (List Char)) : Duplication :=
  if lines.isEmpty then {}
  else
    let repeats := repeated (fragmentsOf lines)
    { percentage := atMostAll (Number.percent (repeatedLines repeats) lines.length)
      instances := repeats.length
      fragments := (repeats.take listedFragments).map fun p =>
        ⟨String.ofList (p.1.first.take previewLength), p.2⟩ }

/-- How far a text repeats itself. -/
def ofText (t : List Char) : Duplication := ofSignificant (significantLines t)

end Duplication

end SourceGrade
