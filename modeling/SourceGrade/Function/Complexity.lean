import SourceGrade.Language.Registry
import SourceGrade.Pattern.Hits
import SourceGrade.Number.Total

set_option autoImplicit false

/-!
# Complexity

The complexity of a body is one more than the number of decisions in it. Decisions are recognised
by their words and operators, so those in comments and in quoted text count as well.
-/

namespace SourceGrade.Complexity

open Pattern (word inOrder one)
open SourceGrade.Language (among except someBlanks)

/-- A word that stands by itself. -/
def wholeWord (s : String) : Pattern := inOrder [.wordEdge, word s, .wordEdge]

/-- A condition, which counts once with the word that leads to it. -/
def conditional : Pattern :=
  .alt (inOrder [.wordEdge, word "else", someBlanks, word "if", .wordEdge]) (wholeWord "if")

/-- The question mark of a conditional expression: not doubled, not part of an operator, and
followed by a colon on the same line at a moderate distance. -/
def ternary : Pattern :=
  inOrder [
    .notAfter (· == '?'), word "?", .notAhead (one (among ['.', '?', ':'])),
    .ahead (inOrder [.run (except [':', '\n']) 1 (some 300) .longestFirst, word ":"])]

/-- The constructs that count as decisions. -/
def decisions : List Pattern := [
  conditional,
  wholeWord "while",
  wholeWord "for",
  wholeWord "foreach",
  wholeWord "case",
  wholeWord "catch",
  word "??",
  word "?.",
  word "&&",
  word "||",
  ternary]

/-- The estimated number of independent paths through a body. -/
def estimate (body : List Char) : Nat :=
  1 + Number.total (decisions.map (·.countHits body))

end SourceGrade.Complexity
