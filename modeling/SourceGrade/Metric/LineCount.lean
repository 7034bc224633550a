import SourceGrade.Language.Basic
import SourceGrade.Number.Amount
import SourceGrade.Text.Blank
import SourceGrade.Text.Lines

set_option autoImplicit false

/-!
# Blank, comment and code lines

Each line is blank, a comment or code. Only how a line begins is looked at, so a comment after code
on the same line goes unnoticed. The one thing that a line hands on to the next is whether a block
comment is open.
-/

namespace SourceGrade

/-- What a line holds. -/
inductive LineKind where
  | blank
  /-- A comment, a directive, or a part of a block comment. -/
  | comment
  | code
  deriving DecidableEq, Repr

/-- Whether a piece occurs in a text. -/
def occursIn (piece : List Char) : List Char → Bool
  | [] => piece.isEmpty
  | c :: rest => piece.isPrefixOf (c :: rest) || occursIn piece rest

namespace LineKind

/-- What begins a line that is counted as a comment in every language: a directive to a
preprocessor, or the name of an interpreter. -/
def directiveMark : List Char := ['#']

/-- What a line holds, and whether a block comment is open after it. `inBlock` says whether one is
open before it. -/
def ofLine (language : Language) (inBlock : Bool) (line : List Char) : LineKind × Bool :=
  let content := Text.trim line
  if content.isEmpty then (.blank, inBlock)
  else if inBlock then (.comment, !occursIn language.blockEnd.toList content)
  else if language.lineComment.toList.isPrefixOf content || directiveMark.isPrefixOf content then
    (.comment, false)
  else if language.blockStart.toList.isPrefixOf content then
    (.comment, !occursIn language.blockEnd.toList content)
  else (.code, false)

/-- What each of the lines holds. `inBlock` says whether a block comment is open before them. -/
def ofLines (language : Language) (inBlock : Bool) : List (List Char) → List LineKind
  | [] => []
  | line :: rest =>
    (ofLine language inBlock line).1 :: ofLines language (ofLine language inBlock line).2 rest

end LineKind

/-- The number of lines of a text, by what they hold. -/
structure LineCount where
  total : Int := 0
  blank : Int := 0
  comment : Int := 0
  code : Int := 0
  deriving DecidableEq, Repr

namespace LineCount

/-- The count of lines that have been told apart. -/
def ofKinds (kinds : List LineKind) : LineCount where
  total := kinds.length
  blank := kinds.count .blank
  comment := kinds.count .comment
  code := kinds.count .code

/-- The lines of a text, counted. -/
def ofText (language : Language) (t : List Char) : LineCount :=
  ofKinds (LineKind.ofLines language false (Text.lines t))

/-- The comment lines in percent of the code lines, and zero where there is no code. -/
def commentRatio (n : LineCount) : Rat :=
  if n.code ≤ 0 then 0 else Number.percent n.comment n.code

/-- The comment lines in percent of the code lines, if a double can hold them as a part of the code
lines. A percentage that is too large for a double is infinite. -/
def ratio (n : LineCount) : Except Number.Fault Double :=
  if n.code ≤ 0 then .ok (.finite 0)
  else do
    let part ← Number.divide n.comment n.code
    pure (.ofRat (part * 100))

end LineCount

end SourceGrade
