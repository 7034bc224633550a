import SourceGrade.Function.BraceIndex
import SourceGrade.Language.Registry
import SourceGrade.Number.Digits
import SourceGrade.Pattern.Hits
import SourceGrade.Text.Digit
import SourceGrade.Text.Lines

set_option autoImplicit false

/-!
# Smells

Signs of trouble that can be read off the text of a program: long lines, notes of unfinished work,
deep nesting, output left over from debugging, unexplained numbers and errors that are swallowed.
They are listed kind by kind.
-/

namespace SourceGrade

/-- A sign of trouble, as it is reported. -/
structure Smell where
  kind : String
  line : Int
  message : String
  severity : String
  deriving DecidableEq, Repr

/-- What may be wrong with a line. -/
inductive Finding where
  /-- The line has this many characters. -/
  | longLine (length : Nat)
  /-- The line holds a note with this tag. -/
  | todo (tag : List Char)
  /-- Braces are open to this depth at the end of the line. -/
  | deepNesting (depth : Int)
  /-- The line prints by means of the named facility. -/
  | debugOutput (facility : String)
  /-- The line compares or calculates with this literal. -/
  | magicNumber (literal : List Char)
  /-- The line catches an error and does nothing about it. -/
  | emptyCatch
  deriving DecidableEq, Repr

/-- Why the smells of a text cannot be listed. -/
inductive SmellError where
  /-- A literal has more digits than a number is read from. -/
  | tooManyDigits (count : Nat)
  deriving DecidableEq, Repr

namespace Finding

/-- The name of the kind of a finding. -/
def kind : Finding → String
  | longLine _ => "long_line"
  | todo _ => "todo"
  | deepNesting _ => "deep_nesting"
  | debugOutput _ => "debug"
  | magicNumber _ => "magic_number"
  | emptyCatch => "empty_catch"

/-- What is said of a finding. -/
def message : Finding → String
  | longLine n => "Line too long (" ++ toString n ++ " characters)"
  | todo tag => String.ofList tag ++ " comment found"
  | deepNesting d => "Deep nesting (" ++ toString d ++ " levels)"
  | debugOutput facility => "Debug/log statement left in code (" ++ facility ++ ")"
  | magicNumber literal => "Magic number: " ++ String.ofList literal
  | emptyCatch => "Empty catch block"

/-- How bad a finding is. -/
def severity : Finding → String
  | longLine _ => "warning"
  | todo _ => "info"
  | deepNesting _ => "error"
  | debugOutput _ => "warning"
  | magicNumber _ => "warning"
  | emptyCatch => "error"

/-- The report of a finding on a line. -/
def onLine (f : Finding) (line : Nat) : Smell := ⟨f.kind, line, f.message, f.severity⟩

end Finding

namespace Smell

open Pattern (word inOrder anyOf one opt)
open SourceGrade.Language (among blanks params openBrace)

/-- The longest line that is not reported. -/
def usualLineLength : Int := 120

/-- The greatest depth of braces that is not reported. -/
def usualNestingDepth : Int := 4

/-- The numbers that need no explanation. -/
def usualNumbers : List Int := [100, 200, 404, 500, 1000, 1024]

/-- The characters outside ASCII that are the same letter as an ASCII letter but for their case:
the dotted and dotless forms of i, the long s and the Kelvin sign. -/
def otherForms (letter : Char) : List Char :=
  match letter.toLower with
  | 'i' => ['İ', 'ı']
  | 's' => ['ſ']
  | 'k' => ['\u212a']
  | _ => []

/-- Whether a character is the given ASCII letter in either case. -/
def sameLetter (letter x : Char) : Bool :=
  x.toLower == letter.toLower || (otherForms letter).contains x

/-- A word in any mixture of capitals and small letters. -/
def anyCase (s : String) : Pattern := inOrder (s.toList.map fun letter => one (sameLetter letter))

/-- A comment that begins with the tag of unfinished work, which is marked. -/
def todoComment : Pattern :=
  inOrder [word "//", blanks,
    .mark (anyOf [anyCase "TODO", anyCase "FIXME", anyCase "HACK", anyCase "XXX", anyCase "BUG"]),
    .wordEdge]

/-- The calls that print for debugging, with the name of their facility. -/
def debugCalls : List (Pattern × String) := [
  (inOrder [word "console.", anyOf [word "log", word "warn", word "error", word "debug"],
    word "("], "console"),
  (word "print(", "print"),
  (inOrder [word "Debug.", anyOf [word "Log", word "Write"]], "Debug"),
  (word "fmt.Print", "fmt")]

/-- A number of at least two digits after an operator of comparison or arithmetic. The number is
marked. -/
def operand : Pattern :=
  inOrder [
    anyOf [word "==", word "!=", word ">=", word "<=", word ">", word "<", word "+", word "-",
      word "*", word "/"],
    blanks, .mark (.run Text.isDigit 2 none .longestFirst), .wordEdge]

/-- The handler of an error that does nothing. -/
def swallowedError : Pattern :=
  inOrder [word "catch", blanks, opt params, blanks, openBrace, blanks, .text ['}']]

/-- The lines that are longer than allowed. -/
def longLines (allowed : Int) (lines : List (List Char)) : List Smell :=
  (lines.zipIdx 1).filterMap fun p =>
    if allowed < p.1.length then some ((Finding.longLine p.1.length).onLine p.2) else none

/-- The notes of unfinished work. -/
def todos (t : List Char) (lines : Text.LineIndex) : List Smell :=
  (todoComment.hits t).map fun h => (Finding.todo (h.marked.getD [])).onLine (lines.lineOf h.start)

/-- What a line adds to the depth of braces. -/
def lineDepth (line : List Char) : Int := (line.count '{' : Int) - (line.count '}' : Int)

/-- The lines at whose end braces are open to a greater depth than allowed. `depth` is the depth
before the given lines, of which `number` is the number of the first. -/
def nestedFrom (allowed : Int) (depth : Int) (number : Nat) : List (List Char) → List Smell
  | [] => []
  | line :: rest =>
    let depth := depth + lineDepth line
    let later := nestedFrom allowed depth (number + 1) rest
    if allowed < depth then (Finding.deepNesting depth).onLine number :: later else later

/-- The lines at whose end braces are open to a greater depth than allowed. -/
def deepNesting (allowed : Int) (lines : List (List Char)) : List Smell :=
  nestedFrom allowed 0 1 lines

/-- The output left over from debugging, facility by facility. -/
def debugOutput (t : List Char) (lines : Text.LineIndex) : List Smell :=
  debugCalls.flatMap fun p =>
    (p.1.hits t).map fun h => (Finding.debugOutput p.2).onLine (lines.lineOf h.start)

/-- The number that digits of any script write. -/
def numberOf (digits : List Char) : Nat :=
  digits.foldl (fun n c => 10 * n + (Text.digitValue? c).getD 0) 0

/-- The report of a literal, unless its number is allowed. -/
def ofLiteral (allowed : List Int) (literal : List Char) (line : Nat) :
    Except SmellError (Option Smell) :=
  if Number.maxDigits < literal.length then .error (.tooManyDigits literal.length)
  else if allowed.contains (numberOf literal : Int) then .ok none
  else .ok (some ((Finding.magicNumber literal).onLine line))

/-- The numbers that are not allowed. -/
def magicNumbers (allowed : List Int) (t : List Char) (lines : Text.LineIndex) :
    Except SmellError (List Smell) :=
  ((operand.hits t).mapM fun h =>
    ofLiteral allowed (h.marked.getD []) (lines.lineOf h.start)).map (·.filterMap id)

/-- The handlers that swallow an error. -/
def emptyCatches (t : List Char) (lines : Text.LineIndex) : List Smell :=
  (swallowedError.hits t).map fun h => Finding.emptyCatch.onLine (lines.lineOf h.start)

/-- The smells of a text, kind by kind. -/
def ofText (maxLineLength maxNestingDepth : Int) (allowedNumbers : List Int) (t : List Char) :
    Except SmellError (List Smell) :=
  let lines := Text.lines t
  let index := Text.LineIndex.ofText t
  (magicNumbers allowedNumbers t index).map fun numbers =>
    longLines maxLineLength lines ++ todos t index ++ deepNesting maxNestingDepth lines ++
      debugOutput t index ++ numbers ++ emptyCatches t index

end Smell

end SourceGrade
