import SourceGrade.Function.Body
import SourceGrade.Function.Complexity

set_option autoImplicit false

/-!
# Functions of a text

The functions of a text are the hits of the signature patterns of its language, taken pattern by
pattern. A name may be found on one line by several patterns and counts there once. Words of the
language that the patterns mistake for names are passed over.
-/

namespace SourceGrade

/-- A function or method that was found in a text. -/
structure FunctionInfo where
  /-- The name that its signature gives it. -/
  name : String
  /-- The number of the line on which its signature begins. -/
  startLine : Int := 1
  /-- The number of lines of its body. -/
  lineCount : Int := 1
  /-- The estimated complexity of its body. -/
  complexity : Int := 1
  /-- The text from its signature to the end of its body. -/
  body : List Char := []
  deriving DecidableEq, Repr

/-- The place where a signature pattern found a name. -/
structure Candidate where
  name : String
  /-- The number of the line on which the signature begins. -/
  line : Nat
  /-- The offset at which the signature begins. -/
  start : Nat
  deriving DecidableEq, Repr

namespace FunctionInfo

/-- Words that a signature pattern may mistake for a name. -/
def reservedNames : List String := [
  "if", "else", "for", "while", "switch", "catch", "return", "new", "get", "set", "var", "let",
  "const", "function", "class", "import", "export", "from", "async", "await", "try", "throw",
  "void", "null", "undefined", "true", "false"]

/-- The name that a hit marks, unless it is empty or reserved. -/
def nameOf? (h : Hit) : Option String :=
  match h.marked with
  | none => none
  | some piece =>
    let name := String.ofList piece
    if piece.isEmpty || reservedNames.contains name then none else some name

/-- The names that the patterns of a language find, in order, with repetitions. -/
def candidates (language : Language) (lines : Text.LineIndex) (t : List Char) : List Candidate :=
  language.functionPatterns.flatMap fun pattern =>
    (pattern.hits t).filterMap fun h =>
      (nameOf? h).map fun name => ⟨name, lines.lineOf h.start, h.start⟩

/-- The candidates whose name does not occur earlier on the same line, in order. -/
def firstCandidates (cs : List Candidate) : List Candidate :=
  cs.eraseDupsBy fun a b => a.name == b.name && a.line == b.line

/-- The function that begins with a candidate, measured by its body. -/
def ofBody (c : Candidate) (body : List Char) : FunctionInfo where
  name := c.name
  startLine := c.line
  lineCount := Text.lineFeeds body + 1
  complexity := Complexity.estimate body
  body := body

/-- The functions of a text in order of discovery. A name occurs at most once on a line. -/
def find (language : Language) (t : List Char) (limit : Int := Body.defaultLimit) :
    List FunctionInfo :=
  let lines := Text.LineIndex.ofText t
  let braces := BraceIndex.ofText t
  (firstCandidates (candidates language lines t)).map fun c =>
    ofBody c (Body.lookUp t braces lines c.start limit)

/-- The functions of a text in the language of a tag. In an unknown language there are none. -/
def findByTag (tag : String) (t : List Char) (limit : Int := Body.defaultLimit) :
    List FunctionInfo :=
  match Language.ofTag? tag with
  | none => []
  | some language => find language t limit

end FunctionInfo

end SourceGrade
