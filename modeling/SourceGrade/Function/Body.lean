import SourceGrade.Function.BraceIndex
import SourceGrade.Text.Lines

set_option autoImplicit false

/-!
# Bodies of functions

The body of a function is the text from its signature to the brace that closes the first one it
opens. A scan gives up after a limit and then takes the rest of the line instead. `Body.scan` reads
forward from the signature; `Body.lookUp` asks the indexes of the text and gives the same body.
-/

namespace SourceGrade.Body

/-- The number of characters that a scan covers unless it is told otherwise. -/
def defaultLimit : Int := 5000

/-- The number of characters that stand for a body on a line that does not end. -/
def fallbackLength : Nat := 200

/-- The characters of a text from `start` up to `stop`. -/
def slice (t : List Char) (start stop : Nat) : List Char := (t.drop start).take (stop - start)

/-- The offset at which a scan from `start` ends. -/
def scanEnd (length start : Nat) (limit : Int) : Nat := min length (start + limit + 1).toNat

/-- What stands for a body that is not closed: the rest of the line, or a fixed number of
characters where the line does not end, and never more than the limit allows. -/
def restOfLine (t : List Char) (start : Nat) (limit : Int) (lineEnd? : Option Nat) : List Char :=
  let lineEnd := lineEnd?.getD (start + fallbackLength)
  slice t start (min lineEnd (start + max limit.toNat fallbackLength))

/-- The number of characters up to the brace that brings the depth back to zero after an opening
brace. `depth` and `opened` describe the characters before the given ones. -/
def closedLength? (depth : Int) (opened : Bool) : List Char → Option Nat
  | [] => none
  | c :: rest =>
    let opened := opened || c == '{'
    let depth := depth + braceStep c
    if c == '}' && opened && depth == 0 then some 1
    else (closedLength? depth opened rest).map (· + 1)

/-- The offset of the first line feed at or after an offset. -/
def nextLineFeed? (t : List Char) (start : Nat) : Option Nat :=
  ((t.drop start).findIdx? (· == '\n')).map (start + ·)

/-- The body of a function whose signature begins at `start`, read forward from there. -/
def scan (t : List Char) (start : Nat) (limit : Int) : List Char :=
  let window := slice t start (scanEnd t.length start limit)
  match closedLength? 0 false window with
  | some n => (t.drop start).take n
  | none => restOfLine t start limit (nextLineFeed? t start)

/-- The body of a function whose signature begins at `start`, found in the indexes of its text. -/
def lookUp (t : List Char) (braces : BraceIndex) (lines : Text.LineIndex) (start : Nat)
    (limit : Int) : List Char :=
  match braces.closing? start (scanEnd t.length start limit) with
  | some closer => slice t start (closer + 1)
  | none => restOfLine t start limit (lines.lineEnd? start)

end SourceGrade.Body
