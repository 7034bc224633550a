import SourceGrade.Sorted

set_option autoImplicit false

/-!
# Lines of a text

A text is cut into lines at each line feed, so a text with `n` line feeds has `n + 1` lines and the
last one may be empty. `LineIndex` answers which line an offset lies on and where that line ends
without walking the text again.
-/

namespace SourceGrade.Text

/-- The lines of a text, without their line feeds. -/
def lines (t : List Char) : List (List Char) := t.splitOn '\n'

/-- The number of line feeds in a text. -/
def lineFeeds (t : List Char) : Nat := t.count '\n'

/-- The characters that end a line wherever one may end: the line feed and carriage return, the
vertical tab and form feed, three information separators, the next line control and the two
separators of Unicode. -/
def isLineBreak (c : Char) : Bool :=
  let n := c.toNat
  (10 ≤ n && n ≤ 13) || (28 ≤ n && n ≤ 30) || n == 0x85 || n == 0x2028 || n == 0x2029

/-- The pieces of the rest of a text. `line` holds the characters of the current piece, the last
one first; `joined` says that a line feed here belongs to the carriage return before it. -/
def piecesFrom (line : List Char) (joined : Bool) : List Char → List (List Char)
  | [] => if line.isEmpty then [] else [line.reverse]
  | c :: rest =>
    if joined && c == '\n' then piecesFrom [] false rest
    else if isLineBreak c then line.reverse :: piecesFrom [] (c == '\r') rest
    else piecesFrom (c :: line) false rest

/-- The pieces between line breaks, a carriage return with a line feed after it being one break. A
break at the end of the text begins no further piece. -/
def pieces (t : List Char) : List (List Char) := piecesFrom [] false t

/-- The text with a line feed alone for each carriage return that a line feed follows. -/
def joinPairs : List Char → List Char
  | [] => []
  | '\r' :: '\n' :: rest => '\n' :: joinPairs rest
  | c :: rest => c :: joinPairs rest

/-- One more character of a text whose line ends are unified. What was read is kept with the last
character first; the flag says that the last one was a carriage return. -/
def addUnified (done : List Char × Bool) (c : Char) : List Char × Bool :=
  if c = '\n' ∧ done.2 then (done.1, false)
  else if c = '\r' then ('\n' :: done.1, true)
  else (c :: done.1, false)

/-- The text with a line feed alone for each carriage return, whether or not a line feed follows
it. -/
def unifyLineEnds (t : List Char) : List Char := (t.foldl addUnified ([], false)).1.reverse

/-- Where the lines of a text end. -/
structure LineIndex where
  /-- The offsets of the line feeds, in ascending order. -/
  newlines : Array Nat

namespace LineIndex

/-- The line ends of a text. -/
def ofText (t : List Char) : LineIndex :=
  ⟨(t.zipIdx.filterMap fun p => if p.1 == '\n' then some p.2 else none).toArray⟩

/-- The number of the line, from one, that holds an offset. A line feed belongs to the line that
it ends, and offsets past the end belong to the last line. -/
def lineOf (ix : LineIndex) (offset : Nat) : Nat := Sorted.lowerBound ix.newlines offset + 1

/-- The offset of the first line feed at or after an offset. -/
def lineEnd? (ix : LineIndex) (offset : Nat) : Option Nat :=
  ix.newlines[Sorted.lowerBound ix.newlines offset]?

end LineIndex

end SourceGrade.Text
