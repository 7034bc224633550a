import SourceGrade.Text.Utf8

set_option autoImplicit false

/-!
# Paths

The place of a file is the list of the names that lead to it from the top of the file system.
`PathText` is a path as it is written: from the top or from the working directory, with steps
upwards. `PathText.resolve` gives the place it means where there are no symbolic links.
-/

namespace SourceGrade

/-- The place of a file: the names on the way to it, the outermost first. -/
abbrev Path := List String

namespace Path

/-- Whether a place is the directory or lies within it. -/
def isWithin (directory place : Path) : Bool := directory.isPrefixOf place

/-- The place as it is seen from a directory around it. -/
def relativeTo (directory place : Path) : Path := place.drop directory.length

/-- A place below a directory, written with slashes. -/
def slashed (p : Path) : String := "/".intercalate p

/-- A place written from the top. -/
def fromTop (p : Path) : String := "/" ++ slashed p

/-- Places in the order of their names, the outermost compared first, by code points. -/
def le : Path → Path → Bool
  | [], _ => true
  | _ :: _, [] => false
  | a :: p, b :: q => a < b || (a == b && le p q)

end Path

/-- A path as it is written. -/
structure PathText where
  /-- The slashes that it begins with: none, one, or two, which mean the same as one. -/
  slashes : Nat
  /-- The names between the slashes, without those that change nothing. -/
  names : List String
  deriving DecidableEq, Repr

namespace PathText

/-- The name for the directory above. -/
def upward : String := ".."

/-- The number of slashes that count at the beginning of a text. More than two are one. -/
def leadingSlashes (t : List Char) : Nat :=
  let n := (t.takeWhile (· == '/')).length
  if n ≤ 2 then n else 1

/-- The path that a text writes. Empty names and single dots change nothing. -/
def ofText (s : String) : PathText where
  slashes := leadingSlashes s.toList
  names := ((s.toList.splitOn '/').filter fun name => name != [] && name != ['.']).map String.ofList

/-- The text of a path. -/
def text (p : PathText) : String :=
  let written := String.ofList (List.replicate p.slashes '/') ++ Path.slashed p.names
  if written.isEmpty then "." else written

/-- The place after one more name. There is nothing above the top. -/
def step (place : Path) (name : String) : Path :=
  if name = upward then place.dropLast else place ++ [name]

/-- The place that a path begins from. -/
def start (p : PathText) (workingDirectory : Path) : Path :=
  if p.slashes = 0 then workingDirectory else []

/-- The place that a path means. A step upwards takes back the name before it, whether or not there
is such a file. -/
def resolve (p : PathText) (workingDirectory : Path) : Path :=
  p.names.foldl step (p.start workingDirectory)

end PathText

end SourceGrade
