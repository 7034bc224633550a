import SourceGrade.Value.Basic

set_option autoImplicit false

/-!
# TOML: errors, white space and comments

A document is read from its beginning to its end, and each reader returns what it read with the
characters that are left.
-/

namespace SourceGrade.Toml

/-- Why a text is not read as a document. -/
inductive ReadError where
  /-- It is not TOML, or defines something twice. -/
  | malformed
  /-- An integer has too many digits. -/
  | hugeInteger
  /-- Arrays and inline tables are nested too deep. -/
  | tooDeep
  deriving DecidableEq, Repr

/-- What was read, and what is left. -/
abbrev Step (α : Type) := Except ReadError (α × List Char)

/-- A space or a tab. -/
def isWhite (c : Char) : Bool := c == ' ' || c == '\t'

/-- The text after the white space at its beginning. -/
def skipWhite (t : List Char) : List Char := t.dropWhile isWhite

/-- A control character of ASCII. -/
def isControl (c : Char) : Bool := c.toNat < 0x20 || c.toNat == 0x7F

/-- A character that may stand neither in a comment nor within a text of one line. -/
def isForbidden (c : Char) : Bool := isControl c && c != '\t'

/-- A character that may not stand within a text of several lines. -/
def isForbiddenInLines (c : Char) : Bool := isForbidden c && c != '\n'

/-- The text after a comment at its beginning, if there is one. The line feed that ends a comment
is left. -/
def skipComment (t : List Char) : Except ReadError (List Char) :=
  match t with
  | '#' :: rest =>
    if (rest.takeWhile (· != '\n')).any isForbidden then .error .malformed
    else .ok (rest.dropWhile (· != '\n'))
  | _ => .ok t

/-- The text after the blanks, lines and comments at its beginning. Each round passes over one
comment. -/
def skipLines : Nat → List Char → Except ReadError (List Char)
  | 0, t => .ok t
  | fuel + 1, t =>
    match t.dropWhile fun c => isWhite c || c == '\n' with
    | '#' :: rest => do skipLines fuel (← skipComment ('#' :: rest))
    | rest => .ok rest

end SourceGrade.Toml
