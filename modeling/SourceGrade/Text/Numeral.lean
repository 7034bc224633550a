import SourceGrade.Number.Digits
import SourceGrade.Text.Blank
import SourceGrade.Text.Digit

set_option autoImplicit false

/-!
# Integers written as text

A reader of integers that takes the digits of every script. It passes over blanks around the integer
and takes a sign and single underscores between digits. It does not read an integer of more than
`Number.maxDigits` digits.
-/

namespace SourceGrade.Text.Numeral

/-- Why a text is not read as an integer. -/
inductive Fault where
  /-- It is not written like one. -/
  | malformed
  | tooLong
  deriving DecidableEq, Repr

/-- The sign in front of a number, and what follows it. -/
def splitSign : List Char → Bool × List Char
  | '-' :: rest => (true, rest)
  | '+' :: rest => (false, rest)
  | rest => (false, rest)

/-- The number written by digits that all have a value, with those before it worth `n`. -/
def valueOf? (value? : Char → Option Nat) : Nat → List Char → Option Nat
  | n, [] => some n
  | n, c :: rest =>
    match value? c with
    | none => none
    | some d => valueOf? value? (10 * n + d) rest

/-- The integer written by a sign and digits in groups between underscores. -/
def ofDigits (value? : Char → Option Nat) (t : List Char) : Except Fault Int :=
  let (negative, body) := splitSign t
  let groups := body.splitOn '_'
  if groups.any (·.isEmpty) then .error .malformed
  else
    let digits := groups.flatten
    match valueOf? value? 0 digits with
    | none => .error .malformed
    | some n =>
      if Number.maxDigits < digits.length then .error .tooLong
      else .ok (if negative then -(n : Int) else n)

/-- The integer that a text writes with digits of any script. -/
def lenient (t : List Char) : Except Fault Int := ofDigits digitValue? (trimSpaces t)

end SourceGrade.Text.Numeral
