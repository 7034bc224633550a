import SourceGrade.Number.Digits
import SourceGrade.Text.Blank

set_option autoImplicit false

/-!
# Whole numbers written as text

An integer has one plain spelling: a minus sign if it is negative, and then ASCII digits that do not
begin with a needless zero. `WholeNumber.ofPlain` reads that and nothing else. `WholeNumber.ofText`
also takes a text that can be tidied into a plain spelling: blanks around it, a plus sign, zeros in
front with any underscores among them, a fraction that is all zeros, and single underscores between
digits go away. A plain spelling may have `WholeNumber.maxLength` characters.
-/

namespace SourceGrade.Text.WholeNumber

open Number (isAsciiDigit digitsValue)

/-- The largest number of characters of a plain spelling. -/
def maxLength : Nat := 4300

/-- Why a text is not read as an integer. -/
inductive Fault where
  /-- It does not write an integer. -/
  | malformed
  /-- It begins with too many digits. -/
  | tooLong
  deriving DecidableEq, Repr

/-- The natural number of a plain spelling without a sign. A text that begins with more than `room`
digits is too long, whatever follows them. -/
def magnitude (room : Nat) (t : List Char) : Except Fault Nat :=
  match t with
  | [] => .error .malformed
  | c :: rest =>
    if c = '0' then if rest.isEmpty then .ok 0 else .error .malformed
    else
      let digits := t.takeWhile isAsciiDigit
      if room < digits.length then .error .tooLong
      else if digits.isEmpty || digits.length < t.length then .error .malformed
      else .ok (digitsValue digits)

/-- The integer of a plain spelling. -/
def ofPlain (t : List Char) : Except Fault Int :=
  match t with
  | '-' :: rest => (magnitude (maxLength - 1) rest).map fun n => -(n : Int)
  | _ => (magnitude maxLength t).map fun n => (n : Int)

/-- A text without its plus sign. A minus sign cannot follow that. -/
def dropPlus : List Char → Option (List Char)
  | '+' :: '-' :: _ => none
  | '+' :: rest => some rest
  | t => some t

/-- What follows zeros and underscores, which have begun with a zero. `last` is the one before. It
stays where nothing or only a fraction follows. -/
def afterZeros (last : Char) : List Char → Option (List Char)
  | [] => some [last]
  | c :: rest =>
    if c = '0' ∨ c = '_' then afterZeros c rest
    else if isAsciiDigit c ∨ c = '-' then some (c :: rest)
    else if c = '.' then some (last :: c :: rest)
    else none

/-- A text that begins with a digit, without the zeros in front of it. -/
def dropZeros : List Char → Option (List Char)
  | [] => none
  | c :: rest =>
    if c = '0' then afterZeros c rest
    else if isAsciiDigit c then some (c :: rest)
    else none

/-- A text without the zeros in front of it, which may stand after a minus sign. -/
def dropSignedZeros : List Char → Option (List Char)
  | '-' :: rest => (dropZeros rest).map fun t => '-' :: t
  | t => dropZeros t

/-- A text without the fraction of zeros at its end. -/
def dropFraction (t : List Char) : List Char :=
  let whole := t.takeWhile (· != '.')
  match t.drop whole.length with
  | _ :: c :: fraction => if (c :: fraction).all (· == '0') then whole else t
  | _ => t

/-- A text without underscores, if they all stand alone and between other characters. -/
def dropUnderscores (t : List Char) : List Char :=
  let groups := t.splitOn '_'
  if groups.any (·.isEmpty) then t else groups.flatten

/-- The text that is left when all that a plain spelling does not have has been taken away. -/
def tidy? (t : List Char) : Option (List Char) := do
  let t ← dropPlus (trimSpaces t)
  let t ← dropSignedZeros t
  pure (dropUnderscores (dropFraction t))

/-- The integer that a text writes. Only a text that is too long as it stands is called so. -/
def ofText (t : List Char) : Except Fault Int :=
  match ofPlain t with
  | .ok n => .ok n
  | .error .tooLong => .error .tooLong
  | .error .malformed =>
    match (tidy? t).map ofPlain with
    | some (.ok n) => .ok n
    | _ => .error .malformed

end SourceGrade.Text.WholeNumber
