import SourceGrade.Text.Numeral
import SourceGrade.Toml.Basic

set_option autoImplicit false

/-!
# TOML: numbers

Integers are decimal with an optional sign, or hexadecimal, octal or binary without one. Other
numbers are decimal with a fraction or an exponent, or are infinite or undefined. Single
underscores may stand between digits.
-/

namespace SourceGrade.Toml

open Number (isAsciiDigit)

/-- The digits at the beginning of a text after another digit, with single underscores between
them, and what is left. -/
def moreDigits (isDigit : Char → Bool) : List Char → List Char × List Char
  | [] => ([], [])
  | '_' :: c :: rest =>
    if isDigit c then
      let (ds, left) := moreDigits isDigit rest
      (c :: ds, left)
    else ([], '_' :: c :: rest)
  | c :: rest =>
    if isDigit c then
      let (ds, left) := moreDigits isDigit rest
      (c :: ds, left)
    else ([], c :: rest)

/-- The digits at the beginning of a text, of which there is at least one, and what is left. -/
def someDigits? (isDigit : Char → Bool) (t : List Char) : Option (List Char × List Char) :=
  match t with
  | c :: rest =>
    if isDigit c then
      let (ds, left) := moreDigits isDigit rest
      some (c :: ds, left)
    else none
  | [] => none

/-- A digit of a base. -/
def isDigitOf (base : Nat) (c : Char) : Bool :=
  match Number.hexValue? c with
  | some n => n < base
  | none => false

/-- An integer in a base other than ten. -/
def basedInteger? (t : List Char) : Option (Int × List Char) :=
  let digits : Nat → List Char → Option (Int × List Char) := fun base rest =>
    (someDigits? (isDigitOf base) rest).map fun p => ((Number.valueInBase base p.1 : Nat), p.2)
  match t with
  | '0' :: 'x' :: rest => digits 16 rest
  | '0' :: 'o' :: rest => digits 8 rest
  | '0' :: 'b' :: rest => digits 2 rest
  | _ => none

/-- The sign at the beginning of a text, and what follows it. -/
def splitSign (t : List Char) : Bool × List Char := Text.Numeral.splitSign t

/-- The digits in front of the point of a decimal number, without a zero in front of them. -/
def wholeDigits? (t : List Char) : Option (List Char × List Char) :=
  match t with
  | '0' :: rest => some (['0'], rest)
  | _ => someDigits? isAsciiDigit t

/-- The digits after a point, and what is left. -/
def fractionDigits (t : List Char) : List Char × List Char :=
  match t with
  | '.' :: rest => (someDigits? isAsciiDigit rest).getD ([], t)
  | _ => ([], t)

/-- The exponent, if there is one, and what is left. -/
def exponent (t : List Char) : Option Int × List Char :=
  match t with
  | c :: rest =>
    if c == 'e' || c == 'E' then
      let (negative, rest) := splitSign rest
      match someDigits? isAsciiDigit rest with
      | some (ds, left) =>
        let n : Int := (Number.digitsValue ds : Nat)
        (some (if negative then -n else n), left)
      | none => (none, t)
    else (none, t)
  | [] => (none, t)

/-- A decimal number. One with neither a fraction nor an exponent is an integer. -/
def decimal? (t : List Char) : Option (Step Value) :=
  let (negative, unsigned) := splitSign t
  (wholeDigits? unsigned).map fun (whole, rest) =>
    let (fraction, rest) := fractionDigits rest
    let (power, rest) := exponent rest
    if fraction.isEmpty && power.isNone then
      if Number.maxDigits < whole.length then .error .hugeInteger
      else
        let n : Int := (Number.digitsValue whole : Nat)
        .ok (.int (if negative then -n else n), rest)
    else
      let x := Double.ofDecimal (whole ++ fraction) fraction.length (power.getD 0)
      .ok (.float (if negative then x.negate else x), rest)

/-- An infinite or undefined number. -/
def special? (t : List Char) : Option (Value × List Char) :=
  let (negative, unsigned) := splitSign t
  match unsigned with
  | 'i' :: 'n' :: 'f' :: rest => some (.float (.infinite negative), rest)
  | 'n' :: 'a' :: 'n' :: rest => some (.float .undefined, rest)
  | _ => none

/-- A number at the beginning of a text, if there is one. -/
def readNumber? (t : List Char) : Option (Step Value) :=
  match basedInteger? t with
  | some (n, rest) => some (.ok (.int n, rest))
  | none =>
    match decimal? t with
    | some step => some step
    | none => (special? t).map .ok

end SourceGrade.Toml
