import SourceGrade.Toml.Basic
import SourceGrade.Number.Total

set_option autoImplicit false

/-!
# TOML: dates and times

Points in time are written with two digits for each part but the year, which has four, and the
fraction of a second. Digits of the fraction after the sixth are passed over.
-/

namespace SourceGrade.Toml

open Number (isAsciiDigit digitsValue)

/-- A number of exactly `count` digits at the beginning of a text that lies between two bounds. -/
def fixedNumber? (count low high : Nat) (t : List Char) : Option (Nat × List Char) :=
  let digits := t.take count
  let n := digitsValue digits
  if digits.length = count ∧ digits.all isAsciiDigit ∧ low ≤ n ∧ n ≤ high then
    some (n, t.drop count)
  else none

/-- The text after a given character at its beginning. -/
def after? (c : Char) (t : List Char) : Option (List Char) :=
  match t with
  | d :: rest => if d = c then some rest else none
  | [] => none

/-- The millionths of a second after a point, and what is left. -/
def fractionOfSecond (t : List Char) : Nat × List Char :=
  match t with
  | '.' :: rest =>
    let digits := rest.takeWhile isAsciiDigit
    if digits.isEmpty then (0, t)
    else
      let six := digits.take 6
      (digitsValue six * Number.power 10 (6 - six.length), rest.drop digits.length)
  | _ => (0, t)

/-- A time of the day at the beginning of a text. -/
def timeOfDay? (t : List Char) : Option (TimeOfDay × List Char) := do
  let (hour, t) ← fixedNumber? 2 0 23 t
  let t ← after? ':' t
  let (minute, t) ← fixedNumber? 2 0 59 t
  let t ← after? ':' t
  let (second, t) ← fixedNumber? 2 0 59 t
  let (micros, t) := fractionOfSecond t
  pure (⟨hour, minute, second, micros⟩, t)

/-- The minutes by which a place is ahead of universal time, if they are given, and what is
left. -/
def offset (t : List Char) : Option Int × List Char :=
  let hoursAndMinutes : List Char → Option (Int × List Char) := fun rest => do
    let (hours, rest) ← fixedNumber? 2 0 23 rest
    let rest ← after? ':' rest
    let (minutes, rest) ← fixedNumber? 2 0 59 rest
    pure ((60 * hours + minutes : Nat), rest)
  match t with
  | 'Z' :: rest => (some 0, rest)
  | 'z' :: rest => (some 0, rest)
  | '+' :: rest =>
    match hoursAndMinutes rest with
    | some (n, left) => (some n, left)
    | none => (none, t)
  | '-' :: rest =>
    match hoursAndMinutes rest with
    | some (n, left) => (some (-n), left)
    | none => (none, t)
  | _ => (none, t)

/-- The text after the character that separates a date from a time. -/
def afterDate? (t : List Char) : Option (List Char) :=
  match t with
  | c :: rest => if c == 'T' || c == 't' || c == ' ' then some rest else none
  | [] => none

/-- A date at the beginning of a text. The day may lie past the end of the month. -/
def date? (t : List Char) : Option (Date × List Char) := do
  let (year, t) ← fixedNumber? 4 0 9999 t
  let t ← after? '-' t
  let (month, t) ← fixedNumber? 2 1 12 t
  let t ← after? '-' t
  let (day, t) ← fixedNumber? 2 1 31 t
  pure (⟨year, month, day⟩, t)

/-- A point in time at the beginning of a text, if there is one. -/
def readMoment? (t : List Char) : Option (Step Value) :=
  match date? t with
  | some (d, rest) =>
    if !d.isValid then some (.error .malformed)
    else
      match (afterDate? rest).bind timeOfDay? with
      | some (time, rest) =>
        let (ahead, rest) := offset rest
        some (.ok (.moment (.dateTime d time ahead), rest))
      | none => some (.ok (.moment (.date d), rest))
  | none => (timeOfDay? t).map fun (time, rest) => .ok (.moment (.time time), rest)

end SourceGrade.Toml
