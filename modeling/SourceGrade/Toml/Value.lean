import SourceGrade.Toml.Clock
import SourceGrade.Toml.Nest
import SourceGrade.Toml.Number

set_option autoImplicit false

/-!
# TOML: values

A value is a text, a truth value, a point in time, a number, an array or an inline table. An array
may go over several lines; an inline table may not, and nothing can be added to its tables and
arrays later. How deep arrays and inline tables may be nested is limited: an array costs
`arrayWeight` of `maxWeight`, and an inline table `tableWeight`.
-/

namespace SourceGrade.Toml

/-- A value that holds no others. -/
def readScalar (t : List Char) : Step Value :=
  match t with
  | 't' :: 'r' :: 'u' :: 'e' :: rest => .ok (.bool true, rest)
  | 'f' :: 'a' :: 'l' :: 's' :: 'e' :: rest => .ok (.bool false, rest)
  | _ =>
    match readMoment? t with
    | some step => step
    | none => (readNumber? t).getD (.error .malformed)

/-- A key at the beginning of a text, with the text after its equals sign. -/
def readKeyOfEntry (t : List Char) : Step Key :=
  match Key.read t with
  | .error e => .error e
  | .ok (key, '=' :: rest) => .ok (key, skipWhite rest)
  | .ok _ => .error .malformed

/-- The entries of an inline table with a new one, unless it lies in a closed value or is there
already. -/
def addInline (closed : List (List String)) (key : Key) (v : Value) (entries : Entries) :
    Except ReadError Entries :=
  if reaches closed key.path then .error .malformed
  else
    match atPath? false (insertNew? key.last v) key.parents entries with
    | some entries => .ok entries
    | none => .error .malformed

/-- What may be spent on nesting. -/
def maxWeight : Nat := 982

/-- What is spent on an array. -/
def arrayWeight : Nat := 2

/-- What is spent on an inline table. -/
def tableWeight : Nat := 3

mutual

/-- A value at the beginning of a text. What may be spent on the nesting of values within it is
`room`, and `fuel` is more than the number of steps. -/
def readValue : Nat → Nat → List Char → Step Value
  | 0, _, _ => .error .malformed
  | fuel + 1, room, t =>
    match readQuoted? t with
    | some step => step.map fun (s, rest) => (.text s, rest)
    | none =>
      match t with
      | '[' :: rest =>
        if room < arrayWeight then .error .tooDeep
        else readItems fuel (room - arrayWeight) [] rest
      | '\x7b' :: rest =>
        if room < tableWeight then .error .tooDeep
        else
          match skipWhite rest with
          | '\x7d' :: rest => .ok (.table [], rest)
          | rest => readEntries fuel (room - tableWeight) [] [] rest
      | _ => readScalar t

/-- The items of an array from the next one on, if there is one. `done` holds the ones before it,
the last one first. -/
def readItems : Nat → Nat → List Value → List Char → Step Value
  | 0, _, _, _ => .error .malformed
  | fuel + 1, room, done, t =>
    match skipLines (t.length + 1) t with
    | .error e => .error e
    | .ok (']' :: rest) => .ok (.list done.reverse, rest)
    | .ok t =>
      match readValue fuel room t with
      | .error e => .error e
      | .ok (v, rest) =>
        match skipLines (rest.length + 1) rest with
        | .error e => .error e
        | .ok (']' :: rest) => .ok (.list (v :: done).reverse, rest)
        | .ok (',' :: rest) => readItems fuel room (v :: done) rest
        | .ok _ => .error .malformed

/-- The entries of an inline table from the next one on. `closed` holds the paths of the arrays and
inline tables among the entries before it. -/
def readEntries : Nat → Nat → List (List String) → Entries → List Char → Step Value
  | 0, _, _, _, _ => .error .malformed
  | fuel + 1, room, closed, entries, t =>
    match readKeyOfEntry t with
    | .error e => .error e
    | .ok (key, rest) =>
      match readValue fuel room rest with
      | .error e => .error e
      | .ok (v, rest) =>
        match addInline closed key v entries with
        | .error e => .error e
        | .ok entries =>
          match skipWhite rest with
          | '\x7d' :: rest => .ok (.table entries, rest)
          | ',' :: rest =>
            readEntries fuel room (if isClosed v then key.path :: closed else closed) entries
              (skipWhite rest)
          | _ => .error .malformed

end

end SourceGrade.Toml
