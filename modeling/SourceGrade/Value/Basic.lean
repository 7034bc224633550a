import SourceGrade.Number.Double

set_option autoImplicit false

/-!
# Values of documents

What a document in JSON or TOML holds, before anything is asked of it. Tables keep the order of
their entries, and the last entry with a key is the one that counts.
-/

namespace SourceGrade

/-- A day of the calendar. -/
structure Date where
  year : Nat
  /-- The month, from one. -/
  month : Nat
  /-- The day of the month, from one. -/
  day : Nat
  deriving DecidableEq, Repr

namespace Date

/-- Whether a year has a day more than usual. -/
def isLeapYear (year : Nat) : Bool := year % 4 == 0 && (year % 100 != 0 || year % 400 == 0)

/-- The number of days of a month. -/
def daysOfMonth (year month : Nat) : Nat :=
  if month = 2 then if isLeapYear year then 29 else 28
  else if [4, 6, 9, 11].contains month then 30
  else 31

/-- Whether there is such a day. The calendar begins with the year one. -/
def isValid (d : Date) : Bool :=
  1 ≤ d.year && 1 ≤ d.month && d.month ≤ 12 && 1 ≤ d.day && d.day ≤ daysOfMonth d.year d.month

end Date

/-- A time of the day. -/
structure TimeOfDay where
  hour : Nat
  minute : Nat
  second : Nat
  micros : Nat
  deriving DecidableEq, Repr

/-- A point in time, as far as it is given. -/
inductive Moment where
  | date (d : Date)
  /-- A time of any day. -/
  | time (t : TimeOfDay)
  /-- A time of a day, with the minutes by which the place is ahead of universal time if they are
  known. -/
  | dateTime (d : Date) (t : TimeOfDay) (offset : Option Int)
  deriving DecidableEq, Repr

/-- What a document holds. -/
inductive Value where
  | null
  /-- A truth value. -/
  | bool (b : Bool)
  | int (n : Int)
  /-- A number that was not written as an integer. -/
  | float (x : Double)
  /-- A piece of text. -/
  | text (s : String)
  | moment (m : Moment)
  | list (vs : List Value)
  | table (entries : List (String × Value))
  deriving Repr

namespace Value

/-- Entries with one more at the key: in the place of the entry with that key, or at the end. -/
def put {κ α : Type} [DecidableEq κ] (key : κ) (v : α) : List (κ × α) → List (κ × α)
  | [] => [(key, v)]
  | e :: rest => if e.1 = key then (key, v) :: rest else e :: put key v rest

/-- The value at a key of entries. -/
def find? {α : Type} (entries : List (String × α)) (key : String) : Option α := entries.lookup key

/-- The value at a key, if there is a table. -/
def get? (v : Value) (key : String) : Option Value :=
  match v with
  | table entries => find? entries key
  | _ => none

/-- Whether the value holds nothing, so that a default stands in for it: nothing, falsehood, zero,
the empty text and the empty collections. -/
def isVacant : Value → Bool
  | null => true
  | bool b => !b
  | int n => n == 0
  | float x => x.isZero
  | text s => s.isEmpty
  | moment _ => false
  | list vs => vs.isEmpty
  | table entries => entries.isEmpty

/-- A finite number that is always written with a point or an exponent. -/
def ofRat (q : Rat) : Value := .float (.finite q)

end Value

end SourceGrade
