import SourceGrade.Text.Printable
import SourceGrade.Value.Basic

set_option autoImplicit false

/-!
# The text of a value

How a value reads where it is put into a text. A text stands for itself, and in quotation marks
within a list or a table. A point in time is written as on a clock, and within a list or a table as
the name of its kind with its parts.
-/

namespace SourceGrade.Value

/-- The hexadecimal digits of a number, at least as many as the width. -/
def hexPadded (width n : Nat) : List Char :=
  let digits := Nat.toDigits 16 n
  List.replicate (width - digits.length) '0' ++ digits

/-- A character as the number of its code point. -/
def codeEscape (c : Char) : List Char :=
  if c.toNat < 0x100 then '\\' :: 'x' :: hexPadded 2 c.toNat
  else if c.toNat < 0x10000 then '\\' :: 'u' :: hexPadded 4 c.toNat
  else '\\' :: 'U' :: hexPadded 8 c.toNat

/-- A text with the characters that are not in ASCII as the numbers of their code points. -/
def asciiText (t : List Char) : List Char :=
  t.flatMap fun c => if c.toNat < 128 then [c] else codeEscape c

/-- A character within a text that is quoted with the given mark. -/
def escapedChar (mark c : Char) : List Char :=
  if c = mark || c = '\\' then ['\\', c]
  else if c = '\n' then ['\\', 'n']
  else if c = '\r' then ['\\', 'r']
  else if c = '\t' then ['\\', 't']
  else if Text.isPrintable c then [c]
  else codeEscape c

/-- The mark that a text is quoted with: the apostrophe, unless the text holds apostrophes and no
quotation marks. -/
def markOf (t : List Char) : Char := if t.contains '\'' && !t.contains '"' then '"' else '\''

/-- A text in quotation marks. -/
def quotedText (s : String) : String :=
  let mark := markOf s.toList
  String.ofList (mark :: (s.toList.flatMap (escapedChar mark) ++ [mark]))

/-- A number with zeros in front of it. -/
def zeroPadded (width n : Nat) : String := String.ofList (Number.padded width n)

/-- The text of a day. -/
def dateText (d : Date) : String :=
  zeroPadded 4 d.year ++ "-" ++ zeroPadded 2 d.month ++ "-" ++ zeroPadded 2 d.day

/-- The text of a time of the day. -/
def timeText (t : TimeOfDay) : String :=
  let seconds := zeroPadded 2 t.hour ++ ":" ++ zeroPadded 2 t.minute ++ ":" ++ zeroPadded 2 t.second
  if t.micros = 0 then seconds else seconds ++ "." ++ zeroPadded 6 t.micros

/-- The text of the minutes by which a place is ahead of universal time. -/
def offsetText (minutes : Int) : String :=
  let n := minutes.natAbs
  (if minutes < 0 then "-" else "+") ++ zeroPadded 2 (n / 60) ++ ":" ++ zeroPadded 2 (n % 60)

/-- The text of a point in time. -/
def momentText : Moment → String
  | .date d => dateText d
  | .time t => timeText t
  | .dateTime d t ahead => dateText d ++ " " ++ timeText t ++ ((ahead.map offsetText).getD "")

/-- A kind with its parts in parentheses. -/
def parts (kind : String) (ps : List String) : String :=
  "datetime." ++ kind ++ "(" ++ ", ".intercalate ps ++ ")"

/-- The parts of a day. -/
def dateParts (d : Date) : List String := [toString d.year, toString d.month, toString d.day]

/-- The parts of a time of the day. Seconds are left out if they and all that is finer are zero, and
so are the millionths of a second. -/
def timeParts (t : TimeOfDay) : List String :=
  let clock := [toString t.hour, toString t.minute]
  if t.micros ≠ 0 then clock ++ [toString t.second, toString t.micros]
  else if t.second ≠ 0 then clock ++ [toString t.second]
  else clock

/-- The minutes of a day. -/
def minutesOfDay : Int := 1440

/-- The parts of a span of minutes: whole days, which alone may be negative, and the seconds that
are left. Those that are zero are left out. -/
def spanParts (minutes : Int) : List String :=
  let days := Int.fdiv minutes minutesOfDay
  let seconds := 60 * Int.fmod minutes minutesOfDay
  (if days = 0 then [] else ["days=" ++ toString days]) ++
    (if seconds = 0 then [] else ["seconds=" ++ toString seconds])

/-- The zone of a place that is ahead of universal time by some minutes. -/
def zoneText (minutes : Int) : String :=
  if minutes = 0 then "datetime.timezone.utc"
  else parts "timezone" [parts "timedelta" (spanParts minutes)]

/-- The text of a point in time within a list or a table. -/
def innerMoment : Moment → String
  | .date d => parts "date" (dateParts d)
  | .time t => parts "time" (timeParts t)
  | .dateTime d t ahead =>
    let zone := ahead.toList.map fun minutes => "tzinfo=" ++ zoneText minutes
    parts "datetime" (dateParts d ++ timeParts t ++ zone)

mutual

/-- The text of a value within a list or a table. -/
def innerText : Value → String
  | .null => "None"
  | .bool b => if b then "True" else "False"
  | .int n => toString n
  | .float x => x.text
  | .text s => quotedText s
  | .moment m => innerMoment m
  | .list vs => "[" ++ ", ".intercalate (innerTexts vs) ++ "]"
  | .table entries => "\x7b" ++ ", ".intercalate (entryTexts entries) ++ "\x7d"

/-- The texts of the items of a list. -/
def innerTexts : List Value → List String
  | [] => []
  | v :: vs => innerText v :: innerTexts vs

/-- The texts of the entries of a table. -/
def entryTexts : List (String × Value) → List String
  | [] => []
  | (key, v) :: entries => (quotedText key ++ ": " ++ innerText v) :: entryTexts entries

end

/-- The text of a value. -/
def display : Value → String
  | .text s => s
  | .moment m => momentText m
  | v => innerText v

end SourceGrade.Value
