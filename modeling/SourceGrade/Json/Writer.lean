import SourceGrade.Value.Basic

set_option autoImplicit false

/-!
# JSON, written

The text of a value in JSON. Numbers are written in full or in their shortest form, and control
characters, quotation marks and backslashes are escaped. A point in time has no form of its own in
JSON and is left out as `null`.
-/

namespace SourceGrade.Json

/-- A hexadecimal digit. -/
def hexDigit (n : Nat) : Char := (Nat.digitChar (n % 16))

/-- A character as it stands within quotation marks. -/
def quotedChar (c : Char) : List Char :=
  if c = '"' then ['\\', '"']
  else if c = '\\' then ['\\', '\\']
  else if c = '\n' then ['\\', 'n']
  else if c = '\r' then ['\\', 'r']
  else if c = '\t' then ['\\', 't']
  else if c.toNat < 0x20 then
    ['\\', 'u', '0', '0', hexDigit (c.toNat / 16), hexDigit c.toNat]
  else [c]

/-- A text within quotation marks. -/
def quoted (s : String) : String :=
  String.ofList ('"' :: (s.toList.flatMap quotedChar ++ ['"']))

/-- The text of a number that was not written as an integer. -/
def numberText : Double → String
  | .infinite true => "-Infinity"
  | .infinite false => "Infinity"
  | .undefined => "NaN"
  | x => x.text

mutual

/-- The text of a value. -/
def write : Value → String
  | .null => "null"
  | .bool b => if b then "true" else "false"
  | .int n => toString n
  | .float x => numberText x
  | .text s => quoted s
  | .moment _ => "null"
  | .list vs => "[" ++ ",".intercalate (writeAll vs) ++ "]"
  | .table entries => "\x7b" ++ ",".intercalate (writeEntries entries) ++ "\x7d"

/-- The texts of values. -/
def writeAll : List Value → List String
  | [] => []
  | v :: vs => write v :: writeAll vs

/-- The texts of entries. -/
def writeEntries : List (String × Value) → List String
  | [] => []
  | (key, v) :: entries => (quoted key ++ ":" ++ write v) :: writeEntries entries

end

end SourceGrade.Json
