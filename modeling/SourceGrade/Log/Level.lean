import SourceGrade.Text.Blank
import SourceGrade.Text.LetterCase

set_option autoImplicit false

/-!
# Levels and forms of a log

What is logged has a level, and a log takes what reaches its threshold. Thresholds and the form of
the log are chosen by name.
-/

namespace SourceGrade.Log

/-- How much what is logged matters. -/
inductive Level where
  /-- It helps to find a fault. -/
  | debug
  /-- It is worth knowing. -/
  | info
  /-- It is unexpected. -/
  | warning
  /-- Something failed. -/
  | error
  /-- Nothing works any more. -/
  | critical
  deriving DecidableEq, Repr

namespace Level

/-- The number by which levels are compared with thresholds. -/
def severity : Level → Nat
  | debug => 10
  | info => 20
  | warning => 30
  | error => 40
  | critical => 50

/-- The name of a level. -/
def name : Level → String
  | debug => "debug"
  | info => "info"
  | warning => "warning"
  | error => "error"
  | critical => "critical"

/-- The level of a name. Some levels have a second name. -/
def ofName? (s : String) : Option Level :=
  match s with
  | "debug" => some debug
  | "info" => some info
  | "warning" => some warning
  | "warn" => some warning
  | "error" => some error
  | "exception" => some error
  | "critical" => some critical
  | "fatal" => some critical
  | _ => none

end Level

/-- Why a name is not taken as that of a threshold, though it is known. -/
inductive ThresholdError where
  /-- It is the name of a text: the usual layout of a line. -/
  | layout
  /-- It is the name of a table: that of the styles of layouts. -/
  | styles
  deriving DecidableEq, Repr

/-- The thresholds by their names. -/
def thresholds : List (String × Nat) := [
  ("CRITICAL", 50), ("FATAL", 50), ("ERROR", 40), ("WARNING", 30), ("WARN", 30), ("INFO", 20),
  ("DEBUG", 10), ("NOTSET", 0)]

/-- The threshold of names that are not known. -/
def usualThreshold : Nat := 20

/-- A name in capital letters. -/
def capitals (name : String) : String := String.ofList (Text.upper name.toList)

/-- The threshold of a name in letters of either case. -/
def threshold (name : String) : Except ThresholdError Nat :=
  let capital := capitals name
  if capital = "BASIC_FORMAT" then .error .layout
  else if capital = "_STYLES" then .error .styles
  else .ok ((thresholds.lookup capital).getD usualThreshold)

/-- The forms that a log is written in. -/
inductive Form where
  /-- An object in JSON on each line. -/
  | json
  /-- Lines for people. -/
  | console
  deriving DecidableEq, Repr

namespace Form

/-- The name of a form. -/
def name : Form → String
  | json => "json"
  | console => "console"

/-- The form of a log. Where its name is not known, a log that takes everything is for people. -/
def choose (level format : String) : Form :=
  match String.ofList (Text.trim (Text.lower format.toList)) with
  | "json" => json
  | "console" => console
  | _ => if capitals level = "DEBUG" then console else json

end Form

/-- The loggers that talk too much. They and the loggers below them keep to warnings. -/
def quietLoggers : List String := ["uvicorn.access", "httpx", "httpcore"]

/-- The threshold of the quiet loggers in a log with a threshold. -/
def quietThreshold (least : Nat) : Nat := max least Level.warning.severity

/-- Whether a logger is one of another name or below it. -/
def isBelow (logger above : String) : Bool := logger = above || (above ++ ".").isPrefixOf logger

/-- The threshold of a logger in a log with a threshold. -/
def thresholdOf (least : Nat) (logger : String) : Nat :=
  if quietLoggers.any (isBelow logger) then quietThreshold least else least

end SourceGrade.Log
