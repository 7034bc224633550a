import SourceGrade.File.System
import SourceGrade.Json.Writer
import SourceGrade.Log.Level
import SourceGrade.Log.Template

set_option autoImplicit false

/-!
# The log

A log takes records that reach its threshold and writes each of them on a line, to the console and,
if one is asked for, to a file. Fields that are bound go with every record from then on. A file
that cannot be opened is done without, and that is said on the error stream.
-/

namespace SourceGrade.Log

/-- Named values. -/
abbrev Fields := List (String × Value)

/-- Something that is logged. -/
structure Record where
  /-- Who logs it. -/
  logger : String
  level : Level
  event : String
  /-- What else is known of it. -/
  fields : Fields := []
  deriving Repr

namespace Record

/-- The name of the logger that stands above all others. -/
def topLogger : String := "root"

/-- The name of the logger in a record. -/
def loggerName (r : Record) : String := if r.logger.isEmpty then topLogger else r.logger

/-- The fields with those that are bound added. What a record has itself counts. -/
def addBound (bound own : Fields) : Fields :=
  bound.foldl (fun fs e => if (Value.find? fs e.1).isSome then fs else fs ++ [e]) own

/-- The names that a record's own fields must not have, because its parts go by them. -/
def partNames : List String := ["event", "self", "method_name"]

/-- Whether none of a record's own fields goes by the name of one of its parts. -/
def isWellNamed (r : Record) : Bool := !r.fields.any fun e => partNames.contains e.1

/-- The fields that say what is to be added to a record and are not written themselves. -/
def requestNames : List String := ["exc_info", "stack_info"]

/-- All that is written of a record. -/
def toFields (bound : Fields) (r : Record) : Fields :=
  Value.put "logger" (.text r.loggerName)
    (Value.put "level" (.text r.level.name)
      ((addBound bound (r.fields ++ [("event", .text r.event)])).filter fun e =>
        !requestNames.contains e.1))

end Record

/-- The line of a record. -/
def Form.line : Form → Fields → String
  | .json, fields => Json.write (.table fields)
  | .console, fields =>
    " ".intercalate (fields.map fun e => e.1 ++ "=" ++ e.2.display)

/-- How a log is set up. -/
structure Setup where
  level : String := "INFO"
  /-- The path of the log file, or nothing but blanks where there is none. -/
  filePath : String := ""
  /-- The number of megabytes at which a log file is set aside. -/
  rotationMaxMb : Int := 5
  /-- The number of log files that are kept. -/
  rotationBackups : Int := 3
  format : String := ""
  deriving DecidableEq, Repr

/-- A log file that is open. -/
structure OpenFile where
  place : Path
  /-- The number of bytes at which it is set aside. -/
  maxBytes : Int
  /-- The number of files that are kept. -/
  backups : Int
  deriving DecidableEq, Repr

/-- A log. -/
structure Book where
  /-- The threshold. -/
  least : Nat
  form : Form
  /-- The file, if one is open. -/
  file : Option OpenFile := none
  /-- Whether something was said on the error stream. -/
  hasComplained : Bool := false
  bound : Fields := []
  /-- What was written, a record after another, with all their fields. -/
  written : List Fields := []
  deriving Repr

/-- Why a log cannot be set up. -/
inductive SetupError where
  | threshold (e : ThresholdError)
  /-- The path of its file holds a null character. -/
  | nullCharacter
  deriving DecidableEq, Repr

namespace Setup

/-- The bytes of a megabyte. -/
def bytesOfMegabyte : Int := 1048576

/-- The path of the log file without blanks around it, if there is one. -/
def path? (s : Setup) : Option String :=
  let trimmed := String.ofList (Text.trim s.filePath.toList)
  if trimmed.isEmpty then none else some trimmed

/-- The place of the log file. -/
def place? (s : Setup) (workingDirectory : Path) : Option Path :=
  s.path?.map fun p => (PathText.ofText p).resolve workingDirectory

/-- The file system with a file where there was none, so that lines can be added to it. -/
def touch (fs : FileSystem) (place : Path) : Except FileError FileSystem := do
  let fs ← fs.makeDirectories [] place.dropLast
  match fs.get? place with
  | some (.file _) => .ok fs
  | _ => fs.writeFile [] place []

/-- The log that is set up, and the file system with its file. -/
def start (s : Setup) (fs : FileSystem) (workingDirectory : Path) :
    Except SetupError (Book × FileSystem) := do
  let least ← (threshold s.level).mapError .threshold
  let book : Book := { least, form := .choose s.level s.format }
  match s.place? workingDirectory with
  | none => pure (book, fs)
  | some place =>
    match touch fs place with
    | .ok fs =>
      let file : OpenFile := ⟨place, s.rotationMaxMb * bytesOfMegabyte, s.rotationBackups⟩
      pure ({ book with file := some file }, fs)
    | .error .nullCharacter => .error .nullCharacter
    | .error _ => pure ({ book with hasComplained := true }, fs)

end Setup

/-- What may happen to a log. -/
inductive Happening where
  /-- Fields are bound. -/
  | bind (fields : Fields)
  /-- No field is bound any more. -/
  | clear
  /-- A record is logged. -/
  | record (r : Record)
  /-- A message is logged that is a template with its arguments. -/
  | message (logger : String) (level : Level) (template : String) (args : List Value)

namespace Book

/-- Whether the log takes what a logger logs. -/
def takes (b : Book) (logger : String) (level : Level) : Bool :=
  thresholdOf b.least logger ≤ level.severity

/-- The log after a record, with the given fields bound. -/
def addWith (b : Book) (bound : Fields) (r : Record) : Book :=
  if b.takes r.logger r.level then { b with written := b.written ++ [r.toFields bound] } else b

/-- The log after a record. -/
def add (b : Book) (r : Record) : Book := b.addWith b.bound r

/-- The log after something happened. A template that cannot be filled in is complained about in
the place of its message. -/
def after (b : Book) : Happening → Book
  | .bind fields => { b with bound := fields.foldl (fun fs e => Value.put e.1 e.2 fs) b.bound }
  | .clear => { b with bound := [] }
  | .record r => b.add r
  | .message logger level template args =>
    match fillTemplate template args with
    | .ok event => b.add { logger, level, event }
    | .error _ => if b.takes logger level then { b with hasComplained := true } else b

/-- The log after all that happened. -/
def afterAll (b : Book) (hs : List Happening) : Book := hs.foldl after b

/-- The lines of the log. -/
def lines (b : Book) : List String := b.written.map b.form.line

/-- The text of the log file, which goes on from what was in it. -/
def fileText (b : Book) (before : List Char) : List Char :=
  before ++ b.lines.flatMap fun l => l.toList ++ ['\n']

end Book

end SourceGrade.Log
