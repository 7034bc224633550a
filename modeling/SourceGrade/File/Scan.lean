import SourceGrade.File.System
import SourceGrade.Report.Summary
import SourceGrade.Text.Lines

set_option autoImplicit false

/-!
# Scanning a directory

All source files below a directory are analysed. A source file is a regular file that is not too
large, whose name ends in the extension of a registered language, and that does not lie in a
directory which holds what was built or installed.
-/

namespace SourceGrade

/-- Why a directory is not scanned. -/
inductive ScanError where
  | emptyPath
  /-- There is nothing where the path leads. -/
  | missing (path : String)
  /-- The path leads to a file. -/
  | notDirectory (path : String)
  /-- The path cannot be looked up. -/
  | unusable (e : FileError)
  deriving DecidableEq, Repr

namespace ScanError

/-- What is said of a directory that is not scanned. -/
def message : ScanError → String
  | emptyPath => "Project path cannot be empty"
  | missing path => "Project path does not exist: " ++ path
  | notDirectory path => "Project path is not a directory: " ++ path
  | unusable .nullCharacter => "embedded null byte"
  | unusable _ => "File name too long"

end ScanError

namespace Scan

/-- The names of directories whose files are left out. -/
def ignoredNames : List String := [
  ".git", ".venv", "venv", "node_modules", "__pycache__", ".pytest_cache", ".mypy_cache",
  ".ruff_cache", "dist", "build", ".next", "coverage", ".tox", "eggs", "bin", "obj"]

/-- The end of a name from its last dot on, unless the dot is its first or its last character. -/
def suffix (name : String) : String :=
  let cs := name.toList
  let tail := (cs.reverse.takeWhile (· != '.')).reverse
  let stem := cs.length - tail.length - 1
  if tail.isEmpty || tail.length = cs.length || stem = 0 then ""
  else String.ofList ('.' :: tail)

/-- Whether a name ends in the extension of a registered language, in letters of either case. -/
def isSourceName (name : String) : Bool :=
  Language.allExtensions.contains (String.ofList (Text.lower (suffix name).toList))

/-- Whether a place below the scanned directory is that of a source file. -/
def isSourcePlace (place : Path) : Bool :=
  !place.any ignoredNames.contains &&
    match place.getLast? with
    | some name => isSourceName name
    | none => false

/-- The bytes of an entry that is a source file. -/
def sourceBytes? (maxSize : Int) (entry : Path × Node) : Option (Path × List UInt8) :=
  match entry.2 with
  | .directory => none
  | .file bytes =>
    if isSourcePlace entry.1 && (bytes.length : Int) ≤ maxSize then some (entry.1, bytes) else none

/-- The source files below a directory in the order of their places, which are as seen from
there. -/
def collect (fs : FileSystem) (maxSize : Int) (directory : Path) : List (Path × List UInt8) :=
  ((fs.below directory).filterMap (sourceBytes? maxSize)).mergeSort fun a b => Path.le a.1 b.1

/-- The text of a file. Bytes that are no text are replaced, and all lines end alike. -/
def textOf (bytes : List UInt8) : List Char := Text.unifyLineEnds (Text.Utf8.decode bytes)

/-- The source files below a directory with their texts. -/
def sourceFiles (fs : FileSystem) (maxSize : Int) (directory : Path) : List SourceFile :=
  (collect fs maxSize directory).map fun f => ⟨Path.slashed f.1, textOf f.2⟩

/-- The place of the directory that a path leads to. -/
def directoryAt (fs : FileSystem) (workingDirectory : Path) (path : String) :
    Except ScanError Path :=
  if path.isEmpty then .error .emptyPath
  else
    let place := (PathText.ofText path).resolve workingDirectory
    match fs.look place with
    | .ok (some .directory) => .ok place
    | .ok (some (.file _)) => .error (.notDirectory path)
    | .ok none => .error (.missing path)
    | .error e => .error (.unusable e)

end Scan

namespace Project

/-- The summary of the source files below a directory. -/
def ofDirectory (settings : AnalysisSettings) (fs : FileSystem) (directory : Path) : Summary :=
  ofFiles settings (Scan.sourceFiles fs settings.maxFileSize directory)

end Project

end SourceGrade
