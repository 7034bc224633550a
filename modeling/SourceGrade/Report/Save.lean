import SourceGrade.File.System
import SourceGrade.Report.Markdown

set_option autoImplicit false

/-!
# Saving a report

A report is written to a file. The directories on the way to it are made if they are missing.
-/

namespace SourceGrade.Markdown

/-- The file system with a text in the file that a path leads to. -/
def saveText (fs : FileSystem) (workingDirectory : Path) (path : PathText) (t : List Char) :
    Except FileError FileSystem := do
  let start := path.start workingDirectory
  let fs ← fs.makeDirectories start path.names.dropLast
  fs.writeFile start path.names (Text.Utf8.encode t)

/-- The file system with the report of a summary in the file that a path leads to. -/
def save (fs : FileSystem) (workingDirectory : Path) (path : PathText) (writtenAt : String)
    (summary : Option Summary) : Except FileError FileSystem :=
  saveText fs workingDirectory path (ofSummary writtenAt summary).toList

end SourceGrade.Markdown
