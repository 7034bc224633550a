import SourceGrade.File.Spelling
import SourceGrade.File.System

set_option autoImplicit false

/-!
# The workspace

Only directories at or below the working directory are analysed on request. A path is judged by the
place that it means, before anything is looked up there; what lies outside has no influence on the
answer.
-/

namespace SourceGrade.Service

open SourceGrade.Text (WideText)

/-- The surroundings of the service. -/
structure Host where
  workingDirectory : Path
  files : FileSystem
  /-- The home directories by the names of their users. The empty name stands for the user who runs
  the service. -/
  homes : List (String × Path) := []

/-- Why a path is refused. -/
inductive WorkspaceError where
  /-- Its place cannot be told, nothing can be looked up there, or the answer cannot name it. -/
  | unusable
  /-- Its place is outside the working directory. -/
  | outside
  /-- There is nothing at its place. -/
  | missing (path : String)
  /-- There is a file at its place. -/
  | notDirectory
  deriving DecidableEq, Repr

namespace Host

/-- A path in which a tilde at its beginning stands for a home directory. -/
def expandHome (h : Host) (p : PathText) : Option PathText :=
  match p.slashes, p.names with
  | 0, name :: rest =>
    match name.toList with
    | '~' :: user =>
      (h.homes.lookup (String.ofList user)).map fun home => ⟨1, home ++ rest⟩
    | _ => some p
  | _, _ => some p

/-- The place that a path means, with its names as they are spelled. -/
def placeOf? (h : Host) (path : WideText) : Option Path :=
  if path.contains (.char '\x00') then none
  else
    (PathText.spelling? path).bind fun written =>
      (h.expandHome (PathText.ofText (String.ofList written))).map (·.resolve h.workingDirectory)

/-- A place within the working directory with the names that are looked up. -/
def stored (h : Host) (place : Path) : Path :=
  h.workingDirectory ++ (Path.relativeTo h.workingDirectory place).map PathText.storedName

/-- Why nothing is found at a path: an answer can only name a path that is whole. -/
def missing (path : WideText) : WorkspaceError :=
  match path.chars? with
  | some cs => .missing (String.ofList cs)
  | none => .unusable

/-- The directory that a path leads to within the working directory. -/
def directoryWithin (h : Host) (path : WideText) : Except WorkspaceError Path :=
  match h.placeOf? path with
  | none => .error .unusable
  | some place =>
    if !h.workingDirectory.isWithin place then .error .outside
    else
      match h.files.look (h.stored place) with
      | .ok (some .directory) => .ok (h.stored place)
      | .ok (some (.file _)) => .error .notDirectory
      | .ok none => .error (missing path)
      | .error _ => .error .unusable

end Host

end SourceGrade.Service
