import SourceGrade.File.Path

set_option autoImplicit false

/-!
# File systems

A file system without symbolic links: the directories and regular files by their places. The
entries come in any order, as a file system lists them. The top is always a directory.
-/

namespace SourceGrade

/-- What there is at a place. -/
inductive Node where
  | directory
  /-- A regular file with its bytes. -/
  | file (bytes : List UInt8)
  deriving DecidableEq, Repr

/-- Why a place cannot be looked up, made or written. -/
inductive FileError where
  /-- The path holds a null character. -/
  | nullCharacter
  /-- A name has too many bytes. -/
  | nameTooLong
  | missing
  | exists
  /-- A name on the way is not that of a directory. -/
  | notDirectory
  /-- A directory is in the place of a file. -/
  | isDirectory
  deriving DecidableEq, Repr

/-- The directories and files at their places. -/
structure FileSystem where
  /-- The entries, in the order in which they are listed. -/
  entries : List (Path × Node) := []

namespace FileSystem

/-- The largest number of bytes of a name. -/
def maxNameBytes : Nat := 255

/-- The largest number of bytes of a place that is written from the top. -/
def maxPathBytes : Nat := 4095

/-- Whether a name has too many bytes. -/
def isTooLong (name : String) : Bool := maxNameBytes < Text.Utf8.size name.toList

/-- Whether a path holds a null character. -/
def hasNull (names : List String) : Bool := names.any (·.toList.contains '\x00')

/-- What there is at a place. -/
def get? (fs : FileSystem) (place : Path) : Option Node :=
  if place.isEmpty then some .directory else fs.entries.lookup place

/-- The place that names lead to from another place. A step upwards leads out of a directory that
is there. -/
def walk (fs : FileSystem) : Path → List String → Except FileError Path
  | place, [] => if (fs.get? place).isSome then .ok place else .error .missing
  | place, name :: rest =>
    match fs.get? place with
    | none => .error .missing
    | some (.file _) => .error .notDirectory
    | some .directory =>
      if isTooLong name then .error .nameTooLong
      else walk fs (PathText.step place name) rest

/-- What there is at a place that is looked up name by name from the top. -/
def look (fs : FileSystem) (place : Path) : Except FileError (Option Node) :=
  if hasNull place then .error .nullCharacter
  else if maxPathBytes < Text.Utf8.size (Path.fromTop place).toList then .error .nameTooLong
  else
    match fs.walk [] place with
    | .ok found => .ok (fs.get? found)
    | .error .missing => .ok none
    | .error .notDirectory => .ok none
    | .error e => .error e

/-- The file system with something put at a place. -/
def put (fs : FileSystem) (place : Path) (node : Node) : FileSystem :=
  ⟨fs.entries.filter (fun e => e.1 != place) ++ [(place, node)]⟩

/-- The file system with a directory at a place that has none, below a directory that is there. -/
def addDirectory (fs : FileSystem) (start : Path) (names : List String) :
    Except FileError FileSystem :=
  if hasNull names then .error .nullCharacter
  else
    match names.getLast? with
    | none => .error .exists
    | some last => do
      let parent ← fs.walk start names.dropLast
      match fs.get? parent with
      | some .directory =>
        if isTooLong last then .error .nameTooLong
        else if last = PathText.upward then .error .exists
        else if (fs.get? (parent ++ [last])).isSome then .error .exists
        else .ok (fs.put (parent ++ [last]) .directory)
      | _ => .error .notDirectory

/-- Whether names lead to a directory. -/
def isDirectory (fs : FileSystem) (start : Path) (names : List String) : Bool :=
  match fs.walk start names with
  | .ok place => fs.get? place == some .directory
  | .error _ => false

/-- The file system with a directory where the names lead to, made unless it is there. -/
def ensureDirectory (fs : FileSystem) (start : Path) (names : List String) :
    Except FileError FileSystem :=
  match fs.addDirectory start names with
  | .error .missing => .error .missing
  | .error e => if fs.isDirectory start names then .ok fs else .error e
  | .ok fs => .ok fs

/-- The file system with directories where the names lead to and, if they are missing, on the way
there. The last name comes first. -/
def makeDirectoriesFrom (fs : FileSystem) (start : Path) : List String → Except FileError FileSystem
  | [] => fs.ensureDirectory start []
  | last :: before =>
    match fs.ensureDirectory start (last :: before).reverse with
    | .error .missing => do
      let fs ← makeDirectoriesFrom fs start before
      fs.ensureDirectory start (last :: before).reverse
    | result => result

/-- The file system with directories where the names lead to and on the way there. -/
def makeDirectories (fs : FileSystem) (start : Path) (names : List String) :
    Except FileError FileSystem :=
  fs.makeDirectoriesFrom start names.reverse

/-- The file system with a file where the names lead to, which replaces one that is there. -/
def writeFile (fs : FileSystem) (start : Path) (names : List String) (bytes : List UInt8) :
    Except FileError FileSystem :=
  if hasNull names then .error .nullCharacter
  else
    match names.getLast? with
    | none => .error .isDirectory
    | some last => do
      let parent ← fs.walk start names.dropLast
      match fs.get? parent with
      | some .directory =>
        if isTooLong last then .error .nameTooLong
        else
          let place := PathText.step parent last
          if fs.get? place == some .directory then .error .isDirectory
          else .ok (fs.put place (.file bytes))
      | _ => .error .notDirectory

/-- The entries below a directory, at their places as seen from there. -/
def below (fs : FileSystem) (directory : Path) : List (Path × Node) :=
  (fs.entries.filter fun e => directory.isWithin e.1 && e.1 != directory).map fun e =>
    (Path.relativeTo directory e.1, e.2)

end FileSystem

end SourceGrade
