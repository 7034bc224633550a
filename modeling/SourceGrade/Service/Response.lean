import SourceGrade.Check.Basic
import SourceGrade.File.Path
import SourceGrade.Service.Upload
import SourceGrade.Service.Workspace

set_option autoImplicit false

/-!
# Responses

Why requests are refused, and how answers and refusals are sent.
-/

namespace SourceGrade.Service

/-- What a response carries. -/
inductive Body where
  | json (v : Value)
  | text (s : String)

/-- A response. -/
structure Response where
  status : Nat
  body : Body
  requestId : Option String := none
  /-- The origin from which a page may read the response. -/
  allowOrigin : Option String := none

/-- Why a request is refused. -/
inductive Refusal where
  | unknownPath
  /-- The path is that of a route, but the method is not. -/
  | wrongMethod
  /-- The path is that of a route but for the slash at its end. -/
  | elsewhere
  /-- The body does not hold what it has to hold. -/
  | invalid (complaints : List Complaint)
  | unreadable
  /-- Too many requests have reached the route. -/
  | overLimit (limit : Nat)
  | upload (e : UploadError)
  /-- The path of the directory is refused. -/
  | workspace (e : WorkspaceError)
  | failed

namespace Refusal

/-- A table with the reason of a refusal. -/
def detail (v : Value) : Body := .json (.table [("detail", v)])

/-- A table with the reason of a refusal in words. -/
def words (s : String) : Body := detail (.text s)

/-- The status and the body where the service fails. -/
def failure : Nat × Body := (500, .text "Internal Server Error")

/-- The status and the body of a refusal by a host. -/
def reply (host : Host) : Refusal → Nat × Body
  | unknownPath => (404, words "Not Found")
  | wrongMethod => (405, words "Method Not Allowed")
  | elsewhere => (307, .text "")
  | invalid cs => (422, detail (.list (cs.map (·.toValue))))
  | unreadable => (400, words "There was an error parsing the body")
  | overLimit n =>
    (429, .json (.table
      [("error", .text ("Rate limit exceeded: " ++ toString n ++ " per 1 minute"))]))
  | upload .empty => (400, words "No files to analyze")
  | upload (.duplicate name) => (400, words ("Duplicate filename: " ++ name))
  | upload .unencodable => failure
  | upload (.tooLarge name) => (413, words ("File too large: " ++ name))
  | workspace .outside =>
    (403, words ("Path must be inside workspace: " ++ Path.fromTop host.workingDirectory))
  | workspace (.missing path) => (404, words ("Path not found: " ++ path))
  | workspace .notDirectory => (400, words "Path must be a directory")
  | workspace .unusable => failure
  | failed => failure

/-- Whether a refusal is a failure of the service, which is answered without headers. -/
def isFailure : Refusal → Bool
  | upload .unencodable => true
  | workspace .unusable => true
  | failed => true
  | _ => false

end Refusal

end SourceGrade.Service
