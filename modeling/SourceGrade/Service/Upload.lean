import SourceGrade.Report.Summary
import SourceGrade.Text.CodePoint
import SourceGrade.Text.Utf8

set_option autoImplicit false

/-!
# Uploaded texts

Texts that are sent for analysis are refused if there is none, if two of them have one name, or if
one has more bytes than a file that is read from a directory may have. The first text that is at
fault is named. A text that holds half a pair of code units has no bytes at all, and the service
fails when it comes to such a text.
-/

namespace SourceGrade.Service

open SourceGrade.Text (WideText)

/-- A text with its name, as it is sent. -/
structure SentFile where
  name : String
  text : WideText
  deriving DecidableEq, Repr

/-- A file as it is sent. -/
def SentFile.ofFile (file : SourceFile) : SentFile := ⟨file.name, .ofChars file.text⟩

/-- Why uploaded texts are refused. -/
inductive UploadError where
  | empty
  /-- A name is that of an earlier text. -/
  | duplicate (name : String)
  /-- A text has no bytes. -/
  | unencodable
  /-- A text has too many bytes. -/
  | tooLarge (name : String)
  deriving DecidableEq, Repr

namespace Upload

/-- Whether a text has more bytes than allowed. -/
def isTooLarge (maxSize : Int) (file : SourceFile) : Bool :=
  maxSize < (Text.Utf8.size file.text : Int)

/-- The file that was sent, unless its text is refused. -/
def receive (maxSize : Int) (sent : SentFile) : Except UploadError SourceFile :=
  match sent.text.chars? with
  | none => .error .unencodable
  | some text =>
    if isTooLarge maxSize ⟨sent.name, text⟩ then .error (.tooLarge sent.name)
    else .ok ⟨sent.name, text⟩

/-- The files after those in `done`, which come last first. -/
def acceptFrom (maxSize : Int) : List SourceFile → List SentFile →
    Except UploadError (List SourceFile)
  | done, [] => .ok done.reverse
  | done, f :: fs =>
    if done.any (·.name == f.name) then .error (.duplicate f.name)
    else
      match receive maxSize f with
      | .error e => .error e
      | .ok file => acceptFrom maxSize (file :: done) fs

/-- The files that were sent, unless they are refused. -/
def accept (maxSize : Int) (sent : List SentFile) : Except UploadError (List SourceFile) :=
  if sent.isEmpty then .error .empty else acceptFrom maxSize [] sent

end Upload

end SourceGrade.Service
