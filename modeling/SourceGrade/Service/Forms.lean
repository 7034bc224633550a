import SourceGrade.Service.Request
import SourceGrade.Service.Upload

set_option autoImplicit false

/-!
# Forms

What the bodies of requests have to hold. Every form may ask for the bodies of functions in the
answer. Names have to be whole, while texts and paths may hold halves of pairs of code units.
-/

namespace SourceGrade.Service

open Json (Document)
open SourceGrade.Text (WideText)

/-- The body of a request for the analysis of one text. -/
structure FileForm where
  file : SentFile
  /-- Whether the bodies of functions are asked for. -/
  includeBodies : Bool
  deriving DecidableEq, Repr

/-- The body of a request for the analysis of several texts. -/
structure BatchForm where
  files : List SentFile
  /-- Whether the bodies of functions are asked for. -/
  includeBodies : Bool
  deriving DecidableEq, Repr

/-- The body of a request for the analysis of a directory. -/
structure ProjectForm where
  path : WideText
  /-- Whether the bodies of functions are asked for. -/
  includeBodies : Bool
  deriving DecidableEq, Repr

/-- The entry that asks for the bodies of functions. -/
def checkIncludeBodies (entries : List (String × Document)) : Checked Bool :=
  Check.field entries "include_bodies" Check.Document.boolean false

/-- The entries of a text with its name. -/
def checkFile (entries : List (String × Document)) : Checked SentFile :=
  ((Checked.good SentFile.mk).apply
    (Check.required entries "filename" Check.Document.nonemptyString)).apply
    (Check.required entries "text" Check.Document.wideText)

/-- A table of a text with its name. -/
def checkFileTable : Document → Checked SentFile
  | .table entries => checkFile (Document.named entries)
  | _ => .fail .notTable

/-- The form for one text. -/
def FileForm.check (entries : List (String × Document)) : Checked FileForm :=
  ((Checked.good FileForm.mk).apply (checkFile entries)).apply (checkIncludeBodies entries)

/-- The form for several texts. -/
def BatchForm.check (entries : List (String × Document)) : Checked BatchForm :=
  ((Checked.good BatchForm.mk).apply
    (Check.required entries "files" (Check.Document.listOf checkFileTable))).apply
    (checkIncludeBodies entries)

/-- The form for a directory. -/
def ProjectForm.check (entries : List (String × Document)) : Checked ProjectForm :=
  ((Checked.good ProjectForm.mk).apply
    (Check.required entries "path" Check.Document.wideText)).apply
    (checkIncludeBodies entries)

end SourceGrade.Service
