import SourceGrade.Check.Basic
import SourceGrade.Json.Document

set_option autoImplicit false

/-!
# Checked documents

A document in JSON is checked like a value, but its texts may hold halves of pairs of code units. A
complaint is shown with the part of the document that it is about.
-/

namespace SourceGrade

open Json (Document)
open SourceGrade.Text

namespace Json.Document

/-- The part of a document that steps lead to. -/
def reach? : Document → List Step → Option Document
  | d, [] => some d
  | .table entries, .key k :: steps =>
    (Value.find? (named entries) k).bind fun d => reach? d steps
  | .list ds, .index n :: steps => ds[n]?.bind fun d => reach? d steps
  | _, _ => none

end Json.Document

/-- The steps to what a complaint shows: to what is wrong, or to the table that it is missing
from. -/
def Complaint.shownPlace (c : Complaint) : List Step :=
  if c.fault = .missing then c.place.dropLast else c.place

namespace Check.Document

variable {α : Type}

/-- A text, whatever it holds. -/
def wideText : Document → Checked WideText
  | .text t => .good t
  | _ => .fail .notText

/-- A text with at least one character and without halves of pairs. -/
def nonemptyString : Document → Checked String
  | .text t =>
    match t.chars? with
    | none => .fail .brokenText
    | some [] => .fail .tooShort
    | some cs => .good (String.ofList cs)
  | _ => .fail .notText

/-- A truth value, or what stands for one. -/
def boolean : Document → Checked Bool
  | .bool b => Check.boolean (.bool b)
  | .int n => Check.boolean (.int n)
  | .float x => Check.boolean (.float x)
  | .text t =>
    match t.chars? with
    | none => .fail .brokenText
    | some cs => Check.boolean (.text (String.ofList cs))
  | _ => .fail .notBool

/-- A list of what a check lets through. -/
def listOf (check : Document → Checked α) : Document → Checked (List α)
  | .list ds => Checked.itemsFrom check 0 ds
  | _ => .fail .notList

end Check.Document

end SourceGrade
