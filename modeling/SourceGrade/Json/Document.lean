import SourceGrade.Number.Double
import SourceGrade.Text.CodePoint

set_option autoImplicit false

/-!
# Documents in JSON

What a text in JSON holds. Its texts and its keys may hold halves of pairs of code units, and its
numbers may be infinite or undefined. What holds neither can be written again.
-/

namespace SourceGrade.Json

open SourceGrade.Text

/-- What a text in JSON holds. -/
inductive Document where
  | null
  /-- A truth value. -/
  | bool (b : Bool)
  | int (n : Int)
  /-- A number that was not written as an integer. -/
  | float (x : Double)
  /-- A piece of text. -/
  | text (t : WideText)
  | list (ds : List Document)
  | table (entries : List (WideText × Document))
  deriving Repr

namespace Document

mutual

/-- Whether the document can be written. -/
def isWritable : Document → Bool
  | .float x => x.toRat?.isSome
  | .text t => t.isWhole
  | .list ds => areWritable ds
  | .table entries => haveWritable entries
  | _ => true

/-- Whether all documents can be written. -/
def areWritable : List Document → Bool
  | [] => true
  | d :: ds => isWritable d && areWritable ds

/-- Whether all entries can be written, with their keys. -/
def haveWritable : List (WideText × Document) → Bool
  | [] => true
  | (key, d) :: entries => key.isWhole && isWritable d && haveWritable entries

end

/-- The entries whose keys are whole, by their keys. -/
def named (entries : List (WideText × Document)) : List (String × Document) :=
  entries.filterMap fun e => e.1.chars?.map fun key => (String.ofList key, e.2)

end Document

end SourceGrade.Json
