import SourceGrade.Language.Registry
import SourceGrade.Pattern.Hits
import SourceGrade.Text.Lines

set_option autoImplicit false

/-!
# Types and imports

The types that a text declares are counted, and the modules that it imports are listed, both by the
patterns of its language.
-/

namespace SourceGrade.Metric

/-- The number of type declarations of a text. -/
def countTypes (language : Language) (t : List Char) : Nat := language.typePattern.countHits t

/-- A quotation mark of either kind. -/
def isQuote (c : Char) : Bool := c == '"' || c == '\''

/-- The module that one line of an import names: its last field, without the quotation marks
around it. An alias stands before the module. -/
def moduleOfLine? (line : List Char) : Option String :=
  match (Text.fields line).getLast? with
  | none => none
  | some field =>
    let name := Text.trimBy isQuote field
    if name.isEmpty then none else some (String.ofList name)

/-- The modules that an import names, one for each line of a grouped import. -/
def modulesOfHit (h : Hit) : List String :=
  match h.marked with
  | none => []
  | some piece => (Text.pieces piece).filterMap moduleOfLine?

/-- The modules that a text imports, each one where it is first named. -/
def imports (language : Language) (t : List Char) : List String :=
  ((language.importPattern.hits t).flatMap modulesOfHit).eraseDups

end SourceGrade.Metric
