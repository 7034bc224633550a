import SourceGrade.Function.Find

set_option autoImplicit false

/-!
# Names

The name of a function is judged by its first letters against the convention of its language, and a
variable of one letter is reported unless that letter is customary.
-/

namespace SourceGrade

/-- A name that does not follow the convention. -/
structure NamingIssue where
  kind : String
  name : String
  /-- What is asked of the name. -/
  expected : String
  line : Int
  deriving DecidableEq, Repr

/-- Why names cannot be judged. -/
inductive NamingError where
  /-- A function has the empty name, which has no first letter. -/
  | emptyName
  deriving DecidableEq, Repr

namespace NamingIssue

open Pattern (word inOrder anyOf one)
open SourceGrade.Language (among someBlanks blanks)

/-- The one-letter names that need no reason. -/
def customaryNames : List String := ["i", "j", "k", "x", "y", "e", "_"]

/-- A capital and then a small letter, as in the names of components and constructors. -/
def isCapitalized : List Char → Bool
  | a :: b :: _ => 'A' ≤ a && a ≤ 'Z' && 'a' ≤ b && b ≤ 'z'
  | _ => false

/-- Whether a name with the given first letter and the given characters follows a convention. -/
def follows (convention : NamingConvention) (first : Char) (name : List Char) : Bool :=
  match convention with
  | .camelCase => !Text.isUppercase first || isCapitalized name
  | .pascalCase => !Text.isLowercase first

/-- What a function is called in reports on names, which differs between conventions. -/
def functionKind : NamingConvention → String
  | .camelCase => "function"
  | .pascalCase => "method"

/-- The issue with the name of a function, if there is one. Where no convention is known, only the
empty name is refused. -/
def ofFunction (convention : Option NamingConvention) (f : FunctionInfo) :
    Except NamingError (Option NamingIssue) :=
  match f.name.toList with
  | [] => .error .emptyName
  | first :: rest =>
    match convention with
    | none => .ok none
    | some c =>
      if follows c first (first :: rest) then .ok none
      else .ok (some ⟨functionKind c, f.name, c.name, f.startLine⟩)

/-- The issues with the names of functions, in order. -/
def ofFunctions (convention : Option NamingConvention) (fs : List FunctionInfo) :
    Except NamingError (List NamingIssue) :=
  (fs.mapM (ofFunction convention)).map (·.filterMap id)

/-- An ASCII letter. -/
def isAsciiLetter (c : Char) : Bool := ('a' ≤ c && c ≤ 'z') || ('A' ≤ c && c ≤ 'Z')

/-- The declaration of a variable with a name of one letter, which is marked. -/
def oneLetterVariable : Pattern :=
  inOrder [.wordEdge,
    anyOf [word "const", word "let", word "var", word "int", word "string", word "bool",
      word "double", word "float"],
    someBlanks, .mark (one isAsciiLetter), blanks, one (among ['=', ';', ',', ')'])]

/-- What is asked of a variable whose name is too short. -/
def descriptiveName : String := "descriptive name"

/-- The variables of one letter that is not allowed, in order. -/
def ofVariables (allowed : List String) (t : List Char) : List NamingIssue :=
  let lines := Text.LineIndex.ofText t
  (oneLetterVariable.hits t).filterMap fun h =>
    let name := String.ofList (h.marked.getD [])
    if allowed.contains name then none
    else some ⟨"variable", name, descriptiveName, lines.lineOf h.start⟩

/-- The issues with the names in a text: those of its functions, then those of its variables. -/
def ofText (language : Language) (fs : List FunctionInfo) (allowed : List String)
    (t : List Char) : Except NamingError (List NamingIssue) :=
  (ofFunctions (some language.convention) fs).map (· ++ ofVariables allowed t)

/-- The issues with the names in a text in the language of a tag. Its functions are sought again
unless they are given. In an unknown language there are no issues. -/
def ofTag (tag : String) (t : List Char) (given? : Option (List FunctionInfo) := none)
    (allowed : List String := customaryNames) : Except NamingError (List NamingIssue) :=
  match Language.ofTag? tag with
  | none => .ok []
  | some language => ofText language (given?.getD (FunctionInfo.find language t)) allowed t

end NamingIssue

end SourceGrade
