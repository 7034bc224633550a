import SourceGrade.Pattern.Basic

set_option autoImplicit false

/-!
# Languages

A language is described by what the measurements need to know of it: its file extensions, its
comment markers, the patterns of its function signatures, type declarations and imports, and the
convention for its function names.
-/

namespace SourceGrade

/-- How the functions of a language are named. -/
inductive NamingConvention where
  /-- The first letter is small, except in the name of a component or a constructor. -/
  | camelCase
  /-- The first letter is a capital. -/
  | pascalCase
  deriving DecidableEq, Repr

namespace NamingConvention

/-- The usual spelling of a convention, which follows it. -/
def name : NamingConvention → String
  | .camelCase => "camelCase"
  | .pascalCase => "PascalCase"

/-- The convention of a spelling. -/
def ofName? (s : String) : Option NamingConvention :=
  [camelCase, pascalCase].find? (·.name == s)

end NamingConvention

/-- What the measurements need to know of a language. -/
structure Language where
  /-- The name by which the language is requested and reported. -/
  tag : String
  /-- The file extensions that belong to the language, in small letters and with their dot. -/
  extensions : List String
  /-- What begins a comment that ends with the line. -/
  lineComment : String
  /-- What begins a comment that may span lines. -/
  blockStart : String
  /-- What ends a comment that may span lines. -/
  blockEnd : String
  /-- The signatures of functions, the more specific ones first. Each marks the name. -/
  functionPatterns : List Pattern
  typePattern : Pattern
  /-- The import of a module, or of a group of modules. It marks what is imported. -/
  importPattern : Pattern
  convention : NamingConvention

end SourceGrade
