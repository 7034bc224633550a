import SourceGrade.Language.Basic
import SourceGrade.Text.Blank
import SourceGrade.Text.LetterCase

set_option autoImplicit false

/-!
# The registered languages

Adding a language means adding one entry to `Language.registry`. Which language a file is written
in is decided by the extension of its name alone.
-/

namespace SourceGrade.Language

open Pattern (word many atLeastOne span opt inOrder anyOf one)
open Text (isWord isBlank)

/-- Any number of blanks. -/
def blanks : Pattern := many isBlank

/-- At least one blank. -/
def someBlanks : Pattern := atLeastOne isBlank

/-- A word, which is a run of word characters. -/
def aWord : Pattern := atLeastOne isWord

/-- A word that is remembered. -/
def name : Pattern := .mark aWord

/-- Every character but the given ones. -/
def except (cs : List Char) (c : Char) : Bool := !cs.contains c

/-- The given characters. -/
def among (cs : List Char) (c : Char) : Bool := cs.contains c

/-- The opening brace of a body. -/
def openBrace : Pattern := .text ['{']

/-- A parameter list. Its length is bounded so that a parenthesis that is never closed does not
make the search long. -/
def params : Pattern := inOrder [word "(", span (except [')']) 0 500, word ")"]

/-- Type arguments, or none. -/
def generic : Pattern := opt (inOrder [word "<", span (except ['>']) 1 200, word ">"])

/-- The word that makes a function asynchronous, or nothing. -/
def maybeAsync : Pattern := opt (inOrder [word "async", someBlanks])

/-- The word that begins the declaration of a variable. -/
def binder : Pattern := anyOf [word "const", word "let", word "var"]

/-- A quotation mark of either kind. -/
def quote : Pattern := one (among ['\'', '"'])

/-- A remembered module name within quotation marks. -/
def quotedModule : Pattern :=
  inOrder [quote, .mark (atLeastOne (except ['\'', '"', '\n'])), quote]

/-- A named function with its parameter list. -/
def namedFunction : Pattern := inOrder [word "function", someBlanks, name, blanks, word "("]

/-- What stands between the name of an arrow function and its arrow, the arrow included. -/
def arrowTail : Pattern :=
  inOrder [word "=", blanks, maybeAsync, anyOf [params, aWord], blanks, word "=>"]

/-- A variable that is bound to an arrow function. -/
def arrowFunction : Pattern := inOrder [binder, someBlanks, name, blanks, arrowTail]

/-- A type annotation of one word with its arguments. -/
def typeClause : Pattern := inOrder [word ":", blanks, aWord, generic]

/-- The import of a module by its quoted name after the imported names. -/
def importFrom : Pattern :=
  inOrder [word "import", someBlanks, .run (except ['\n']) 1 (some 300) .shortestFirst,
    someBlanks, word "from", someBlanks, quotedModule]

/-- JavaScript, which is also assumed of files with an unknown extension. -/
def javascript : Language where
  tag := "javascript"
  extensions := [".js", ".jsx", ".mjs"]
  lineComment := "//"
  blockStart := "/*"
  blockEnd := "*/"
  functionPatterns := [
    namedFunction,
    arrowFunction,
    inOrder [.wordEdge, name, blanks, word ":", blanks, maybeAsync, word "function"],
    inOrder [.wordEdge, maybeAsync, name, blanks, params, blanks, openBrace]]
  typePattern := inOrder [word "class", someBlanks, name]
  importPattern := importFrom
  convention := .camelCase

/-- TypeScript. -/
def typescript : Language where
  tag := "typescript"
  extensions := [".ts", ".tsx"]
  lineComment := "//"
  blockStart := "/*"
  blockEnd := "*/"
  functionPatterns := [
    inOrder [word "function", someBlanks, name, blanks, one (among ['<', '('])],
    inOrder [binder, someBlanks, name, blanks, opt (inOrder [typeClause, blanks]), arrowTail],
    inOrder [.wordEdge, maybeAsync, name, blanks, params, blanks, opt typeClause, blanks,
      openBrace]]
  typePattern :=
    inOrder [anyOf [word "class", word "interface", word "type", word "enum"], someBlanks, name]
  importPattern := importFrom
  convention := .camelCase

/-- C#. -/
def csharp : Language where
  tag := "csharp"
  extensions := [".cs"]
  lineComment := "//"
  blockStart := "/*"
  blockEnd := "*/"
  functionPatterns := [
    inOrder [
      anyOf [word "public", word "private", word "protected", word "internal", word "static",
        word "async", word "virtual", word "override", word "abstract"],
      someBlanks, aWord, generic, someBlanks, name, blanks, word "("]]
  typePattern :=
    inOrder [
      anyOf [word "class", word "interface", word "struct", word "enum", word "record"],
      someBlanks, name]
  importPattern :=
    inOrder [word "using", someBlanks, .mark (atLeastOne fun c => isWord c || c == '.'), blanks,
      word ";"]
  convention := .pascalCase

/-- Dart. -/
def dart : Language where
  tag := "dart"
  extensions := [".dart"]
  lineComment := "//"
  blockStart := "/*"
  blockEnd := "*/"
  functionPatterns := [
    inOrder [.wordEdge,
      anyOf [word "void", word "int", word "String", word "bool", word "double", word "Future",
        word "Stream", word "dynamic", word "Widget", word "State", inOrder [aWord, generic]],
      someBlanks, name, blanks, word "("]]
  typePattern :=
    inOrder [anyOf [word "class", word "mixin", word "extension", word "enum"], someBlanks, name]
  importPattern := inOrder [word "import", someBlanks, quotedModule]
  convention := .camelCase

/-- Go. -/
def go : Language where
  tag := "go"
  extensions := [".go"]
  lineComment := "//"
  blockStart := "/*"
  blockEnd := "*/"
  functionPatterns := [
    inOrder [word "func", someBlanks,
      opt (inOrder [word "(", span (except [')']) 1 300, word ")", someBlanks]), name, blanks,
      word "("]]
  typePattern := inOrder [word "type", someBlanks, name, someBlanks, word "struct"]
  importPattern :=
    inOrder [word "import", someBlanks,
      anyOf [
        inOrder [word "\"", .mark (atLeastOne (except ['"', '\n'])), word "\""],
        inOrder [word "(", .mark (span (except [')']) 1 5000), word ")"]]]
  convention := .camelCase

/-- Vue single file components. -/
def vue : Language where
  tag := "vue"
  extensions := [".vue"]
  lineComment := "//"
  blockStart := "/*"
  blockEnd := "*/"
  functionPatterns := [
    namedFunction,
    arrowFunction,
    inOrder [.wordEdge, name, blanks, params, blanks, openBrace]]
  typePattern := inOrder [anyOf [word "name", word "components"], blanks, word ":"]
  importPattern := importFrom
  convention := .camelCase

/-- The registered languages, in the order in which extensions are looked up. -/
def registry : List Language := [javascript, typescript, csharp, dart, go, vue]

/-- The language of texts whose language is not known. -/
def fallback : Language := javascript

/-- The registered language of a tag. -/
def ofTag? (tag : String) : Option Language := registry.find? (·.tag == tag)

/-- The extensions of all registered languages. -/
def allExtensions : List String := registry.flatMap (·.extensions)

/-- The registered language that an extension belongs to. -/
def ofExtension? (extension : String) : Option Language :=
  registry.find? (·.extensions.contains extension)

/-- A dot and what follows the last dot of a name, the whole name if it has none, in small
letters. -/
def extensionOf (filename : String) : String :=
  String.ofList ('.' :: Text.lower (filename.toList.reverse.takeWhile (· != '.')).reverse)

/-- The language of a file. Only the text after the last dot of its name counts. -/
def ofFilename (filename : String) : Language :=
  (ofExtension? (extensionOf filename)).getD fallback

end SourceGrade.Language
