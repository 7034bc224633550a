import SourceGrade.Toml.Quoted

set_option autoImplicit false

/-!
# TOML: keys

A key is one or more names with dots between them. A name is bare, or quoted on one line.
-/

namespace SourceGrade.Toml

/-- A key: the names of the tables that lead to an entry, and the name of the entry. -/
structure Key where
  /-- The names of the tables on the way. -/
  parents : List String
  last : String
  deriving DecidableEq, Repr

namespace Key

/-- All names of a key. -/
def path (k : Key) : List String := k.parents ++ [k.last]

/-- A key with a table in front of it. -/
def under (k : Key) (header : List String) : Key := ⟨header ++ k.parents, k.last⟩

/-- The tables that a dotted key leads through, the outermost first, each by its path. -/
def tables (k : Key) : List (List String) :=
  (List.range k.parents.length).map fun i => k.parents.take (i + 1)

/-- A character of a bare name. -/
def isBare (c : Char) : Bool :=
  ('a' ≤ c && c ≤ 'z') || ('A' ≤ c && c ≤ 'Z') || ('0' ≤ c && c ≤ '9') || c == '-' || c == '_'

/-- A name at the beginning of a text. -/
def readName (t : List Char) : Step String :=
  match t with
  | '"' :: rest => quotedFrom false 0 [] rest
  | '\'' :: rest => readLiteral rest
  | _ =>
    let name := t.takeWhile isBare
    if name.isEmpty then .error .malformed else .ok (String.ofList name, t.drop name.length)

/-- A key at the beginning of a text, with the names before it, and the text after the white space
that follows. Each round reads one name. -/
def readFrom : Nat → List String → List Char → Step Key
  | 0, _, _ => .error .malformed
  | fuel + 1, parents, t =>
    match readName t with
    | .error e => .error e
    | .ok (name, rest) =>
      match skipWhite rest with
      | '.' :: rest => readFrom fuel (parents ++ [name]) (skipWhite rest)
      | rest => .ok (⟨parents, name⟩, rest)

/-- A key at the beginning of a text. -/
def read (t : List Char) : Step Key := readFrom t.length [] t

end Key

end SourceGrade.Toml
