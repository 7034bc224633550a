import SourceGrade.Text.Word

set_option autoImplicit false

/-!
# Patterns

A pattern describes a piece of text and is plain data, so that a language can be registered by
listing its signature, type and import patterns. Choices are ordered: of two ways to match, the one
named first is preferred. Repetition is of single characters only, which is all that a signature
needs, and each repetition says which of its lengths it prefers.
-/

namespace SourceGrade

/-- Which lengths of a run of characters are tried, and in what order. -/
inductive RunOrder where
  /-- The longest run first, then ever shorter ones. -/
  | longestFirst
  /-- The shortest run first, then ever longer ones. -/
  | shortestFirst
  /-- The longest run and no other. -/
  | longestOnly
  deriving DecidableEq, Repr

/-- A description of a piece of text. -/
inductive Pattern where
  /-- The empty piece. -/
  | nothing
  /-- Exactly these characters. -/
  | text (s : List Char)
  /-- A run of at least `least` characters of a class and at most `most`, if that is given. -/
  | run (ok : Char → Bool) (least : Nat) (most : Option Nat) (order : RunOrder)
  /-- One pattern, then another. -/
  | seq (p q : Pattern)
  /-- One pattern or, failing that, another. -/
  | alt (p q : Pattern)
  /-- A pattern whose piece is remembered. -/
  | mark (p : Pattern)
  /-- The empty piece between a word character and anything else, an end of the text included. -/
  | wordEdge
  /-- The empty piece after a character of a class. -/
  | after (ok : Char → Bool)
  /-- The empty piece that no character of a class precedes. -/
  | notAfter (ok : Char → Bool)
  /-- The empty piece from which a pattern would match. -/
  | ahead (p : Pattern)
  /-- The empty piece from which a pattern would not match. -/
  | notAhead (p : Pattern)

namespace Pattern

/-- The characters of a string. -/
def word (s : String) : Pattern := .text s.toList

/-- One character of a class. -/
def one (ok : Char → Bool) : Pattern := .run ok 1 (some 1) .longestOnly

/-- Any number of characters of a class, as many as possible. -/
def many (ok : Char → Bool) : Pattern := .run ok 0 none .longestFirst

/-- At least one character of a class, as many as possible. -/
def atLeastOne (ok : Char → Bool) : Pattern := .run ok 1 none .longestFirst

/-- A run of between `least` and `most` characters of a class that gives none of them back. -/
def span (ok : Char → Bool) (least most : Nat) : Pattern := .run ok least (some most) .longestOnly

/-- The pattern, or the empty piece. -/
def opt (p : Pattern) : Pattern := .alt p .nothing

/-- Patterns one after the other. -/
def inOrder : List Pattern → Pattern
  | [] => .nothing
  | [p] => p
  | p :: q :: rest => .seq p (inOrder (q :: rest))

/-- The first pattern of a list that matches, then the others. -/
def anyOf : List Pattern → Pattern
  | [] => .notAhead .nothing
  | [p] => p
  | p :: q :: rest => .alt p (anyOf (q :: rest))

end Pattern

/-- A place in a text that is being matched. -/
structure Cursor where
  /-- The character before the place, if there is one. -/
  before : Option Char
  /-- The characters from the place on. -/
  rest : List Char
  /-- The number of characters before the place. -/
  offset : Nat
  /-- The piece that was last remembered on the way here. -/
  marked : Option (List Char)
  deriving DecidableEq, Repr

namespace Cursor

/-- The beginning of a text. -/
def ofText (t : List Char) : Cursor := ⟨none, t, 0, none⟩

/-- Past the given characters, if they are the next ones. -/
def past? (c : Cursor) (s : List Char) : Option Cursor :=
  (s.isPrefixOf? c.rest).map fun rest =>
    { c with before := s.getLast? <|> c.before, rest, offset := c.offset + s.length }

/-- The places reached by ever longer runs of a class from a place, the farthest one first, in
front of `nearer`. -/
def runStopsOnto (ok : Char → Bool) (marked : Option (List Char)) :
    Option Nat → Option Char → List Char → Nat → List Cursor → List Cursor
  | _, before, [], offset, nearer => ⟨before, [], offset, marked⟩ :: nearer
  | some 0, before, rest, offset, nearer => ⟨before, rest, offset, marked⟩ :: nearer
  | most, before, x :: rest, offset, nearer =>
    if ok x then
      runStopsOnto ok marked (most.map (· - 1)) (some x) rest (offset + 1)
        (⟨before, x :: rest, offset, marked⟩ :: nearer)
    else ⟨before, x :: rest, offset, marked⟩ :: nearer

/-- The places reached by a run of at least `least` and at most `most` characters of a class, in
the order in which they are to be tried. -/
def runStops (c : Cursor) (ok : Char → Bool) (least : Nat) (most : Option Nat) (order : RunOrder) :
    List Cursor :=
  let all := runStopsOnto ok c.marked most c.before c.rest c.offset []
  let longEnough := all.take (all.length - least)
  match order with
  | .longestFirst => longEnough
  | .shortestFirst => longEnough.reverse
  | .longestOnly => longEnough.take 1

/-- Whether exactly one of the two neighbouring characters is a word character. -/
def atWordEdge (c : Cursor) : Bool :=
  c.before.any Text.isWord != c.rest.head?.any Text.isWord

/-- The place with the piece from `start` to it remembered. -/
def marking (c : Cursor) (start : Cursor) : Cursor :=
  { c with marked := some (start.rest.take (c.offset - start.offset)) }

end Cursor

end SourceGrade
