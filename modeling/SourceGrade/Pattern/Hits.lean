import SourceGrade.Pattern.Outcomes

set_option autoImplicit false

/-!
# Occurrences of a pattern

The hits of a pattern in a text are its matches from left to right, each one beginning at the first
place after the last hit from which the pattern matches a piece that is not empty. They never
overlap.
-/

namespace SourceGrade

/-- An occurrence of a pattern. -/
structure Hit where
  /-- The offset of its first character. -/
  start : Nat
  /-- The offset just after its last character. -/
  stop : Nat
  /-- The piece that the pattern marks. -/
  marked : Option (List Char)
  deriving DecidableEq, Repr

namespace Pattern

/-- The hits in the rest of a text, of which the first `skip` characters belong to the last hit. -/
def hitsFrom (p : Pattern) : Option Char → Nat → Nat → List Char → List Hit
  | _, _, _, [] => []
  | _, offset, skip + 1, c :: rest => p.hitsFrom (some c) (offset + 1) skip rest
  | before, offset, 0, c :: rest =>
    match p.firstOutcome? ⟨before, c :: rest, offset, none⟩ with
    | none => p.hitsFrom (some c) (offset + 1) 0 rest
    | some d =>
      if offset < d.offset then
        ⟨offset, d.offset, d.marked⟩ ::
          p.hitsFrom (some c) (offset + 1) (d.offset - offset - 1) rest
      else p.hitsFrom (some c) (offset + 1) 0 rest

/-- The hits of a pattern in a text, from left to right. -/
def hits (p : Pattern) (t : List Char) : List Hit := p.hitsFrom none 0 0 t

/-- The number of hits of a pattern in a text. -/
def countHits (p : Pattern) (t : List Char) : Nat := (p.hits t).length

/-- Whether a pattern matches at the beginning of a text. -/
def matchesStart (p : Pattern) (t : List Char) : Bool := (p.firstOutcome? (.ofText t)).isSome

/-- The rest of a text from `offset` on, with `s` put in front of each place in `starts`. -/
def putAt (s : List Char) : List Nat → Nat → List Char → List Char
  | _, _, [] => []
  | [], _, t => t
  | start :: starts, offset, c :: rest =>
    if start = offset then s ++ c :: putAt s starts (offset + 1) rest
    else c :: putAt s (start :: starts) (offset + 1) rest

/-- The text with the given characters put in front of each hit. -/
def putBefore (p : Pattern) (s t : List Char) : List Char := putAt s ((p.hits t).map (·.start)) 0 t

end Pattern

end SourceGrade
