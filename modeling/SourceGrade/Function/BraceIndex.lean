import SourceGrade.Sorted
import Std.Data.HashMap

set_option autoImplicit false

/-!
# Depth of braces

The depth at an offset is the number of opening braces before it less the number of closing ones,
so it falls below zero where a text closes more than it opened. `BraceIndex` is built in one pass
and finds the closing brace of a body without walking the body.
-/

namespace SourceGrade

/-- What a character adds to the depth of braces. -/
def braceStep (c : Char) : Int :=
  if c = '{' then 1 else if c = '}' then -1 else 0

/-- The braces of a text with the depth after each of them. -/
structure BraceIndex where
  /-- The offsets of all braces, in ascending order. -/
  offsets : Array Nat := #[]
  /-- The depth just after each brace. -/
  depths : Array Int := #[]
  /-- The offsets of the opening braces, in ascending order. -/
  openers : Array Nat := #[]
  /-- The offsets of the closing braces that bring the depth to a value, in ascending order. -/
  closers : Std.HashMap Int (Array Nat) := {}
  /-- The depth after all braces. -/
  depth : Int := 0

namespace BraceIndex

/-- The index with one more opening brace at its end. -/
def addOpener (ix : BraceIndex) (offset : Nat) : BraceIndex :=
  let depth := ix.depth + 1
  { ix with
    offsets := ix.offsets.push offset
    depths := ix.depths.push depth
    openers := ix.openers.push offset
    depth }

/-- The index with one more closing brace at its end. -/
def addCloser (ix : BraceIndex) (offset : Nat) : BraceIndex :=
  let depth := ix.depth - 1
  { ix with
    offsets := ix.offsets.push offset
    depths := ix.depths.push depth
    closers := ix.closers.insert depth ((ix.closers.getD depth #[]).push offset)
    depth }

/-- The index of a text that is longer by one character. -/
def add (ix : BraceIndex) (p : Char × Nat) : BraceIndex :=
  if p.1 = '{' then ix.addOpener p.2
  else if p.1 = '}' then ix.addCloser p.2
  else ix

/-- The braces of a text. -/
def ofText (t : List Char) : BraceIndex := t.zipIdx.foldl add {}

/-- The depth of the braces before an offset. -/
def depthBefore (ix : BraceIndex) (offset : Nat) : Int :=
  match Sorted.lowerBound ix.offsets offset with
  | 0 => 0
  | k + 1 => ix.depths.getD k 0

/-- The closing brace that brings the depth back to its value at `start`, after the first opening
brace from there on. Both braces lie before `stop`. -/
def closing? (ix : BraceIndex) (start stop : Nat) : Option Nat :=
  match ix.openers[Sorted.lowerBound ix.openers start]? with
  | none => none
  | some opener =>
    if opener < stop then
      let closers := ix.closers.getD (ix.depthBefore start) #[]
      match closers[Sorted.upperBound closers opener]? with
      | none => none
      | some closer => if closer < stop then some closer else none
    else none

end BraceIndex

end SourceGrade
