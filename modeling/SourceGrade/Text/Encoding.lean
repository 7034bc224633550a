import SourceGrade.Text.CodePoint
import SourceGrade.Text.Utf8

set_option autoImplicit false

/-!
# Encodings of texts

The bytes of a document begin with ASCII characters, so the zeros among its first bytes tell how it
is encoded. `Encoding.guess` looks at them, and `Encoding.decode?` reads bytes accordingly.
-/

namespace SourceGrade.Text

/-- How a text is written as bytes. -/
inductive Encoding where
  /-- In one to four bytes for a character. -/
  | utf8
  /-- In units of two bytes. -/
  | utf16 (highFirst : Bool)
  /-- In four bytes for a character. -/
  | utf32 (highFirst : Bool)
  deriving DecidableEq, Repr

namespace Encoding

/-- The encoding of a text that begins with the given bytes. -/
def guess : List UInt8 → Encoding
  | [a, b] => if a = 0 then utf16 true else if b = 0 then utf16 false else utf8
  | a :: b :: c :: d :: _ =>
    if a = 0 then if b = 0 then utf32 true else utf16 true
    else if b = 0 then if c = 0 ∧ d = 0 then utf32 false else utf16 false
    else utf8
  | _ => utf8

/-- The number that bytes write, the highest one first if `highFirst` says so. -/
def unit (highFirst : Bool) (bytes : List UInt8) : Nat :=
  (if highFirst then bytes else bytes.reverse).foldl (fun n b => 0x100 * n + b.toNat) 0

/-- The numbers that pairs of bytes write. No byte may be left. -/
def pairs? (highFirst : Bool) : List UInt8 → Option (List Nat)
  | [] => some []
  | a :: b :: rest => (pairs? highFirst rest).map (unit highFirst [a, b] :: ·)
  | _ => none

/-- The numbers that groups of four bytes write. No byte may be left. -/
def quads? (highFirst : Bool) : List UInt8 → Option (List Nat)
  | [] => some []
  | a :: b :: c :: d :: rest => (quads? highFirst rest).map (unit highFirst [a, b, c, d] :: ·)
  | _ => none

/-- The largest code point. -/
def lastCodePoint : Nat := 0x10FFFF

/-- The text that bytes write, if they write one. -/
def decode? (e : Encoding) (bytes : List UInt8) : Option WideText :=
  match e with
  | utf8 => some (.ofChars (Utf8.decode bytes))
  | utf16 highFirst => (pairs? highFirst bytes).map CodeUnit.decode
  | utf32 highFirst =>
    match quads? highFirst bytes with
    | some points =>
      if points.all (· ≤ lastCodePoint) then some (points.map CodePoint.ofNat) else none
    | none => none

end Encoding

end SourceGrade.Text
