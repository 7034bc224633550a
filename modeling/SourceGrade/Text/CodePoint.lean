set_option autoImplicit false

/-!
# Code points

Characters past the first 65536 are written as a pair of units of two bytes, each of which stands
for no character by itself. Documents may hold half a pair all the same, and so may the texts that
are read from them: they are sequences of code points, which are characters or halves of pairs. Such
a text has bytes only if all its code points are characters.
-/

namespace SourceGrade.Text

/-- A code point. -/
inductive CodePoint where
  | char (c : Char)
  /-- Half a pair, counted from the first one. -/
  | half (index : Fin 0x800)
  deriving DecidableEq, Repr

namespace CodePoint

/-- The number of the first half of a pair. -/
def firstHalf : Nat := 0xD800

/-- The code point with a number. -/
def ofNat (n : Nat) : CodePoint :=
  if h : firstHalf ≤ n ∧ n < firstHalf + 0x800 then
    half ⟨n - firstHalf, Nat.sub_lt_left_of_lt_add h.1 h.2⟩
  else char (Char.ofNat n)

/-- The character, if it is one. -/
def char? : CodePoint → Option Char
  | char c => some c
  | half _ => none

end CodePoint

/-- A text that may hold halves of pairs. -/
abbrev WideText := List CodePoint

namespace WideText

/-- A text of characters. -/
def ofChars (t : List Char) : WideText := t.map .char

/-- A text of characters. -/
def ofString (s : String) : WideText := ofChars s.toList

/-- Whether all code points are characters. -/
def isWhole (t : WideText) : Bool := t.all (·.char?.isSome)

/-- The characters of the text, if it is whole. -/
def chars? (t : WideText) : Option (List Char) :=
  if t.isWhole then some (t.filterMap CodePoint.char?) else none

end WideText

namespace CodeUnit

/-- Whether a unit begins a pair that stands for one character. -/
def isHigh (n : Nat) : Bool := 0xD800 ≤ n && n < 0xDC00

/-- Whether a unit ends a pair that stands for one character. -/
def isLow (n : Nat) : Bool := 0xDC00 ≤ n && n < 0xE000

/-- The character of a pair. -/
def charOfPair (high low : Nat) : Char :=
  Char.ofNat (0x10000 + (high - 0xD800) * 0x400 + (low - 0xDC00))

/-- The text that units write. -/
def decode : List Nat → WideText
  | [] => []
  | [n] => [.ofNat n]
  | high :: low :: rest =>
    if isHigh high && isLow low then .char (charOfPair high low) :: decode rest
    else .ofNat high :: decode (low :: rest)

end CodeUnit

end SourceGrade.Text
