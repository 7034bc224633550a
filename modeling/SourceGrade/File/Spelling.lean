import SourceGrade.File.Path
import SourceGrade.Text.CodePoint

set_option autoImplicit false

/-!
# Paths with bytes that are no text

The names of a file system are bytes. In a path, a byte that is part of no character stands as half
a pair of code units, and no other half has a meaning there. Such a path is spelled with a null
character and the character of its number for each of these bytes, so that it can be taken apart
like other paths. No other null characters can be in a path that has a meaning.
-/

namespace SourceGrade.PathText

open SourceGrade.Text

/-- Whether half a pair stands for a byte. -/
def isByteHalf (n : Nat) : Bool := 0x480 ≤ n && n < 0x500

/-- A code point of a path as it is spelled. -/
def spelledPoint? : CodePoint → Option (List Char)
  | .char c => some [c]
  | .half n =>
    if isByteHalf n.val then some ['\x00', Char.ofNat (n.val - 0x400)] else none

/-- The spelling of a path, if it has a meaning. -/
def spelling? : WideText → Option (List Char)
  | [] => some []
  | p :: rest =>
    match spelledPoint? p, spelling? rest with
    | some cs, some ds => some (cs ++ ds)
    | _, _ => none

/-- The bytes of a name that is spelled so. -/
def nameBytes : List Char → List UInt8
  | [] => []
  | '\x00' :: c :: rest => UInt8.ofNat (0x80 + c.toNat % 0x80) :: nameBytes rest
  | c :: rest => Utf8.encodeChar c ++ nameBytes rest

/-- The name with the bytes of a name that is spelled so. If they are no text, the spelling stays,
and there is nothing of that name. -/
def storedName (name : String) : String :=
  let bytes := nameBytes name.toList
  let text := Utf8.decode bytes
  if Utf8.encode text = bytes then String.ofList text else name

end SourceGrade.PathText
