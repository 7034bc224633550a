set_option autoImplicit false

/-!
# Blank characters

The blank characters are those of the bidirectional types B, S and WS and of the category Zs: the
spaces, tabs and line ends of Unicode with the four information separators. Trimming and splitting
into fields go by them. Around a number the information separators are not passed over.
-/

namespace SourceGrade.Text

/-- A character that separates words and carries no ink. -/
def isBlank (c : Char) : Bool :=
  let n := c.toNat
  (9 ≤ n && n ≤ 13) || (28 ≤ n && n ≤ 32) || n == 0x85 || n == 0xA0 || n == 0x1680 ||
    (0x2000 ≤ n && n ≤ 0x200A) || n == 0x2028 || n == 0x2029 || n == 0x202F || n == 0x205F ||
    n == 0x3000

/-- A blank that is not an information separator. Only such blanks may stand around a number. -/
def isSpace (c : Char) : Bool := isBlank c && !(28 ≤ c.toNat && c.toNat ≤ 31)

/-- The text from its first character that `drop` refuses to its last one. -/
def trimBy (drop : Char → Bool) (t : List Char) : List Char :=
  ((t.dropWhile drop).reverse.dropWhile drop).reverse

/-- The text without the blanks at both ends. -/
def trim (t : List Char) : List Char := trimBy isBlank t

/-- The text without the blanks at both ends that may stand around a number. -/
def trimSpaces (t : List Char) : List Char := trimBy isSpace t

/-- The field that is being read and the complete fields after it, for a text read from its end. -/
def addToFields (c : Char) : List Char × List (List Char) → List Char × List (List Char)
  | (field, fields) =>
    if isBlank c then
      ([], if field.isEmpty then fields else field :: fields)
    else (c :: field, fields)

/-- The maximal runs of characters that are not blank, in order. -/
def fields (t : List Char) : List (List Char) :=
  match t.foldr addToFields ([], []) with
  | ([], rest) => rest
  | (field, rest) => field :: rest

end SourceGrade.Text
