import SourceGrade.Value.Text

set_option autoImplicit false

/-!
# Templates of messages

A message may be a template with places for arguments. A place begins with a percent sign and ends
with a letter that says how its argument is written; in between may stand the name of an argument,
flags, a width and a precision. An asterisk in the place of the width or the precision takes it from
the arguments, which are used up from left to right. A place that names an argument has that one
alone, and nothing is left for the places after it.
-/

namespace SourceGrade.Log

/-- Why a template cannot be filled in. -/
inductive TemplateError where
  /-- A place is not written to its end, or its letter is not known. -/
  | malformed
  /-- There is no argument for a place. -/
  | tooFewArguments
  /-- There are arguments without a place. -/
  | tooManyArguments
  /-- An argument cannot be written as its place asks. -/
  | unsuitable
  /-- A width or a precision is out of range. -/
  | outOfRange
  deriving DecidableEq, Repr

/-- A place for an argument. -/
structure Place where
  /-- Whether it is filled up on its right side. -/
  isLeft : Bool := false
  /-- Whether a number that is not negative has a plus sign. -/
  hasPlus : Bool := false
  /-- Whether a number that is not negative has a space in the place of a sign. -/
  hasSpace : Bool := false
  /-- Whether a number is filled up with zeros. -/
  hasZeros : Bool := false
  /-- Whether the base is shown, or the zeros at the end are kept. -/
  isAlternate : Bool := false
  /-- The least width. -/
  width : Nat := 0
  precision : Option Nat := none
  deriving DecidableEq, Repr

namespace Place

/-- The place with the flag that a character stands for. -/
def withFlag? (p : Place) : Char → Option Place
  | '-' => some { p with isLeft := true }
  | '+' => some { p with hasPlus := true }
  | ' ' => some { p with hasSpace := true }
  | '0' => some { p with hasZeros := true }
  | '#' => some { p with isAlternate := true }
  | _ => none

/-- The place with the flags at the beginning of a text, and what is left. -/
def flags (p : Place) : List Char → Place × List Char
  | [] => (p, [])
  | c :: rest =>
    match p.withFlag? c with
    | some q => flags q rest
    | none => (p, c :: rest)

/-- The name of an argument up to the parenthesis that ends it, and what is left. Parentheses within
the name, of which `depth` are open, are balanced. -/
def nameFrom : Nat → List Char → Option (List Char × List Char)
  | _, [] => none
  | depth, c :: rest =>
    if c = ')' ∧ depth = 0 then some ([], rest)
    else
      let depth := if c = '(' then depth + 1 else if c = ')' then depth - 1 else depth
      (nameFrom depth rest).map fun (name, left) => (c :: name, left)

/-- The arguments for a place that begins a text, and what is left of the text. A name in
parentheses stands for the entry of a table. -/
def supply (table : List (String × Value)) (args : List Value) (t : List Char) :
    Except TemplateError (List Value × List Char) :=
  match t with
  | '(' :: rest =>
    match nameFrom 0 rest with
    | none => .error .malformed
    | some (name, rest) =>
      match Value.find? table (String.ofList name) with
      | some v => .ok ([v], rest)
      | none => .error .unsuitable
  | _ => .ok (args, t)

/-- The next argument, and those after it. -/
def next : List Value → Except TemplateError (Value × List Value)
  | [] => .error .tooFewArguments
  | v :: args => .ok (v, args)

/-- The integer that stands for a value. -/
def integerOf? : Value → Option Int
  | .int n => some n
  | .bool b => some (if b then 1 else 0)
  | _ => none

/-- The next argument, which has to be an integer. -/
def nextInteger (args : List Value) : Except TemplateError (Int × List Value) := do
  let (v, args) ← next args
  match integerOf? v with
  | some n => pure (n, args)
  | none => .error .unsuitable

/-- The greatest width. -/
def maxWidth : Nat := 1000000000

/-- The greatest precision that can be read. -/
def maxPrecision : Nat := 2147483647

/-- A number that is at most as great as another one. -/
def within (greatest n : Nat) : Except TemplateError Nat :=
  if greatest < n then .error .outOfRange else .ok n

/-- The digits at the beginning of a text as a number, and what is left. -/
def number (t : List Char) : Nat × List Char :=
  let digits := t.takeWhile Number.isAsciiDigit
  (Number.digitsValue digits, t.drop digits.length)

/-- The place with the width at the beginning of a text, and the arguments and the text that are
left. A negative width from the arguments is one that is filled up on the right. -/
def readWidth (p : Place) (args : List Value) (t : List Char) :
    Except TemplateError (Place × List Value × List Char) :=
  match t with
  | '*' :: rest => do
    let (n, args) ← nextInteger args
    let width ← within maxWidth n.natAbs
    pure ({ p with width, isLeft := p.isLeft || n < 0 }, args, rest)
  | _ => do
    let (n, rest) := number t
    let width ← within maxWidth n
    pure ({ p with width }, args, rest)

/-- The place with the precision at the beginning of a text, and the arguments and the text that are
left. A negative precision from the arguments is zero. -/
def readPrecision (p : Place) (args : List Value) (t : List Char) :
    Except TemplateError (Place × List Value × List Char) :=
  match t with
  | '.' :: '*' :: rest => do
    let (n, args) ← nextInteger args
    let _ ← within (maxPrecision + 1) n.natAbs
    let precision ← within maxPrecision n.toNat
    pure ({ p with precision := some precision }, args, rest)
  | '.' :: rest => do
    let (n, rest) := number rest
    let precision ← within maxPrecision n
    pure ({ p with precision := some precision }, args, rest)
  | _ => .ok (p, args, t)

/-- The text without the letter for the size of a number, which does not matter. -/
def skipSize : List Char → List Char
  | 'h' :: rest => rest
  | 'l' :: rest => rest
  | 'L' :: rest => rest
  | t => t

/-- The place whose description begins a text, up to its letter, and the arguments and the text that
are left. -/
def read (table : List (String × Value)) (args : List Value) (t : List Char) :
    Except TemplateError (Place × List Value × List Char) := do
  let (args, t) ← supply table args t
  let (p, t) := flags {} t
  let (p, args, t) ← p.readWidth args t
  let (p, args, t) ← p.readPrecision args t
  pure (p, args, skipSize t)

/-- What fills up a body of a given length to the width. -/
def filling (p : Place) (length : Nat) (c : Char) : List Char :=
  List.replicate (p.width - length) c

/-- A text that is put into the place. The precision cuts it. -/
def ofText (p : Place) (s : List Char) : List Char :=
  let s := match p.precision with
    | some n => s.take n
    | none => s
  if p.isLeft then s ++ p.filling s.length ' ' else p.filling s.length ' ' ++ s

/-- The sign of a number. -/
def sign (p : Place) (negative : Bool) : List Char :=
  if negative then ['-'] else if p.hasPlus then ['+'] else if p.hasSpace then [' '] else []

/-- A number that is put into the place: its sign with what shows the base, and its digits. -/
def ofNumber (p : Place) (negative : Bool) (base digits : List Char) : List Char :=
  let front := p.sign negative ++ base
  let length := front.length + digits.length
  if p.isLeft then front ++ digits ++ p.filling length ' '
  else if p.hasZeros then front ++ p.filling length '0' ++ digits
  else p.filling length ' ' ++ front ++ digits

/-- An integer in a base that is put into the place. The precision is the least number of
digits. -/
def ofInteger (p : Place) (base : Nat) (mark : List Char) (n : Int) : List Char :=
  let digits := Nat.toDigits base n.natAbs
  let zeros := List.replicate (p.precision.getD 0 - digits.length) '0'
  p.ofNumber (n < 0) (if p.isAlternate then mark else []) (zeros ++ digits)

/-- The decimal places of a number where the place does not say. -/
def usualPrecision : Nat := 6

/-- A positive number as digits before and after the point with an exponent, and the exponent. -/
def scientificDigits (places : Nat) (q : Rat) : List Char × Int :=
  if q = 0 then (List.replicate (places + 1) '0', 0)
  else
    let exponent := Double.floorLogTen q
    let units := (Number.halfEven (q * Number.tenPow (places - exponent))).toNat
    let digits := Nat.toDigits 10 units
    if places + 1 < digits.length then (digits.take (places + 1), exponent + 1)
    else (digits, exponent)

/-- Digits with a point after the first one. -/
def pointed (digits : List Char) : List Char :=
  match digits with
  | d :: e :: rest => d :: '.' :: e :: rest
  | ds => ds

/-- The digits without the zeros at the end of their decimal places. -/
def dropZeros (digits : List Char) : List Char :=
  if digits.contains '.' then
    (((digits.reverse.dropWhile (· == '0')).dropWhile (· == '.')).reverse)
  else digits

/-- The digits with a point at their end, if they have none and the place asks for one. -/
def keepPoint (p : Place) (digits : List Char) : List Char :=
  if p.isAlternate && !digits.contains '.' then digits ++ ['.'] else digits

/-- A number that is not negative in scientific notation. -/
def scientific (p : Place) (places : Nat) (keepZeros : Bool) (q : Rat) : List Char :=
  let (digits, exponent) := scientificDigits places q
  let body := if keepZeros then pointed digits else dropZeros (pointed digits)
  p.keepPoint body ++ 'e' :: (if exponent < 0 then '-' else '+') :: Number.padded 2 exponent.natAbs

/-- A number that is not negative with as many significant digits as the precision says. -/
def general (p : Place) (q : Rat) : List Char :=
  let significant := max 1 (p.precision.getD usualPrecision)
  let (_, exponent) := scientificDigits (significant - 1) q
  if -4 ≤ exponent ∧ exponent < significant then
    let body := (Number.fixed (significant - 1 - exponent).toNat q).toList
    if p.isAlternate then p.keepPoint body else dropZeros body
  else p.scientific (significant - 1) p.isAlternate q

/-- The digits of a number that is not negative in the notation of a letter. -/
def digitsOf (p : Place) (letter : Char) (q : Rat) : List Char :=
  let places := p.precision.getD usualPrecision
  if letter = 'f' then p.keepPoint (Number.fixed places q).toList
  else if letter = 'e' then p.scientific places true q
  else p.general q

/-- A number with a point that is put into the place, in the notation of a small letter. -/
def ofDouble (p : Place) (letter : Char) (x : Double) : List Char :=
  match x with
  | .finite q => p.ofNumber (q < 0) [] (p.digitsOf letter (Number.magnitude q))
  | .minusZero => p.ofNumber true [] (p.digitsOf letter 0)
  | .infinite negative => p.ofNumber negative [] ['i', 'n', 'f']
  | .undefined => p.ofNumber false [] ['n', 'a', 'n']

/-- The number with a point that stands for a value. -/
def doubleOf? : Value → Option Double
  | .float x => some x
  | v => (integerOf? v).bind fun n => if Number.overflows n then none else some (.ofRat n)

/-- The integer that stands for a value when its fraction is dropped. -/
def truncatedOf? : Value → Option Int
  | .float x => x.toRat?.map Number.truncate
  | v => integerOf? v

/-- The character that stands for a value. -/
def charOf? : Value → Option Char
  | .text s =>
    match s.toList with
    | [c] => some c
    | _ => none
  | v => (integerOf? v).bind fun n =>
    if 0 ≤ n ∧ n.toNat.isValidChar then some (Char.ofNat n.toNat) else none

/-- A capital letter for each small letter. -/
def capitalized (t : List Char) : List Char := t.map Char.toUpper

/-- The greatest precision that a number with a point is written with. -/
def maxPlaces : Nat := 1000000

/-- The greatest precision of a letter. A text may be cut anywhere. -/
def maxPrecisionOf (letter : Char) : Nat :=
  if ['s', 'r', 'a', 'c'].contains letter then maxPrecision
  else if ['d', 'i', 'u', 'o', 'x', 'X'].contains letter then maxWidth
  else maxPlaces

/-- Whether a value can be written with the precision of the place. -/
def hasRoom (p : Place) (letter : Char) : Bool := p.precision.getD 0 ≤ maxPrecisionOf letter

/-- A value as the letter of its place asks, if it can be written so. -/
def write? (p : Place) (letter : Char) (v : Value) : Option (List Char) :=
  match letter with
  | 's' => some (p.ofText v.display.toList)
  | 'r' => some (p.ofText v.innerText.toList)
  | 'a' => some (p.ofText (Value.asciiText v.innerText.toList))
  | 'd' => (truncatedOf? v).map (p.ofInteger 10 [])
  | 'i' => (truncatedOf? v).map (p.ofInteger 10 [])
  | 'u' => (truncatedOf? v).map (p.ofInteger 10 [])
  | 'o' => (integerOf? v).map (p.ofInteger 8 ['0', 'o'])
  | 'x' => (integerOf? v).map (p.ofInteger 16 ['0', 'x'])
  | 'X' => (integerOf? v).map fun n => capitalized (p.ofInteger 16 ['0', 'x'] n)
  | 'f' => (doubleOf? v).map (p.ofDouble 'f')
  | 'F' => (doubleOf? v).map fun x => capitalized (p.ofDouble 'f' x)
  | 'e' => (doubleOf? v).map (p.ofDouble 'e')
  | 'E' => (doubleOf? v).map fun x => capitalized (p.ofDouble 'e' x)
  | 'g' => (doubleOf? v).map (p.ofDouble 'g')
  | 'G' => (doubleOf? v).map fun x => capitalized (p.ofDouble 'g' x)
  | 'c' => (charOf? v).map fun c => { p with precision := none }.ofText [c]
  | _ => none

/-- A value as the letter of its place asks. -/
def fill (p : Place) (letter : Char) (v : Value) : Except TemplateError (List Char) :=
  if !p.hasRoom letter then .error .outOfRange
  else
    match p.write? letter v with
    | some t => .ok t
    | none => .error .unsuitable

end Place

/-- The text of a template and the arguments that are left. Each round reads up to the end of one
place. -/
def fillFrom (table : List (String × Value)) :
    Nat → List Value → List Char → Except TemplateError (List Char × List Value)
  | 0, _, _ => .error .malformed
  | fuel + 1, args, t =>
    let plain := t.takeWhile (· != '%')
    match t.drop plain.length with
    | [] => .ok (plain, args)
    | _ :: '%' :: rest =>
      (fillFrom table fuel args rest).map fun (s, left) => (plain ++ '%' :: s, left)
    | _ :: rest => do
      let (place, args, rest) ← Place.read table args rest
      match rest with
      | [] => .error .malformed
      | letter :: rest =>
        let (v, args) ← Place.next args
        let filled ← place.fill letter v
        let (s, left) ← fillFrom table fuel args rest
        pure (plain ++ filled ++ s, left)

/-- The message of a template with its arguments. Without arguments it is the template itself. One
argument that is a table also gives its entries by their names, and then it may be left over. -/
def fillTemplate (t : String) (args : List Value) : Except TemplateError String :=
  match args with
  | [] => .ok t
  | [.table (e :: es)] =>
    (fillFrom (e :: es) (t.length + 1) args t.toList).map fun (s, _) => String.ofList s
  | _ => do
    let (s, left) ← fillFrom [] (t.length + 1) args t.toList
    if left.isEmpty then pure (String.ofList s) else .error .tooManyArguments

end SourceGrade.Log
