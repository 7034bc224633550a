import SourceGrade.Number.Digits
import SourceGrade.Number.Rounding

set_option autoImplicit false

/-!
# Double precision numbers as data

Documents may hold numbers that are infinite or undefined. `Double` has them beside the finite ones,
and `Double.text` writes the shortest decimal number that reads back to the same value.
-/

namespace SourceGrade

/-- A number as a document may hold it. -/
inductive Double where
  /-- A finite number, which is one that a double precision number can hold. -/
  | finite (q : Rat)
  /-- The zero that is written with a minus sign. -/
  | minusZero
  | infinite (negative : Bool)
  | undefined
  deriving DecidableEq, Repr

namespace Double

/-- The double precision number that is nearest to a rational number. A number that is too large is
infinite. -/
def ofRat (q : Rat) : Double :=
  if Number.overflows q then .infinite (q < 0) else .finite (Number.nearestDouble q)

/-- The number without the sign of a zero, if it is finite. -/
def toRat? : Double → Option Rat
  | finite q => some q
  | minusZero => some 0
  | _ => none

/-- Whether the number is zero. -/
def isZero (x : Double) : Bool := x.toRat? == some 0

/-- The negative of a number. -/
def negate : Double → Double
  | finite q => if q = 0 then minusZero else finite (-q)
  | minusZero => finite 0
  | infinite negative => infinite (!negative)
  | undefined => undefined

/-- The largest exponent that is not taken as infinite or as zero at once. -/
def maxExponent : Int := 5000

/-- Whether the number is greater than a limit. -/
def exceeds (x : Double) (limit : Rat) : Bool :=
  match x with
  | finite q => limit < q
  | minusZero => limit < 0
  | infinite negative => !negative
  | undefined => false

/-- Whether the number is less than a limit. -/
def isBelow (x : Double) (limit : Rat) : Bool :=
  match x with
  | finite q => q < limit
  | minusZero => 0 < limit
  | infinite negative => negative
  | undefined => false

/-- The number written with a fixed count of decimal places. -/
def fixed (places : Nat) : Double → String
  | finite q => Number.fixed places q
  | minusZero => "-" ++ Number.fixed places 0
  | infinite negative => if negative then "-inf" else "inf"
  | undefined => "nan"

/-- The double precision number with the given ASCII digits, of which the last `places` stand after
the point, times a power of ten. -/
def ofDecimal (digits : List Char) (places : Nat) (exponent : Int) : Double :=
  let n := Number.digitsValue digits
  let scale := exponent - places
  if n = 0 then finite 0
  else if maxExponent < scale then infinite false
  else if scale + digits.length < -maxExponent then finite 0
  else ofRat ((n : Rat) * Number.tenPow scale)

/-- The exponent of the largest power of ten that a positive number reaches. -/
def floorLogTen (q : Rat) : Int :=
  if 1 ≤ q then (Nat.toDigits 10 q.floor.toNat).length - 1
  else
    let k : Int := (Nat.toDigits 10 (1 / q).floor.toNat).length
    if Number.tenPow (1 - k) ≤ q then 1 - k else -k

/-- A positive decimal number: its digits as an integer, and the power of ten they are taken
times. -/
structure Decimal where
  digits : Nat
  /-- The exponent of the last digit. -/
  exponent : Int
  deriving DecidableEq, Repr

/-- The value of a decimal number. -/
def Decimal.value (d : Decimal) : Rat := (d.digits : Rat) * Number.tenPow d.exponent

/-- The decimal number of `count` digits nearest to a positive number, if it reads back to it. The
number lies between two neighbours on the grid of such decimals. -/
def decimalOf? (q : Rat) (count : Nat) : Option Decimal :=
  let exponent := floorLogTen q - (count : Int) + 1
  let below := (q / Number.tenPow exponent).floor.toNat
  let readsBack := [⟨below, exponent⟩, ⟨below + 1, exponent⟩].filter fun d : Decimal =>
    Number.nearestDouble d.value == q
  match readsBack with
  | [] => none
  | [d] => some d
  | d :: e :: _ =>
    if Number.magnitude (e.value - q) < Number.magnitude (d.value - q) then some e else some d

/-- The shortest decimal number that reads back to a positive number. Seventeen digits always
do. -/
def shortest (q : Rat) : Decimal :=
  (((List.range 17).map (· + 1)).findSome? (decimalOf? q)).getD ⟨0, 0⟩

/-- The digits of a decimal number in positional notation, `point` of them before the point. -/
def positional (digits : List Char) (point : Int) : List Char :=
  let n : Int := digits.length
  if point ≤ 0 then '0' :: '.' :: (List.replicate (-point).toNat '0' ++ digits)
  else if n ≤ point then digits ++ List.replicate (point - n).toNat '0' ++ ['.', '0']
  else digits.take point.toNat ++ '.' :: digits.drop point.toNat

/-- The digits of a decimal number in scientific notation. The exponent has a sign and at least two
digits. -/
def scientific (digits : List Char) (exponent : Int) : List Char :=
  let significand := match digits with
    | [] => []
    | [d] => [d]
    | d :: rest => d :: '.' :: rest
  significand ++ 'e' :: (if exponent < 0 then '-' else '+') :: Number.padded 2 exponent.natAbs

/-- The digits of a natural number without the zeros at their end. -/
def significantDigits (n : Nat) : List Char :=
  ((Nat.toDigits 10 n).reverse.dropWhile (· == '0')).reverse

/-- The shortest text of a positive number. It is positional where the leading digit stands between
the fourth place after the point and the sixteenth before it. -/
def positiveText (q : Rat) : List Char :=
  let d := shortest q
  let all := Nat.toDigits 10 d.digits
  let point := d.exponent + all.length
  let digits := significantDigits d.digits
  if -4 < point ∧ point ≤ 16 then positional digits point else scientific digits (point - 1)

/-- The shortest text of a number that reads back to it. -/
def text : Double → String
  | finite q =>
    if q = 0 then "0.0"
    else if q < 0 then String.ofList ('-' :: positiveText (-q))
    else String.ofList (positiveText q)
  | minusZero => "-0.0"
  | infinite true => "-inf"
  | infinite false => "inf"
  | undefined => "nan"

end Double

end SourceGrade
