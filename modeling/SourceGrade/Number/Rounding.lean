import SourceGrade.Number.Total

set_option autoImplicit false

/-!
# Rounding

Numbers are rational. A number that is reported has been rounded to the nearest value that a
double precision number can hold, and a tie goes to the even neighbour; `nearestDouble` is that
rounding. `roundTo` and `fixed` round to a number of decimal places, again with ties to even, and
`fixed` writes the result.
-/

namespace SourceGrade.Number

/-- The nearest integer, and of two equally near ones the even one. -/
def halfEven (q : Rat) : Int :=
  let below := q.floor
  let rest := q - below
  if rest < 1 / 2 then below
  else if 1 / 2 < rest then below + 1
  else if below % 2 = 0 then below
  else below + 1

/-- A power of two. -/
def twoPow (e : Int) : Rat :=
  if 0 ≤ e then (power 2 e.toNat : Rat) else 1 / (power 2 (-e).toNat : Rat)

/-- A power of ten. -/
def tenPow (e : Int) : Rat :=
  if 0 ≤ e then (power 10 e.toNat : Rat) else 1 / (power 10 (-e).toNat : Rat)

/-- The distance from zero. -/
def magnitude (q : Rat) : Rat := if q < 0 then -q else q

/-- The exponent of the largest power of two that a positive number reaches. -/
def floorLogTwo (q : Rat) : Int :=
  let e : Int := (Nat.log2 q.num.natAbs : Int) - (Nat.log2 q.den : Int)
  if twoPow e ≤ q then e else e - 1

/-- The nearest number with a significand of 53 bits and an exponent of at least -1074, and of two
equally near ones the one with the even significand. -/
def nearestDouble (q : Rat) : Rat :=
  if q = 0 then 0
  else
    let e := max (floorLogTwo (magnitude q) - 52) (-1074)
    halfEven (q / twoPow e) * twoPow e

/-- Whether a number is too large for a double. -/
def overflows (q : Rat) : Bool := twoPow 1024 ≤ magnitude (nearestDouble q)

/-- The quotient of two integers as a double, and zero where the divisor is zero. -/
def quotient (a b : Int) : Rat := nearestDouble ((a : Rat) / (b : Rat))

/-- Whether a double can hold the quotient of two integers. -/
def quotientFits (a b : Int) : Bool := !overflows ((a : Rat) / (b : Rat))

/-- The part of a quotient in percent, which is rounded once as a quotient and once more as a
percentage. -/
def percent (a b : Int) : Rat := nearestDouble (quotient a b * 100)

/-- The integer that is nearest to a number on the side of zero. -/
def truncate (q : Rat) : Int := if q < 0 then -(-q).floor else q.floor

/-- The number rounded to decimal places. -/
def roundTo (places : Nat) (q : Rat) : Rat :=
  nearestDouble ((halfEven (q * tenPow places) : Rat) / tenPow places)

/-- The decimal digits of a natural number, with zeros in front up to a width. -/
def padded (width : Nat) (n : Nat) : List Char :=
  let digits := Nat.toDigits 10 n
  List.replicate (width - digits.length) '0' ++ digits

/-- The number written with a fixed count of decimal places. A negative number keeps its sign even
where all its digits are zero. -/
def fixed (places : Nat) (q : Rat) : String :=
  let units := (halfEven (magnitude q * tenPow places)).toNat
  let whole := Nat.toDigits 10 (units / power 10 places)
  let decimals := if places = 0 then [] else '.' :: padded places (units % power 10 places)
  String.ofList ((if q < 0 then ['-'] else []) ++ whole ++ decimals)

/-- Digits with a comma after each group of three, counted from the end and given last digit
first. -/
def groupThrees : List Char → List Char
  | a :: b :: c :: d :: rest => a :: b :: c :: ',' :: groupThrees (d :: rest)
  | short => short

/-- An integer with its digits in groups of three. -/
def grouped (n : Int) : String :=
  String.ofList
    ((if n < 0 then ['-'] else []) ++ (groupThrees (Nat.toDigits 10 n.natAbs).reverse).reverse)

end SourceGrade.Number
