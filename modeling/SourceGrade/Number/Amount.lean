import SourceGrade.Number.Digits
import SourceGrade.Number.Double

set_option autoImplicit false

/-!
# Numbers that may be too large

An integer has no bound, but a double has one, and so has the number of digits that an integer is
written with. What divides integers or writes them fails beyond these bounds. An `Amount` is a
number that may be given as an integer where a double is meant.
-/

namespace SourceGrade

namespace Number

/-- Why a number cannot be computed or written. -/
inductive Fault where
  /-- A double cannot hold it. -/
  | overflow
  /-- It has more digits than an integer is written with. -/
  | tooManyDigits
  deriving DecidableEq, Repr

/-- The quotient of two integers, if a double can hold it, and zero where the divisor is zero. -/
def divide (a b : Int) : Except Fault Rat :=
  if quotientFits a b then .ok (quotient a b) else .error .overflow

/-- What keeps an integer from being written in decimal digits. -/
def writingFault? (n : Int) : Option Fault :=
  if n.natAbs < power 10 maxDigits then none else some .tooManyDigits

end Number

/-- A number that is given as an integer or as a double. -/
inductive Amount where
  | whole (n : Int)
  | double (x : Double)
  deriving DecidableEq, Repr

namespace Amount

/-- The number, if it is finite. -/
def toRat? : Amount → Option Rat
  | whole n => some n
  | double x => x.toRat?

/-- Whether the number is greater than a limit. An integer is compared as it is. -/
def exceeds (a : Amount) (limit : Rat) : Bool :=
  match a with
  | whole n => limit < n
  | double x => x.exceeds limit

/-- Whether the number is less than a limit. -/
def isBelow (a : Amount) (limit : Rat) : Bool :=
  match a with
  | whole n => n < limit
  | double x => x.isBelow limit

/-- The number as a double. An integer that is too large for one is infinite. -/
def toDouble : Amount → Double
  | whole n => .ofRat n
  | double x => x

/-- The number written with a fixed count of decimal places. It is written as a double. -/
def fixed (places : Nat) (a : Amount) : String := a.toDouble.fixed places

/-- What keeps the number from being written with decimal places. -/
def fixedFault? : Amount → Option Number.Fault
  | whole n => if Number.overflows n then some .overflow else none
  | double _ => none

end Amount

end SourceGrade
