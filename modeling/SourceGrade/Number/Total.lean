set_option autoImplicit false

/-!
# Totals and powers

Sums of lists of numbers, and powers of natural numbers, as the measures use them. `total` and
`signedTotal` are equal to `List.sum`, and `power` is equal to `^`; they are named here so that
what a measure means does not depend on which algebraic structure the numbers are seen in.
-/

namespace SourceGrade.Number

/-- The sum of natural numbers. -/
def total (ns : List Nat) : Nat := ns.foldr (fun n sum => n + sum) 0

@[simp] theorem total_nil : total [] = 0 := rfl

@[simp] theorem total_cons (n : Nat) (ns : List Nat) : total (n :: ns) = n + total ns := rfl

/-- The sum of integers. -/
def signedTotal (ns : List Int) : Int := ns.foldr (fun n sum => n + sum) 0

@[simp] theorem signedTotal_nil : signedTotal [] = 0 := rfl

@[simp] theorem signedTotal_cons (n : Int) (ns : List Int) :
    signedTotal (n :: ns) = n + signedTotal ns := rfl

/-- The product of `count` copies of a number. -/
def power (base count : Nat) : Nat := Nat.pow base count

end SourceGrade.Number
