import Mathlib.Algebra.Ring.Nat

/-!
# Arithmetic that may go wrong

A product that does not fit its type and a division by zero have no result, so a program
whose arithmetic is written with these operations has a result exactly when none of its
products overflows and none of its divisors is zero.
-/

namespace EmaczZephyr.Checked

/-- A product in an unsigned type of `width` bits, with no result where it does not fit. -/
def mul (width left right : Nat) : Option Nat :=
  if left * right < 2 ^ width then some (left * right) else none

/-- A quotient of natural numbers, with no result where the divisor is zero. -/
def div (left right : Nat) : Option Nat :=
  if right = 0 then none else some (left / right)

/-- A product below `2 ^ width` is the product of the natural numbers. -/
theorem mul_fits {width left right : Nat} (fits : left * right < 2 ^ width) :
    mul width left right = some (left * right) :=
  if_pos fits

/-- A quotient by a positive divisor is the quotient of the natural numbers. -/
theorem div_positive {left right : Nat} (positive : 0 < right) :
    div left right = some (left / right) :=
  if_neg (Nat.ne_of_gt positive)

end EmaczZephyr.Checked
