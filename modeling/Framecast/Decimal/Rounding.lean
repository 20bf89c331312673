/-!
# Rounding quotients

Rounding a quotient of natural numbers to the nearest integer, with a half going
to the even neighbour.
-/

namespace Framecast.Decimal

/-- The integer nearest to `num / den`; a half goes to the even neighbour. -/
def roundHalfEven (num den : Nat) : Nat :=
  let quotient := num / den
  let twice := 2 * (num % den)
  if twice < den ∨ (twice = den ∧ quotient % 2 = 0) then quotient else quotient + 1

end Framecast.Decimal
