import Framecast.Decimal.Rounding

/-!
# Doubles as exact dyadic numbers

A non-negative finite double is `mantissa * 2 ^ exponent` with a mantissa below
`2 ^ 53` and an exponent of at least `-1074`.  `nearest` rounds a quotient of
natural numbers to such a number, halves to even; `bits` is its stored form.
-/

namespace Framecast.Decimal

/-- The number `mantissa * 2 ^ exponent`. -/
structure Dyadic where
  mantissa : Nat
  exponent : Int
deriving Repr, DecidableEq

namespace Dyadic

def zero : Dyadic := ⟨0, -1074⟩

/-- The numerator of the number, over `denominator`. -/
def numerator (x : Dyadic) : Nat :=
  x.mantissa * 2 ^ x.exponent.toNat

/-- The power of two that the number is a fraction of. -/
def denominator (x : Dyadic) : Nat :=
  2 ^ (-x.exponent).toNat

/-- The exponent of the greatest power of two that is at most `num / den`. -/
def floorLog2 (num den : Nat) : Int :=
  let guess : Int := (num.log2 : Int) - den.log2
  if den * 2 ^ guess.toNat ≤ num * 2 ^ (-guess).toNat then guess else guess - 1

/--
The double nearest to `num / den`, halves to even.

The exponent has no upper bound here: whoever needs the largest double compares
with it.
-/
def nearest (num den : Nat) : Dyadic :=
  if num = 0 then zero
  else
    let exponent := max (-1074) (floorLog2 num den - 52)
    let mantissa :=
      roundHalfEven (num * 2 ^ (-exponent).toNat) (den * 2 ^ exponent.toNat)
    if mantissa = 2 ^ (53 : Nat) then ⟨2 ^ (52 : Nat), exponent + 1⟩ else ⟨mantissa, exponent⟩

def ofNat (n : Nat) : Dyadic :=
  nearest n 1

def scale (factor : Nat) (x : Dyadic) : Dyadic :=
  nearest (factor * x.numerator) x.denominator

def quotient (x y : Dyadic) : Dyadic :=
  nearest (x.numerator * y.denominator) (x.denominator * y.numerator)

/-- The 64 bits in which a double of this value is stored. -/
def bits (x : Dyadic) : Nat :=
  if x.mantissa < 2 ^ (52 : Nat) then x.mantissa
  else (x.exponent + 1075).toNat * 2 ^ (52 : Nat) + (x.mantissa - 2 ^ (52 : Nat))

def overflows (x : Dyadic) : Bool :=
  decide (971 < x.exponent)

end Dyadic

end Framecast.Decimal
