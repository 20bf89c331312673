import Framecast.Decimal.Dyadic

/-!
# The shortest decimal of a double

The decimals that read back as a given double form an interval around it.  On
the grid of each power of ten, starting at the leading digit, the two neighbours
of the value are tried; the first grid with a neighbour in the interval gives
the digits, and of two neighbours in it the nearer is taken.  Where both are equally
near, the format that the digits are for says which one it takes.
-/

namespace Framecast.Decimal

/-- The decimal number `digits * 10 ^ exponent`. -/
structure Digits where
  digits : Nat
  exponent : Int
deriving Repr, DecidableEq

/-- Which of two equally near decimals is taken. -/
inductive Halfway where
  /-- The one with the even last digit. -/
  | toEven
  /-- The one further from zero. -/
  | away
deriving Repr, DecidableEq

def Halfway.takesLower (halfway : Halfway) (digits : Nat) : Bool :=
  match halfway with
  | .toEven => digits % 2 == 0
  | .away => false

/-- How `a * 10 ^ i` compares with `b * 2 ^ j`. -/
def compareScaled (a : Nat) (i : Int) (b : Nat) (j : Int) : Ordering :=
  compare (a * 10 ^ i.toNat * 2 ^ (-j).toNat) (b * 2 ^ j.toNat * 10 ^ (-i).toNat)

namespace Dyadic

/-- Whether a decimal lies among the numbers that round to `x`. -/
def readsBack (x : Dyadic) (d : Digits) : Bool :=
  let narrow := x.mantissa = 2 ^ (52 : Nat) ∧ -1074 < x.exponent
  let low := if narrow then 4 * x.mantissa - 1 else 4 * x.mantissa - 2
  let high := 4 * x.mantissa + 2
  let closed := x.mantissa % 2 = 0
  let fromLow := compareScaled d.digits d.exponent low (x.exponent - 2)
  let fromHigh := compareScaled d.digits d.exponent high (x.exponent - 2)
  (fromLow == .gt || (closed && fromLow == .eq)) &&
    (fromHigh == .lt || (closed && fromHigh == .eq))

/-- The least `k` from `start` on, within `tries` steps, with `x < 10 ^ k`. -/
def scaleFrom (x : Dyadic) : Nat → Int → Int
  | 0, start => start
  | tries + 1, start =>
      if compareScaled 1 start x.mantissa x.exponent == .gt then start
      else scaleFrom x tries (start + 1)

/-- The number of digits before the decimal point, negative for small values. -/
def decimalScale (x : Dyadic) : Int :=
  let binary : Int := x.mantissa.log2 + x.exponent
  scaleFrom x 4 (binary * 30103 / 100000 - 1)

/-- The multiples of `10 ^ grid` next to `x`, as far as they read back, the nearer first. -/
def neighbours (halfway : Halfway) (x : Dyadic) (grid : Int) : List Digits :=
  let below :=
    x.mantissa * 2 ^ x.exponent.toNat * 10 ^ (-grid).toNat /
      (2 ^ (-x.exponent).toNat * 10 ^ grid.toNat)
  let lower : Digits := ⟨below, grid⟩
  let upper : Digits := ⟨below + 1, grid⟩
  let order := compareScaled (2 * below + 1) grid (2 * x.mantissa) x.exponent
  let lowerFirst := order == .gt || (order == .eq && halfway.takesLower below)
  (if lowerFirst then [lower, upper] else [upper, lower]).filter x.readsBack

end Dyadic

namespace Digits

/-- The same number without trailing zeros, at most `limit` of them. -/
def strip : Nat → Digits → Digits
  | 0, d => d
  | limit + 1, d =>
      if d.digits ≠ 0 ∧ d.digits % 10 = 0 then
        strip limit ⟨d.digits / 10, d.exponent + 1⟩
      else d

def exact (x : Dyadic) : Digits :=
  if 0 ≤ x.exponent then ⟨x.mantissa * 2 ^ x.exponent.toNat, 0⟩
  else ⟨x.mantissa * 5 ^ (-x.exponent).toNat, x.exponent⟩

/-- The fewest digits that read back as `x`. -/
def shortest (halfway : Halfway) (x : Dyadic) : Digits :=
  if x.mantissa = 0 then ⟨0, 0⟩
  else
    let scale := x.decimalScale
    let found := (List.range 17).findSome? fun (n : Nat) =>
      (x.neighbours halfway (scale - ((n : Int) + 1))).head?
    match found with
    | some d => d.strip 20
    | none => exact x

end Digits

end Framecast.Decimal
