import Framecast.Decimal.Shortest
import Framecast.Text.Digits

/-!
# Texts of decimal numbers

Three layouts: positional without a superfluous point, the number form of an
indented report (positional near one, otherwise with a signed exponent), and a
fixed count of places.
-/

namespace Framecast.Decimal

namespace Digits

def leadingExponent (d : Digits) : Int :=
  (Nat.toDigits 10 d.digits).length + d.exponent - 1

/-- Positional text, with a point only in front of decimals. -/
def positional (d : Digits) : String :=
  let digits := Nat.toDigits 10 d.digits
  if 0 ≤ d.exponent then
    String.ofList (digits ++ List.replicate d.exponent.toNat '0')
  else
    let places := (-d.exponent).toNat
    let full := List.replicate (places + 1 - digits.length) '0' ++ digits
    let whole := full.take (full.length - places)
    let fraction := full.drop (full.length - places)
    String.ofList (whole ++ '.' :: fraction)

/-- Leading digit, further digits after a point, and the exponent with its sign. -/
def scientific (d : Digits) : String :=
  let exponent := d.leadingExponent
  let sign := if exponent < 0 then "e-" else "e+"
  let mantissa := match Nat.toDigits 10 d.digits with
    | [] => []
    | [digit] => [digit]
    | digit :: rest => digit :: '.' :: rest
  String.ofList mantissa ++ sign ++ toString exponent.natAbs

/--
Positional text from `1e-5` up to, not including, `1e16`, always with a decimal;
the exponent form outside.
-/
def reportText (d : Digits) : String :=
  if d.digits = 0 then "0.0"
  else if -5 ≤ d.leadingExponent ∧ d.leadingExponent ≤ 15 then
    if 0 ≤ d.exponent then d.positional ++ ".0" else d.positional
  else d.scientific

end Digits

namespace Dyadic

/-- The text with exactly two decimals, nearest to the exact value, halves to even. -/
def twoPlaces (x : Dyadic) : String :=
  let hundredths := roundHalfEven (100 * x.numerator) x.denominator
  toString (hundredths / 100) ++ "." ++ Text.padded 2 (hundredths % 100)

end Dyadic

end Framecast.Decimal
