import Framecast.Decimal.Layout

/-!
# Reading decimal numbers

A number literal is an optional sign followed by digits with an optional point
and an optional exponent, or one of the words `inf`, `infinity` and `nan` in any
case.  It denotes the double nearest to its value.
-/

namespace Framecast.Decimal

/-- A double: a signed number, an infinity, or no number at all. -/
inductive Double where
  | finite (negative : Bool) (magnitude : Dyadic)
  | infinite (negative : Bool)
  | nan
deriving Repr, DecidableEq

namespace Double

/-- The positional text of a double, with the fewest digits that read back; halfway
between two decimals it is the one further from zero. -/
def text : Double → String
  | .finite negative x =>
      (if negative then "-" else "") ++ (Digits.shortest .away x).positional
  | .infinite negative => if negative then "-inf" else "inf"
  | .nan => "NaN"

/-- A signed magnitude; one that is too large becomes infinite. -/
def ofMagnitude (negative : Bool) (x : Dyadic) : Double :=
  if x.overflows then .infinite negative else .finite negative x

def ofDecimal (negative : Bool) (digits : Nat) (exponent : Int) : Double :=
  let width : Int := (Nat.toDigits 10 digits).length
  if digits = 0 ∨ width + exponent < -400 then .finite negative .zero
  else if 400 < width + exponent then .infinite negative
  else
    ofMagnitude negative
      (.nearest (digits * 10 ^ exponent.toNat) (10 ^ (-exponent).toNat))

def inUnitInterval : Double → Bool
  | .finite negative x =>
      x.mantissa = 0 ∨ (negative = false ∧ x.numerator ≤ x.denominator)
  | _ => false

end Double

def splitSign : List Char → Bool × List Char
  | '-' :: rest => (true, rest)
  | '+' :: rest => (false, rest)
  | text => (false, text)

/-- The exponent part of a literal: nothing, or `e` with a signed number. -/
def exponentPart? : List Char → Option Int
  | [] => some 0
  | mark :: rest =>
      if mark = 'e' ∨ mark = 'E' then
        let (negative, digits) := splitSign rest
        (Text.digitsValue? digits).map fun n => if negative then -(n : Int) else n
      else none

/-- Digits with an optional point and exponent, as a double of the given sign. -/
def unsignedLiteral? (negative : Bool) (text : List Char) : Option Double :=
  let whole := text.takeWhile Char.isDigit
  let afterWhole := text.dropWhile Char.isDigit
  let (fraction, rest) := match afterWhole with
    | '.' :: tail => (tail.takeWhile Char.isDigit, tail.dropWhile Char.isDigit)
    | tail => ([], tail)
  do
    let exponent ← exponentPart? rest
    let digits ← Text.digitsValue? (whole ++ fraction)
    some (Double.ofDecimal negative digits (exponent - fraction.length))

def double? (text : String) : Option Double :=
  let (negative, body) := splitSign text.toList
  let word := String.ofList (body.map Char.toLower)
  if word = "inf" ∨ word = "infinity" then some (.infinite negative)
  else if word = "nan" then some .nan
  else unsignedLiteral? negative body

end Framecast.Decimal
