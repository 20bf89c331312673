import Framecast.Text.Digits

/-!
# Texts of durations

A duration is a count of nanoseconds.  Its text uses the largest of the units
`s`, `ms`, `µs` and `ns` that fits at least once, with as many decimals as the
value needs and no trailing zeros.
-/

namespace Framecast.Text

/-- The decimals of `rest / 10 ^ places` without trailing zeros, after a point. -/
def fractionText (places rest : Nat) : String :=
  let digits := (padded places rest).toList
  let kept := (digits.reverse.dropWhile (· = '0')).reverse
  if kept = [] then "" else "." ++ String.ofList kept

/-- A count of `10 ^ places` nanoseconds each, with its decimals and its unit. -/
def durationIn (places : Nat) (unit : String) (nanoseconds : Nat) : String :=
  toString (nanoseconds / 10 ^ places) ++
    fractionText places (nanoseconds % 10 ^ places) ++ unit

def durationText (nanoseconds : Nat) : String :=
  if 1000000000 ≤ nanoseconds then durationIn 9 "s" nanoseconds
  else if 1000000 ≤ nanoseconds then durationIn 6 "ms" nanoseconds
  else if 1000 ≤ nanoseconds then durationIn 3 "µs" nanoseconds
  else durationIn 0 "ns" nanoseconds

end Framecast.Text
