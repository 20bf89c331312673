import Framecast.Toml.Lexeme
import Framecast.Toml.Value

/-!
# Numbers, dates and times

Dates and times are checked and then forgotten.  Integers have 64 bits; they may
be written in base two, eight, ten or sixteen, with single underscores between
digits.
-/

namespace Framecast.Toml

def fixedNumber? (width : Nat) (input : Input) : Option (Nat × Input) :=
  let digits := input.take width
  if digits.length = width then
    (Text.digitsValue? digits).map fun value => (value, input.drop width)
  else none

def expect? (c : Char) : Input → Option Input
  | d :: rest => if c = d then some rest else none
  | [] => none

def daysIn (year month : Nat) : Nat :=
  if month = 2 then
    if year % 4 = 0 ∧ (year % 100 ≠ 0 ∨ year % 400 = 0) then 29 else 28
  else if month = 4 ∨ month = 6 ∨ month = 9 ∨ month = 11 then 30
  else 31

def date? (input : Input) : Option Input := do
  let (year, rest) ← fixedNumber? 4 input
  let rest ← expect? '-' rest
  let (month, rest) ← fixedNumber? 2 rest
  let rest ← expect? '-' rest
  let (day, rest) ← fixedNumber? 2 rest
  if 1 ≤ month ∧ month ≤ 12 ∧ 1 ≤ day ∧ day ≤ daysIn year month then some rest else none

def hour? (input : Input) : Option Input := do
  let (hour, rest) ← fixedNumber? 2 input
  if hour ≤ 23 then expect? ':' rest else none

/-- What follows the hour of a time: minutes, seconds, and a fraction. -/
def afterHour? (input : Input) : Option Input := do
  let (minute, rest) ← fixedNumber? 2 input
  let rest ← expect? ':' rest
  let (second, rest) ← fixedNumber? 2 rest
  if 59 < minute ∨ 60 < second then none
  else
    match rest with
    | '.' :: tail =>
        let digits := tail.takeWhile Char.isDigit
        some (if digits = [] then rest else tail.drop digits.length)
    | _ => some rest

def offset? (input : Input) : Option Input :=
  match input with
  | c :: rest =>
      if c = 'Z' ∨ c = 'z' then some rest
      else if c = '+' ∨ c = '-' then do
        let rest ← hour? rest
        let (minute, rest) ← fixedNumber? 2 rest
        if minute ≤ 59 then some rest else none
      else some input
  | [] => some []

def timeAfterDate? (input : Input) : Option Input :=
  match input with
  | c :: rest =>
      if c = 'T' ∨ c = 't' ∨ c = ' ' then
        match hour? rest with
        | none => some input
        | some rest => do
            let rest ← afterHour? rest
            offset? rest
      else some input
  | [] => some []

/-- Whether the input starts like a date, with a year and a hyphen. -/
def startsDate (input : Input) : Bool :=
  ((fixedNumber? 4 input).bind fun found => expect? '-' found.2).isSome

/-- Digits of the given kind with single underscores between them. -/
def underscored? (isDigit : Char → Bool) : Nat → Input → Option (List Char × Input)
  | 0, _ => none
  | limit + 1, input =>
      match input with
      | c :: rest =>
          if isDigit c then
            match rest with
            | '_' :: more => do
                let (digits, rest) ← underscored? isDigit limit more
                some (c :: digits, rest)
            | d :: _ =>
                if isDigit d then do
                  let (digits, rest) ← underscored? isDigit limit rest
                  some (c :: digits, rest)
                else some ([c], rest)
            | [] => some ([c], [])
          else none
      | [] => none

/-- Decimal digits with single underscores between them. -/
def decimals? (input : Input) : Option (List Char × Input) :=
  underscored? Char.isDigit (input.length + 1) input

/-- Digits of a whole number: a single zero, or no leading zero. -/
def wholeDigits? (input : Input) : Option (List Char × Input) :=
  match input with
  | '0' :: rest => some (['0'], rest)
  | _ => decimals? input

def fraction? : Input → Option (List Char × Input)
  | '.' :: rest => decimals? rest
  | input => some ([], input)

def exponent? (input : Input) : Option (Int × Input) :=
  match input with
  | c :: rest =>
      if c = 'e' ∨ c = 'E' then do
        let (negative, rest) := Decimal.splitSign rest
        let (digits, rest) ← decimals? rest
        let size ← Text.digitsValue? digits
        some (if negative then -(size : Int) else size, rest)
      else some (0, input)
  | [] => some (0, [])

def ofInt64? (n : Int) : Option Value :=
  if Int64.minValue.toInt ≤ n ∧ n ≤ Int64.maxValue.toInt then some (.integer n) else none

def based? (base : Nat) (input : Input) : Option (Value × Input) := do
  let isDigit := fun c => (Text.hexValue? c).any (· < base)
  let (digits, rest) ← underscored? isDigit (input.length + 1) input
  let values ← digits.mapM Text.hexValue?
  let value ← ofInt64? (values.foldl (fun n digit => base * n + digit) 0 : Nat)
  some (value, rest)

def word? (word : String) (input : Input) : Option Input :=
  let letters := word.toList
  if letters.isPrefixOf input then some (input.drop letters.length) else none

def decimal? (input : Input) : Option (Value × Input) :=
  let (negative, body) := Decimal.splitSign input
  match word? "inf" body, word? "nan" body with
  | some rest, _ => some (.real (.infinite negative), rest)
  | none, some rest => some (.real .nan, rest)
  | none, none => do
      let (whole, afterWhole) ← wholeDigits? body
      let (fraction, afterFraction) ← fraction? afterWhole
      let (exponent, rest) ← exponent? afterFraction
      let digits ← Text.digitsValue? (whole ++ fraction)
      if afterWhole.length = rest.length then do
        let value ← ofInt64? (if negative then -(digits : Int) else digits)
        some (value, rest)
      else
        let real := Decimal.Double.ofDecimal negative digits (exponent - fraction.length)
        if real = .infinite false then none else some (.real real, rest)

def scalar? (input : Input) : Option (Value × Input) :=
  if startsDate input then do
    let rest ← date? input
    let rest ← timeAfterDate? rest
    some (.moment, rest)
  else
    match hour? input with
    | some rest => (afterHour? rest).map fun rest => (.moment, rest)
    | none =>
        match input with
        | '0' :: 'x' :: rest => based? 16 rest
        | '0' :: 'o' :: rest => based? 8 rest
        | '0' :: 'b' :: rest => based? 2 rest
        | _ => decimal? input

end Framecast.Toml
