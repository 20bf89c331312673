import Framecast.Text.Digits

/-!
# Internet addresses

An address is four decimal numbers with points between them, or eight groups of
hexadecimal digits with colons between them, where `::` stands for one or more
groups of zeros and the last two groups may be written as four decimal numbers.
-/

namespace Framecast.Command

/-- An internet address: four bytes, or eight groups of sixteen bits. -/
inductive Address where
  | four (octets : List Nat)
  | six (groups : List Nat)
deriving Repr, DecidableEq

namespace Address

def splitAt (separator : Char) : List Char → List (List Char)
  | [] => [[]]
  | c :: rest =>
      if c = separator then [] :: splitAt separator rest
      else
        match splitAt separator rest with
        | [] => [[c]]
        | part :: parts => (c :: part) :: parts

def octet? (text : List Char) : Option Nat := do
  let n ← Text.digitsValue? text
  if n < 256 ∧ (text.length = 1 ∨ text.head? ≠ some '0') then some n else none

def octets? (text : List Char) : Option (List Nat) :=
  let parts := splitAt '.' text
  if parts.length = 4 then parts.mapM octet? else none

def group? (text : List Char) : Option Nat := do
  let digits ← text.mapM Text.hexValue?
  if 1 ≤ digits.length ∧ digits.length ≤ 4 then
    some (digits.foldl (fun n digit => 16 * n + digit) 0)
  else none

/-- Groups with colons between them; only the last part may hold decimal numbers. -/
def groups? (decimalEnd : Bool) : List (List Char) → Option (List Nat)
  | [] => some []
  | part :: rest => do
      let here ← match group? part, rest, decimalEnd with
        | some group, _, _ => some [group]
        | none, [], true =>
            match octets? part with
            | some [a, b, c, d] => some [256 * a + b, 256 * c + d]
            | _ => none
        | none, _, _ => none
      let later ← groups? decimalEnd rest
      some (here ++ later)

/-- The text before and after the first double colon. -/
def splitDouble? : List Char → Option (List Char × List Char)
  | ':' :: ':' :: rest => some ([], rest)
  | c :: rest => (splitDouble? rest).map fun (before, after) => (c :: before, after)
  | [] => none

/-- The groups of one side of a double colon, which may be empty. -/
def sideGroups? (decimalEnd : Bool) (text : List Char) : Option (List Nat) :=
  if text = [] then some [] else groups? decimalEnd (splitAt ':' text)

def eightGroups? (text : List Char) : Option (List Nat) := do
  match splitDouble? text with
  | none =>
      let groups ← groups? true (splitAt ':' text)
      if groups.length = 8 then some groups else none
  | some (before, after) =>
      let head ← sideGroups? false before
      let tail ← sideGroups? true after
      if head.length + tail.length ≤ 7 then
        some (head ++ List.replicate (8 - head.length - tail.length) 0 ++ tail)
      else none

def parse? (text : String) : Option Address :=
  match octets? text.toList with
  | some octets => some (.four octets)
  | none => (eightGroups? text.toList).map .six

def bracketed? : List Char → Option (List Char)
  | '[' :: rest => if rest.getLast? = some ']' then some rest.dropLast else none
  | _ => none

/-- An address of eight groups, with the number of an interface after a percent sign. -/
def scoped? (text : List Char) : Option Address := do
  let groups := text.takeWhile (· ≠ '%')
  match text.drop groups.length with
  | [] => pure ()
  | _ :: scope =>
      let number ← Text.digitsValue? scope
      if number < UInt32.size then pure () else none
  (eightGroups? groups).map .six

/-- The address that an endpoint text has in front of its last colon. -/
def ofHost? (host : String) : Option Address :=
  match octets? host.toList with
  | some octets => some (.four octets)
  | none => (bracketed? host.toList).bind scoped?

inductive BindFault where
  /-- The address is of the other kind. -/
  | wrongFamily
  /-- The port is kept for services of the system. -/
  | reservedPort
deriving Repr, DecidableEq

def BindFault.message : BindFault → String
  | .wrongFamily => "Address family not supported by protocol (os error 97)"
  | .reservedPort => "Permission denied (os error 13)"

/-- Whether a port is kept for services of the system; zero asks for any free port. -/
def isReserved (udpPort : UInt16) : Bool :=
  0 < udpPort && udpPort < 1024

/-- Whether datagrams can be received on an address and a port: every address of four
bytes counts as one of the machine's own. -/
def bind (address : Address) (udpPort : UInt16) : Except BindFault Unit :=
  match address with
  | .six _ => .error .wrongFamily
  | .four _ => if isReserved udpPort then .error .reservedPort else .ok ()

end Address

end Framecast.Command
