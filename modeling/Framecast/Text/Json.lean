import Framecast.Decimal.Layout

/-!
# Indented JSON

Objects of numbers and objects, written with two spaces of indentation, one
member on a line, in the order in which the members are given.  A decimal number has
the fewest digits that read back; halfway between two it has the even last digit.
-/

namespace Framecast.Text

inductive Json where
  | natural (n : Nat)
  | decimal (x : Decimal.Dyadic)
  | object (members : List (String × Json))

namespace Json

def lineBreak (depth : Nat) : String :=
  "\n" ++ String.ofList (List.replicate (2 * depth) ' ')

def renderAt (depth : Nat) : Json → String
  | .natural n => toString n
  | .decimal x => (Decimal.Digits.shortest .toEven x).reportText
  | .object [] => "\x7b\x7d"
  | .object members =>
      "\x7b" ++ renderMembers depth "" members ++ lineBreak depth ++ "\x7d"
where
  /-- The texts of the members, a comma in front of each but the first. -/
  renderMembers (depth : Nat) (separator : String) : List (String × Json) → String
    | [] => ""
    | (key, value) :: rest =>
        separator ++ lineBreak (depth + 1) ++ "\x22" ++ key ++ "\x22: " ++
          renderAt (depth + 1) value ++ renderMembers depth "," rest

def render (value : Json) : String := value.renderAt 0

end Json

end Framecast.Text
