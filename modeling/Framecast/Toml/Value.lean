import Framecast.Decimal.Literal

/-!
# Values of a configuration text

Tables remember how they came to be, because that decides whether they may be
extended later on.
-/

namespace Framecast.Toml

inductive TableKind where
  /-- Written between braces. -/
  | inline
  /-- Named by a header of its own. -/
  | headed
  /-- Passed through by the header of another table. -/
  | implied
  /-- Passed through by a dotted key. -/
  | dotted
deriving Repr, DecidableEq

inductive Value where
  | text (s : String)
  | integer (n : Int)
  | real (x : Decimal.Double)
  | flag (b : Bool)
  /-- A date, a time, or both. -/
  | moment
  | array (items : List Value)
  | table (kind : TableKind) (entries : List (String × Value))
  /-- A sequence of tables, one for each header in double brackets. -/
  | rows (tables : List (List (String × Value)))
deriving Repr

abbrev Entries := List (String × Value)

def Entries.find? (entries : Entries) (key : String) : Option Value :=
  List.lookup key entries

/-- The entries with the value of an existing key replaced. -/
def Entries.replace (entries : Entries) (key : String) (value : Value) : Entries :=
  entries.map fun entry => if entry.1 = key then (key, value) else entry

end Framecast.Toml
