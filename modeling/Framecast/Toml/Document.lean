import Framecast.Toml.Statement

/-!
# Whole configuration texts

Statements are taken in order.  A header decides which table the pairs after it
belong to; a text is refused as a whole if one of its statements is.
-/

namespace Framecast.Toml

/-- What has been read: the outermost table, and the path of the table in hand. -/
structure Reading where
  root : Entries
  current : List String

namespace Reading

def initial : Reading := ⟨[], []⟩

def take (reading : Reading) : Statement → Option Reading
  | .pair path key value => do
      let root ← reading.root.edit false
        (fun kind entries => entries.insert path key value kind) reading.current .headed
      some { reading with root }
  | .table path key => do
      let root ← reading.root.openTable path key
      some ⟨root, path ++ [key]⟩
  | .row path key => do
      let root ← reading.root.openRow path key
      some ⟨root, path ++ [key]⟩

end Reading

def withoutMark (text : String) : Input :=
  match text.toList with
  | '\uFEFF' :: rest => rest
  | input => input

def parse? (text : String) : Option Entries := do
  let input := withoutMark text
  let statements ← statements? (input.length + 2) input
  let reading ← statements.foldlM Reading.take Reading.initial
  some reading.root

end Framecast.Toml
