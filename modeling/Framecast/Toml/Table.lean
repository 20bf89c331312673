import Framecast.Toml.Value

/-!
# Extending tables

A key path leads through tables, which come into being where they are missing.  A
table between braces is finished.  A dotted key does not lead into a table that
has a header of its own, and a key is given only once.
-/

namespace Framecast.Toml

namespace Entries

/-- Change the table at the end of a path, by a header or by a dotted key. -/
def edit (dotted : Bool) (change : TableKind → Entries → Option Entries) :
    List String → TableKind → Entries → Option Entries
  | [], kind, entries => change kind entries
  | key :: path, _, entries =>
      match entries.find? key with
      | none => do
          let kind := if dotted then TableKind.dotted else TableKind.implied
          let inner ← edit dotted change path kind []
          some (entries ++ [(key, .table kind inner)])
      | some (.table kind inner) =>
          if kind = .inline ∨ (dotted = true ∧ kind = .headed) then none
          else do
            let inner ← edit dotted change path kind inner
            some (entries.replace key (.table kind inner))
      | some (.rows tables) => do
          let last ← tables.getLast?
          let last ← edit dotted change path .headed last
          some (entries.replace key (.rows (tables.dropLast ++ [last])))
      | some _ => none

/--
Give a key its value, in the table at the end of a path of dotted keys.  Such a
path must end in a table that dotted keys made.
-/
def insert (path : List String) (key : String) (value : Value) (kind : TableKind)
    (entries : Entries) : Option Entries :=
  entries.edit true
    (fun kind entries =>
      if (kind = .dotted ↔ path = []) ∨ (entries.find? key).isSome then none
      else some (entries ++ [(key, value)]))
    path kind

/-- Open a table with a header; one that was only passed through may still get its own. -/
def openTable (path : List String) (key : String) (entries : Entries) : Option Entries :=
  entries.edit false
    (fun _ entries =>
      match entries.find? key with
      | none => some (entries ++ [(key, .table .headed [])])
      | some (.table .implied inner) => some (entries.replace key (.table .headed inner))
      | some _ => none)
    path .headed

def openRow (path : List String) (key : String) (entries : Entries) : Option Entries :=
  entries.edit false
    (fun _ entries =>
      match entries.find? key with
      | none => some (entries ++ [(key, .rows [[]])])
      | some (.rows tables) => some (entries.replace key (.rows (tables ++ [[]])))
      | some _ => none)
    path .headed

end Entries

end Framecast.Toml
