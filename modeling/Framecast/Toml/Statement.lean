import Framecast.Toml.Scalar
import Framecast.Toml.Table

/-!
# Statements

A configuration text is a sequence of statements, each on lines of its own: a key
with its value, or the header of a table.
-/

namespace Framecast.Toml

/-- One statement; a key is given by the path to its table and its last part. -/
inductive Statement where
  | pair (path : List String) (key : String) (value : Value)
  | table (path : List String) (key : String)
  | row (path : List String) (key : String)
deriving Repr

def keyPath? (input : Input) : Option (List String × String × Input) := do
  let (parts, rest) ← key? depthLimit input
  let key ← parts.getLast?
  some (parts.dropLast, key, rest)

/--
One or more items with commas between them, up to a closing character.  The
padding may stand around every item; a comma may follow the last one if
`trailing` allows it.
-/
def items? {α : Type} (item : Input → Option (α × Input)) (padding : Input → Option Input)
    (trailing : Bool) (close : Char) : Nat → Input → Option (List α × Input)
  | 0, _ => none
  | limit + 1, input => do
      let (first, rest) ← item input
      let rest ← padding rest
      match rest with
      | [] => none
      | c :: rest =>
          if c = close then some ([first], rest)
          else if c = ',' then do
            let rest ← padding rest
            if trailing = true ∧ rest.head? = some close then some ([first], rest.drop 1)
            else do
              let (others, rest) ← items? item padding trailing close limit rest
              some (first :: others, rest)
          else none

/-- Any number of items up to a closing character. -/
def list? {α : Type} (item : Input → Option (α × Input)) (padding : Input → Option Input)
    (trailing : Bool) (close : Char) (input : Input) : Option (List α × Input) := do
  let rest ← padding input
  if rest.head? = some close then some ([], rest.drop 1)
  else items? item padding trailing close (rest.length + 1) rest

def pair? (value : Input → Option (Value × Input)) (input : Input) :
    Option ((List String × String × Value) × Input) := do
  let (path, key, rest) ← keyPath? input
  let rest ← expect? '=' rest
  let (value, rest) ← value (skipBlanks rest)
  some ((path, key, value), rest)

/-- The table that the given pairs make between braces. -/
def inlineTable? (pairs : List (List String × String × Value)) : Option Value := do
  let entries ← pairs.foldlM
    (fun (entries : Entries) (path, key, value) => entries.insert path key value .inline) []
  some (.table .inline entries)

/-- A value with at most `depth` levels of arrays and tables in it. -/
def value? : Nat → Input → Option (Value × Input)
  | depth, input =>
      match input with
      | [] => none
      | c :: rest =>
          if c = quoteMark ∨ c = apostrophe then
            (text? c input).map fun (text, rest) => (.text text, rest)
          else if c = '[' then
            match depth with
            | 0 => none
            | depth + 1 => do
                let padding := fun input : Input => skipLines input.length input
                let (items, rest) ← list? (value? depth) padding true ']' rest
                some (.array items, rest)
          else if c = '\x7b' then
            match depth with
            | 0 => none
            | depth + 1 => do
                let (pairs, rest) ←
                  list? (pair? (value? depth)) (some ∘ skipBlanks) false '\x7d' rest
                let table ← inlineTable? pairs
                some (table, rest)
          else if c = 't' then (word? "true" input).map fun rest => (.flag true, rest)
          else if c = 'f' then (word? "false" input).map fun rest => (.flag false, rest)
          else scalar? input

/-- A header, given what comes right before and after its key. -/
def header? (opening closing : String) (input : Input) :
    Option (List String × String × Input) := do
  let rest ← word? opening input
  let (path, key, rest) ← keyPath? rest
  let rest ← word? closing rest
  some (path, key, rest)

def statement? (input : Input) : Option (Statement × Input) :=
  if (word? "[[" input).isSome then do
    let (path, key, rest) ← header? "[[" "]]" input
    let rest ← lineEnd? rest
    some (.row path key, rest)
  else if (word? "[" input).isSome then do
    let (path, key, rest) ← header? "[" "]" input
    let rest ← lineEnd? rest
    some (.table path key, rest)
  else do
    let ((path, key, value), rest) ← pair? (value? depthLimit) input
    let rest ← lineEnd? rest
    some (.pair path key value, rest)

def statements? : Nat → Input → Option (List Statement)
  | 0, _ => none
  | limit + 1, input =>
      match skipBlanks input with
      | [] => some []
      | c :: rest =>
          if c = '#' ∨ c = '\n' ∨ c = '\r' then do
            let rest ← lineEnd? (c :: rest)
            statements? limit rest
          else do
            let (statement, rest) ← statement? (c :: rest)
            let others ← statements? limit rest
            some (statement :: others)

end Framecast.Toml
