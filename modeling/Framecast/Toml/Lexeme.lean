import Framecast.Text.Digits

/-!
# Blanks, comments, quoted texts and keys

The smallest parts of a configuration text.  Each reader takes the characters
that are left and gives what it read with the characters after it, or nothing if
they do not start with such a part.
-/

namespace Framecast.Toml

abbrev Input := List Char

def quoteMark : Char := '\x22'

def apostrophe : Char := '\x27'

def backslash : Char := '\x5c'

def isBlank (c : Char) : Bool := c = ' ' || c = '\t'

/-- A character that may stand in a comment or in a quoted text. -/
def isPlain (c : Char) : Bool :=
  c = '\t' || (32 ≤ c.toNat && c.toNat ≠ 127)

def skipBlanks (input : Input) : Input := input.dropWhile isBlank

def lineBreak? : Input → Option Input
  | '\n' :: rest => some rest
  | '\r' :: '\n' :: rest => some rest
  | _ => none

def skipComment : Input → Input
  | '#' :: rest => rest.dropWhile isPlain
  | input => input

def lineEnd? (input : Input) : Option Input :=
  match skipComment (skipBlanks input) with
  | [] => some []
  | rest => lineBreak? rest

/-- Skip blanks, comments and line breaks; at most `limit` lines. -/
def skipLines : Nat → Input → Option Input
  | 0, input => some (skipBlanks input)
  | limit + 1, input =>
      match skipBlanks input with
      | '#' :: rest => do
          let rest ← lineBreak? (rest.dropWhile isPlain)
          skipLines limit rest
      | '\n' :: rest => skipLines limit rest
      | '\r' :: rest => do
          let rest ← lineBreak? ('\r' :: rest)
          skipLines limit rest
      | rest => some rest

def codedChar? (digits : List Char) : Option Char := do
  let values ← digits.mapM Text.hexValue?
  let code := values.foldl (fun n value => 16 * n + value) 0
  if code < 0xD800 ∨ (0xE000 ≤ code ∧ code < 0x110000) then some (Char.ofNat code) else none

/-- The character that is written after a backslash. -/
def escaped? : Input → Option (Char × Input)
  | 'b' :: rest => some ('\x08', rest)
  | 'f' :: rest => some ('\x0c', rest)
  | 'n' :: rest => some ('\n', rest)
  | 'r' :: rest => some ('\r', rest)
  | 't' :: rest => some ('\t', rest)
  | 'u' :: rest => coded? 4 rest
  | 'U' :: rest => coded? 8 rest
  | c :: rest => if c = quoteMark ∨ c = backslash then some (c, rest) else none
  | [] => none
where
  /-- The character whose code is written with exactly `width` digits. -/
  coded? (width : Nat) (input : Input) : Option (Char × Input) :=
    if width ≤ input.length then
      (codedChar? (input.take width)).map fun c => (c, input.drop width)
    else none

/-- The rest of a text in double quotes; what was read so far is in reverse. -/
def quotedText? : Nat → List Char → Input → Option (String × Input)
  | 0, _, _ => none
  | _ + 1, _, [] => none
  | limit + 1, read, c :: rest =>
      if c = quoteMark then some (String.ofList read.reverse, rest)
      else if c = backslash then do
        let (d, rest) ← escaped? rest
        quotedText? limit (d :: read) rest
      else if isPlain c then quotedText? limit (c :: read) rest
      else none

def literalText? (input : Input) : Option (String × Input) :=
  let body := input.takeWhile fun c => isPlain c && c != apostrophe
  match input.drop body.length with
  | c :: rest => if c = apostrophe then some (String.ofList body, rest) else none
  | [] => none

/-- How many times the input starts with the given character. -/
def runLength (c : Char) (input : Input) : Nat :=
  (input.takeWhile (· = c)).length

/-- Skip an escaped line break with all blanks and line breaks after it. -/
def joinedLine? (input : Input) : Option Input := do
  let rest ← lineBreak? (skipBlanks input)
  some (skipWhite (rest.length + 1) rest)
where
  /-- Skip blanks and line breaks. -/
  skipWhite : Nat → Input → Input
    | 0, input => input
    | limit + 1, input =>
        let rest := skipBlanks input
        match lineBreak? rest with
        | some rest => skipWhite limit rest
        | none => rest

/--
The rest of a text between triple quotes of the given kind.  Up to two quotes may
stand right in front of the closing ones.  Only double quotes know escapes.
-/
def longText? (mark : Char) : Nat → List Char → Input → Option (String × Input)
  | 0, _, _ => none
  | _ + 1, _, [] => none
  | limit + 1, read, c :: rest =>
      let quotes := min 5 (runLength mark (c :: rest))
      if 3 ≤ quotes then
        let read := List.replicate (quotes - 3) mark ++ read
        some (String.ofList read.reverse, (c :: rest).drop quotes)
      else if c = mark then longText? mark limit (mark :: read) rest
      else if c = backslash ∧ mark = quoteMark then
        match joinedLine? rest with
        | some rest => longText? mark limit read rest
        | none => do
            let (d, rest) ← escaped? rest
            longText? mark limit (d :: read) rest
      else
        match lineBreak? (c :: rest) with
        | some rest => longText? mark limit ('\n' :: read) rest
        | none => if isPlain c then longText? mark limit (c :: read) rest else none

def text? (mark : Char) (input : Input) : Option (String × Input) :=
  if 3 ≤ runLength mark input then
    let body := input.drop 3
    longText? mark (body.length + 1) [] ((lineBreak? body).getD body)
  else
    let body := input.drop 1
    if mark = quoteMark then quotedText? (body.length + 1) [] body else literalText? body

def isKeyChar (c : Char) : Bool :=
  c.isAlphanum || c = '_' || c = '-'

/-- One part of a key: a bare word, or a short text in quotes. -/
def keyPart? (input : Input) : Option (String × Input) :=
  match input with
  | [] => none
  | c :: rest =>
      if c = quoteMark then quotedText? (rest.length + 1) [] rest
      else if c = apostrophe then literalText? rest
      else
        let word := input.takeWhile isKeyChar
        if word = [] then none else some (String.ofList word, input.drop word.length)

/-- Most parts of one key, and most levels of nested values. -/
def depthLimit : Nat := 79

/-- A key of at most `limit` parts with points and blanks between them. -/
def key? : Nat → Input → Option (List String × Input)
  | 0, _ => none
  | limit + 1, input => do
      let (part, rest) ← keyPart? (skipBlanks input)
      match skipBlanks rest with
      | '.' :: rest =>
          let (parts, rest) ← key? limit rest
          some (part :: parts, rest)
      | rest => some ([part], rest)

end Framecast.Toml
