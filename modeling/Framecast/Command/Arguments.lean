import Framecast.Decimal.Literal

/-!
# Command line arguments

The words of a command line are read from left to right.  An option is `--name`
or one letter after a single hyphen; its value is the next word, or follows the
name at once, after an equals sign if the name is long.  All other words are
operands, and so is everything after `--`.  No option is given twice.
-/

namespace Framecast.Command

/-- What an option does; `σ` is what the command line is turned into. -/
inductive Action (σ : Type) where
  /-- Takes no value. -/
  | mark (set : σ → σ)
  /-- Takes a value, which it may refuse. -/
  | value (take : String → σ → Option σ)
  /-- Asks for the usage instead of a run. -/
  | help

structure Switch (σ : Type) where
  long : String
  short : Option Char
  action : Action σ

structure Usage (σ : Type) where
  switches : List (Switch σ)
  operands : List (String → σ → Option σ)

inductive Stop where
  | help
  | refused
deriving Repr, DecidableEq

def Stop.status : Stop → Nat
  | .help => 0
  | .refused => 2

/-- A command line that has been read in part. -/
structure Scan (σ : Type) where
  result : σ
  /-- The long names of the options given so far. -/
  given : List String
  /-- The option that waits for its value. -/
  pending : Option (Switch σ)
  /-- What the operands still to come do. -/
  operands : List (String → σ → Option σ)
  /-- Whether only operands can follow. -/
  operandsOnly : Bool

namespace Scan

variable {σ : Type}

/-- The answer of an action that may refuse. -/
def orRefuse (scan : Scan σ) : Option σ → Except Stop (Scan σ)
  | none => .error .refused
  | some result => .ok { scan with result }

def operand (scan : Scan σ) (word : String) : Except Stop (Scan σ) :=
  match scan.operands with
  | [] => .error .refused
  | take :: operands => orRefuse { scan with operands } (take word scan.result)

/-- Note that an option is given; a second time is refused. -/
def note (scan : Scan σ) (switch : Switch σ) : Except Stop (Scan σ) :=
  if switch.long ∈ scan.given then .error .refused
  else .ok { scan with given := switch.long :: scan.given }

def assign (scan : Scan σ) (switch : Switch σ) (value : String) : Except Stop (Scan σ) := do
  let scan ← scan.note switch
  match switch.action with
  | .value take => orRefuse { scan with pending := none } (take value scan.result)
  | _ => .error .refused

/-- Take an option; what is attached to it is its value. -/
def option (scan : Scan σ) (switch : Switch σ) (attached : Option String) :
    Except Stop (Scan σ) :=
  match switch.action, attached with
  | .value _, some value => scan.assign switch value
  | .value _, none => .ok { scan with pending := some switch }
  | _, some _ => .error .refused
  | .help, none => .error .help
  | .mark set, none => do
      let scan ← scan.note switch
      .ok { scan with result := set scan.result }

def longOption (usage : Usage σ) (scan : Scan σ) (text : List Char) :
    Except Stop (Scan σ) :=
  let name := text.takeWhile (· ≠ '=')
  let attached := match text.drop name.length with
    | [] => none
    | _ :: value => some (String.ofList value)
  match usage.switches.find? fun switch => switch.long = String.ofList name with
  | none => .error .refused
  | some switch => scan.option switch attached

/-- Take options by their letters; the first one with a value takes the rest. -/
def shortOptions (usage : Usage σ) (scan : Scan σ) : List Char → Except Stop (Scan σ)
  | [] => .ok scan
  | letter :: rest =>
      match usage.switches.find? fun switch => switch.short = some letter with
      | none => .error .refused
      | some switch =>
          match switch.action, rest with
          | .value _, [] => scan.option switch none
          | .value _, '=' :: value => scan.option switch (some (String.ofList value))
          | .value _, value => scan.option switch (some (String.ofList value))
          | _, rest => do
              let scan ← scan.option switch none
              scan.shortOptions usage rest

def word (usage : Usage σ) (scan : Scan σ) (text : String) : Except Stop (Scan σ) :=
  match scan.operandsOnly, scan.pending, text.toList with
  | true, _, _ => scan.operand text
  | false, none, ['-', '-'] => .ok { scan with operandsOnly := true }
  | false, none, '-' :: '-' :: name => scan.longOption usage name
  | false, none, '-' :: letter :: rest => scan.shortOptions usage (letter :: rest)
  | false, none, _ => scan.operand text
  | false, some _, '-' :: _ :: _ => .error .refused
  | false, some switch, _ => scan.assign switch text

/-- The result, if no value and no operand is missing. -/
def finish (scan : Scan σ) : Except Stop σ :=
  match scan.pending, scan.operands with
  | none, [] => .ok scan.result
  | _, _ => .error .refused

end Scan

namespace Usage

variable {σ : Type}

def read (usage : Usage σ) (absent : σ) (words : List String) : Except Stop σ := do
  let start : Scan σ := ⟨absent, [], none, usage.operands, false⟩
  let scan ← words.foldlM (Scan.word usage) start
  scan.finish

end Usage

/-- A whole number with an optional sign, from zero to `limit`. -/
def signedNumber? (limit : Nat) (text : String) : Option Nat :=
  let (negative, digits) := Decimal.splitSign text.toList
  match Text.digitsValue? digits with
  | none => none
  | some n => if n ≤ limit ∧ (negative = false ∨ n = 0) then some n else none

def unsignedNumber? (limit : Nat) (text : String) : Option Nat :=
  if text.startsWith "-" then none else signedNumber? limit text

/-- A path, which is never the empty text. -/
def path? (text : String) : Option String :=
  if text = "" then none else some text

end Framecast.Command
