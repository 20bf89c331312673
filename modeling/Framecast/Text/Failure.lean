/-!
# Texts of failures

A failure is told as a chain of sentences, the outermost first, each followed by
what caused it.  It is written on one line, or as the last words of a command.
-/

namespace Framecast.Text

/-- What went wrong, outermost first. -/
abbrev FailureChain := List String

namespace FailureChain

def inline (chain : FailureChain) : String :=
  ": ".intercalate chain

/-- One cause in a report; the causes are numbered if there are several. -/
def causeLine (number : Option Nat) (cause : String) : String :=
  match number with
  | none => "\n    " ++ cause
  | some n =>
      let digits := toString n
      "\n" ++ String.ofList (List.replicate (5 - digits.length) ' ') ++ digits ++ ": " ++ cause

/-- The report that ends a command: the failure, then its causes one on a line. -/
def report : FailureChain → String
  | [] => "Error: \n"
  | [message] => "Error: " ++ message ++ "\n"
  | [message, cause] =>
      "Error: " ++ message ++ "\n\nCaused by:" ++ causeLine none cause ++ "\n"
  | message :: causes =>
      let lines := causes.zipIdx.map fun (cause, n) => causeLine (some n) cause
      "Error: " ++ message ++ "\n\nCaused by:" ++ String.join lines ++ "\n"

end FailureChain

end Framecast.Text
