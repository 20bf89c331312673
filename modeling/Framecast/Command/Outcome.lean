import Framecast.Files.Tree
import Framecast.Text.Failure

/-!
# How a command ends

A command leaves files behind and ends well, or with a report of its failure.  A
command line that leads to no run ends at once.
-/

namespace Framecast.Command

structure Outcome where
  tree : Files.Tree
  result : Except Text.FailureChain Unit

namespace Outcome

def status (outcome : Outcome) : Nat :=
  match outcome.result with
  | .ok () => 0
  | .error _ => 1

def report (outcome : Outcome) : Option String :=
  match outcome.result with
  | .ok () => none
  | .error chain => some chain.report

def writeFile (tree : Files.Tree) (failure : String) (path : String) (contents : Bytes) :
    Except Text.FailureChain Files.Tree :=
  match tree.write path contents with
  | .error fault => .error [failure ++ ": " ++ path, fault.message]
  | .ok tree => .ok tree

end Outcome

end Framecast.Command
