import Framecast.Observation.Observer
import Framecast.Reassembly.Basic

/-!
# What the log says about a reassembly

Events reach the log through the observer; the drain of the last frames is logged
by itself.
-/

namespace Framecast.Reassembly

namespace Signal

def log (observer : Observation.Observer) : Signal → List LogRecord
  | .event happening => observer.logOf happening
  | .emitted _ => []
  | .drained count =>
      [⟨.debug, "drained in-flight frames", [("drained", .number count)]⟩]

def logAll (observer : Observation.Observer) (signals : List Signal) : List LogRecord :=
  signals.flatMap (log observer)

end Signal

end Framecast.Reassembly
