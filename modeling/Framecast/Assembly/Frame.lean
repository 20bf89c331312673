import Framecast.Bytes

/-!
# Retired frames

What a frame is when it leaves the reassembly: its bytes up to the last one
written, what arrived of it, and how it fared.
-/

namespace Framecast.Assembly

inductive FrameState where
  /-- Every packet arrived and nothing was flagged as corrupted. -/
  | complete
  /-- Retired with a gap or with corruption. -/
  | incomplete
deriving Repr, DecidableEq

def FrameState.name : FrameState → String
  | .complete => "complete"
  | .incomplete => "partial"

/-- A frame that has left the reassembly. -/
structure Frame where
  id : UInt32
  state : FrameState
  /-- As many packets arrived as were expected. -/
  complete : Bool
  /-- A gap or a corrupted packet is present. -/
  corrupted : Bool
  /-- The packet queue dropped packets while the frame was in flight. -/
  queuePressure : Bool
  expected : Nat
  received : Nat
  data : Bytes
deriving Repr, DecidableEq

namespace Frame

def size (frame : Frame) : Nat := frame.data.length

/-- Whether the frame retired with something missing or damaged. -/
def isPartial (frame : Frame) : Bool := frame.state == .incomplete

def missing (frame : Frame) : Nat := frame.expected - frame.received

end Frame

end Framecast.Assembly
