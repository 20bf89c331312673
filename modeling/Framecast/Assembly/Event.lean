import Framecast.Assembly.Frame

/-!
# Events of the reassembly

Everything that happens to packets and frames is reported as an event, in the
order in which it happens.
-/

namespace Framecast.Assembly

inductive RejectReason where
  /-- The packet number is not below the frame's packet count. -/
  | outOfRange
  /-- The packet arrived before. -/
  | duplicate
  /-- The payload is longer than the stride. -/
  | oversize
  /-- The payload would run past the frame buffer. -/
  | overflow
  /-- The packet belongs to another frame. -/
  | wrongFrame
  /-- No frame is being received. -/
  | notStarted
  /-- The frame was evicted; late packets do not open it again. -/
  | evicted
deriving Repr, DecidableEq

namespace RejectReason

def name : RejectReason → String
  | .outOfRange => "out_of_range"
  | .duplicate => "duplicate"
  | .oversize => "oversize"
  | .overflow => "overflow"
  | .wrongFrame => "wrong_frame"
  | .notStarted => "not_started"
  | .evicted => "evicted"

def all : List RejectReason :=
  [.outOfRange, .duplicate, .oversize, .overflow, .wrongFrame, .notStarted, .evicted]

end RejectReason

inductive Outcome where
  | accepted
  | rejected (reason : RejectReason)
deriving Repr, DecidableEq

inductive RetireReason where
  /-- All expected packets arrived. -/
  | completed
  /-- No packet was accepted within the idle timeout. -/
  | idleTimeout
  /-- The frame is older than the longest lifetime. -/
  | lifetimeExpired
  /-- The frame was pushed out to make room for a newer one. -/
  | evicted
  /-- The frame was drained at shutdown. -/
  | shutdown
deriving Repr, DecidableEq

namespace RetireReason

def name : RetireReason → String
  | .completed => "completed"
  | .idleTimeout => "idle_timeout"
  | .lifetimeExpired => "lifetime_expired"
  | .evicted => "evicted"
  | .shutdown => "shutdown"

def all : List RetireReason :=
  [.completed, .idleTimeout, .lifetimeExpired, .evicted, .shutdown]

end RetireReason

inductive Event where
  /-- A frame was opened, with the queue's drop count at that moment. -/
  | started (frameId : UInt32) (packetCount queueDrops : Nat)
  | accepted (frameId : UInt32) (packetId : UInt16) (packetCount payloadSize : Nat)
      (gapHint : Bool)
  | rejected (frameId : UInt32) (packetId : UInt16) (reason : RejectReason)
  /-- A packet that had not arrived when its frame retired incomplete. -/
  | missing (frameId : UInt32) (packetId : UInt16) (packetCount : Nat)
  | retired (frameId : UInt32) (state : FrameState) (reason : RetireReason)
      (received expected frameSize : Nat) (queuePressure : Bool) (gapHints : Nat)
deriving Repr, DecidableEq

namespace Event

def frameId : Event → UInt32
  | .started frameId .. => frameId
  | .accepted frameId .. => frameId
  | .rejected frameId .. => frameId
  | .missing frameId .. => frameId
  | .retired frameId .. => frameId

def isMissing : Event → Bool
  | .missing .. => true
  | _ => false

end Event

end Framecast.Assembly
