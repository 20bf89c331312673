import Framecast.Assembly.Event
import Framecast.Assembly.Storage
import Framecast.Datagram.Header

/-!
# Assembling one frame

An assembly receives the packets of one frame at a time into a buffer that is
reused from frame to frame.  Packet `i` is copied to offset `i * stride`, so the
order of arrival does not matter.  What a push does is decided by `verdict`
alone; `push` carries the verdict out.

Places are exact numbers here.  `Framecast.Assembly.Words` computes them in machine
words; the two agree wherever the places of a frame are machine words.
-/

namespace Framecast

namespace Assembly

inductive Phase where
  | empty
  | receiving
deriving Repr, DecidableEq

def Phase.name : Phase → String
  | .empty => "Empty"
  | .receiving => "Receiving"

end Assembly

/-- The state of one reusable frame buffer. -/
structure Assembly where
  /-- Most bytes that a frame may have. -/
  capacity : Nat
  /-- Bytes between the places of two neighbouring packets. -/
  stride : Nat
  storage : Assembly.Storage
  /-- Bytes written since the buffer was last cleared. -/
  dirty : Nat
  phase : Assembly.Phase
  frameId : UInt32
  /-- How many packets the frame has. -/
  expected : Nat
  /-- How many of them arrived. -/
  received : Nat
  /-- The end of the last byte written for this frame. -/
  frameSize : Nat
  /-- For each packet number, whether the packet arrived. -/
  present : Array Bool
  /-- For each packet number, whether a packet was refused for its size. -/
  damaged : Array Bool
  /-- Some packet was refused for its number or its size. -/
  corrupted : Bool
  /-- Accepted packets that a gap preceded. -/
  gapHints : Nat
deriving Repr, DecidableEq

namespace Assembly

def new (capacity stride : Nat) : Assembly where
  capacity
  stride
  storage := .empty
  dirty := 0
  phase := .empty
  frameId := 0
  expected := 0
  received := 0
  frameSize := 0
  present := #[]
  damaged := #[]
  corrupted := false
  gapHints := 0

/-- Give up the frame; the buffer keeps its bytes until the next frame starts. -/
def reset (assembly : Assembly) : Assembly :=
  { assembly with
    phase := .empty
    frameId := 0
    expected := 0
    received := 0
    frameSize := 0
    present := #[]
    damaged := #[]
    corrupted := false
    gapHints := 0 }

def start (assembly : Assembly) (frameId : UInt32) (packetCount : UInt16) : Assembly :=
  { assembly with
    storage := assembly.storage.clear assembly.dirty
    dirty := 0
    phase := .receiving
    frameId
    expected := packetCount.toNat
    received := 0
    frameSize := 0
    present := Array.replicate packetCount.toNat false
    damaged := Array.replicate packetCount.toNat false
    corrupted := false
    gapHints := 0 }

def hasPacket (assembly : Assembly) (packetId : UInt16) : Bool :=
  assembly.present.getD packetId.toNat false

/-- Whether a packet with the given number was refused for its size. -/
def isDamaged (assembly : Assembly) (packetId : UInt16) : Bool :=
  assembly.damaged.getD packetId.toNat false

/-- What is to become of a packet, decided before anything is written. -/
def verdict (assembly : Assembly) (header : Datagram.Header) (payload : Bytes) : Outcome :=
  if assembly.phase = .empty then .rejected .notStarted
  else if header.frameId ≠ assembly.frameId then .rejected .wrongFrame
  else if assembly.present.size ≤ header.packetId.toNat then .rejected .outOfRange
  else if assembly.hasPacket header.packetId then .rejected .duplicate
  else if assembly.stride < payload.length then .rejected .oversize
  else if assembly.capacity < header.packetId.toNat * assembly.stride + payload.length then
    .rejected .overflow
  else .accepted

def storeAt (assembly : Assembly) (offset : Nat) (packetId : UInt16) (payload : Bytes)
    (gapHint : Bool) : Assembly :=
  let finish := offset + payload.length
  { assembly with
    storage := assembly.storage.write offset payload
    dirty := max assembly.dirty finish
    received := assembly.received + 1
    frameSize := max assembly.frameSize finish
    present := assembly.present.setIfInBounds packetId.toNat true
    gapHints := if gapHint then assembly.gapHints + 1 else assembly.gapHints }

def store (assembly : Assembly) (packetId : UInt16) (payload : Bytes) (gapHint : Bool) :
    Assembly :=
  assembly.storeAt (packetId.toNat * assembly.stride) packetId payload gapHint

def damage (assembly : Assembly) (packetId : UInt16) : Assembly :=
  { assembly with
    damaged := assembly.damaged.setIfInBounds packetId.toNat true
    corrupted := true }

def settle (assembly : Assembly) (outcome : Outcome) (packetId : UInt16) (payload : Bytes)
    (gapHint : Bool) : Assembly :=
  match outcome with
  | .accepted => assembly.store packetId payload gapHint
  | .rejected .outOfRange => { assembly with corrupted := true }
  | .rejected .oversize => assembly.damage packetId
  | .rejected .overflow => assembly.damage packetId
  | .rejected _ => assembly

def push (assembly : Assembly) (header : Datagram.Header) (payload : Bytes)
    (gapHint : Bool) : Assembly × Outcome :=
  let outcome := assembly.verdict header payload
  (assembly.settle outcome header.packetId payload gapHint, outcome)

def hasAnyPacket (assembly : Assembly) : Bool :=
  decide (0 < assembly.received)

def isFull (assembly : Assembly) : Bool :=
  assembly.received == assembly.expected

def isComplete (assembly : Assembly) : Bool :=
  assembly.phase == .receiving && assembly.isFull && !assembly.corrupted

def hasGap (assembly : Assembly) : Bool :=
  decide (assembly.received < assembly.expected)

def missingPackets (assembly : Assembly) : List UInt16 :=
  (assembly.present.toList.zipIdx.filter fun entry => !entry.1).map fun entry =>
    UInt16.ofNat entry.2

/-- The bytes of the frame so far, zero where nothing arrived. -/
def frameData (assembly : Assembly) : Bytes :=
  assembly.storage.read assembly.frameSize

def toFrame (assembly : Assembly) (state : FrameState) (queuePressure : Bool) : Frame where
  id := assembly.frameId
  state
  complete := assembly.isFull
  corrupted := assembly.hasGap || assembly.corrupted
  queuePressure
  expected := assembly.expected
  received := assembly.received
  data := assembly.frameData

def summary (assembly : Assembly) : String :=
  "FrameReassembler \x7b phase: " ++ assembly.phase.name ++
    ", frame_id: " ++ toString assembly.frameId.toNat ++
    ", expected_packets: " ++ toString assembly.expected ++
    ", received_packets: " ++ toString assembly.received ++
    ", frame_size: " ++ toString assembly.frameSize ++
    ", corrupted: " ++ toString assembly.corrupted ++ ", .. \x7d"

end Assembly

end Framecast
