import Framecast.Datagram.Packet

/-!
# Cutting frames into packets

A frame is cut into payloads of `budget` bytes, the last one possibly shorter.
Packet `i` holds the bytes from `i * budget` on, so that a receiver can put it
back knowing only its number.
-/

namespace Framecast.Datagram

inductive FragmentError where
  /-- No payload byte fits into a packet. -/
  | noBudget
  /-- More packets are needed than a header can count. -/
  | frameTooLarge (size : Nat)
deriving Repr, DecidableEq

def FragmentError.message : FragmentError → String
  | .noBudget => "payload budget must be non-zero"
  | .frameTooLarge size =>
      s!"frame too large: {size} bytes needs more than {maxPackets} packets"

/-- How many payloads of `budget` bytes hold `size` bytes. -/
def packetsNeeded (size budget : Nat) : Nat :=
  (size + budget - 1) / budget

/-- The next `count` payloads of `budget` bytes each, as far as the bytes reach. -/
def chunks (budget : Nat) : Nat → Bytes → List Bytes
  | 0, _ => []
  | count + 1, data => data.take budget :: chunks budget count (data.drop budget)

def packetOf (frameId : UInt32) (count : Nat) (payload : Bytes) (number : Nat) : Packet where
  header := {
    frameId
    packetId := UInt16.ofNat number
    packetCount := UInt16.ofNat count
    payloadSize := UInt32.ofNat payload.length }
  payload

def packetCount (size budget : Nat) : Except FragmentError Nat :=
  if budget = 0 then .error .noBudget
  else if maxPackets < packetsNeeded size budget then .error (.frameTooLarge size)
  else .ok (packetsNeeded size budget)

def fragment (frameId : UInt32) (frame : Bytes) (budget : Nat) :
    Except FragmentError (List Packet) :=
  (packetCount frame.length budget).map fun count =>
    (chunks budget count frame).zipIdx.map fun (payload, number) =>
      packetOf frameId count payload number

end Framecast.Datagram
