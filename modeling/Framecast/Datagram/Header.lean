import Framecast.Bytes

/-!
# Packet headers

A packet header says where one datagram belongs: its frame, its place among the
frame's packets, how many packets the frame has, and how many payload bytes
follow.  It takes twelve bytes, all words little-endian.
-/

namespace Framecast.Datagram

/-- Bytes in front of the payload. -/
def headerSize : Nat := 12

/-- Largest payload that a sender puts into one datagram. -/
def maxPayload : Nat := 1400

def maxSize : Nat := headerSize + maxPayload

/-- Most packets that a frame may be cut into: the count has sixteen bits. -/
def maxPackets : Nat := 65535

/-- The place of one packet within one frame. -/
structure Header where
  frameId : UInt32
  packetId : UInt16
  packetCount : UInt16
  payloadSize : UInt32
deriving Repr, DecidableEq

inductive ReadError where
  /-- Fewer bytes than the fixed part takes. -/
  | tooShort (expected got : Nat)
  /-- Fewer payload bytes than the header declares. -/
  | truncated (declared available : Nat)
deriving Repr, DecidableEq

def ReadError.message : ReadError → String
  | .tooShort expected got =>
      s!"packet too short: expected at least {expected} bytes, got {got}"
  | .truncated declared available =>
      s!"payload truncated: header declares {declared} bytes, datagram carries {available}"

namespace Header

def encode (header : Header) : Bytes :=
  bytesOf32 header.frameId ++ bytesOf16 header.packetId ++
    bytesOf16 header.packetCount ++ bytesOf32 header.payloadSize

/-- The header at the start of the bytes, which must be at least twelve. -/
def decode (data : Bytes) : Except ReadError Header :=
  if data.length < headerSize then .error (.tooShort headerSize data.length)
  else
    .ok {
      frameId := word32At data 0
      packetId := word16At data 4
      packetCount := word16At data 6
      payloadSize := word32At data 8 }

@[simp] theorem length_encode (header : Header) : header.encode.length = headerSize := by
  simp [encode, headerSize]

end Header

end Framecast.Datagram
