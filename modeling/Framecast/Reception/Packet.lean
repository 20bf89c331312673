import Framecast.Datagram.Packet

/-!
# Received packets

A received packet is on its way from the network to the reassembly.  Its payload
has exactly the declared length and fits the packet buffer; both are part of the
type, so that whoever stores the payload can rely on them.
-/

namespace Framecast

namespace Datagram

theorem length_of_split {data payload : Bytes} {header : Header}
    (hsplit : split data = .ok (header, payload)) :
    payload.length = header.payloadSize.toNat := by
  unfold split at hsplit
  cases hdecode : Header.decode data with
  | error cause =>
      rw [hdecode] at hsplit
      exact absurd hsplit (by simp [bind, Except.bind])
  | ok found =>
      rw [hdecode] at hsplit
      simp only [bind, Except.bind] at hsplit
      split at hsplit
      · exact absurd hsplit (by simp)
      · rename_i hfits
        simp only [Except.ok.injEq, Prod.mk.injEq] at hsplit
        obtain ⟨rfl, rfl⟩ := hsplit
        simp only [List.length_take, List.length_drop]
        omega

end Datagram

namespace Reception

def payloadCapacity : Nat := 1500

inductive PacketError where
  /-- The bytes are no datagram. -/
  | malformed (cause : Datagram.ReadError)
  /-- The payload has another length than the header declares. -/
  | lengthMismatch (declared actual : Nat)
  /-- The payload does not fit. -/
  | payloadTooLarge (size capacity : Nat)
deriving Repr, DecidableEq

def PacketError.message : PacketError → String
  | .malformed cause => "malformed datagram: " ++ cause.message
  | .lengthMismatch declared actual =>
      s!"payload length {actual} does not match declared payload_size {declared}"
  | .payloadTooLarge size capacity =>
      s!"payload of {size} bytes exceeds packet buffer capacity {capacity}"

/-- A packet that has passed the checks of the receiving side. -/
structure Packet where
  header : Datagram.Header
  payload : Bytes
  /-- The packet did not follow its predecessor in the order of arrival. -/
  gapBefore : Bool
  length_payload : payload.length = header.payloadSize.toNat
  fits : payload.length ≤ payloadCapacity
deriving Repr, DecidableEq

namespace Packet

def frameId (packet : Packet) : UInt32 :=
  packet.header.frameId

/-- A packet made of a header and a payload, if they fit each other and the buffer. -/
def new (header : Datagram.Header) (payload : Bytes) : Except PacketError Packet :=
  if hfits : payload.length ≤ payloadCapacity then
    if hlength : payload.length = header.payloadSize.toNat then
      .ok ⟨header, payload, false, hlength, hfits⟩
    else
      .error (.lengthMismatch header.payloadSize.toNat payload.length)
  else
    .error (.payloadTooLarge payload.length payloadCapacity)

/--
The packet in a datagram.  A payload above `limit`, or above the packet buffer,
is refused.
-/
def ofDatagram (data : Bytes) (limit : Nat) : Except PacketError Packet :=
  match hsplit : Datagram.split data with
  | .error cause => .error (.malformed cause)
  | .ok (header, payload) =>
      if hfits : payload.length ≤ min limit payloadCapacity then
        .ok ⟨header, payload, false, Datagram.length_of_split hsplit,
          Nat.le_trans hfits (Nat.min_le_right _ _)⟩
      else
        .error (.payloadTooLarge payload.length (min limit payloadCapacity))

def withGap (packet : Packet) (gapBefore : Bool) : Packet :=
  { packet with gapBefore }

end Packet

end Reception

end Framecast
