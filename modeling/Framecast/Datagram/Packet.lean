import Framecast.Datagram.Header

/-!
# Packets and datagrams

A datagram is a header followed by the payload bytes it declares; bytes after
them are ignored.  A datagram that carries fewer bytes than declared is refused.
-/

namespace Framecast.Datagram

structure Packet where
  header : Header
  payload : Bytes
deriving Repr, DecidableEq

/-- The header of a datagram and the payload that it declares. -/
def split (data : Bytes) : Except ReadError (Header × Bytes) := do
  let header ← Header.decode data
  let available := data.length - headerSize
  let declared := header.payloadSize.toNat
  if available < declared then
    .error (.truncated declared available)
  else
    .ok (header, (data.drop headerSize).take declared)

namespace Packet

def encode (packet : Packet) : Bytes :=
  packet.header.encode ++ packet.payload

def decode (data : Bytes) : Except ReadError Packet :=
  (split data).map fun (header, payload) => ⟨header, payload⟩

end Packet

end Framecast.Datagram
