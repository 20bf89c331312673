import Framecast.Reception.Packet

/-!
# Reading back what was written

A header reads back from its twelve bytes whatever follows them, and so does a
packet from its datagram.  The receiving side therefore gets every packet of
legal size exactly as it was sent, also when a datagram carries bytes too many.
-/

namespace Framecast

theorem word32At_append (before rest : Bytes) (word : UInt32) :
    word32At (before ++ (bytesOf32 word ++ rest)) before.length = word := by
  have hlt : word.toNat < 256 ^ 4 := word.toNat_lt
  rw [word32At, List.drop_left, List.take_left' (length_bytesOf32 word), bytesOf32,
    LittleEndian.decode_encode, Nat.mod_eq_of_lt hlt, UInt32.ofNat_toNat]

theorem word16At_append (before rest : Bytes) (word : UInt16) :
    word16At (before ++ (bytesOf16 word ++ rest)) before.length = word := by
  have hlt : word.toNat < 256 ^ 2 := word.toNat_lt
  rw [word16At, List.drop_left, List.take_left' (length_bytesOf16 word), bytesOf16,
    LittleEndian.decode_encode, Nat.mod_eq_of_lt hlt, UInt16.ofNat_toNat]

namespace Datagram

/-- A header reads back from its bytes. -/
theorem Header.decode_encode_append (header : Header) (rest : Bytes) :
    Header.decode (header.encode ++ rest) = .ok header := by
  have hlong : ¬ (header.encode ++ rest).length < headerSize := by
    rw [List.length_append, length_encode]
    omega
  have hframeId : word32At (header.encode ++ rest) 0 = header.frameId := by
    have hword := word32At_append [] (bytesOf16 header.packetId ++
      (bytesOf16 header.packetCount ++ (bytesOf32 header.payloadSize ++ rest))) header.frameId
    simpa [encode] using hword
  have hpacketId : word16At (header.encode ++ rest) 4 = header.packetId := by
    have hword := word16At_append (bytesOf32 header.frameId)
      (bytesOf16 header.packetCount ++ (bytesOf32 header.payloadSize ++ rest)) header.packetId
    simpa [encode] using hword
  have hpacketCount : word16At (header.encode ++ rest) 6 = header.packetCount := by
    have hword := word16At_append (bytesOf32 header.frameId ++ bytesOf16 header.packetId)
      (bytesOf32 header.payloadSize ++ rest) header.packetCount
    simpa [encode] using hword
  have hpayloadSize : word32At (header.encode ++ rest) 8 = header.payloadSize := by
    have hword := word32At_append (bytesOf32 header.frameId ++ bytesOf16 header.packetId ++
      bytesOf16 header.packetCount) rest header.payloadSize
    simpa [encode] using hword
  rw [decode, if_neg hlong, hframeId, hpacketId, hpacketCount, hpayloadSize]

/-- A packet reads back from its datagram, whatever bytes follow. -/
theorem split_encode_append {packet : Packet}
    (hsize : packet.payload.length = packet.header.payloadSize.toNat) (trailing : Bytes) :
    split (packet.encode ++ trailing) = .ok (packet.header, packet.payload) := by
  have hdecode : Header.decode (packet.encode ++ trailing) = .ok packet.header := by
    rw [Packet.encode, List.append_assoc]
    exact packet.header.decode_encode_append _
  have hrest : (packet.encode ++ trailing).drop headerSize = packet.payload ++ trailing := by
    rw [Packet.encode, List.append_assoc]
    exact List.drop_left' packet.header.length_encode
  have havailable : ¬ (packet.encode ++ trailing).length - headerSize <
      packet.header.payloadSize.toNat := by
    rw [← List.length_drop, hrest, List.length_append]
    omega
  simp only [split, hdecode, hrest, bind, Except.bind]
  rw [if_neg havailable, List.take_left' hsize]

end Datagram

/-- A packet of legal size is received as it was sent. -/
theorem Reception.Packet.ofDatagram_encode_append {sent : Datagram.Packet}
    (hsize : sent.payload.length = sent.header.payloadSize.toNat) {limit : Nat}
    (hfits : sent.payload.length ≤ min limit payloadCapacity) (trailing : Bytes) :
    ∃ received, ofDatagram (sent.encode ++ trailing) limit = .ok received ∧
      received.header = sent.header ∧ received.payload = sent.payload ∧
        received.gapBefore = false := by
  have hsplit := Datagram.split_encode_append hsize trailing
  rw [ofDatagram]
  split
  · rename_i cause herror
    rw [hsplit] at herror
    exact absurd herror (by simp)
  · rename_i header payload hok
    rw [hsplit] at hok
    obtain ⟨rfl, rfl⟩ := Prod.mk.inj (Except.ok.inj hok)
    rw [dif_pos hfits]
    exact ⟨_, rfl, rfl, rfl, rfl⟩

end Framecast
