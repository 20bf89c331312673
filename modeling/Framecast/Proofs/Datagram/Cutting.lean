import Framecast.Datagram.Fragment

/-!
# What the packets of a frame hold

Cutting a frame succeeds whenever its packets can be counted, and packet `i` then
holds exactly the bytes from `i * budget` up to the next packet or to the end of
the frame.  No packet is empty, and the numbers tell the packets apart.
-/

namespace Framecast.Datagram

/-! ## Payloads -/

theorem length_chunks (budget count : Nat) (data : Bytes) :
    (chunks budget count data).length = count := by
  induction count generalizing data with
  | zero => rfl
  | succ count ih => rw [chunks, List.length_cons, ih]

theorem getElem?_chunks (budget count : Nat) (data : Bytes) (number : Nat) :
    (chunks budget count data)[number]? =
      if number < count then some ((data.drop (number * budget)).take budget) else none := by
  induction count generalizing data number with
  | zero => rw [if_neg (Nat.not_lt_zero number), chunks, List.getElem?_nil]
  | succ count ih =>
      rw [chunks]
      cases number with
      | zero => simp
      | succ number =>
          rw [List.getElem?_cons_succ, ih, List.drop_drop, Nat.succ_mul, Nat.add_comm budget]
          simp only [Nat.add_lt_add_iff_right]

/-- The packets needed are those whose payloads start inside the frame. -/
theorem lt_packetsNeeded_iff {size budget number : Nat} (hbudget : 0 < budget) :
    number < packetsNeeded size budget ↔ number * budget < size := by
  rw [packetsNeeded, Nat.lt_iff_add_one_le, Nat.le_div_iff_mul_le hbudget, Nat.succ_mul]
  omega

theorem div_lt_packetsNeeded {size budget position : Nat} (hbudget : 0 < budget)
    (hlt : position < size) : position / budget < packetsNeeded size budget := by
  rw [lt_packetsNeeded_iff hbudget]
  have hle := Nat.div_mul_le_self position budget
  omega

/-! ## Packets -/

structure IsCut (frameId : UInt32) (frame : Bytes) (budget number : Nat) (packet : Packet) :
    Prop where
  frameId_eq : packet.header.frameId = frameId
  packetId_eq : packet.header.packetId.toNat = number
  packetCount_eq : packet.header.packetCount.toNat = packetsNeeded frame.length budget
  payloadSize_eq : packet.payload.length = packet.header.payloadSize.toNat
  payload_eq : packet.payload = (frame.drop (number * budget)).take budget

section
variable {frameId : UInt32} {frame : Bytes} {budget number : Nat} {packet : Packet}
  (h : IsCut frameId frame budget number packet)
include h

theorem IsCut.length_payload :
    packet.payload.length = min budget (frame.length - number * budget) := by
  rw [h.payload_eq, List.length_take, List.length_drop]

theorem IsCut.length_le : packet.payload.length ≤ budget := by
  rw [h.length_payload]
  exact Nat.min_le_left _ _

theorem IsCut.finish_le (hlt : number * budget < frame.length) :
    number * budget + packet.payload.length ≤ frame.length := by
  rw [h.length_payload]
  omega

theorem IsCut.getElem?_payload {index : Nat} (hindex : index < packet.payload.length) :
    packet.payload[index]? = frame[number * budget + index]? := by
  have hlt : index < budget := Nat.lt_of_lt_of_le hindex h.length_le
  rw [h.payload_eq, List.getElem?_take_of_lt hlt, List.getElem?_drop]

end

theorem fragment_ok {frame : Bytes} {budget : Nat} (frameId : UInt32) (hbudget : 0 < budget)
    (hcount : packetsNeeded frame.length budget ≤ maxPackets) :
    ∃ packets, fragment frameId frame budget = .ok packets := by
  have hpositive : budget ≠ 0 := Nat.ne_of_gt hbudget
  rw [fragment, packetCount, if_neg hpositive, if_neg (Nat.not_lt.mpr hcount)]
  exact ⟨_, rfl⟩

section
variable {frameId : UInt32} {frame : Bytes} {budget : Nat} {packets : List Packet}
  (h : fragment frameId frame budget = .ok packets)
include h

theorem eq_of_fragment :
    0 < budget ∧ packetsNeeded frame.length budget ≤ maxPackets ∧
      packets = (chunks budget (packetsNeeded frame.length budget) frame).zipIdx.map
        fun (payload, number) =>
          packetOf frameId (packetsNeeded frame.length budget) payload number := by
  rw [fragment, packetCount] at h
  split at h
  · exact absurd h (by simp [Except.map])
  · split at h
    · exact absurd h (by simp [Except.map])
    · exact ⟨by omega, by omega, (Except.ok.inj h).symm⟩

theorem length_of_fragment : packets.length = packetsNeeded frame.length budget := by
  obtain ⟨-, -, rfl⟩ := eq_of_fragment h
  rw [List.length_map, List.length_zipIdx, length_chunks]

theorem getElem?_of_fragment (number : Nat) :
    packets[number]? =
      if number < packets.length then
        some (packetOf frameId packets.length
          ((frame.drop (number * budget)).take budget) number)
      else none := by
  rw [length_of_fragment h]
  obtain ⟨-, -, rfl⟩ := eq_of_fragment h
  rw [List.getElem?_map, List.getElem?_zipIdx, getElem?_chunks]
  split <;> simp

/-- Every packet of a frame holds its part of the frame, as long as sizes can be declared. -/
theorem isCut_of_getElem? (hbudget : budget < UInt32.size) {number : Nat} {packet : Packet}
    (hpacket : packets[number]? = some packet) : IsCut frameId frame budget number packet := by
  obtain ⟨-, hmax, -⟩ := eq_of_fragment h
  rw [← length_of_fragment h] at hmax
  have hcount : packets.length < UInt16.size := Nat.lt_of_le_of_lt hmax (by decide)
  rw [getElem?_of_fragment h] at hpacket
  split at hpacket
  · rename_i hnumber
    have hpayload : ((frame.drop (number * budget)).take budget).length < UInt32.size :=
      Nat.lt_of_le_of_lt (List.length_take_le _ _) hbudget
    rw [← Option.some.inj hpacket]
    exact {
      frameId_eq := rfl
      packetId_eq := UInt16.toNat_ofNat_of_lt' (Nat.lt_trans hnumber hcount)
      packetCount_eq := by
        rw [← length_of_fragment h]
        exact UInt16.toNat_ofNat_of_lt' hcount
      payloadSize_eq := (UInt32.toNat_ofNat_of_lt' hpayload).symm
      payload_eq := rfl }
  · exact absurd hpacket (by simp)

end

end Framecast.Datagram
