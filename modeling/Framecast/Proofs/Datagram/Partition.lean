import Framecast.Proofs.Datagram.Cutting
import Mathlib.Algebra.Order.Floor.Div

/-!
# Cutting is an exact partition

A frame is refused when no byte fits a packet or when its packets cannot be counted,
and is cut otherwise.  The payloads are the frame from its first byte to its last:
all of them full but the last one, which holds at least one byte.  No number is
truncated on its way into a header.
-/

namespace Framecast.Datagram

theorem flatten_chunks (budget count : Nat) (data : Bytes) :
    (chunks budget count data).flatten = data.take (count * budget) := by
  induction count generalizing data with
  | zero => rw [chunks, List.flatten_nil, Nat.zero_mul, List.take_zero]
  | succ count ih =>
      rw [chunks, List.flatten_cons, ih, Nat.succ_mul, Nat.add_comm, List.take_add]

theorem packetsNeeded_eq_ceilDiv (size budget : Nat) :
    packetsNeeded size budget = size ⌈/⌉ budget :=
  (Nat.ceilDiv_eq_add_pred_div size budget).symm

theorem packetsNeeded_le_iff {size budget count : Nat} (hbudget : 0 < budget) :
    packetsNeeded size budget ≤ count ↔ size ≤ count * budget := by
  have hlt : count < packetsNeeded size budget ↔ count * budget < size :=
    lt_packetsNeeded_iff hbudget
  omega

structure Partitions (frameId : UInt32) (frame : Bytes) (budget : Nat)
    (packets : List Packet) : Prop where
  length_eq : packets.length = frame.length ⌈/⌉ budget
  eq_nil_iff : packets = [] ↔ frame = []
  payloads_eq : packets.flatMap Packet.payload = frame
  frameId_eq : ∀ packet ∈ packets, packet.header.frameId = frameId
  packetId_eq : ∀ (number : Nat) (packet : Packet), packets[number]? = some packet →
    packet.header.packetId.toNat = number
  packetCount_eq : ∀ packet ∈ packets, packet.header.packetCount.toNat = packets.length
  payloadSize_eq : ∀ packet ∈ packets, packet.payload.length < 2 ^ 32 →
    packet.header.payloadSize.toNat = packet.payload.length
  length_payload : ∀ (number : Nat) (packet : Packet), packets[number]? = some packet →
    number + 1 < packets.length → packet.payload.length = budget
  length_last : ∀ packet, packets.getLast? = some packet →
    1 ≤ packet.payload.length ∧ packet.payload.length ≤ budget

section
variable {frameId : UInt32} {frame : Bytes} {budget : Nat} {packets : List Packet}
  (h : fragment frameId frame budget = .ok packets)
include h

theorem eq_packetOf_of_getElem? {number : Nat} {packet : Packet}
    (hpacket : packets[number]? = some packet) :
    number < packets.length ∧
      packet = packetOf frameId packets.length
        ((frame.drop (number * budget)).take budget) number := by
  rw [getElem?_of_fragment h] at hpacket
  split at hpacket
  · exact ⟨‹_›, (Option.some.inj hpacket).symm⟩
  · exact absurd hpacket (by simp)

theorem length_payload_of_getElem? {number : Nat} {packet : Packet}
    (hpacket : packets[number]? = some packet) :
    packet.payload.length = min budget (frame.length - number * budget) := by
  obtain ⟨-, rfl⟩ := eq_packetOf_of_getElem? h hpacket
  rw [packetOf, List.length_take, List.length_drop]

theorem map_payload_of_fragment :
    packets.map Packet.payload = chunks budget (packetsNeeded frame.length budget) frame := by
  obtain ⟨-, -, rfl⟩ := eq_of_fragment h
  rw [List.map_map]
  exact List.zipIdx_map_fst 0 _

theorem flatMap_payload_of_fragment : packets.flatMap Packet.payload = frame := by
  obtain ⟨hbudget, -, -⟩ := eq_of_fragment h
  have hwhole : frame.length ≤ packetsNeeded frame.length budget * budget :=
    (packetsNeeded_le_iff hbudget).mp (Nat.le_refl _)
  rw [List.flatMap_def, map_payload_of_fragment h, flatten_chunks,
    List.take_of_length_le hwhole]

theorem partitions_of_fragment : Partitions frameId frame budget packets := by
  obtain ⟨hbudget, hmax, -⟩ := eq_of_fragment h
  have hlength := length_of_fragment h
  rw [← hlength] at hmax
  have hcount : packets.length < UInt16.size := Nat.lt_of_le_of_lt hmax (by decide)
  have hpacket {packet : Packet} (hmem : packet ∈ packets) :=
    (List.mem_iff_getElem?.mp hmem).imp fun _ => eq_packetOf_of_getElem? h
  -- a packet is there just when its payload starts inside the frame
  have hstarts (number : Nat) : number < packets.length ↔ number * budget < frame.length := by
    rw [hlength]
    exact lt_packetsNeeded_iff hbudget
  exact {
    length_eq := hlength.trans (packetsNeeded_eq_ceilDiv _ _)
    eq_nil_iff := by
      rw [← List.length_eq_zero_iff, ← List.length_eq_zero_iff]
      have hfirst := hstarts 0
      omega
    payloads_eq := flatMap_payload_of_fragment h
    frameId_eq := by
      intro packet hmem
      obtain ⟨number, -, rfl⟩ := hpacket hmem
      rfl
    packetId_eq := by
      intro number packet hget
      obtain ⟨hlt, rfl⟩ := eq_packetOf_of_getElem? h hget
      exact UInt16.toNat_ofNat_of_lt' (Nat.lt_trans hlt hcount)
    packetCount_eq := by
      intro packet hmem
      obtain ⟨number, -, rfl⟩ := hpacket hmem
      exact UInt16.toNat_ofNat_of_lt' hcount
    payloadSize_eq := by
      intro packet hmem hsize
      obtain ⟨number, -, rfl⟩ := hpacket hmem
      exact UInt32.toNat_ofNat_of_lt' hsize
    length_payload := by
      intro number packet hget hnext
      have hfull := (hstarts (number + 1)).mp hnext
      rw [Nat.succ_mul] at hfull
      rw [length_payload_of_getElem? h hget]
      omega
    length_last := by
      intro packet hlast
      rw [List.getLast?_eq_getElem?] at hlast
      obtain ⟨hlt, -⟩ := eq_packetOf_of_getElem? h hlast
      have hstart := (hstarts _).mp hlt
      rw [length_payload_of_getElem? h hlast]
      omega }

end

theorem fragment_of_no_budget (frameId : UInt32) (frame : Bytes) :
    fragment frameId frame 0 = .error .noBudget := by
  rw [fragment, packetCount, if_pos rfl]
  rfl

theorem fragment_of_too_large {frame : Bytes} {budget : Nat} (frameId : UInt32)
    (hbudget : 0 < budget) (hlarge : maxPackets * budget < frame.length) :
    fragment frameId frame budget = .error (.frameTooLarge frame.length) := by
  have hmany : maxPackets < packetsNeeded frame.length budget :=
    (lt_packetsNeeded_iff hbudget).mpr hlarge
  rw [fragment, packetCount, if_neg (Nat.ne_of_gt hbudget), if_pos hmany]
  rfl

/--
Cutting fails without a budget, and then only when the frame has more bytes than
65535 payloads can hold.  Every other frame is partitioned: as many packets as its
size divided by the budget, rounded up, whose payloads are the frame.
-/
theorem frame_is_partitioned (frameId : UInt32) (frame : Bytes) (budget : Nat) :
    (fragment frameId frame budget = .error .noBudget ↔ budget = 0) ∧
      (budget ≠ 0 →
        (fragment frameId frame budget = .error (.frameTooLarge frame.length) ↔
          65535 * budget < frame.length)) ∧
      (budget ≠ 0 → frame.length ≤ 65535 * budget →
        ∃ packets, fragment frameId frame budget = .ok packets ∧
          Partitions frameId frame budget packets) := by
  by_cases hbudget : budget = 0
  · subst hbudget
    have hnone := fragment_of_no_budget frameId frame
    exact ⟨iff_of_true hnone rfl, absurd rfl, absurd rfl⟩
  have hpositive : 0 < budget := Nat.pos_of_ne_zero hbudget
  by_cases hlarge : 65535 * budget < frame.length
  · have herror := fragment_of_too_large frameId hpositive hlarge
    refine ⟨?_, fun _ => iff_of_true herror hlarge, fun _ hsmall => by omega⟩
    rw [herror]
    exact iff_of_false (by simp) hbudget
  · have hcount : packetsNeeded frame.length budget ≤ maxPackets :=
      (packetsNeeded_le_iff hpositive).mpr (Nat.le_of_not_lt hlarge)
    obtain ⟨packets, hpackets⟩ := fragment_ok frameId hpositive hcount
    rw [hpackets]
    exact ⟨iff_of_false (by simp) hbudget, fun _ => iff_of_false (by simp) hlarge,
      fun _ _ => ⟨packets, rfl, partitions_of_fragment hpackets⟩⟩

/-- Nine bytes in payloads of four: two full packets and one of a single byte. -/
theorem frame_is_partitioned_tail :
    let frame : Bytes := [1, 2, 3, 4, 5, 6, 7, 8, 9]
    4 ≠ 0 ∧ frame.length ≤ 65535 * 4 ∧
      ∃ packets, fragment 7 frame 4 = .ok packets ∧
        packets.map Packet.payload = [[1, 2, 3, 4], [5, 6, 7, 8], [9]] ∧
        Partitions 7 frame 4 packets := by
  intro frame
  have hbudget : 4 ≠ 0 := by decide
  have hfits : frame.length ≤ 65535 * 4 := by decide
  obtain ⟨packets, hpackets, hpartitions⟩ :=
    (frame_is_partitioned 7 frame 4).2.2 hbudget hfits
  have hpayloads : (fragment 7 frame 4).map (List.map Packet.payload) =
      .ok [[1, 2, 3, 4], [5, 6, 7, 8], [9]] := by cbv
  rw [hpackets] at hpayloads
  exact ⟨hbudget, hfits, packets, hpackets, Except.ok.inj hpayloads, hpartitions⟩

end Framecast.Datagram
