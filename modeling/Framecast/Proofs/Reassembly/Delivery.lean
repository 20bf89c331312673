import Framecast.Proofs.Datagram.Cutting
import Framecast.Proofs.Datagram.RoundTrip
import Framecast.Proofs.Reassembly.Gathering

/-!
# Frames sent over a lossy network

A frame is cut into packets, some of them are lost, and the others arrive in any
order and any number of times, among packets of other frames.  What the receiving
side then hands over is the frame as far as it arrived: every byte of a packet
that came through is where it belongs, and every other byte is zero.
-/

namespace Framecast

open Framecast.Assembly (Attempt Frame Settings accepted furthest)
open Framecast.Datagram (IsCut fragment)

namespace Reassembly

/-! ## What is sent and what arrives -/

structure Transfer (settings : Settings) (frameId : UInt32) (original : Bytes)
    (packets kept : List Datagram.Packet) : Prop where
  fragment_eq : fragment frameId original settings.stride = .ok packets
  sublist : kept.Sublist packets
  stride_le : settings.stride ≤ Reception.payloadCapacity
  fits : original.length ≤ settings.maxFrameSize

/-- A datagram of the sent packet, with whatever bytes behind it, is received as given. -/
def Arrives (limit : Nat) (sent : Datagram.Packet) (received : Reception.Packet) : Prop :=
  ∃ trailing, Reception.Packet.ofDatagram (sent.encode ++ trailing) limit = .ok received

/-- What calls bring for a frame are the given packets, each at least once. -/
structure Delivers (limit : Nat) (frameId : UInt32) (kept : List Datagram.Packet)
    (calls : List Call) : Prop where
  of_kept : ∀ received ∈ packetsFor frameId calls, ∃ sent ∈ kept, Arrives limit sent received
  each : ∀ sent ∈ kept, ∃ received ∈ packetsFor frameId calls, Arrives limit sent received

def finish (stride : Nat) (sent : Datagram.Packet) : Nat :=
  sent.header.packetId.toNat * stride + sent.payload.length

section
variable {settings : Settings} {frameId : UInt32} {original : Bytes}
  {packets kept : List Datagram.Packet}
  (h : Transfer settings frameId original packets kept)
include h

theorem Transfer.stride_pos : 0 < settings.stride :=
  (Datagram.eq_of_fragment h.fragment_eq).1

theorem Transfer.isCut {number : Nat} {sent : Datagram.Packet}
    (hsent : packets[number]? = some sent) :
    IsCut frameId original settings.stride number sent ∧
      number * settings.stride < original.length := by
  have hstride : settings.stride < UInt32.size :=
    Nat.lt_of_le_of_lt h.stride_le (by decide)
  have hnumber : number < packets.length := (List.getElem?_eq_some_iff.mp hsent).1
  rw [Datagram.length_of_fragment h.fragment_eq,
    Datagram.lt_packetsNeeded_iff h.stride_pos] at hnumber
  exact ⟨Datagram.isCut_of_getElem? h.fragment_eq hstride hsent, hnumber⟩

theorem Transfer.getElem?_of_mem {sent : Datagram.Packet} (hmem : sent ∈ packets) :
    packets[sent.header.packetId.toNat]? = some sent := by
  obtain ⟨number, hsent⟩ := List.mem_iff_getElem?.mp hmem
  rw [(h.isCut hsent).1.packetId_eq, hsent]

/-- The numbers tell the packets of a frame apart. -/
theorem Transfer.eq_of_packetId_eq {sent other : Datagram.Packet} (hmem : sent ∈ packets)
    (hother : other ∈ packets) (hid : sent.header.packetId = other.header.packetId) :
    sent = other := by
  have hsent := h.getElem?_of_mem hmem
  rw [hid, h.getElem?_of_mem hother] at hsent
  exact (Option.some.inj hsent).symm

theorem Transfer.packetIds_nodup : (packets.map fun sent => sent.header.packetId).Nodup := by
  rw [List.Nodup, List.pairwise_map, List.pairwise_iff_getElem]
  intro number later hnumber hlater hlt hsame
  have hid := (h.isCut (List.getElem?_eq_getElem hnumber)).1.packetId_eq
  rw [hsame, (h.isCut (List.getElem?_eq_getElem hlater)).1.packetId_eq] at hid
  omega

theorem Transfer.finish_le {sent : Datagram.Packet} (hmem : sent ∈ packets) :
    finish settings.stride sent ≤ original.length := by
  have hsent := h.getElem?_of_mem hmem
  obtain ⟨hcut, hlt⟩ := h.isCut hsent
  exact hcut.finish_le hlt

/-- A byte of the frame lies in the packet that its position names. -/
theorem Transfer.lt_finish {position : Nat} (hlt : position < original.length)
    {sent : Datagram.Packet} (hsent : packets[position / settings.stride]? = some sent) :
    position < finish settings.stride sent := by
  obtain ⟨hcut, -⟩ := h.isCut hsent
  have hposition := Nat.div_add_mod position settings.stride
  have hmod := Nat.mod_lt position h.stride_pos
  rw [Nat.mul_comm] at hposition
  rw [finish, hcut.packetId_eq, hcut.length_payload]
  omega

/-- A packet of the frame is received with its header and its payload. -/
theorem Transfer.arrives {sent : Datagram.Packet} (hmem : sent ∈ packets)
    (trailing : Bytes) :
    ∃ received, Reception.Packet.ofDatagram (sent.encode ++ trailing) settings.stride =
        .ok received ∧
      received.header = sent.header ∧ received.payload = sent.payload ∧
        received.gapBefore = false := by
  obtain ⟨hcut, -⟩ := h.isCut (h.getElem?_of_mem hmem)
  refine Reception.Packet.ofDatagram_encode_append hcut.payloadSize_eq ?_ trailing
  exact Nat.le_min.mpr ⟨hcut.length_le, Nat.le_trans hcut.length_le h.stride_le⟩

theorem Transfer.of_arrives {sent : Datagram.Packet} (hmem : sent ∈ packets)
    {received : Reception.Packet} (harrives : Arrives settings.stride sent received) :
    Content.ofPacket received = ⟨sent.header, sent.payload, false⟩ := by
  obtain ⟨trailing, hreceived⟩ := harrives
  obtain ⟨other, hother, hheader, hpayload, hgap⟩ := h.arrives hmem trailing
  rw [hreceived] at hother
  rw [Except.ok.inj hother, Content.ofPacket, hheader, hpayload, hgap]

theorem Transfer.length_eq_iff : kept.length = packets.length ↔ kept = packets :=
  ⟨h.sublist.eq_of_length, congrArg List.length⟩

end

/-! ## What a life makes of it -/

/-- A life has gathered the given packets and nothing else, each at least once. -/
structure Life.Gathers (life : Life) (kept : List Datagram.Packet) : Prop where
  of_kept : ∀ attempt ∈ life.attempts, ∃ sent ∈ kept,
    Content.ofAttempt attempt = ⟨sent.header, sent.payload, false⟩
  each : ∀ sent ∈ kept, ∃ attempt ∈ life.attempts,
    Content.ofAttempt attempt = ⟨sent.header, sent.payload, false⟩

theorem Life.Gathers.sent_of_piece {life : Life} {kept : List Datagram.Packet}
    (h : life.Gathers kept) {piece : Attempt} (hpiece : piece ∈ life.pieces) :
    ∃ sent ∈ kept, Content.ofAttempt piece = ⟨sent.header, sent.payload, false⟩ :=
  h.of_kept piece (Assembly.mem_accepted.mp hpiece).1

theorem finish_of_content {attempt : Attempt} {sent : Datagram.Packet}
    (hcontent : Content.ofAttempt attempt = ⟨sent.header, sent.payload, false⟩)
    (stride : Nat) : attempt.finish stride = finish stride sent := by
  have hheader : attempt.header = sent.header := congrArg Content.header hcontent
  have hpayload : attempt.payload = sent.payload := congrArg Content.payload hcontent
  rw [Attempt.finish, Attempt.offset, Attempt.id, hheader, hpayload, finish]

structure Arrival (settings : Settings) (frameId : UInt32) (original : Bytes)
    (packets kept : List Datagram.Packet) (life : Life) (flight : Flight) : Prop
    extends Transfer settings frameId original packets kept where
  gathers : life.Gathers kept
  describes : life.Describes settings frameId flight
  begun : life.Begun

section
variable {settings : Settings} {frameId : UInt32} {original : Bytes}
  {packets kept : List Datagram.Packet} {life : Life} {flight : Flight}
  (h : Arrival settings frameId original packets kept life flight)
include h

theorem Arrival.expected_eq : flight.assembly.expected = packets.length := by
  obtain ⟨first, rest, hattempts, hopener⟩ := h.begun
  have hfirst : first ∈ life.attempts := by simp [hattempts]
  obtain ⟨sent, hmem, hcontent⟩ := h.gathers.of_kept first hfirst
  have hheader : first.header = sent.header := congrArg Content.header hcontent
  obtain ⟨hcut, -⟩ := h.isCut (h.getElem?_of_mem (h.sublist.subset hmem))
  rw [h.describes.expected_eq, ← hopener, hheader, hcut.packetCount_eq,
    Datagram.length_of_fragment h.fragment_eq]

/-- A packet of the frame is accepted unless it was accepted before. -/
theorem Arrival.accepted_or_duplicate {attempt : Attempt} (hattempt : attempt ∈ life.attempts) :
    attempt.outcome = .accepted ∨
      attempt.outcome = .rejected .duplicate ∧ attempt.id ∈ life.pieces.map Attempt.id := by
  obtain ⟨sent, hmem, hcontent⟩ := h.gathers.of_kept attempt hattempt
  have hpacket := h.getElem?_of_mem (h.sublist.subset hmem)
  obtain ⟨hcut, -⟩ := h.isCut hpacket
  have hheader : attempt.header = sent.header := congrArg Content.header hcontent
  have hpayload : attempt.payload = sent.payload := congrArg Content.payload hcontent
  have hid : attempt.id = sent.header.packetId := congrArg _ hheader
  have hfinish := finish_of_content hcontent settings.stride
  have hstride := h.describes.ready.stride_eq
  have hexplained := h.describes.reflects.explained attempt hattempt
  unfold Attempt.Explained at hexplained
  split at hexplained
  all_goals rename_i houtcome
  · exact Or.inl houtcome
  · exact Or.inr ⟨houtcome, hexplained⟩
  · -- the number is below the packet count
    have hlt := (List.getElem?_eq_some_iff.mp hpacket).1
    rw [h.expected_eq, hid] at hexplained
    omega
  · -- no payload is longer than the stride
    have hle := hcut.length_le
    rw [hstride, hpayload] at hexplained
    omega
  · -- no payload reaches beyond the frame, which fits the buffer
    have hle := h.finish_le (h.sublist.subset hmem)
    have hfits := h.fits
    rw [hstride, h.describes.ready.capacity_eq, hfinish] at hexplained
    omega
  · exact hexplained.elim

theorem Arrival.harms_eq_false {attempt : Attempt} (hattempt : attempt ∈ life.attempts) :
    attempt.outcome.harms = false := by
  rcases h.accepted_or_duplicate hattempt with houtcome | ⟨houtcome, -⟩
  · rw [houtcome]
    rfl
  · rw [houtcome]
    rfl

theorem Arrival.mem_pieceIds {packetId : UInt16} :
    packetId ∈ life.pieces.map Attempt.id ↔
      packetId ∈ kept.map fun sent => sent.header.packetId := by
  rw [List.mem_map, List.mem_map]
  constructor
  · rintro ⟨piece, hpiece, rfl⟩
    obtain ⟨sent, hmem, hcontent⟩ := h.gathers.sent_of_piece hpiece
    have hheader : piece.header = sent.header := congrArg Content.header hcontent
    exact ⟨sent, hmem, by rw [Attempt.id, hheader]⟩
  · rintro ⟨sent, hmem, rfl⟩
    obtain ⟨attempt, hattempt, hcontent⟩ := h.gathers.each sent hmem
    have hheader : attempt.header = sent.header := congrArg Content.header hcontent
    have hid : attempt.id = sent.header.packetId := congrArg _ hheader
    rcases h.accepted_or_duplicate hattempt with houtcome | ⟨-, hpresent⟩
    · exact ⟨attempt, Assembly.mem_accepted.mpr ⟨hattempt, houtcome⟩, hid⟩
    · rw [hid] at hpresent
      exact List.mem_map.mp hpresent

/-- Of every packet that came through, one copy was accepted. -/
theorem Arrival.pieceIds_perm :
    (life.pieces.map Attempt.id).Perm (kept.map fun sent => sent.header.packetId) := by
  have hkept : (kept.map fun sent => sent.header.packetId).Nodup :=
    h.packetIds_nodup.sublist (h.sublist.map _)
  refine (List.perm_ext_iff_of_nodup h.describes.reflects.ids_nodup hkept).mpr ?_
  intro packetId
  exact h.mem_pieceIds

theorem Arrival.length_pieces : life.pieces.length = kept.length := by
  have hlength := h.pieceIds_perm.length_eq
  rwa [List.length_map, List.length_map] at hlength

theorem Arrival.piece_of_sent {sent : Datagram.Packet} (hmem : sent ∈ kept) :
    ∃ piece ∈ life.pieces, Content.ofAttempt piece = ⟨sent.header, sent.payload, false⟩ := by
  have hid := h.mem_pieceIds.mpr (List.mem_map_of_mem hmem)
  obtain ⟨piece, hpiece, hsame⟩ := List.mem_map.mp hid
  obtain ⟨other, hother, hcontent⟩ := h.gathers.sent_of_piece hpiece
  have hheader : piece.header = other.header := congrArg Content.header hcontent
  have heq : other = sent := by
    apply h.eq_of_packetId_eq (h.sublist.subset hother) (h.sublist.subset hmem)
    rw [← hsame, ← hheader]
    rfl
  exact ⟨piece, hpiece, heq ▸ hcontent⟩

end

/-! ## What becomes of the frame -/

structure Holds (packets kept : List Datagram.Packet) (assembly : Assembly) : Prop where
  expected_eq : assembly.expected = packets.length
  received_eq : assembly.received = kept.length
  hasPacket_iff : ∀ packetId, assembly.hasPacket packetId = true ↔
    ∃ sent ∈ kept, sent.header.packetId = packetId
  mem_missing : ∀ packetId, packetId ∈ assembly.missingPackets ↔
    ∃ lost ∈ packets, lost ∉ kept ∧ lost.header.packetId = packetId
  corrupted_eq : assembly.corrupted = false
  gapHints_eq : assembly.gapHints = 0

structure Restores (stride : Nat) (packets kept : List Datagram.Packet) (original : Bytes)
    (frame : Frame) : Prop where
  expected_eq : frame.expected = packets.length
  received_eq : frame.received = kept.length
  finish_le_size : ∀ sent ∈ kept, finish stride sent ≤ frame.size
  exists_finish_eq : ∃ sent ∈ kept, finish stride sent = frame.size
  byte_of_kept : ∀ position < frame.size, ∀ sent ∈ kept,
    packets[position / stride]? = some sent → frame.data[position]? = original[position]?
  byte_of_lost : ∀ position < frame.size,
    (∀ sent ∈ kept, packets[position / stride]? ≠ some sent) →
      frame.data[position]? = some 0
  complete_iff : frame.complete = true ↔ kept = packets
  state_iff : frame.state = .complete ↔ kept = packets
  corrupted_iff : frame.corrupted = true ↔ kept ≠ packets
  data_eq : kept = packets → frame.data = original

section
variable {settings : Settings} {frameId : UInt32} {original : Bytes}
  {packets kept : List Datagram.Packet} {life : Life} {flight : Flight}
  (h : Arrival settings frameId original packets kept life flight)
include h

theorem Arrival.hasPacket_iff {packetId : UInt16} :
    flight.assembly.hasPacket packetId = true ↔
      ∃ sent ∈ kept, sent.header.packetId = packetId := by
  rw [h.describes.reflects.hasPacket_iff]
  exact h.mem_pieceIds.trans List.mem_map

theorem Arrival.mem_missing {packetId : UInt16} :
    packetId ∈ flight.assembly.missingPackets ↔
      ∃ lost ∈ packets, lost ∉ kept ∧ lost.header.packetId = packetId := by
  have hsize : flight.assembly.present.size = packets.length :=
    h.describes.reflects.present_size.trans h.expected_eq
  have hbound : flight.assembly.present.size ≤ 65536 :=
    h.describes.reflects.present_size ▸ h.describes.expected_le
  rw [Assembly.mem_missingPackets hbound, hsize]
  constructor
  · rintro ⟨hlt, habsent⟩
    have hlost := List.getElem?_eq_getElem hlt
    have hid := UInt16.toNat_inj.mp (h.isCut hlost).1.packetId_eq
    refine ⟨_, List.getElem_mem hlt, ?_, hid⟩
    intro hkept
    have hpresent := h.hasPacket_iff.mpr ⟨_, hkept, hid⟩
    rw [habsent] at hpresent
    exact absurd hpresent (by decide)
  · rintro ⟨lost, hmem, hlost, rfl⟩
    refine ⟨(List.getElem?_eq_some_iff.mp (h.getElem?_of_mem hmem)).1, ?_⟩
    rw [← Bool.not_eq_true, h.hasPacket_iff]
    rintro ⟨sent, hkept, hid⟩
    rw [h.eq_of_packetId_eq (h.sublist.subset hkept) hmem hid] at hkept
    exact hlost hkept

theorem Arrival.holds : Holds packets kept flight.assembly where
  expected_eq := h.expected_eq
  received_eq := by
    rw [h.describes.reflects.received_eq]
    exact h.length_pieces
  hasPacket_iff := fun packetId => h.hasPacket_iff
  mem_missing := fun packetId => h.mem_missing
  corrupted_eq := by
    rw [h.describes.reflects.corrupted_eq, List.any_eq_false]
    intro attempt hattempt
    rw [h.harms_eq_false hattempt]
    exact Bool.false_ne_true
  gapHints_eq := by
    rw [h.describes.reflects.gapHints_eq, List.countP_eq_zero]
    intro piece hpiece
    obtain ⟨sent, -, hcontent⟩ := h.gathers.sent_of_piece hpiece
    have hgap : piece.gapHint = false := congrArg Content.gapHint hcontent
    rw [hgap]
    exact Bool.false_ne_true

theorem Arrival.pieces_ne_nil : life.pieces ≠ [] := by
  have hlength := h.length_pieces
  obtain ⟨first, rest, hattempts, -⟩ := h.begun
  obtain ⟨sent, hmem, -⟩ := h.gathers.of_kept first (by simp [hattempts])
  intro hnil
  rw [hnil, List.length_nil] at hlength
  rw [List.length_eq_zero_iff.mp hlength.symm] at hmem
  exact absurd hmem List.not_mem_nil

/-- The frame handed over ends where the farthest packet that came through ends. -/
theorem Arrival.size_spec (drops : Nat) :
    (∀ sent ∈ kept, finish settings.stride sent ≤ (retiredFrame flight drops).size) ∧
      ∃ sent ∈ kept, finish settings.stride sent = (retiredFrame flight drops).size := by
  rw [(h.describes.yields drops).size_eq]
  constructor
  · intro sent hmem
    obtain ⟨piece, hpiece, hcontent⟩ := h.piece_of_sent hmem
    rw [← finish_of_content hcontent]
    exact Assembly.finish_le_furthest hpiece
  · obtain ⟨piece, hpiece, hfinish⟩ :=
      Assembly.exists_finish_eq_furthest h.pieces_ne_nil
    obtain ⟨sent, hmem, hcontent⟩ := h.gathers.sent_of_piece hpiece
    exact ⟨sent, hmem, (finish_of_content hcontent _).symm.trans hfinish⟩

theorem Arrival.size_le (drops : Nat) :
    (retiredFrame flight drops).size ≤ original.length := by
  obtain ⟨sent, hmem, hfinish⟩ := (h.size_spec drops).2
  rw [← hfinish]
  exact h.finish_le (h.sublist.subset hmem)

/-- A byte of a packet that came through is the byte of the original. -/
theorem Arrival.byte_of_kept (drops : Nat) {position : Nat}
    (hlt : position < (retiredFrame flight drops).size) {sent : Datagram.Packet}
    (hmem : sent ∈ kept) (hsent : packets[position / settings.stride]? = some sent) :
    (retiredFrame flight drops).data[position]? = original[position]? := by
  have hinside := Nat.lt_of_lt_of_le hlt (h.size_le drops)
  have hfinish := h.lt_finish hinside hsent
  obtain ⟨hcut, -⟩ := h.isCut hsent
  obtain ⟨piece, hpiece, hcontent⟩ := h.piece_of_sent hmem
  have hheader : piece.header = sent.header := congrArg Content.header hcontent
  have hpayload : piece.payload = sent.payload := congrArg Content.payload hcontent
  have hoffset : piece.offset settings.stride =
      position / settings.stride * settings.stride := by
    rw [Attempt.offset, Attempt.id, hheader, hcut.packetId_eq]
  have hposition : position / settings.stride * settings.stride +
      position % settings.stride = position := Nat.div_add_mod' _ _
  have hindex : position % settings.stride < sent.payload.length := by
    rw [finish, hcut.packetId_eq] at hfinish
    omega
  have hbyte := (h.describes.yields drops).byte_of_piece piece hpiece _
    (hpayload ▸ hindex)
  rwa [hoffset, hposition, hpayload, hcut.getElem?_payload hindex, hposition] at hbyte

/-- A byte of a packet that was lost is zero. -/
theorem Arrival.byte_of_lost (drops : Nat) {position : Nat}
    (hlt : position < (retiredFrame flight drops).size)
    (hlost : ∀ sent ∈ kept, packets[position / settings.stride]? ≠ some sent) :
    (retiredFrame flight drops).data[position]? = some 0 := by
  apply (h.describes.yields drops).byte_elsewhere position hlt
  intro piece hpiece hcovers
  obtain ⟨sent, hmem, hcontent⟩ := h.gathers.sent_of_piece hpiece
  have hsent := h.getElem?_of_mem (h.sublist.subset hmem)
  have hheader : piece.header = sent.header := congrArg Content.header hcontent
  have hpayload : piece.payload = sent.payload := congrArg Content.payload hcontent
  have hlength := (h.isCut hsent).1.length_le
  obtain ⟨hfrom, hto⟩ := hcovers
  rw [Attempt.finish, hpayload] at hto
  rw [Attempt.offset, Attempt.id, hheader] at hfrom hto
  -- only the packet whose number the position names covers it
  have hnumber : position / settings.stride = sent.header.packetId.toNat := by
    rw [Nat.div_eq_iff h.stride_pos]
    omega
  rw [← hnumber] at hsent
  exact hlost sent hmem hsent

theorem Arrival.state_iff (drops : Nat) :
    (retiredFrame flight drops).state = .complete ↔ kept = packets := by
  have hexpected : (retiredFrame flight drops).expected = packets.length := h.expected_eq
  rw [(h.describes.yields drops).state_iff, hexpected, h.length_pieces, h.length_eq_iff,
    and_iff_left_iff_imp]
  intro _ attempt hattempt
  exact h.harms_eq_false hattempt

theorem Arrival.data_eq (drops : Nat) (hall : kept = packets) :
    (retiredFrame flight drops).data = original := by
  have hle := h.size_le drops
  obtain ⟨hfinishes, -⟩ := h.size_spec drops
  have hpacket : ∀ position < original.length, ∃ sent ∈ kept,
      packets[position / settings.stride]? = some sent := by
    intro position hlt
    have hnumber := Datagram.div_lt_packetsNeeded h.stride_pos hlt
    rw [← Datagram.length_of_fragment h.fragment_eq] at hnumber
    have hsent := List.getElem?_eq_getElem hnumber
    exact ⟨_, hall ▸ List.getElem_mem hnumber, hsent⟩
  have hinside : ∀ position < original.length,
      position < (retiredFrame flight drops).size := by
    intro position hlt
    obtain ⟨sent, hmem, hsent⟩ := hpacket position hlt
    exact Nat.lt_of_lt_of_le (h.lt_finish hlt hsent) (hfinishes sent hmem)
  apply List.ext_getElem?
  intro position
  by_cases hlt : position < original.length
  · obtain ⟨sent, hmem, hsent⟩ := hpacket position hlt
    exact h.byte_of_kept drops (hinside position hlt) hmem hsent
  · have hpast : (retiredFrame flight drops).data.length ≤ position := by
      have hsize : (retiredFrame flight drops).size ≤ position := by omega
      exact hsize
    rw [List.getElem?_eq_none hpast, List.getElem?_eq_none (by omega)]

theorem Arrival.restores (drops : Nat) :
    Restores settings.stride packets kept original (retiredFrame flight drops) := by
  have hyields := h.describes.yields drops
  have hexpected : (retiredFrame flight drops).expected = packets.length := h.expected_eq
  have hlength := h.length_pieces
  have hstate := h.state_iff drops
  obtain ⟨hle, hattained⟩ := h.size_spec drops
  exact {
    expected_eq := hexpected
    received_eq := hyields.received_eq.trans hlength
    finish_le_size := hle
    exists_finish_eq := hattained
    byte_of_kept := fun position hlt sent hmem hsent =>
      h.byte_of_kept drops hlt hmem hsent
    byte_of_lost := fun position hlt hlost =>
      h.byte_of_lost drops hlt hlost
    complete_iff := by rw [hyields.complete_iff, hexpected, hlength, h.length_eq_iff]
    state_iff := hstate
    corrupted_iff := by
      rw [hyields.corrupted_iff, ne_eq, ← hstate]
      cases (retiredFrame flight drops).state <;> simp
    data_eq := h.data_eq drops }

end

/-! ## From the sender to the frame handed over -/

theorem Transfer.gathers {settings : Settings} {frameId : UInt32} {original : Bytes}
    {packets kept : List Datagram.Packet}
    (h : Transfer settings frameId original packets kept) {calls : List Call}
    (hdelivers : Delivers settings.stride frameId kept calls) {life : Life}
    (hgathered : life.attempts.map Content.ofAttempt =
      (packetsFor frameId calls).map Content.ofPacket) : life.Gathers kept where
  of_kept := by
    intro attempt hattempt
    have hcontent := List.mem_map_of_mem (f := Content.ofAttempt) hattempt
    rw [hgathered] at hcontent
    obtain ⟨received, hreceived, hsame⟩ := List.mem_map.mp hcontent
    obtain ⟨sent, hmem, harrives⟩ := hdelivers.of_kept received hreceived
    refine ⟨sent, hmem, ?_⟩
    rw [← hsame]
    exact h.of_arrives (h.sublist.subset hmem) harrives
  each := by
    intro sent hmem
    obtain ⟨received, hreceived, harrives⟩ := hdelivers.each sent hmem
    have hcontent := List.mem_map_of_mem (f := Content.ofPacket) hreceived
    rw [← hgathered] at hcontent
    obtain ⟨attempt, hattempt, hsame⟩ := List.mem_map.mp hcontent
    refine ⟨attempt, hattempt, ?_⟩
    rw [hsame]
    exact h.of_arrives (h.sublist.subset hmem) harrives

/-- Packets that come through put their frame in flight, and its life gathers them. -/
theorem Transfer.exists_arrival {settings : Settings} {reportsMissing : Bool}
    {start : Reassembly} (hstart : create settings reportsMissing = .ok start)
    (huncapped : settings.maxInFlight = none) {frameId : UInt32} {original : Bytes}
    {packets kept : List Datagram.Packet}
    (h : Transfer settings frameId original packets kept) (hkept : kept ≠ [])
    {earlier calls : List Call} (habsent : (start.run earlier).1.isInFlight frameId = false)
    (hdelivers : Delivers settings.stride frameId kept calls)
    (hstays : framesOf frameId ((start.run earlier).1.trail calls) = []) :
    ∃ (life : Life) (flight : Flight),
      (start.run (earlier ++ calls)).1.find? frameId = some flight ∧
        Arrival settings frameId original packets kept life flight := by
  have hgathered := gathered_lifeOf hstart huncapped habsent hstays
  cases hlife : lifeOf frameId (start.trail (earlier ++ calls)) with
  | none =>
      rw [hlife] at hgathered
      have hnone : packetsFor frameId calls = [] := List.map_eq_nil_iff.mp hgathered.symm
      obtain ⟨sent, hmem⟩ := List.exists_mem_of_ne_nil kept hkept
      obtain ⟨received, hreceived, -⟩ := hdelivers.each sent hmem
      rw [hnone] at hreceived
      exact absurd hreceived List.not_mem_nil
  | some life =>
      rw [hlife] at hgathered
      obtain ⟨flight, hflight, hdescribes⟩ := exists_flight_of_lifeOf hstart hlife
      exact ⟨life, flight, hflight, {
        toTransfer := h
        gathers := h.gathers hdelivers hgathered
        describes := hdescribes
        begun := begun_of_lifeOf hlife }⟩

/--
A frame is cut for a receiver without a cap on the frames in flight, and some of
its packets come through, in any order and any number of times, among whatever
else happens.  Then the frame is in flight with just these packets, and the call
that retires it hands over one frame, which restores the original as far as the
packets go.
-/
theorem delivered_frame_restores {settings : Settings} {reportsMissing : Bool}
    {start : Reassembly} (hstart : create settings reportsMissing = .ok start)
    (hpayload : settings.maxPayload = settings.stride)
    (huncapped : settings.maxInFlight = none) {original : Bytes}
    (hfits : original.length ≤ settings.maxFrameSize)
    (hcount : Datagram.packetsNeeded original.length settings.stride ≤ Datagram.maxPackets)
    (frameId : UInt32) :
    ∃ packets, fragment frameId original settings.stride = .ok packets ∧
      packets.length = Datagram.packetsNeeded original.length settings.stride ∧
      (∀ sent ∈ packets, ∀ trailing, ∃ received,
        Reception.Packet.ofDatagram (sent.encode ++ trailing) settings.maxPayload =
          .ok received) ∧
      ∀ kept, kept.Sublist packets → kept ≠ [] → ∀ earlier calls,
        (start.run earlier).1.isInFlight frameId = false →
        Delivers settings.maxPayload frameId kept calls →
        framesOf frameId ((start.run earlier).1.trail calls) = [] →
          (∃ flight, (start.run (earlier ++ calls)).1.find? frameId = some flight ∧
            Holds packets kept flight.assembly) ∧
          ∀ call, framesOf frameId ((start.run (earlier ++ calls)).1.trail [call]) ≠ [] →
            ∃ frame,
              framesOf frameId ((start.run (earlier ++ calls)).1.trail [call]) = [frame] ∧
                Restores settings.stride packets kept original frame := by
  have hvalid := valid_of_create hstart
  have hpositive : 0 < settings.stride :=
    hvalid.nonZero (.stride, settings.stride) (by simp [Settings.nonZero])
  have hstride : settings.stride ≤ Reception.payloadCapacity :=
    hpayload ▸ hvalid.maxPayload_le_capacity
  obtain ⟨packets, hfragment⟩ := Datagram.fragment_ok frameId hpositive hcount
  refine ⟨packets, hfragment, Datagram.length_of_fragment hfragment, ?_, ?_⟩
  · intro sent hmem trailing
    have htransfer : Transfer settings frameId original packets packets :=
      ⟨hfragment, List.Sublist.refl _, hstride, hfits⟩
    obtain ⟨received, hreceived, -⟩ := htransfer.arrives hmem trailing
    exact ⟨received, hpayload ▸ hreceived⟩
  · intro kept hsublist hkept earlier calls habsent hdelivers hstays
    have htransfer : Transfer settings frameId original packets kept :=
      ⟨hfragment, hsublist, hstride, hfits⟩
    rw [hpayload] at hdelivers
    obtain ⟨life, flight, hflight, harrival⟩ :=
      htransfer.exists_arrival hstart huncapped hkept habsent hdelivers hstays
    refine ⟨⟨flight, hflight, harrival.holds⟩, ?_⟩
    intro call hretires
    have hsound := ((sound_of_create hstart).run (earlier ++ calls)).sound
    rw [trail_cons, trail_nil, framesOf_cons, framesOf_nil, List.append_nil] at hretires ⊢
    rcases (hsound.turn call frameId).2.frames_eq with ⟨hnone, -⟩ |
      ⟨other, hother, -, honly⟩
    · exact absurd hnone hretires
    · rw [hflight] at hother
      rw [← Option.some.inj hother] at honly
      exact ⟨_, honly, harrival.restores call.drops⟩

/-- The second of two packets comes twice, around a packet of another frame. -/
theorem delivered_frame_restores_second :
    let settings := { Settings.default with maxFrameSize := 16, stride := 4, maxPayload := 4 }
    let original : Bytes := [10, 20, 30, 40, 50, 60, 70]
    let first : Datagram.Packet := ⟨⟨7, 0, 2, 4⟩, [10, 20, 30, 40]⟩
    let second : Datagram.Packet := ⟨⟨7, 1, 2, 3⟩, [50, 60, 70]⟩
    let received : Reception.Packet := ⟨⟨7, 1, 2, 3⟩, [50, 60, 70], false, rfl, by decide⟩
    let other : Reception.Packet := ⟨⟨8, 0, 1, 1⟩, [99], false, rfl, by decide⟩
    let start := initial settings false
    let earlier : List Call := [.push other 0 1, .drain 0]
    let calls : List Call := [.push received 0 2, .push other 0 3, .push received 0 4]
    create settings false = .ok start ∧ fragment 7 original 4 = .ok [first, second] ∧
      Delivers 4 7 [second] calls ∧
      ∃ frame, framesOf 7 ((start.run (earlier ++ calls)).1.trail [.drain 0]) = [frame] ∧
        Restores 4 [first, second] [second] original frame ∧
        frame.data = [0, 0, 0, 0, 50, 60, 70] := by
  intro settings original first second received other start earlier calls
  have hstart : create settings false = .ok start := rfl
  have hfragment : fragment 7 original 4 = .ok [first, second] := by cbv
  have harrives : Arrives 4 second received := ⟨[1, 2], by cbv⟩
  have hpackets : packetsFor 7 calls = [received, received] := by decide
  have hdelivers : Delivers 4 7 [second] calls := by
    constructor
    · intro packet hmem
      have hsame : packet = received := by simpa [hpackets] using hmem
      exact ⟨second, List.mem_singleton_self _, hsame ▸ harrives⟩
    · intro sent hmem
      rw [List.mem_singleton.mp hmem, hpackets]
      exact ⟨received, List.mem_cons_self, harrives⟩
  obtain ⟨packets, hcut, -, -, hrestores⟩ :=
    delivered_frame_restores hstart rfl rfl (show original.length ≤ 16 by decide) (by decide) 7
  have hsame : packets = [first, second] := Except.ok.inj (hcut.symm.trans hfragment)
  subst hsame
  obtain ⟨-, hframe⟩ := hrestores [second] (by decide) (by decide) earlier calls (by decide)
    hdelivers (by decide)
  obtain ⟨frame, honly, hrestored⟩ := hframe (.drain 0) (by decide)
  have hdata : (framesOf 7 ((start.run (earlier ++ calls)).1.trail [.drain 0])).map
      Frame.data = [[0, 0, 0, 0, 50, 60, 70]] := by
    decide
  rw [honly] at hdata
  exact ⟨hstart, hfragment, hdelivers, frame, honly, hrestored, List.head_eq_of_cons_eq hdata⟩

end Reassembly

end Framecast
