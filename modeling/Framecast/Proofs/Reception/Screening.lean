import Framecast.Proofs.Reception.Sharing
import Framecast.Proofs.WireForm
import Framecast.Reception.Intake

/-!
# What the intake lets in

A datagram comes in as a packet exactly when its bytes, uncut, hold a header that
declares no more than may come in, and all that it declares.  The receive buffer is
longer than any such packet, so cutting a datagram off at its end changes nothing.
Every other datagram is counted and leaves no mark: a course of arrivals and removals
shows the same packets, gaps and drops when these datagrams are left out of it.
-/

namespace Framecast.Reception

open Framecast.Datagram (Header declaredSize headerSize)
open Framecast.Observation (Trace)

/-! ## Datagrams that hold a packet -/

/-- The bytes hold a header that declares a payload which may come in, and all of it. -/
structure HoldsPacket (limit : Nat) (datagram : Bytes) : Prop where
  header : headerSize ≤ datagram.length
  legal : declaredSize datagram ≤ min limit payloadCapacity
  whole : declaredSize datagram ≤ datagram.length - headerSize

instance (limit : Nat) (datagram : Bytes) : Decidable (HoldsPacket limit datagram) :=
  decidable_of_iff
    (headerSize ≤ datagram.length ∧ declaredSize datagram ≤ min limit payloadCapacity ∧
      declaredSize datagram ≤ datagram.length - headerSize)
    ⟨fun ⟨hheader, hlegal, hwhole⟩ => ⟨hheader, hlegal, hwhole⟩,
      fun h => ⟨h.header, h.legal, h.whole⟩⟩

theorem split_of_whole {datagram : Bytes} (hlong : headerSize ≤ datagram.length)
    (hwhole : declaredSize datagram ≤ datagram.length - headerSize) :
    ∃ header, Header.decode datagram = .ok header ∧
      Datagram.split datagram =
        .ok (header, (datagram.drop headerSize).take (declaredSize datagram)) := by
  obtain ⟨header, hheader, -⟩ := Header.wireForm.encode_decode datagram hlong
  have hdeclared := Datagram.payloadSize_of_decode hlong hheader
  refine ⟨header, hheader, ?_⟩
  rw [← hdeclared] at hwhole ⊢
  simp only [Datagram.split, hheader, bind, Except.bind]
  rw [if_neg (Nat.not_lt.mpr hwhole)]

section
variable {limit : Nat} {datagram : Bytes}

theorem ofDatagram_of_split {header : Header} {payload : Bytes}
    (hsplit : Datagram.split datagram = .ok (header, payload))
    (hfits : payload.length ≤ min limit payloadCapacity) :
    ∃ packet, Packet.ofDatagram datagram limit = .ok packet ∧
      Packet.new header payload = .ok packet := by
  have hcapacity : payload.length ≤ payloadCapacity := by omega
  have hlength := Datagram.length_of_split hsplit
  refine ⟨⟨header, payload, false, hlength, hcapacity⟩, ?_, ?_⟩
  · rw [Packet.ofDatagram]
    split
    · rename_i cause herror
      rw [hsplit] at herror
      exact absurd herror (by simp)
    · rename_i other found hfound
      rw [hsplit] at hfound
      obtain ⟨rfl, rfl⟩ := Prod.mk.inj (Except.ok.inj hfound)
      rw [dif_pos hfits]
  · rw [Packet.new, dif_pos hcapacity, dif_pos hlength]

/-- Such bytes become the packet that is made of their header and the declared payload. -/
theorem HoldsPacket.ofDatagram_eq (h : HoldsPacket limit datagram) :
    ∃ header packet, Header.decode datagram = .ok header ∧
      Packet.new header ((datagram.drop headerSize).take (declaredSize datagram)) =
        .ok packet ∧
      Packet.ofDatagram datagram limit = .ok packet := by
  obtain ⟨header, hheader, hsplit⟩ := split_of_whole h.header h.whole
  have hfits : ((datagram.drop headerSize).take (declaredSize datagram)).length ≤
      min limit payloadCapacity := Nat.le_trans (List.length_take_le _ _) h.legal
  obtain ⟨packet, hpacket, hnew⟩ := ofDatagram_of_split hsplit hfits
  exact ⟨header, packet, hheader, hnew, hpacket⟩

theorem holdsPacket_of_ofDatagram {packet : Packet}
    (h : Packet.ofDatagram datagram limit = .ok packet) : HoldsPacket limit datagram := by
  rw [Packet.ofDatagram] at h
  split at h
  · exact absurd h (by simp)
  rename_i header payload hsplit
  split at h
  · rename_i hfits
    have hdecode : Datagram.Packet.decode datagram = .ok ⟨header, payload⟩ := by
      rw [Datagram.Packet.decode, hsplit]
      rfl
    obtain ⟨hlong, hwhole⟩ := Datagram.Packet.exists_decode_iff.mp ⟨_, hdecode⟩
    obtain ⟨other, -, hother⟩ := split_of_whole hlong hwhole
    obtain ⟨-, hpayload⟩ := Prod.mk.inj (Except.ok.inj (hsplit.symm.trans hother))
    rw [hpayload, List.length_take, List.length_drop] at hfits
    exact ⟨hlong, by omega, hwhole⟩
  · exact absurd h (by simp)

/-! ## The receive buffer -/

theorem declaredSize_take (datagram : Bytes) :
    declaredSize (datagram.take receiveBuffer) = declaredSize datagram := by
  rw [declaredSize, declaredSize, List.drop_take, List.take_take]
  rfl

/-- No packet that may come in is longer than the receive buffer. -/
theorem holdsPacket_take_iff :
    HoldsPacket limit (datagram.take receiveBuffer) ↔ HoldsPacket limit datagram := by
  have hlength : (datagram.take receiveBuffer).length = min 2048 datagram.length :=
    List.length_take
  constructor
  · rintro ⟨hheader, hlegal, hwhole⟩
    rw [declaredSize_take] at hlegal hwhole
    simp only [headerSize, hlength] at hheader hwhole
    exact ⟨by simp only [headerSize]; omega, hlegal, by simp only [headerSize]; omega⟩
  · rintro ⟨hheader, hlegal, hwhole⟩
    have hcapacity : declaredSize datagram ≤ 1500 :=
      Nat.le_trans hlegal (Nat.min_le_right _ _)
    simp only [headerSize] at hheader hwhole
    refine ⟨?_, ?_, ?_⟩
    · simp only [headerSize, hlength]
      omega
    · rwa [declaredSize_take]
    · simp only [declaredSize_take, headerSize, hlength]
      omega

/-- The header stands well inside the receive buffer. -/
theorem decode_take (hlong : headerSize ≤ datagram.length) :
    Header.decode (datagram.take receiveBuffer) = Header.decode datagram := by
  have hcut : headerSize ≤ (datagram.take receiveBuffer).length := by
    rw [List.length_take]
    exact Nat.le_min.mpr ⟨by decide, hlong⟩
  rw [Header.decode_of_le hcut, Header.decode_of_le hlong]
  simp only [word32At, word16At, List.drop_take, List.take_take]
  rfl

theorem HoldsPacket.payload_take (h : HoldsPacket limit datagram) :
    ((datagram.take receiveBuffer).drop headerSize).take (declaredSize datagram) =
      (datagram.drop headerSize).take (declaredSize datagram) := by
  have hroom : declaredSize datagram ≤ receiveBuffer - headerSize :=
    Nat.le_trans h.legal (Nat.le_trans (Nat.min_le_right _ _) (by decide))
  rw [List.drop_take, List.take_take, Nat.min_eq_left hroom]

/-- What is left of a datagram in the receive buffer becomes the packet that the whole
datagram holds. -/
theorem HoldsPacket.ofDatagram_take (h : HoldsPacket limit datagram) :
    ∃ header packet, Header.decode datagram = .ok header ∧
      Packet.new header ((datagram.drop headerSize).take (declaredSize datagram)) =
        .ok packet ∧
      Packet.ofDatagram (datagram.take receiveBuffer) limit = .ok packet := by
  have hcut := (holdsPacket_take_iff.mpr h).ofDatagram_eq
  rwa [decode_take h.header, declaredSize_take, h.payload_take] at hcut

theorem ofDatagram_take_of_not (h : ¬ HoldsPacket limit datagram) :
    ∃ cause, Packet.ofDatagram (datagram.take receiveBuffer) limit = .error cause := by
  cases hpacket : Packet.ofDatagram (datagram.take receiveBuffer) limit with
  | error cause => exact ⟨cause, rfl⟩
  | ok packet => exact absurd (holdsPacket_take_iff.mp (holdsPacket_of_ofDatagram hpacket)) h

end

namespace Queue

theorem size_add_dropped_push (queue : Queue) (packet : Packet) :
    (queue.push packet).1.size + (queue.push packet).1.dropped =
      queue.size + queue.dropped + 1 := by
  by_cases hfull : queue.capacity ≤ queue.packets.length
  · rw [push_of_full hfull]
    rfl
  · rw [push_of_room (Nat.lt_of_not_le hfull)]
    simp only [size, List.length_append, List.length_singleton]
    omega

theorem size_pop (queue : Queue) :
    queue.size = queue.pop.2.toList.length + queue.pop.1.size ∧
      queue.pop.1.dropped = queue.dropped := by
  obtain ⟨capacity, packets, dropped⟩ := queue
  cases packets with
  | nil => exact ⟨rfl, rfl⟩
  | cons packet rest => exact ⟨Nat.add_comm _ _, rfl⟩

end Queue

namespace Intake

/-- What an intake is once it let in a packet that came in a datagram of `size` bytes. -/
structure LetsIn (intake next : Intake) (packet : Packet) (size : Nat) : Prop where
  appended : intake.queue.packets.length < intake.queue.capacity →
    next.queue = { intake.queue with
      packets := intake.queue.packets ++
        [{ packet with gapBefore := intake.continuity.gapBefore packet.header }] }
  dropped : intake.queue.capacity ≤ intake.queue.packets.length →
    next.queue = { intake.queue with dropped := intake.queue.dropped + 1 }
  packets_eq : next.totals.packets = intake.totals.packets + 1
  bytes_eq : next.totals.bytes = intake.totals.bytes + size
  malformed_eq : next.totals.malformed = intake.totals.malformed
  gapHints_eq : next.totals.gapHints =
    intake.totals.gapHints + (intake.continuity.gapBefore packet.header).toNat
  continuity_eq : next.continuity = ⟨some (packet.header.frameId, packet.header.packetId)⟩
  trace_eq : next.trace = intake.trace.map fun trace =>
    trace.record ⟨.received, packet.header.frameId, packet.header.packetId,
      packet.header.packetCount.toNat, packet.header.payloadSize.toNat,
      intake.continuity.gapBefore packet.header⟩
  maxPayload_eq : next.maxPayload = intake.maxPayload

theorem letsIn_accept (intake : Intake) (packet : Packet) (size : Nat) :
    intake.LetsIn (intake.accept packet size).1 packet size where
  appended := by
    intro hroom
    simp only [accept, Queue.push_of_room hroom]
    rfl
  dropped := by
    intro hfull
    simp only [accept, Queue.push_of_full hfull]
  packets_eq := rfl
  bytes_eq := rfl
  malformed_eq := rfl
  gapHints_eq := by
    unfold accept
    cases intake.continuity.gapBefore packet.header <;> rfl
  continuity_eq := rfl
  trace_eq := rfl
  maxPayload_eq := rfl

structure Screens (intake : Intake) (datagram : Bytes) : Prop where
  lets_in : HoldsPacket intake.maxPayload datagram →
    ∃ header packet, Header.decode datagram = .ok header ∧
      Packet.new header ((datagram.drop headerSize).take (declaredSize datagram)) =
        .ok packet ∧
      Packet.ofDatagram (datagram.take receiveBuffer) intake.maxPayload = .ok packet ∧
      intake.LetsIn (intake.receive datagram).1 packet (min receiveBuffer datagram.length)
  keeps_out : ¬ HoldsPacket intake.maxPayload datagram →
    (intake.receive datagram).1 =
      { intake with
        totals := { intake.totals with malformed := intake.totals.malformed + 1 } }

section
variable {intake : Intake} {datagram : Bytes}

theorem receive_of_ok {packet : Packet}
    (h : Packet.ofDatagram (datagram.take receiveBuffer) intake.maxPayload = .ok packet) :
    (intake.receive datagram).1 =
      (intake.accept packet (min receiveBuffer datagram.length)).1 := by
  rw [receive, h, ← List.length_take]

theorem receive_of_error {cause : PacketError}
    (h : Packet.ofDatagram (datagram.take receiveBuffer) intake.maxPayload = .error cause) :
    (intake.receive datagram).1 = intake.refuse := by
  rw [receive, h]

theorem receive_of_not (h : ¬ HoldsPacket intake.maxPayload datagram) :
    (intake.receive datagram).1 = intake.refuse := by
  obtain ⟨cause, hcause⟩ := ofDatagram_take_of_not h
  exact receive_of_error hcause

end

theorem screens (intake : Intake) (datagram : Bytes) : intake.Screens datagram where
  lets_in := by
    intro h
    obtain ⟨header, packet, hheader, hnew, hpacket⟩ := h.ofDatagram_take
    refine ⟨header, packet, hheader, hnew, hpacket, ?_⟩
    rw [receive_of_ok hpacket]
    exact intake.letsIn_accept packet _
  keeps_out := receive_of_not

/-! ## Arrivals and removals -/

inductive Incident where
  | arrival (datagram : Bytes)
  /-- The consumer takes the oldest packet, if one is waiting. -/
  | removal
deriving Repr, DecidableEq

/-- Whether the incident is more than the arrival of a datagram that holds no packet. -/
def Incident.matters (limit : Nat) : Incident → Bool
  | .arrival datagram => decide (HoldsPacket limit datagram)
  | .removal => true

def Incident.datagram? : Incident → Option Bytes
  | .arrival datagram => some datagram
  | .removal => none

def meet (intake : Intake) : Incident → Intake
  | .arrival datagram => (intake.receive datagram).1
  | .removal => { intake with queue := intake.queue.pop.1 }

def meetAll (intake : Intake) (incidents : List Incident) : Intake :=
  incidents.foldl meet intake

def gives (intake : Intake) : Incident → List Packet
  | .arrival _ => []
  | .removal => intake.queue.pop.2.toList

def removed : Intake → List Incident → List Packet
  | _, [] => []
  | intake, incident :: rest => intake.gives incident ++ (intake.meet incident).removed rest

theorem receiveAll_eq_meetAll (intake : Intake) (datagrams : List Bytes) :
    (intake.receiveAll datagrams).1 = intake.meetAll (datagrams.map .arrival) := by
  induction datagrams generalizing intake with
  | nil => rfl
  | cons datagram rest ih => exact ih (intake.receive datagram).1

/-- The intakes differ at most in the number of datagrams that they have refused. -/
structure Alike (intake other : Intake) : Prop where
  maxPayload_eq : intake.maxPayload = other.maxPayload
  queue_eq : intake.queue = other.queue
  continuity_eq : intake.continuity = other.continuity
  trace_eq : intake.trace = other.trace
  packets_eq : intake.totals.packets = other.totals.packets
  bytes_eq : intake.totals.bytes = other.totals.bytes
  gapHints_eq : intake.totals.gapHints = other.totals.gapHints

theorem Alike.refl (intake : Intake) : intake.Alike intake :=
  ⟨rfl, rfl, rfl, rfl, rfl, rfl, rfl⟩

/-- A refusal shows in no other place. -/
theorem Alike.refuse {intake other : Intake} (h : intake.Alike other) :
    intake.refuse.Alike other :=
  ⟨h.maxPayload_eq, h.queue_eq, h.continuity_eq, h.trace_eq, h.packets_eq, h.bytes_eq,
    h.gapHints_eq⟩

theorem Alike.refuse_both {intake other : Intake} (h : intake.Alike other) :
    intake.refuse.Alike other.refuse :=
  ⟨h.maxPayload_eq, h.queue_eq, h.continuity_eq, h.trace_eq, h.packets_eq, h.bytes_eq,
    h.gapHints_eq⟩

theorem Alike.accept {intake other : Intake} (h : intake.Alike other) (packet : Packet)
    (size : Nat) : (intake.accept packet size).1.Alike (other.accept packet size).1 := by
  obtain ⟨hmax, hqueue, hcontinuity, htrace, hpackets, hbytes, hgaps⟩ := h
  constructor <;> simp only [Intake.accept, hmax, hqueue, hcontinuity, htrace, hpackets,
    hbytes, hgaps]

theorem Alike.meet {intake other : Intake} (h : intake.Alike other) (incident : Incident) :
    (intake.meet incident).Alike (other.meet incident) := by
  cases incident with
  | arrival datagram =>
      rw [Intake.meet, Intake.meet]
      cases hpacket : Packet.ofDatagram (datagram.take receiveBuffer) other.maxPayload with
      | ok packet =>
          rw [receive_of_ok hpacket, receive_of_ok (h.maxPayload_eq ▸ hpacket)]
          exact h.accept packet _
      | error cause =>
          rw [receive_of_error hpacket, receive_of_error (h.maxPayload_eq ▸ hpacket)]
          exact h.refuse_both
  | removal =>
      exact { h with queue_eq := congrArg (fun queue => queue.pop.1) h.queue_eq }

theorem Alike.gives_eq {intake other : Intake} (h : intake.Alike other) (incident : Incident) :
    intake.gives incident = other.gives incident := by
  cases incident with
  | arrival => rfl
  | removal => rw [gives, gives, h.queue_eq]

theorem maxPayload_meet (intake : Intake) (incident : Incident) :
    (intake.meet incident).maxPayload = intake.maxPayload := by
  cases incident with
  | arrival datagram =>
      rw [meet, receive]
      split <;> rfl
  | removal => rfl

/-- Both show the same, where one of them meets no refused datagram. -/
theorem Alike.meetAll {intake other : Intake} (h : intake.Alike other)
    (incidents : List Incident) :
    (intake.meetAll incidents).Alike
        (other.meetAll (incidents.filter (Incident.matters intake.maxPayload))) ∧
      intake.removed incidents =
        other.removed (incidents.filter (Incident.matters intake.maxPayload)) := by
  induction incidents generalizing intake other with
  | nil => exact ⟨h, rfl⟩
  | cons incident rest ih =>
      by_cases hmatters : incident.matters intake.maxPayload = true
      · have hrest := ih (h.meet incident)
        rw [maxPayload_meet] at hrest
        rw [List.filter_cons_of_pos hmatters, removed, removed, h.gives_eq, hrest.2]
        exact ⟨hrest.1, rfl⟩
      · rw [List.filter_cons_of_neg hmatters]
        cases incident with
        | arrival datagram =>
            have hnot : ¬ HoldsPacket intake.maxPayload datagram := by
              simpa [Incident.matters] using hmatters
            have hrefused : intake.meet (.arrival datagram) = intake.refuse :=
              receive_of_not hnot
            rw [Intake.meetAll, List.foldl_cons, removed, hrefused]
            exact ih h.refuse
        | removal => exact absurd rfl hmatters

/-! ## The books -/

/-- Every datagram came in or was refused; every packet was removed, waits or was dropped. -/
structure Accounts (intake : Intake) (arrived removed : Nat) : Prop where
  arrived_eq : intake.totals.packets + intake.totals.malformed = arrived
  packets_eq : intake.totals.packets = removed + intake.queue.size + intake.queue.dropped

section
variable {intake : Intake} {arrived taken : Nat} (h : intake.Accounts arrived taken)
include h

theorem Accounts.receive (datagram : Bytes) :
    (intake.receive datagram).1.Accounts (arrived + 1) taken := by
  obtain ⟨harrived, hpackets⟩ := h
  cases hpacket : Packet.ofDatagram (datagram.take receiveBuffer) intake.maxPayload with
  | error cause =>
      rw [receive_of_error hpacket]
      exact ⟨congrArg Nat.succ harrived, hpackets⟩
  | ok packet =>
      rw [receive_of_ok hpacket]
      have hpush := intake.queue.size_add_dropped_push
        (packet.withGap (intake.continuity.gapBefore packet.header))
      constructor <;> simp only [accept] <;> omega

theorem Accounts.meet (incident : Incident) :
    (intake.meet incident).Accounts (arrived + incident.datagram?.toList.length)
      (taken + (intake.gives incident).length) := by
  cases incident with
  | arrival datagram => exact h.receive datagram
  | removal =>
      obtain ⟨harrived, hpackets⟩ := h
      obtain ⟨hsize, hdropped⟩ := intake.queue.size_pop
      refine ⟨harrived, ?_⟩
      simp only [Intake.meet, gives]
      omega

end

theorem Accounts.meetAll {intake : Intake} {arrived taken : Nat}
    (h : intake.Accounts arrived taken) (incidents : List Incident) :
    (intake.meetAll incidents).Accounts
      (arrived + (incidents.filterMap Incident.datagram?).length)
      (taken + (intake.removed incidents).length) := by
  induction incidents generalizing intake arrived taken with
  | nil => exact h
  | cons incident rest ih =>
      have hrest := ih (h.meet incident)
      have harrived : ((incident :: rest).filterMap Incident.datagram?).length =
          incident.datagram?.toList.length + (rest.filterMap Incident.datagram?).length := by
        cases incident <;> simp [List.filterMap_cons, Incident.datagram?, Nat.add_comm]
      rwa [Nat.add_assoc, Nat.add_assoc, ← harrived, ← List.length_append, ← removed] at hrest

/--
A datagram comes in as a packet just when it holds one, whole or cut off at the end of
the receive buffer: the packet made of its header and its payload.  It is queued or
dropped, counted and traced with the gap before it.  Any other datagram
adds one to the refused ones and leaves no mark besides, neither in what the consumer
gets nor in what waits, is dropped, traced or counted.  No datagram and no packet is
counted twice or not at all.
-/
theorem refused_datagrams_leave_no_mark (maxPayload capacity : Nat) (trace : Option Trace)
    (incidents : List Incident) :
    let start := Intake.initial maxPayload capacity trace
    let kept := incidents.filter (Incident.matters maxPayload)
    (∀ (intake : Intake) (datagram : Bytes), intake.Screens datagram) ∧
      (∀ datagrams : List Bytes,
        (start.receiveAll datagrams).1 = start.meetAll (datagrams.map .arrival)) ∧
      (start.meetAll incidents).Alike (start.meetAll kept) ∧
      start.removed incidents = start.removed kept ∧
      (start.meetAll incidents).Accounts (incidents.filterMap Incident.datagram?).length
        (start.removed incidents).length := by
  intro start kept
  obtain ⟨halike, hremoved⟩ := (Alike.refl start).meetAll incidents
  have hfresh : start.Accounts 0 0 := ⟨rfl, rfl⟩
  have hbooks := hfresh.meetAll incidents
  rw [Nat.zero_add, Nat.zero_add] at hbooks
  exact ⟨screens, receiveAll_eq_meetAll start, halike, hremoved, hbooks⟩

end Intake

end Framecast.Reception
