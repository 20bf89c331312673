import Framecast.Proofs.Assembly.Access
import Framecast.Proofs.Assembly.Completion
import Mathlib.Data.Finmap
import Mathlib.Data.Finset.Lattice.Fold
import Mathlib.Order.Lattice.Nat

/-!
# The ideal frame

An ideal frame has no buffer and no tables: it keeps the packet count and, for each
packet number that was accepted, the payload, with the flags and the count of hints
beside them.  An assembly `Shows` an ideal frame when everything that can be asked of it
is answered from the ideal frame; then it also decides each push as the ideal frame does.
-/

namespace Framecast.Assembly

/-! ## Ideal frames -/

/-- The first ground that holds decides; a packet with none against it is accepted. -/
def Outcome.ofGrounds (grounds : List (RejectReason × Bool)) : Outcome :=
  match grounds.find? Prod.snd with
  | some (reason, _) => .rejected reason
  | none => .accepted

theorem Outcome.ofGrounds_nil : ofGrounds [] = .accepted := rfl

theorem Outcome.ofGrounds_cons (reason : RejectReason) (ground : Prop) [Decidable ground]
    (rest : List (RejectReason × Bool)) :
    ofGrounds ((reason, decide ground) :: rest) =
      if ground then .rejected reason else ofGrounds rest := by
  by_cases hground : ground <;> simp [ofGrounds, hground]

structure Ideal where
  capacity : Nat
  stride : Nat
  receiving : Bool
  frameId : UInt32
  expected : UInt16
  /-- The payloads of the accepted packets. -/
  pieces : Finmap fun _ : UInt16 => Bytes
  gapHints : Nat
  corrupted : Bool
  /-- The packets that were refused for their size. -/
  damaged : Finset UInt16

namespace Ideal

def idle (capacity stride : Nat) : Ideal where
  capacity
  stride
  receiving := false
  frameId := 0
  expected := 0
  pieces := ∅
  gapHints := 0
  corrupted := false
  damaged := ∅

def start (ideal : Ideal) (frameId : UInt32) (packetCount : UInt16) : Ideal :=
  { idle ideal.capacity ideal.stride with
    receiving := true
    frameId
    expected := packetCount }

def finish (ideal : Ideal) (packetId : UInt16) (payload : Bytes) : Nat :=
  packetId.toNat * ideal.stride + payload.length

def size (ideal : Ideal) : Nat :=
  ideal.pieces.keys.sup fun packetId =>
    ideal.finish packetId ((ideal.pieces.lookup packetId).getD [])

def missing (ideal : Ideal) : List UInt16 :=
  ((List.range ideal.expected.toNat).map UInt16.ofNat).filter fun packetId =>
    packetId ∉ ideal.pieces

/--
The grounds for a refusal, in the order in which they are looked at, each with whether
it holds.
-/
def grounds (ideal : Ideal) (delivery : Delivery) : List (RejectReason × Bool) :=
  [(.notStarted, ¬ ideal.receiving),
    (.wrongFrame, delivery.header.frameId ≠ ideal.frameId),
    (.outOfRange, ideal.expected ≤ delivery.id),
    (.duplicate, delivery.id ∈ ideal.pieces),
    (.oversize, ideal.stride < delivery.payload.length),
    (.overflow, ideal.capacity < ideal.finish delivery.id delivery.payload)]

def judge (ideal : Ideal) (delivery : Delivery) : Outcome :=
  .ofGrounds (ideal.grounds delivery)

def accept (ideal : Ideal) (delivery : Delivery) : Ideal :=
  { ideal with
    pieces := ideal.pieces.insert delivery.id delivery.payload
    gapHints := if delivery.gapHint then ideal.gapHints + 1 else ideal.gapHints }

def refuse (ideal : Ideal) (reason : RejectReason) (packetId : UInt16) : Ideal :=
  { ideal with
    corrupted := ideal.corrupted || (Outcome.rejected reason).harms
    damaged :=
      if (Outcome.rejected reason).damages then insert packetId ideal.damaged
      else ideal.damaged }

def carryOut (ideal : Ideal) (delivery : Delivery) : Outcome → Ideal
  | .accepted => ideal.accept delivery
  | .rejected reason => ideal.refuse reason delivery.id

def after (ideal : Ideal) : Operation → Ideal
  | .start frameId packetCount => ideal.start frameId packetCount
  | .push delivery => ideal.carryOut delivery (ideal.judge delivery)
  | .reset => idle ideal.capacity ideal.stride

/-! ## Ideal frames and accounts -/

structure Recounts (ideal : Ideal) (attempts : List Attempt) : Prop where
  lookup_iff : ∀ packetId payload, ideal.pieces.lookup packetId = some payload ↔
    ∃ piece ∈ accepted attempts, piece.id = packetId ∧ piece.payload = payload
  gapHints_eq : ideal.gapHints = (accepted attempts).countP (·.gapHint)
  corrupted_eq : ideal.corrupted = attempts.any (·.outcome.harms)

theorem recounts_start (ideal : Ideal) (frameId : UInt32) (packetCount : UInt16) :
    (ideal.start frameId packetCount).Recounts [] where
  lookup_iff := by simp [start, idle, accepted]
  gapHints_eq := rfl
  corrupted_eq := rfl

section
variable {ideal : Ideal} {attempts : List Attempt} (h : ideal.Recounts attempts)
include h

theorem Recounts.mem_iff {packetId : UInt16} :
    packetId ∈ ideal.pieces ↔ packetId ∈ (accepted attempts).map Attempt.id := by
  rw [Finmap.mem_iff, List.mem_map]
  constructor
  · rintro ⟨payload, hlookup⟩
    obtain ⟨piece, hmem, hid, -⟩ := (h.lookup_iff packetId payload).mp hlookup
    exact ⟨piece, hmem, hid⟩
  · rintro ⟨piece, hmem, hid⟩
    exact ⟨piece.payload, (h.lookup_iff packetId _).mpr ⟨piece, hmem, hid, rfl⟩⟩

theorem Recounts.keys_eq :
    ideal.pieces.keys = ((accepted attempts).map Attempt.id).toFinset := by
  ext packetId
  rw [Finmap.mem_keys, List.mem_toFinset, h.mem_iff]

/-- The payloads reach as far as the accepted packets do. -/
theorem Recounts.size_eq : ideal.size = furthest ideal.stride (accepted attempts) := by
  apply Nat.le_antisymm
  · refine Finset.sup_le fun packetId hkey => ?_
    obtain ⟨payload, hlookup⟩ := Finmap.mem_iff.mp (Finmap.mem_keys.mp hkey)
    obtain ⟨piece, hmem, rfl, rfl⟩ := (h.lookup_iff packetId payload).mp hlookup
    rw [hlookup]
    exact finish_le_furthest hmem
  · rw [furthest_le_iff]
    intro piece hmem
    have hlookup := (h.lookup_iff piece.id piece.payload).mpr ⟨piece, hmem, rfl, rfl⟩
    have hkey : piece.id ∈ ideal.pieces.keys :=
      Finmap.mem_keys.mpr (Finmap.mem_of_lookup_eq_some hlookup)
    have hle : ideal.finish piece.id ((ideal.pieces.lookup piece.id).getD []) ≤ ideal.size :=
      Finset.le_sup (f := fun packetId =>
        ideal.finish packetId ((ideal.pieces.lookup packetId).getD [])) hkey
    rw [hlookup] at hle
    exact hle

theorem Recounts.accept {delivery : Delivery} (habsent : delivery.id ∉ ideal.pieces) :
    (ideal.accept delivery).Recounts (attempts ++ [delivery.attempt .accepted]) := by
  have hpieces : accepted (attempts ++ [delivery.attempt .accepted]) =
      accepted attempts ++ [delivery.attempt .accepted] := by
    rw [accepted_append, accepted_singleton_of_accepted rfl]
  refine ⟨?_, ?_, ?_⟩
  · intro packetId payload
    rw [hpieces]
    simp only [List.mem_append, List.mem_singleton, or_and_right, exists_or,
      exists_eq_left, Ideal.accept]
    by_cases hsame : packetId = delivery.id
    · -- no earlier packet has this number, so the new payload is the only one
      rw [hsame, Finmap.lookup_insert, Option.some_inj]
      constructor
      · exact fun hpayload => Or.inr ⟨rfl, hpayload⟩
      · rintro (⟨piece, hmem, hid, -⟩ | ⟨-, hpayload⟩)
        · exact absurd (h.mem_iff.mpr (List.mem_map.mpr ⟨piece, hmem, hid⟩)) habsent
        · exact hpayload
    · rw [Finmap.lookup_insert_of_ne _ hsame, h.lookup_iff]
      exact (or_iff_left fun hnew => hsame hnew.1.symm).symm
  · rw [hpieces, List.countP_append, Ideal.accept, h.gapHints_eq]
    cases hhint : delivery.gapHint <;> simp [Delivery.attempt, hhint]
  · simp [Ideal.accept, h.corrupted_eq, Delivery.attempt, Outcome.harms]

theorem Recounts.refuse (delivery : Delivery) (reason : RejectReason) :
    (ideal.refuse reason delivery.id).Recounts
      (attempts ++ [delivery.attempt (.rejected reason)]) := by
  have hpieces : accepted (attempts ++ [delivery.attempt (.rejected reason)]) =
      accepted attempts := by
    rw [accepted_append, accepted_singleton_of_refused (by simp [Delivery.attempt]),
      List.append_nil]
  refine ⟨?_, ?_, ?_⟩
  · rw [hpieces]
    exact h.lookup_iff
  · rw [hpieces]
    exact h.gapHints_eq
  · simp [Ideal.refuse, h.corrupted_eq, Delivery.attempt]

end

end Ideal

/-! ## What an assembly shows -/

/-- Everything that can be asked of an assembly is answered as by its ideal frame. -/
structure Shows (assembly : Assembly) (ideal : Ideal) : Prop where
  capacity_eq : assembly.capacity = ideal.capacity
  stride_eq : assembly.stride = ideal.stride
  receiving_iff : assembly.phase = .receiving ↔ ideal.receiving = true
  frameId_eq : assembly.frameId = ideal.frameId
  expected_eq : assembly.expected = ideal.expected.toNat
  present_size : assembly.present.size = ideal.expected.toNat
  hasPacket_iff : ∀ packetId, assembly.hasPacket packetId = true ↔ packetId ∈ ideal.pieces
  received_eq : assembly.received = ideal.pieces.keys.card
  received_le : assembly.received ≤ ideal.expected.toNat
  length_data : assembly.frameData.length = ideal.size
  data_piece : ∀ packetId payload, ideal.pieces.lookup packetId = some payload →
    payload <+: assembly.frameData.drop (packetId.toNat * ideal.stride)
  data_elsewhere : ∀ position < ideal.size,
    (∀ packetId payload, ideal.pieces.lookup packetId = some payload →
      ¬ (packetId.toNat * ideal.stride ≤ position ∧
        position < ideal.finish packetId payload)) →
    assembly.frameData[position]? = some 0
  missing_eq : assembly.missingPackets = ideal.missing
  gapHints_eq : assembly.gapHints = ideal.gapHints
  corrupted_eq : assembly.corrupted = ideal.corrupted
  isDamaged_iff : ∀ packetId, assembly.isDamaged packetId = true ↔ packetId ∈ ideal.damaged
  clean : assembly.Clean

section
variable {assembly : Assembly} {ideal : Ideal}

theorem missingPackets_eq_missing (hsize : assembly.present.size = ideal.expected.toNat)
    (hpresent : ∀ packetId, assembly.hasPacket packetId = true ↔ packetId ∈ ideal.pieces) :
    assembly.missingPackets = ideal.missing := by
  have hcount : assembly.present.size ≤ 65536 := by
    rw [hsize]
    exact Nat.le_of_lt ideal.expected.toNat_lt
  have hnumber : ∀ number < ideal.expected.toNat, (UInt16.ofNat number).toNat = number :=
    fun number hlt => UInt16.toNat_ofNat_of_lt' (Nat.lt_trans hlt ideal.expected.toNat_lt)
  have hascending : ideal.missing.Pairwise (· < ·) := by
    refine List.Pairwise.filter _ (List.pairwise_map.mpr ?_)
    refine List.pairwise_lt_range.imp_of_mem fun hmem hmem' hlt => ?_
    rw [UInt16.lt_iff_toNat_lt, hnumber _ (List.mem_range.mp hmem),
      hnumber _ (List.mem_range.mp hmem')]
    exact hlt
  have hascending' : assembly.missingPackets.Pairwise (· < ·) :=
    (missingPackets_ascending hcount).imp UInt16.lt_iff_toNat_lt.mpr
  refine hascending'.eq_of_mem_iff hascending fun packetId => ?_
  rw [mem_missingPackets hcount, hsize, Ideal.missing, List.mem_filter, List.mem_map,
    decide_eq_true_iff, ← hpresent, Bool.not_eq_true]
  refine and_congr_left fun _ => ?_
  constructor
  · exact fun hlt => ⟨packetId.toNat, List.mem_range.mpr hlt, UInt16.ofNat_toNat⟩
  · rintro ⟨number, hmem, rfl⟩
    rw [hnumber number (List.mem_range.mp hmem)]
    exact List.mem_range.mp hmem

/-- An assembly that shows its ideal frame decides as the ideal frame does. -/
theorem Shows.judge_eq (h : assembly.Shows ideal) (delivery : Delivery) :
    assembly.judge delivery = ideal.judge delivery := by
  have hphase : assembly.phase = .empty ↔ ¬ ideal.receiving = true := by
    rw [← h.receiving_iff]
    cases assembly.phase <;> decide
  have hrange : assembly.present.size ≤ delivery.header.packetId.toNat ↔
      ideal.expected ≤ delivery.id := by
    rw [h.present_size, UInt16.le_iff_toNat_le]
    rfl
  have hpresent := h.hasPacket_iff delivery.header.packetId
  simp only [judge, verdict, hphase, h.frameId_eq, hrange, hpresent, h.stride_eq, h.capacity_eq]
  simp only [Ideal.judge, Ideal.grounds, Outcome.ofGrounds_cons, Outcome.ofGrounds_nil]
  rfl

end

end Framecast.Assembly
