import Framecast.Proofs.Assembly.Account

/-!
# What is missing, and what a finished frame holds

The numbers of the accepted packets and those of the missing ones together are
exactly the numbers that the frame expects, each once.  From that and the account
follow the counts, the flags and the bytes of the frame that an assembly makes.
-/

namespace Framecast

namespace Assembly

/-! ## Missing packets -/

section
variable {assembly : Assembly} (hcount : assembly.present.size ≤ 65536)
include hcount

theorem mem_missingPackets {packetId : UInt16} :
    packetId ∈ assembly.missingPackets ↔
      packetId.toNat < assembly.present.size ∧ assembly.hasPacket packetId = false := by
  simp only [missingPackets, List.mem_map, List.mem_filter, Prod.exists,
    List.mk_mem_zipIdx_iff_getElem?, Array.getElem?_toList]
  constructor
  · rintro ⟨arrived, index, ⟨hcell, harrived⟩, rfl⟩
    have hlt : index < assembly.present.size := (Array.getElem?_eq_some_iff.mp hcell).1
    have hindex : (UInt16.ofNat index).toNat = index :=
      UInt16.toNat_ofNat_of_lt' (Nat.lt_of_lt_of_le hlt hcount)
    have hfalse : arrived = false := by simpa using harrived
    rw [hasPacket, hindex, Array.getD_eq_getD_getElem?, hcell]
    exact ⟨hlt, hfalse⟩
  · rintro ⟨hlt, habsent⟩
    refine ⟨false, packetId.toNat, ⟨?_, rfl⟩, UInt16.ofNat_toNat⟩
    rw [hasPacket, Array.getD_eq_getD_getElem?, Array.getElem?_eq_getElem hlt,
      Option.getD_some] at habsent
    rw [Array.getElem?_eq_getElem hlt, habsent]

theorem missingPackets_ascending :
    assembly.missingPackets.Pairwise fun packetId later =>
      packetId.toNat < later.toNat := by
  have hindices : assembly.present.toList.zipIdx.Pairwise
      fun entry later => entry.2 < later.2 := by
    rw [← List.pairwise_map (f := Prod.snd), List.zipIdx_map_snd]
    exact List.pairwise_lt_range' 1
  have hkept := hindices.filter fun entry => !entry.1
  rw [missingPackets, List.pairwise_map]
  refine hkept.imp_of_mem ?_
  rintro ⟨arrived, index⟩ ⟨arrived', index'⟩ hmem hmem' hlt
  have hbound : ∀ {arrived index}, (arrived, index) ∈ assembly.present.toList.zipIdx.filter
      (fun entry => !entry.1) → index < 65536 := by
    intro arrived index hmem
    have hcell := List.mk_mem_zipIdx_iff_getElem?.mp (List.mem_filter.mp hmem).1
    have hsize := (List.getElem?_eq_some_iff.mp hcell).1
    rw [Array.length_toList] at hsize
    omega
  rw [UInt16.toNat_ofNat_of_lt' (hbound hmem), UInt16.toNat_ofNat_of_lt' (hbound hmem')]
  exact hlt

end

section
variable {assembly : Assembly} {attempts : List Attempt} (h : assembly.Reflects attempts)
  (hcount : assembly.expected ≤ 65536)
include h hcount

/-- No number is accepted twice, reported missing twice or both. -/
theorem Reflects.ids_append_missing_nodup :
    ((accepted attempts).map Attempt.id ++ assembly.missingPackets).Nodup := by
  have hsize : assembly.present.size ≤ 65536 := h.present_size ▸ hcount
  have hmissing : assembly.missingPackets.Nodup := by
    refine (missingPackets_ascending hsize).imp ?_
    intro packetId later hlt hsame
    rw [hsame] at hlt
    exact Nat.lt_irrefl _ hlt
  refine List.nodup_append.mpr ⟨h.ids_nodup, hmissing, ?_⟩
  intro packetId harrived other hother hsame
  have hpresent := (h.hasPacket_iff packetId).mpr harrived
  rw [hsame, ((mem_missingPackets hsize).mp hother).2] at hpresent
  exact absurd hpresent (by decide)

/-- A number is below the packet count when it is accepted or missing. -/
theorem Reflects.mem_ids_append_missing {packetId : UInt16} :
    packetId ∈ (accepted attempts).map Attempt.id ++ assembly.missingPackets ↔
      packetId.toNat < assembly.expected := by
  have hsize : assembly.present.size ≤ 65536 := h.present_size ▸ hcount
  rw [List.mem_append, ← h.hasPacket_iff, mem_missingPackets hsize, ← h.present_size]
  constructor
  · rintro (hpresent | ⟨hlt, -⟩)
    · exact hasPacket_lt hpresent
    · exact hlt
  · intro hlt
    cases hpresent : assembly.hasPacket packetId with
    | true => exact Or.inl rfl
    | false => exact Or.inr ⟨hlt, rfl⟩

/-- What arrived and what is missing make up what is expected, each number once. -/
theorem Reflects.perm_range :
    (((accepted attempts).map Attempt.id ++ assembly.missingPackets).map
      UInt16.toNat).Perm (List.range assembly.expected) := by
  have hnumbers : (((accepted attempts).map Attempt.id ++ assembly.missingPackets).map
      UInt16.toNat).Nodup := by
    rw [List.Nodup, List.pairwise_map]
    refine (h.ids_append_missing_nodup hcount).imp ?_
    intro packetId other hne hsame
    exact hne (UInt16.toNat_inj.mp hsame)
  refine (List.perm_ext_iff_of_nodup hnumbers List.nodup_range).mpr ?_
  intro number
  rw [List.mem_map, List.mem_range]
  constructor
  · rintro ⟨packetId, hmem, rfl⟩
    exact (h.mem_ids_append_missing hcount).mp hmem
  · intro hlt
    have hnumber : (UInt16.ofNat number).toNat = number :=
      UInt16.toNat_ofNat_of_lt' (Nat.lt_of_lt_of_le hlt hcount)
    refine ⟨UInt16.ofNat number, (h.mem_ids_append_missing hcount).mpr ?_, hnumber⟩
    rwa [hnumber]

theorem Reflects.received_add_missing :
    assembly.received + assembly.missingPackets.length = assembly.expected := by
  have hlength := (h.perm_range hcount).length_eq
  rw [List.length_map, List.length_append, List.length_map, List.length_range,
    ← h.received_eq] at hlength
  exact hlength

theorem Reflects.isFull_iff : assembly.isFull = true ↔ assembly.missingPackets = [] := by
  have hsum := h.received_add_missing hcount
  rw [isFull, beq_iff_eq, ← List.length_eq_zero_iff]
  omega

theorem Reflects.hasGap_eq : assembly.hasGap = !assembly.isFull := by
  have hsum := h.received_add_missing hcount
  rw [hasGap, isFull, Bool.eq_iff_iff, decide_eq_true_iff, Bool.not_eq_true',
    beq_eq_false_iff_ne]
  omega

end

/-! ## Finished frames -/

section
variable {assembly : Assembly} {attempts : List Attempt} (h : assembly.Reflects attempts)
include h

theorem Reflects.isComplete_iff :
    assembly.isComplete = true ↔
      (accepted attempts).length = assembly.expected ∧
        ∀ attempt ∈ attempts, attempt.outcome.harms = false := by
  simp [isComplete, h.receiving, isFull, h.received_eq, h.corrupted_eq]

theorem Reflects.frameSize_le : assembly.frameSize ≤ assembly.capacity := by
  rw [h.frameSize_eq, furthest_le_iff]
  exact h.finishes_le

theorem Reflects.data_of_piece {piece : Attempt} (hmem : piece ∈ accepted attempts)
    {index : Nat} (hindex : index < piece.payload.length) :
    assembly.frameData[piece.offset assembly.stride + index]? = piece.payload[index]? := by
  have hcovers : piece.Covers assembly.stride (piece.offset assembly.stride + index) := by
    constructor
    · omega
    · simp only [Attempt.finish]
      omega
  have hlt : piece.offset assembly.stride + index < assembly.frameSize := by
    rw [h.frameSize_eq]
    exact Nat.lt_of_lt_of_le hcovers.2 (finish_le_furthest hmem)
  rw [frameData, Storage.getElem?_read, if_pos hlt, h.byteAt_piece piece hmem _ hcovers,
    Nat.add_sub_cancel_left, List.getD_eq_getElem?_getD, List.getElem?_eq_getElem hindex,
    Option.getD_some]

theorem Reflects.data_elsewhere {position : Nat} (hlt : position < assembly.frameSize)
    (hout : ∀ piece ∈ accepted attempts, ¬ piece.Covers assembly.stride position) :
    assembly.frameData[position]? = some 0 := by
  rw [frameData, Storage.getElem?_read, if_pos hlt, h.byteAt_elsewhere position hout]

end

end Assembly

end Framecast
