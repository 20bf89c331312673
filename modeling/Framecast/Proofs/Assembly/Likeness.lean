import Framecast.Assembly.Basic

/-!
# Assemblies that cannot be told apart

How a buffer lays out its bytes shows nowhere outside: two assemblies that differ
in nothing but the layout give the same verdicts and the same frames, and stay
alike under every operation.  A buffer that is clean past its dirty part starts
its next frame exactly as a new one would, so reuse leaves no mark.
-/

namespace Framecast

namespace Assembly

/-! ## Reading bytes -/

theorem Storage.byteAt_empty (offset : Nat) : Storage.empty.byteAt offset = 0 := rfl

theorem Storage.getElem?_read (storage : Storage) (count offset : Nat) :
    (storage.read count)[offset]? =
      if offset < count then some (storage.byteAt offset) else none := by
  by_cases hlt : offset < count
  · have hlen : offset < (storage.read count).length := by
      rw [Storage.length_read]
      exact hlt
    have hbyte : (Storage.extend (storage.cells.take count) count).getD offset 0 =
        storage.byteAt offset := by
      rw [Storage.getD_extend]
      simp only [Storage.byteAt, Array.getD_eq_getD_getElem?, Array.take,
        Array.getElem?_extract]
      by_cases hcell : offset < storage.cells.size
      · rw [if_pos (by omega), Nat.zero_add]
      · rw [if_neg (by omega), Array.getElem?_eq_none (by omega)]
    rw [if_pos hlt, ← hbyte]
    simp only [Storage.read] at hlen ⊢
    rw [Array.getElem?_toList, Array.getD_eq_getD_getElem?]
    have hcells : offset < (Storage.extend (storage.cells.take count) count).size := by
      simpa using hlen
    rw [Array.getElem?_eq_getElem hcells]
    rfl
  · have hlen : (storage.read count).length ≤ offset := by
      rw [Storage.length_read]
      omega
    rw [if_neg hlt, List.getElem?_eq_none hlen]

theorem Storage.read_congr {left right : Storage}
    (h : ∀ offset, left.byteAt offset = right.byteAt offset) (count : Nat) :
    left.read count = right.read count := by
  apply List.ext_getElem?
  intro offset
  rw [Storage.getElem?_read, Storage.getElem?_read, h]

/-! ## Likeness -/

/-- Two assemblies that differ at most in how their buffers lay out the same bytes. -/
def Alike (left right : Assembly) : Prop :=
  ∃ storage : Storage, left = { right with storage } ∧
    ∀ offset, storage.byteAt offset = right.storage.byteAt offset

theorem Alike.refl (assembly : Assembly) : assembly.Alike assembly :=
  ⟨assembly.storage, rfl, fun _ => rfl⟩

section
variable {left right : Assembly} (h : left.Alike right)
include h

theorem Alike.frameId_eq : left.frameId = right.frameId := by
  obtain ⟨storage, rfl, -⟩ := h
  rfl

theorem Alike.expected_eq : left.expected = right.expected := by
  obtain ⟨storage, rfl, -⟩ := h
  rfl

theorem Alike.isFull_eq : left.isFull = right.isFull := by
  obtain ⟨storage, rfl, -⟩ := h
  rfl

theorem Alike.verdict_eq (header : Datagram.Header) (payload : Bytes) :
    left.verdict header payload = right.verdict header payload := by
  obtain ⟨storage, rfl, -⟩ := h
  rfl

theorem Alike.toFrame_eq (state : FrameState) (queuePressure : Bool) :
    left.toFrame state queuePressure = right.toFrame state queuePressure := by
  obtain ⟨storage, rfl, hbytes⟩ := h
  have hdata := Storage.read_congr hbytes right.frameSize
  simp only [toFrame, frameData, hdata]
  rfl

theorem Alike.store (packetId : UInt16) (payload : Bytes) (gapHint : Bool) :
    (left.store packetId payload gapHint).Alike (right.store packetId payload gapHint) := by
  obtain ⟨storage, rfl, hbytes⟩ := h
  refine ⟨storage.write (packetId.toNat * right.stride) payload, rfl, ?_⟩
  intro offset
  simp only [Assembly.store, Assembly.storeAt]
  rw [Storage.byteAt_write, Storage.byteAt_write, hbytes]

/-- What is alike stays alike, whatever packet comes. -/
theorem Alike.push (header : Datagram.Header) (payload : Bytes) (gapHint : Bool) :
    (left.push header payload gapHint).1.Alike (right.push header payload gapHint).1 := by
  simp only [Assembly.push, h.verdict_eq]
  cases right.verdict header payload with
  | accepted => exact h.store header.packetId payload gapHint
  | rejected reason =>
      obtain ⟨storage, rfl, hbytes⟩ := h
      cases reason <;> exact ⟨storage, rfl, hbytes⟩

end

/-! ## Reuse -/

/-- Past the dirty part the buffer reads as zero. -/
def Clean (assembly : Assembly) : Prop :=
  ∀ offset, assembly.dirty ≤ offset → assembly.storage.byteAt offset = 0

/-- A buffer of the given sizes that may take the next frame, whatever it held before. -/
structure Ready (capacity stride : Nat) (assembly : Assembly) : Prop where
  capacity_eq : assembly.capacity = capacity
  stride_eq : assembly.stride = stride
  clean : assembly.Clean

theorem ready_new (capacity stride : Nat) : Ready capacity stride (new capacity stride) where
  capacity_eq := rfl
  stride_eq := rfl
  clean := fun offset _ => Storage.byteAt_empty offset

section
variable {capacity stride : Nat} {assembly : Assembly} (h : Ready capacity stride assembly)
include h

theorem Ready.reset : Ready capacity stride assembly.reset where
  capacity_eq := h.capacity_eq
  stride_eq := h.stride_eq
  clean := h.clean

theorem Ready.byteAt_start (frameId : UInt32) (packetCount : UInt16) (offset : Nat) :
    (assembly.start frameId packetCount).storage.byteAt offset = 0 := by
  simp only [Assembly.start]
  rw [Storage.byteAt_clear]
  by_cases hlt : offset < assembly.dirty
  · rw [if_pos hlt]
  · rw [if_neg hlt]
    exact h.clean offset (by omega)

theorem Ready.start (frameId : UInt32) (packetCount : UInt16) :
    Ready capacity stride (assembly.start frameId packetCount) where
  capacity_eq := h.capacity_eq
  stride_eq := h.stride_eq
  clean := fun offset _ => h.byteAt_start frameId packetCount offset

theorem Ready.store (packetId : UInt16) (payload : Bytes) (gapHint : Bool) :
    Ready capacity stride (assembly.store packetId payload gapHint) where
  capacity_eq := h.capacity_eq
  stride_eq := h.stride_eq
  clean := by
    intro offset hpast
    simp only [Assembly.store, Assembly.storeAt] at hpast ⊢
    rw [Storage.byteAt_write, if_neg (by omega)]
    exact h.clean offset (by omega)

theorem Ready.push (header : Datagram.Header) (payload : Bytes) (gapHint : Bool) :
    Ready capacity stride (assembly.push header payload gapHint).1 := by
  simp only [Assembly.push]
  cases assembly.verdict header payload with
  | accepted => exact h.store header.packetId payload gapHint
  | rejected reason => cases reason <;> exact ⟨h.capacity_eq, h.stride_eq, h.clean⟩

/-- A reused buffer starts a frame as any other buffer of its sizes would. -/
theorem Ready.start_alike {other : Assembly} (h' : Ready capacity stride other)
    (frameId : UInt32) (packetCount : UInt16) :
    (assembly.start frameId packetCount).Alike (other.start frameId packetCount) := by
  refine ⟨(assembly.start frameId packetCount).storage, ?_, ?_⟩
  · simp only [Assembly.start, h.capacity_eq, h.stride_eq, h'.capacity_eq, h'.stride_eq]
  · intro offset
    rw [h.byteAt_start, h'.byteAt_start]

end

end Assembly

end Framecast
