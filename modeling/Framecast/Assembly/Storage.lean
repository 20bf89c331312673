import Framecast.Bytes

/-!
# Frame buffers

A frame buffer reads as zero wherever nothing was written.  Its bytes are stored
only as far as they have ever been written, so a large capacity costs nothing
until it is used.  `byteAt_write` says what a write does to every byte.
-/

namespace Framecast.Assembly

/-- The bytes of a frame buffer, as far as they were ever written. -/
structure Storage where
  cells : Array UInt8
deriving Repr, DecidableEq

namespace Storage

def empty : Storage := ⟨#[]⟩

def byteAt (storage : Storage) (offset : Nat) : UInt8 :=
  storage.cells.getD offset 0

/-- Replace the cells from `offset` on, as far as there are cells. -/
def overwrite (cells : Array UInt8) (offset : Nat) : Bytes → Array UInt8
  | [] => cells
  | byte :: rest => overwrite (cells.setIfInBounds offset byte) (offset + 1) rest

def extend (cells : Array UInt8) (size : Nat) : Array UInt8 :=
  cells ++ Array.replicate (size - cells.size) 0

def write (storage : Storage) (offset : Nat) (payload : Bytes) : Storage :=
  ⟨overwrite (extend storage.cells (offset + payload.length)) offset payload⟩

def clear (storage : Storage) (count : Nat) : Storage :=
  ⟨storage.cells.mapIdx fun offset byte => if offset < count then 0 else byte⟩

def read (storage : Storage) (count : Nat) : Bytes :=
  (extend (storage.cells.take count) count).toList

@[simp] theorem size_overwrite (cells : Array UInt8) (offset : Nat) (payload : Bytes) :
    (overwrite cells offset payload).size = cells.size := by
  induction payload generalizing cells offset with
  | nil => rfl
  | cons byte rest ih => simp [overwrite, ih]

@[simp] theorem size_extend (cells : Array UInt8) (size : Nat) :
    (extend cells size).size = max cells.size size := by
  simp [extend]
  omega

theorem getD_extend (cells : Array UInt8) (size offset : Nat) :
    (extend cells size).getD offset 0 = cells.getD offset 0 := by
  simp only [extend, Array.getD_eq_getD_getElem?, Array.getElem?_append]
  split
  · rfl
  · rename_i hout
    have hnone : cells[offset]? = none := Array.getElem?_eq_none (by omega)
    rw [hnone, Array.getElem?_replicate]
    split <;> rfl

theorem getD_overwrite (cells : Array UInt8) (start : Nat) (payload : Bytes) (offset : Nat)
    (hfits : start + payload.length ≤ cells.size) :
    (overwrite cells start payload).getD offset 0 =
      if start ≤ offset ∧ offset < start + payload.length then
        payload.getD (offset - start) 0
      else cells.getD offset 0 := by
  induction payload generalizing cells start with
  | nil =>
      have hout : ¬(start ≤ offset ∧ offset < start + ([] : Bytes).length) := by
        simp only [List.length_nil]
        omega
      rw [if_neg hout]
      rfl
  | cons byte rest ih =>
      simp only [List.length_cons] at hfits
      rw [overwrite, ih _ _ (by rw [Array.size_setIfInBounds]; omega)]
      by_cases hhere : offset = start
      · subst hhere
        have hin : offset < cells.size := by omega
        have hout : ¬(offset + 1 ≤ offset ∧ offset < offset + 1 + rest.length) := by omega
        rw [if_neg hout]
        simp [Array.getD_eq_getD_getElem?, hin]
      · have hne : start ≠ offset := fun h => hhere h.symm
        by_cases hrange : start + 1 ≤ offset ∧ offset < start + 1 + rest.length
        · have hsub : offset - start = (offset - (start + 1)) + 1 := by omega
          have hwide : start ≤ offset ∧ offset < start + (rest.length + 1) := by omega
          rw [if_pos hrange, List.length_cons, if_pos hwide, hsub, List.getD_cons_succ]
        · have hwide : ¬(start ≤ offset ∧ offset < start + (rest.length + 1)) := by omega
          rw [if_neg hrange, List.length_cons, if_neg hwide]
          simp only [Array.getD_eq_getD_getElem?, Array.getElem?_setIfInBounds_ne hne]

theorem byteAt_write (storage : Storage) (start : Nat) (payload : Bytes) (offset : Nat) :
    (storage.write start payload).byteAt offset =
      if start ≤ offset ∧ offset < start + payload.length then
        payload.getD (offset - start) 0
      else storage.byteAt offset := by
  unfold write byteAt
  rw [getD_overwrite _ _ _ _ (by rw [size_extend]; omega), getD_extend]

theorem byteAt_clear (storage : Storage) (count offset : Nat) :
    (storage.clear count).byteAt offset =
      if offset < count then 0 else storage.byteAt offset := by
  simp only [clear, byteAt, Array.getD_eq_getD_getElem?, Array.getElem?_mapIdx]
  cases storage.cells[offset]? <;> simp

@[simp] theorem length_read (storage : Storage) (count : Nat) :
    (storage.read count).length = count := by
  have hsize : (storage.cells.take count).size ≤ count := by
    simp only [Array.take, Array.size_extract]
    omega
  rw [read, Array.length_toList, size_extend, Nat.max_eq_right hsize]

end Storage

end Framecast.Assembly
