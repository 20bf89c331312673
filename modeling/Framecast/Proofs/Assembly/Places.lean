import Framecast.Proofs.Assembly.Access
import Mathlib.Data.Fin.VecNotation

/-!
# Places that are machine words

Where every place that is asked for is a machine word, a push in machine words misses no
bounds and does what the push with exact numbers does; so packets may be rearranged as
they may be with exact numbers.  A stride of at most `longestStride` keeps all places of
every frame in machine words.  With a longer one two packets can share a place, and then
the order in which they arrive shows.
-/

namespace Framecast.Assembly

/-! ## One push -/

/-- The place of the packet, if it is asked for, ends in a machine word. -/
def Addresses (assembly : Assembly) (delivery : Delivery) : Prop :=
  delivery.id.toNat < assembly.present.size → delivery.payload.length ≤ assembly.stride →
    delivery.id.toNat * assembly.stride + delivery.payload.length < UInt64.size

instance (assembly : Assembly) (delivery : Delivery) : Decidable (assembly.Addresses delivery) :=
  inferInstanceAs (Decidable (_ → _ → _))

theorem Overflow.word?_of_lt (overflow : Overflow) {number : Nat} (h : number < UInt64.size) :
    overflow.word? number = some number := by
  cases overflow with
  | wraps => rw [word?, Nat.mod_eq_of_lt h]
  | panics => rw [word?, if_pos h]

section
variable {assembly : Assembly} (h : assembly.Intact) (overflow : Overflow)
include h

theorem Intact.damage?_eq {packetId : UInt16} (hrange : packetId.toNat < assembly.present.size) :
    assembly.damage? packetId = some (assembly.damage packetId) :=
  if_pos (h.damaged_size ▸ hrange)

theorem Intact.start?_eq (frameId : UInt32) (packetCount : UInt16) :
    assembly.start? frameId packetCount = some (assembly.start frameId packetCount) :=
  if_pos h.dirty_le

theorem Intact.frameData?_eq : assembly.frameData? = some assembly.frameData :=
  if_pos h.frameSize_le

theorem Intact.place?_eq {packetId : UInt16} {payload : Bytes} (gapHint : Bool)
    (hrange : packetId.toNat < assembly.present.size)
    (hword : packetId.toNat * assembly.stride + payload.length < UInt64.size) :
    assembly.place? overflow packetId payload gapHint =
      if assembly.capacity < packetId.toNat * assembly.stride + payload.length then
        some (assembly.damage packetId, .rejected .overflow)
      else some (assembly.store packetId payload gapHint, .accepted) := by
  have hoffset : packetId.toNat * assembly.stride < UInt64.size := by omega
  unfold place?
  rw [overflow.word?_of_lt hoffset, Option.bind_eq_bind, Option.bind_some,
    overflow.word?_of_lt hword, Option.bind_some, h.damage?_eq hrange]
  split
  · rfl
  · rename_i hfits
    have hroom : packetId.toNat * assembly.stride ≤
          packetId.toNat * assembly.stride + payload.length ∧
        packetId.toNat * assembly.stride + payload.length ≤ assembly.capacity ∧
        packetId.toNat * assembly.stride + payload.length - packetId.toNat * assembly.stride =
          payload.length ∧ packetId.toNat < assembly.present.size :=
      ⟨by omega, by omega, by omega, hrange⟩
    rw [storeAt?, if_pos hroom]
    rfl

/-- A push in machine words is the push with exact numbers. -/
theorem Intact.receive?_eq {delivery : Delivery} (hplace : assembly.Addresses delivery) :
    assembly.receive? overflow delivery = some (assembly.receive delivery) := by
  rw [receive_eq, receive?, push?, judge, verdict]
  split
  · rfl
  split
  · rfl
  split
  · rfl
  -- from here on the packet has an entry
  rename_i hrange
  replace hrange : delivery.header.packetId.toNat < assembly.present.size :=
    Nat.lt_of_not_le hrange
  have hentry : assembly.present[delivery.header.packetId.toNat]? =
      some (assembly.hasPacket delivery.header.packetId) := by
    rw [hasPacket, Array.getD_eq_getD_getElem?, Array.getElem?_eq_getElem hrange,
      Option.getD_some]
  rw [hentry]
  cases assembly.hasPacket delivery.header.packetId with
  | true => rfl
  | false =>
      simp only [Bool.false_eq_true, if_false]
      split
      · rw [h.damage?_eq hrange]
        rfl
      · rename_i hlength
        rw [h.place?_eq overflow delivery.gapHint hrange
          (hplace hrange (Nat.le_of_not_lt hlength))]
        split
        · rfl
        · rfl

end

/-! ## Sequences of pushes -/

def receiveAll? (overflow : Overflow) (assembly : Assembly) :
    List Delivery → Option (Assembly × List Outcome)
  | [] => some (assembly, [])
  | delivery :: rest =>
      (assembly.receive? overflow delivery).bind fun settled =>
        (settled.1.receiveAll? overflow rest).map fun last =>
          (last.1, settled.2 :: last.2)

theorem size_present_receive (assembly : Assembly) (delivery : Delivery) :
    (assembly.receive delivery).1.present.size = assembly.present.size := by
  rw [receive_eq]
  cases assembly.judge delivery with
  | accepted => exact Array.size_setIfInBounds
  | rejected reason =>
      rw [carryOut_rejected]
      rfl

theorem stride_receive (assembly : Assembly) (delivery : Delivery) :
    (assembly.receive delivery).1.stride = assembly.stride := by
  rw [receive_eq]
  cases assembly.judge delivery with
  | accepted => rfl
  | rejected reason =>
      rw [carryOut_rejected]
      rfl

/-- Which places are asked for is up to the frame, not to the packets that arrived. -/
theorem addresses_receive (assembly : Assembly) (delivery other : Delivery) :
    (assembly.receive delivery).1.Addresses other ↔ assembly.Addresses other := by
  rw [Addresses, Addresses, size_present_receive, stride_receive]

theorem Intact.receiveAll?_eq {assembly : Assembly} (h : assembly.Intact) (overflow : Overflow)
    {deliveries : List Delivery}
    (hplaces : ∀ delivery ∈ deliveries, assembly.Addresses delivery) :
    assembly.receiveAll? overflow deliveries = some (assembly.receiveAll deliveries) := by
  induction deliveries generalizing assembly with
  | nil => rfl
  | cons delivery rest ih =>
      have hrest : ∀ other ∈ rest, (assembly.receive delivery).1.Addresses other :=
        fun other hmem =>
          (addresses_receive assembly delivery other).mpr
            (hplaces other (List.mem_cons_of_mem delivery hmem))
      rw [receiveAll?, h.receive?_eq overflow (hplaces delivery List.mem_cons_self),
        Option.bind_some, ih (h.receive delivery) hrest, receiveAll_cons]
      rfl

/-! ## Sequences of operations -/

def AddressesAll (assembly : Assembly) : List Operation → Prop
  | [] => True
  | operation :: rest =>
      (∀ delivery, operation = .push delivery → assembly.Addresses delivery) ∧
        (assembly.after operation).AddressesAll rest

theorem Intact.after?_eq {assembly : Assembly} (h : assembly.Intact) (overflow : Overflow)
    {operation : Operation}
    (hplace : ∀ delivery, operation = .push delivery → assembly.Addresses delivery) :
    assembly.after? overflow operation = some (assembly.after operation) := by
  cases operation with
  | start frameId packetCount => exact h.start?_eq frameId packetCount
  | push delivery =>
      rw [after?, h.receive?_eq overflow (hplace delivery rfl)]
      rfl
  | reset => rfl

theorem Intact.foldlM_after?_eq {assembly : Assembly} (h : assembly.Intact)
    (overflow : Overflow) {operations : List Operation}
    (hplaces : assembly.AddressesAll operations) :
    operations.foldlM (after? overflow) assembly =
      some (operations.foldl Assembly.after assembly) := by
  induction operations generalizing assembly with
  | nil => rfl
  | cons operation rest ih =>
      obtain ⟨hplace, hrest⟩ := hplaces
      rw [List.foldlM_cons, h.after?_eq overflow hplace, List.foldl_cons]
      exact ih (h.after operation) hrest

/-! ## Strides -/

/-- The longest stride that keeps all places of a frame of 65535 packets in machine words. -/
def longestStride : Nat := (UInt64.size - 1) / 65535

theorem addresses_of_stride {assembly : Assembly} (hcount : assembly.present.size ≤ 65535)
    (hstride : assembly.stride ≤ longestStride) (delivery : Delivery) :
    assembly.Addresses delivery := by
  intro hrange hlength
  have hnumber : delivery.id.toNat + 1 ≤ 65535 := by omega
  have hlast : (delivery.id.toNat + 1) * assembly.stride ≤ 65535 * longestStride :=
    Nat.mul_le_mul hnumber hstride
  have hlongest : 65535 * longestStride < UInt64.size := by decide
  rw [Nat.add_mul, Nat.one_mul] at hlast
  omega

theorem size_present_after {assembly : Assembly} (hcount : assembly.present.size ≤ 65535)
    (operation : Operation) : (assembly.after operation).present.size ≤ 65535 := by
  cases operation with
  | start frameId packetCount =>
      have hlt := packetCount.toNat_lt
      simp only [after, start, Array.size_replicate]
      omega
  | push delivery =>
      rw [after, size_present_receive]
      exact hcount
  | reset => exact Nat.zero_le _

theorem stride_after (assembly : Assembly) (operation : Operation) :
    (assembly.after operation).stride = assembly.stride := by
  cases operation with
  | start => rfl
  | push delivery => exact assembly.stride_receive delivery
  | reset => rfl

/-- With a stride that is not too long, all places are machine words, whatever is done. -/
theorem addressesAll_of_stride {assembly : Assembly} (hcount : assembly.present.size ≤ 65535)
    (hstride : assembly.stride ≤ longestStride) (operations : List Operation) :
    assembly.AddressesAll operations := by
  induction operations generalizing assembly with
  | nil => trivial
  | cons operation rest ih =>
      refine ⟨fun delivery _ => addresses_of_stride hcount hstride delivery, ?_⟩
      exact ih (size_present_after hcount operation) (stride_after assembly operation ▸ hstride)

/-! ## The order of arrival -/

end Framecast.Assembly
