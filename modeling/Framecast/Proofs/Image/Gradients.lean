import Mathlib.Algebra.Order.Floor.Div
import Framecast.Image.Source

/-!
# Gradients read back

The samples of a gradient lie one after the other, each in as many bytes as its depth
needs, the rows without gaps between them.  A depth of at most eight bits needs one byte,
which then holds the whole sample, so that every sample reads back from its place.
-/

namespace Framecast.Image

/-- Where lists of one length follow each other, each is found at its number times the length. -/
theorem take_drop_flatMap_range {α : Type} {size : Nat} {item : Nat → List α}
    (hsize : ∀ number, (item number).length = size) {count number : Nat}
    (hlt : number < count) :
    (((List.range count).flatMap item).drop (number * size)).take size = item number := by
  obtain ⟨later, rfl⟩ : ∃ later, count = number + (later + 1) := ⟨count - number - 1, by omega⟩
  have hfront : ((List.range number).flatMap item).length = number * size := by
    simp [List.length_flatMap, hsize]
  rw [List.range_add, List.flatMap_append, List.drop_left' hfront, List.range_succ_eq_map,
    List.map_cons, List.flatMap_cons, Nat.add_zero, List.take_left' (hsize number)]

theorem bytesPerPixel_eq_ceilDiv (bitDepth : UInt8) :
    bytesPerPixel bitDepth = bitDepth.toNat ⌈/⌉ 8 := by
  rw [Nat.ceilDiv_eq_add_pred_div]
  rfl

/-- The bytes of one sample have room for the depth. -/
theorem sampleValues_le {bitDepth : UInt8} (hdepth : bitDepth.toNat ≤ 16) :
    sampleValues bitDepth ≤ 256 ^ bytesPerPixel bitDepth := by
  have hbytes : min bitDepth.toNat 16 ≤ 8 * bytesPerPixel bitDepth := by
    unfold bytesPerPixel
    omega
  calc sampleValues bitDepth ≤ 2 ^ (8 * bytesPerPixel bitDepth) :=
        Nat.pow_le_pow_right (by decide) hbytes
    _ = 256 ^ bytesPerPixel bitDepth := Nat.pow_mul 2 8 _

namespace Shape

section
variable {shape : Shape} (hdepth : shape.bitDepth.toNat ≤ 16)
include hdepth

theorem min_bytesPerPixel :
    min (bytesPerPixel shape.bitDepth) 2 = bytesPerPixel shape.bitDepth := by
  unfold bytesPerPixel
  omega

theorem sample_eq (index x y : Nat) :
    shape.sample index x y = (x + y + index) % 2 ^ shape.bitDepth.toNat := by
  rw [sample, sampleValues, Nat.min_eq_left hdepth]

theorem length_sampleBytes (value : Nat) :
    (shape.sampleBytes value).length = bytesPerPixel shape.bitDepth := by
  rw [sampleBytes, LittleEndian.length_encode, min_bytesPerPixel hdepth]

/-- Cutting a sample to its bytes loses nothing. -/
theorem decode_sampleBytes (index x y : Nat) :
    LittleEndian.decode (shape.sampleBytes (shape.sample index x y)) = shape.sample index x y := by
  have hlt : shape.sample index x y < sampleValues shape.bitDepth :=
    Nat.mod_lt _ (Nat.pow_pos (by decide))
  have hle : sampleValues shape.bitDepth ≤ 256 ^ bytesPerPixel shape.bitDepth :=
    sampleValues_le hdepth
  rw [sampleBytes, LittleEndian.decode_encode, min_bytesPerPixel hdepth,
    Nat.mod_eq_of_lt (Nat.lt_of_lt_of_le hlt hle)]

/-- A sample lies at its place in its row, and the row at its place in the image. -/
theorem take_drop_gradient (index : Nat) {x y : Nat} (hx : x < shape.width.toNat)
    (hy : y < shape.height.toNat) :
    ((shape.gradient index).drop
        ((y * shape.width.toNat + x) * bytesPerPixel shape.bitDepth)).take
          (bytesPerPixel shape.bitDepth) =
      shape.sampleBytes (shape.sample index x y) := by
  let size := bytesPerPixel shape.bitDepth
  let row : Nat → Bytes := fun y =>
    (List.range shape.width.toNat).flatMap fun x => shape.sampleBytes (shape.sample index x y)
  have hsample : ∀ y x, (shape.sampleBytes (shape.sample index x y)).length = size :=
    fun _ _ => length_sampleBytes hdepth _
  have hrow : ∀ y, (row y).length = shape.width.toNat * size := by
    simp [row, List.length_flatMap, hsample]
  have hwhole : ((shape.gradient index).drop (y * (shape.width.toNat * size))).take
      (shape.width.toNat * size) = row y := by
    rw [gradient_eq]
    exact take_drop_flatMap_range hrow hy
  have hpart : ((row y).drop (x * size)).take size = shape.sampleBytes (shape.sample index x y) :=
    take_drop_flatMap_range (hsample y) hx
  -- the sample ends within its row
  have hend : size ≤ shape.width.toNat * size - x * size := by
    have hle : (x + 1) * size ≤ shape.width.toNat * size := Nat.mul_le_mul_right size hx
    rw [Nat.succ_mul] at hle
    omega
  have hoffset : y * (shape.width.toNat * size) + x * size =
      (y * shape.width.toNat + x) * size := by
    rw [Nat.add_mul, Nat.mul_assoc]
  rw [← hwhole, List.drop_take, List.drop_drop, List.take_take, Nat.min_eq_left hend,
    hoffset] at hpart
  exact hpart

theorem gradient_add (index : Nat) :
    shape.gradient (index + 2 ^ shape.bitDepth.toNat) = shape.gradient index := by
  have hsample : ∀ x y, shape.sample (index + 2 ^ shape.bitDepth.toNat) x y =
      shape.sample index x y := by
    intro x y
    rw [sample_eq hdepth, sample_eq hdepth, ← Nat.add_assoc, Nat.add_mod_right]
  simp only [gradient_eq, hsample]

end

def sampleAt (shape : Shape) (pixels : Bytes) (x y : Nat) : Nat :=
  let size := shape.bitDepth.toNat ⌈/⌉ 8
  LittleEndian.decode ((pixels.drop ((y * shape.width.toNat + x) * size)).take size)

/-- The pixels are one word for each place, and each is the sum of column, row and index, cut
to the bit depth. -/
structure Gradates (shape : Shape) (index : Nat) (pixels : Bytes) : Prop where
  length_eq : pixels.length =
    shape.width.toNat * shape.height.toNat * (shape.bitDepth.toNat ⌈/⌉ 8)
  sampleAt_eq : ∀ x < shape.width.toNat, ∀ y < shape.height.toNat,
    shape.sampleAt pixels x y = (x + y + index) % 2 ^ shape.bitDepth.toNat

theorem gradates_gradient {shape : Shape} (hdepth : shape.bitDepth.toNat ≤ 16) (index : Nat) :
    shape.Gradates index (shape.gradient index) where
  length_eq := by
    rw [length_gradient, gradientSize, min_bytesPerPixel hdepth, bytesPerPixel_eq_ceilDiv,
      ← Nat.mul_assoc, Nat.mul_comm shape.height.toNat]
  sampleAt_eq := by
    intro x hx y hy
    rw [sampleAt, ← bytesPerPixel_eq_ceilDiv, take_drop_gradient hdepth index hx hy,
      decode_sampleBytes hdepth, sample_eq hdepth]

end Shape

/--
A gradient source yields an image of its size whose samples read back as the sum of
column, row and index, cut to the bit depth; 32-bit words hold these sums.  So the image
comes again after as many frames as a sample has values, and no sample exceeds the depth.
-/
theorem gradient_reads_back {shape : Shape} (hdepth : shape.bitDepth.toNat ≤ 16)
    {index : UInt32}
    (hindex : shape.width.toNat + shape.height.toNat + index.toNat < UInt32.size)
    (tree : Files.Tree) :
    ∃ pixels, (Source.gradient shape).frame tree index.toNat = .ok pixels ∧
      shape.Gradates index.toNat pixels ∧
      (Source.gradient shape).frame tree (index.toNat + 2 ^ shape.bitDepth.toNat) = .ok pixels ∧
      ∀ x < shape.width.toNat, ∀ y < shape.height.toNat,
        (UInt32.ofNat x + UInt32.ofNat y + index).toNat = x + y + index.toNat ∧
          shape.sampleAt pixels x y < 2 ^ shape.bitDepth.toNat := by
  have hgradates := Shape.gradates_gradient hdepth index.toNat
  refine ⟨shape.gradient index.toNat, rfl, hgradates, ?_, fun x hx y hy => ⟨?_, ?_⟩⟩
  · exact congrArg Except.ok (Shape.gradient_add hdepth index.toNat)
  · unfold UInt32.size at hindex
    rw [UInt32.toNat_add, UInt32.toNat_add, UInt32.toNat_ofNat', UInt32.toNat_ofNat']
    omega
  · rw [hgradates.sampleAt_eq x hx y hy]
    exact Nat.mod_lt _ (Nat.pow_pos (by decide))

/-- Samples of twelve bits that start over within the image. -/
theorem gradient_reads_back_starting_over :
    let shape : Shape := ⟨3, 2, 12⟩
    shape.bitDepth.toNat ≤ 16 ∧
      shape.width.toNat + shape.height.toNat + (4094 : UInt32).toNat < UInt32.size ∧
      ∃ pixels, (Source.gradient shape).frame .empty 4094 = .ok pixels ∧
        pixels = [254, 15, 255, 15, 0, 0, 255, 15, 0, 0, 1, 0] ∧
        shape.Gradates 4094 pixels ∧ shape.sampleAt pixels 2 1 = 1 ∧
        (Source.gradient shape).frame .empty 8190 = .ok pixels := by
  intro shape
  obtain ⟨pixels, hframe, hgradates, hagain, -⟩ :=
    @gradient_reads_back shape (by decide) 4094 (by decide) .empty
  have hpixels : pixels = [254, 15, 255, 15, 0, 0, 255, 15, 0, 0, 1, 0] :=
    (Except.ok.inj hframe).symm.trans (by decide)
  refine ⟨by decide, by decide, pixels, hframe, hpixels, hgradates, ?_, hagain⟩
  exact (hgradates.sampleAt_eq 2 (by decide) 1 (by decide)).trans (by decide)

end Framecast.Image
