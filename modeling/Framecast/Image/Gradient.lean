import Framecast.Image.Encoding

/-!
# Gradient test images

The sample in row `y` and column `x` of frame `index` is `x + y + index`, cut to
the bit depth.  Samples are little-endian; a depth of at most eight bits takes
one byte for each.
-/

namespace Framecast.Image

/-- Bytes that one sample of the given depth takes. -/
def bytesPerPixel (bitDepth : UInt8) : Nat :=
  (bitDepth.toNat + 7) / 8

/-- How many values a sample of the given depth can take; sixteen bits at most count. -/
def sampleValues (bitDepth : UInt8) : Nat :=
  2 ^ min bitDepth.toNat 16

namespace Shape

def sample (shape : Shape) (index x y : Nat) : Nat :=
  (x + y + index) % sampleValues shape.bitDepth

/-- The bytes of one sample; no sample takes more than two. -/
def sampleBytes (shape : Shape) (value : Nat) : Bytes :=
  LittleEndian.encode (min (bytesPerPixel shape.bitDepth) 2) value

/-- The samples of the first columns of a row, `start` being the value in the very first,
in front of other bytes. -/
def columns (width values start : Nat) : Nat → Bytes → Bytes
  | 0, rest => rest
  | x + 1, rest =>
      columns width values start x (LittleEndian.prepend width ((x + start) % values) rest)

/-- The samples of the first rows of an image with `count` columns, in front of other
bytes. -/
def rows (width values index count : Nat) : Nat → Bytes → Bytes
  | 0, rest => rest
  | y + 1, rest =>
      rows width values index count y (columns width values (y + index) count rest)

def gradient (shape : Shape) (index : Nat) : Bytes :=
  rows (min (bytesPerPixel shape.bitDepth) 2) (sampleValues shape.bitDepth) index
    shape.width.toNat shape.height.toNat []

def gradientSize (shape : Shape) : Nat :=
  shape.height.toNat * (shape.width.toNat * min (bytesPerPixel shape.bitDepth) 2)

theorem columns_eq (width values start count : Nat) (rest : Bytes) :
    columns width values start count rest =
      ((List.range count).flatMap fun x => LittleEndian.encode width ((x + start) % values)) ++
        rest := by
  induction count generalizing rest with
  | zero => rfl
  | succ x ih =>
      rw [columns, ih, LittleEndian.prepend_eq, List.range_succ, List.flatMap_append,
        List.flatMap_singleton, List.append_assoc]

theorem rows_eq (width values index count height : Nat) (rest : Bytes) :
    rows width values index count height rest =
      ((List.range height).flatMap fun y => columns width values (y + index) count []) ++
        rest := by
  induction height generalizing rest with
  | zero => rfl
  | succ y ih =>
      have hrow : columns width values (y + index) count rest =
          columns width values (y + index) count [] ++ rest := by
        rw [columns_eq, columns_eq width values (y + index) count [], List.append_nil]
      rw [rows, ih, hrow, List.range_succ, List.flatMap_append, List.flatMap_singleton,
        List.append_assoc]

theorem gradient_eq (shape : Shape) (index : Nat) :
    shape.gradient index =
      (List.range shape.height.toNat).flatMap fun y =>
        (List.range shape.width.toNat).flatMap fun x =>
          shape.sampleBytes (shape.sample index x y) := by
  rw [gradient, rows_eq, List.append_nil]
  congr 1
  funext y
  rw [columns_eq, List.append_nil]
  congr 1
  funext x
  rw [sampleBytes, sample, Nat.add_assoc]

theorem length_gradient (shape : Shape) (index : Nat) :
    (shape.gradient index).length = shape.gradientSize := by
  have hsample : ∀ y x : Nat, (shape.sampleBytes (shape.sample index x y)).length =
      min (bytesPerPixel shape.bitDepth) 2 := fun _ _ => LittleEndian.length_encode _ _
  rw [gradient_eq, List.length_flatMap]
  simp only [List.length_flatMap, hsample, List.map_const', List.sum_replicate_nat,
    List.length_range, gradientSize]

end Shape

end Framecast.Image
