import Framecast.Image.Header

/-!
# Encoded images

An encoded image is its header followed by the raw pixels, unchanged.
-/

namespace Framecast.Image

structure SizeOverflow where
  size : Nat
deriving Repr, DecidableEq

def SizeOverflow.message (overflow : SizeOverflow) : String :=
  s!"frame of {overflow.size} bytes does not fit the u32 size field"

structure Shape where
  width : UInt16
  height : UInt16
  bitDepth : UInt8
deriving Repr, DecidableEq

namespace Shape

def header (shape : Shape) (size : Nat) : Except SizeOverflow Header :=
  if size < UInt32.size then
    .ok (.new shape.width shape.height shape.bitDepth (UInt32.ofNat size))
  else .error ⟨size⟩

def encode (shape : Shape) (raw : Bytes) : Except SizeOverflow Bytes :=
  (shape.header raw.length).map fun header => header.encode ++ raw

end Shape

end Framecast.Image
