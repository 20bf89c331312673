import Framecast.Image.Encoding
import Framecast.Proofs.Datagram.RoundTrip

/-!
# Image headers and their bytes

An image header reads back from its sixteen bytes, whatever pixels follow.  The
headers that images get pass the check; sixteen zero bytes, which stand where a
header was lost, are a header that fails it.
-/

namespace Framecast.Image

/-- A header reads back from its bytes. -/
theorem Header.decode_encode_append (header : Header) (rest : Bytes) :
    Header.decode (header.encode ++ rest) = .ok header := by
  have hlong : ¬ (header.encode ++ rest).length < headerSize := by
    rw [List.length_append, length_encode]
    omega
  have hmagic : word32At (header.encode ++ rest) 0 = header.magic := by
    have hword := word32At_append [] (bytesOf16 header.version ++ (bytesOf16 header.width ++
      (bytesOf16 header.height ++ ([header.bitDepth, header.reserved] ++
        (bytesOf32 header.pixelBytes ++ rest))))) header.magic
    simpa [encode] using hword
  have hversion : word16At (header.encode ++ rest) 4 = header.version := by
    have hword := word16At_append (bytesOf32 header.magic) (bytesOf16 header.width ++
      (bytesOf16 header.height ++ ([header.bitDepth, header.reserved] ++
        (bytesOf32 header.pixelBytes ++ rest)))) header.version
    simpa [encode] using hword
  have hwidth : word16At (header.encode ++ rest) 6 = header.width := by
    have hword := word16At_append (bytesOf32 header.magic ++ bytesOf16 header.version)
      (bytesOf16 header.height ++ ([header.bitDepth, header.reserved] ++
        (bytesOf32 header.pixelBytes ++ rest))) header.width
    simpa [encode] using hword
  have hheight : word16At (header.encode ++ rest) 8 = header.height := by
    have hword := word16At_append (bytesOf32 header.magic ++ bytesOf16 header.version ++
      bytesOf16 header.width) ([header.bitDepth, header.reserved] ++
        (bytesOf32 header.pixelBytes ++ rest)) header.height
    simpa [encode] using hword
  have hpixelBytes : word32At (header.encode ++ rest) 12 = header.pixelBytes := by
    have hword := word32At_append (bytesOf32 header.magic ++ bytesOf16 header.version ++
      bytesOf16 header.width ++ bytesOf16 header.height ++
        [header.bitDepth, header.reserved]) rest header.pixelBytes
    simpa [encode] using hword
  have hbitDepth : byteAt (header.encode ++ rest) 10 = header.bitDepth := by
    simp [byteAt, encode, bytesOf32, bytesOf16, LittleEndian.encode]
  have hreserved : byteAt (header.encode ++ rest) 11 = header.reserved := by
    simp [byteAt, encode, bytesOf32, bytesOf16, LittleEndian.encode]
  rw [decode, if_neg hlong, hmagic, hversion, hwidth, hheight, hbitDepth, hreserved,
    hpixelBytes]

theorem Header.decode_encode (header : Header) : Header.decode header.encode = .ok header := by
  simpa using header.decode_encode_append []

theorem Header.check_new (width height : UInt16) (bitDepth : UInt8) (pixelBytes : UInt32) :
    (Header.new width height bitDepth pixelBytes).check = .ok () := by
  simp [check, new]

/-- Zero bytes are a header, but none of this format. -/
theorem Header.check_zeros :
    ∃ header, Header.decode (List.replicate headerSize 0) = .ok header ∧
      header.check = .error (.badMagic 0) :=
  ⟨⟨0, 0, 0, 0, 0, 0, 0⟩, rfl, rfl⟩

def Shape.headerOf (shape : Shape) (raw : Bytes) : Header :=
  .new shape.width shape.height shape.bitDepth (UInt32.ofNat raw.length)

theorem Shape.header_of_lt (shape : Shape) {raw : Bytes} (h : raw.length < UInt32.size) :
    shape.header raw.length = .ok (shape.headerOf raw) :=
  if_pos h

theorem Shape.encode_of_lt (shape : Shape) {raw : Bytes} (h : raw.length < UInt32.size) :
    shape.encode raw = .ok ((shape.headerOf raw).encode ++ raw) := by
  rw [Shape.encode, shape.header_of_lt h]
  rfl

end Framecast.Image
