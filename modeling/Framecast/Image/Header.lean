import Framecast.Datagram.Header
import Framecast.Text.Digits

/-!
# Image headers

Every encoded image starts with sixteen bytes that name its format, its size in
pixels, its bit depth and the number of bytes that follow.  Reading accepts any
sixteen bytes; `check` tells whether they are a header of this format.
-/

namespace Framecast.Image

def magicWord : UInt32 := 0xCC1210B2

def formatVersion : UInt16 := 1

def headerSize : Nat := 16

structure Header where
  magic : UInt32
  version : UInt16
  width : UInt16
  height : UInt16
  bitDepth : UInt8
  reserved : UInt8
  pixelBytes : UInt32
deriving Repr, DecidableEq

inductive FormatError where
  | badMagic (found : UInt32)
  | unsupportedVersion (found : UInt16)
deriving Repr, DecidableEq

def FormatError.message : FormatError → String
  | .badMagic found => "bad frame magic: 0x" ++ Text.hexWord 8 found.toNat
  | .unsupportedVersion found => s!"unsupported protocol version: {found.toNat}"

namespace Header

def new (width height : UInt16) (bitDepth : UInt8) (pixelBytes : UInt32) : Header where
  magic := magicWord
  version := formatVersion
  width
  height
  bitDepth
  reserved := 0
  pixelBytes

def encode (header : Header) : Bytes :=
  bytesOf32 header.magic ++ bytesOf16 header.version ++ bytesOf16 header.width ++
    bytesOf16 header.height ++ [header.bitDepth, header.reserved] ++
    bytesOf32 header.pixelBytes

def decode (data : Bytes) : Except Datagram.ReadError Header :=
  if data.length < headerSize then .error (.tooShort headerSize data.length)
  else
    .ok {
      magic := word32At data 0
      version := word16At data 4
      width := word16At data 6
      height := word16At data 8
      bitDepth := byteAt data 10
      reserved := byteAt data 11
      pixelBytes := word32At data 12 }

/-- Whether the header is one of this format: its magic word first, then its version. -/
def check (header : Header) : Except FormatError Unit :=
  if header.magic ≠ magicWord then .error (.badMagic header.magic)
  else if header.version ≠ formatVersion then .error (.unsupportedVersion header.version)
  else .ok ()

@[simp] theorem length_encode (header : Header) : header.encode.length = headerSize := by
  simp [encode, headerSize]

end Header

end Framecast.Image
