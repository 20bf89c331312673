/-!
# Byte strings and little-endian words

Byte strings are lists of bytes.  A word of `width` bytes is written least
significant byte first; reading is the inverse of writing below `256 ^ width`,
and writing is the inverse of reading on strings of exactly `width` bytes.
-/

namespace Framecast

-- powers are the core library's, here and below, whatever other instances are in scope
attribute [instance (high)] instPowNat

abbrev Bytes := List UInt8

namespace LittleEndian

/-- The `width` low bytes of a natural number, least significant first. -/
def encode : Nat → Nat → Bytes
  | 0, _ => []
  | width + 1, n => UInt8.ofNat n :: encode width (n / 256)

/-- The `width` low bytes of a natural number, in front of other bytes. -/
def prepend : Nat → Nat → Bytes → Bytes
  | 0, _, rest => rest
  | width + 1, n, rest => UInt8.ofNat n :: prepend width (n / 256) rest

/-- The natural number whose bytes, least significant first, are given. -/
def decode : Bytes → Nat
  | [] => 0
  | byte :: rest => byte.toNat + 256 * decode rest

@[simp] theorem length_encode (width n : Nat) : (encode width n).length = width := by
  induction width generalizing n with
  | zero => rfl
  | succ width ih => simp [encode, ih]

theorem prepend_eq (width n : Nat) (rest : Bytes) :
    prepend width n rest = encode width n ++ rest := by
  induction width generalizing n with
  | zero => rfl
  | succ width ih => rw [prepend, encode, ih, List.cons_append]

theorem decode_encode (width n : Nat) : decode (encode width n) = n % 256 ^ width := by
  induction width generalizing n with
  | zero => simp [encode, decode, Nat.mod_one]
  | succ width ih =>
      have hbyte : (UInt8.ofNat n).toNat = n % 256 := by simp
      rw [encode, decode, ih, hbyte, Nat.pow_succ, Nat.mul_comm (256 ^ width) 256,
        Nat.mod_mul]

theorem decode_lt (bytes : Bytes) : decode bytes < 256 ^ bytes.length := by
  induction bytes with
  | nil => simp [decode]
  | cons byte rest ih =>
      have hbyte : byte.toNat < 256 := byte.toNat_lt
      simp only [decode, List.length_cons, Nat.pow_succ]
      omega

theorem encode_decode (bytes : Bytes) : encode bytes.length (decode bytes) = bytes := by
  induction bytes with
  | nil => rfl
  | cons byte rest ih =>
      have hbyte : byte.toNat < 256 := byte.toNat_lt
      have hquot : (byte.toNat + 256 * decode rest) / 256 = decode rest := by omega
      have hhead : UInt8.ofNat (byte.toNat + 256 * decode rest) = byte := by
        apply UInt8.toNat_inj.mp
        simp only [UInt8.toNat_ofNat']
        omega
      simp [encode, decode, hquot, hhead, ih]

end LittleEndian

def bytesOf32 (word : UInt32) : Bytes :=
  LittleEndian.encode 4 word.toNat

def bytesOf16 (word : UInt16) : Bytes :=
  LittleEndian.encode 2 word.toNat

/-- The 32-bit word that starts at byte `offset`; missing bytes count as zero. -/
def word32At (data : Bytes) (offset : Nat) : UInt32 :=
  UInt32.ofNat (LittleEndian.decode ((data.drop offset).take 4))

def word16At (data : Bytes) (offset : Nat) : UInt16 :=
  UInt16.ofNat (LittleEndian.decode ((data.drop offset).take 2))

def byteAt (data : Bytes) (offset : Nat) : UInt8 :=
  data.getD offset 0

@[simp] theorem length_bytesOf32 (word : UInt32) : (bytesOf32 word).length = 4 := by
  simp [bytesOf32]

@[simp] theorem length_bytesOf16 (word : UInt16) : (bytesOf16 word).length = 2 := by
  simp [bytesOf16]

end Framecast
