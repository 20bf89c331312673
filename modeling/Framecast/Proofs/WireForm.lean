import Framecast.Proofs.Image.Headers

/-!
# What stands on the wire

A header of fixed size reads back whatever follows it, and any bytes that are long
enough are those of the header that is read from them.  So reading and writing are
inverse to each other in both directions, for headers of packets and of images
alike.  A packet is read exactly from the bytes that hold all that its header
declares; they start with the bytes of the packet.
-/

namespace Framecast

/--
A value is written to `size` bytes and read from them: nothing of the value is
lost, and no bytes are read that writing would not give.
-/
structure WireForm {α : Type} (size : Nat) (encode : α → Bytes)
    (decode : Bytes → Except Datagram.ReadError α) : Prop where
  decode_encode : ∀ value trailing, decode (encode value ++ trailing) = .ok value
  encode_decode : ∀ data, size ≤ data.length →
    ∃ value, decode data = .ok value ∧ encode value = data.take size
  too_short : ∀ data, data.length < size →
    decode data = .error (.tooShort size data.length)

/-! ## Words -/

theorem length_window {data : Bytes} {offset width : Nat} (h : offset + width ≤ data.length) :
    ((data.drop offset).take width).length = width := by
  rw [List.length_take, List.length_drop]
  omega

theorem decode_window_lt (data : Bytes) (offset width : Nat) :
    LittleEndian.decode ((data.drop offset).take width) < 256 ^ width := by
  have hlt := LittleEndian.decode_lt ((data.drop offset).take width)
  exact Nat.lt_of_lt_of_le hlt
    (Nat.pow_le_pow_right (by decide) (List.length_take_le _ _))

theorem toNat_word32At (data : Bytes) (offset : Nat) :
    (word32At data offset).toNat = LittleEndian.decode ((data.drop offset).take 4) :=
  UInt32.toNat_ofNat_of_lt' (decode_window_lt data offset 4)

theorem toNat_word16At (data : Bytes) (offset : Nat) :
    (word16At data offset).toNat = LittleEndian.decode ((data.drop offset).take 2) :=
  UInt16.toNat_ofNat_of_lt' (decode_window_lt data offset 2)

section
variable {data : Bytes} {offset : Nat}

theorem bytesOf32_word32At (h : offset + 4 ≤ data.length) :
    bytesOf32 (word32At data offset) = (data.drop offset).take 4 := by
  have hbytes := LittleEndian.encode_decode ((data.drop offset).take 4)
  rwa [length_window h, ← toNat_word32At] at hbytes

theorem bytesOf16_word16At (h : offset + 2 ≤ data.length) :
    bytesOf16 (word16At data offset) = (data.drop offset).take 2 := by
  have hbytes := LittleEndian.encode_decode ((data.drop offset).take 2)
  rwa [length_window h, ← toNat_word16At] at hbytes

theorem byteAt_of_lt (h : offset < data.length) : byteAt data offset = data[offset] := by
  rw [byteAt, List.getD_eq_getElem?_getD, List.getElem?_eq_getElem h, Option.getD_some]

theorem bytes_byteAt (h : offset + 2 ≤ data.length) :
    [byteAt data offset, byteAt data (offset + 1)] = (data.drop offset).take 2 := by
  have hfirst : offset < data.length := by omega
  have hsecond : offset + 1 < data.length := by omega
  rw [List.drop_eq_getElem_cons hfirst, List.drop_eq_getElem_cons hsecond,
    byteAt_of_lt hfirst, byteAt_of_lt hsecond, List.take_succ_cons, List.take_succ_cons,
    List.take_zero]

end

/-! ## Headers -/

namespace Datagram

theorem Header.decode_of_le {data : Bytes} (h : headerSize ≤ data.length) :
    Header.decode data = .ok {
      frameId := word32At data 0
      packetId := word16At data 4
      packetCount := word16At data 6
      payloadSize := word32At data 8 } :=
  if_neg (Nat.not_lt.mpr h)

theorem Header.wireForm : WireForm headerSize Header.encode Header.decode where
  decode_encode := Header.decode_encode_append
  encode_decode := by
    intro data hlong
    refine ⟨_, Header.decode_of_le hlong, ?_⟩
    simp only [headerSize] at hlong
    rw [Header.encode, bytesOf32_word32At (by omega), bytesOf16_word16At (by omega),
      bytesOf16_word16At (by omega), bytesOf32_word32At (by omega), List.drop_zero]
    -- each window begins where the one before it ends
    rw [← List.take_add, ← List.take_add, ← List.take_add]
    rfl
  too_short := fun data hshort => if_pos hshort

end Datagram

namespace Image

theorem Header.wireForm : WireForm headerSize Header.encode Header.decode where
  decode_encode := Header.decode_encode_append
  encode_decode := by
    intro data hlong
    refine ⟨_, if_neg (Nat.not_lt.mpr hlong), ?_⟩
    simp only [headerSize] at hlong
    rw [Header.encode, bytesOf32_word32At (by omega), bytesOf16_word16At (by omega),
      bytesOf16_word16At (by omega), bytesOf16_word16At (by omega), bytes_byteAt (by omega),
      bytesOf32_word32At (by omega), List.drop_zero]
    rw [← List.take_add, ← List.take_add, ← List.take_add, ← List.take_add, ← List.take_add]
    rfl
  too_short := fun data hshort => if_pos hshort

end Image

/-! ## Packets -/

namespace Datagram

/-- How many payload bytes the header of a datagram declares. -/
def declaredSize (data : Bytes) : Nat :=
  LittleEndian.decode ((data.drop 8).take 4)

section
variable {data : Bytes} (hlong : headerSize ≤ data.length)
include hlong

theorem payloadSize_of_decode {header : Header} (h : Header.decode data = .ok header) :
    header.payloadSize.toNat = declaredSize data := by
  rw [Header.decode_of_le hlong] at h
  rw [← Except.ok.inj h]
  exact toNat_word32At data 8

theorem Packet.decode_of_truncated
    (htruncated : data.length - headerSize < declaredSize data) :
    Packet.decode data =
      .error (.truncated (declaredSize data) (data.length - headerSize)) := by
  obtain ⟨header, hheader, -⟩ := Header.wireForm.encode_decode data hlong
  rw [← payloadSize_of_decode hlong hheader] at htruncated ⊢
  simp only [Packet.decode, split, hheader, bind, Except.bind]
  rw [if_pos htruncated]
  rfl

theorem Packet.decode_of_whole (hwhole : declaredSize data ≤ data.length - headerSize) :
    ∃ packet, Packet.decode data = .ok packet ∧
      packet.encode = data.take (headerSize + packet.header.payloadSize.toNat) := by
  obtain ⟨header, hheader, hbytes⟩ := Header.wireForm.encode_decode data hlong
  rw [← payloadSize_of_decode hlong hheader] at hwhole
  refine ⟨⟨header, (data.drop headerSize).take header.payloadSize.toNat⟩, ?_, ?_⟩
  · simp only [Packet.decode, split, hheader, bind, Except.bind]
    rw [if_neg (Nat.not_lt.mpr hwhole)]
    rfl
  · rw [Packet.encode, hbytes, ← List.take_add]

end

theorem Packet.decode_of_short {data : Bytes} (hshort : data.length < headerSize) :
    Packet.decode data = .error (.tooShort headerSize data.length) := by
  simp only [Packet.decode, split, Header.wireForm.too_short data hshort, bind, Except.bind]
  rfl

theorem Packet.decode_encode_append {packet : Packet}
    (hsize : packet.payload.length = packet.header.payloadSize.toNat) (trailing : Bytes) :
    Packet.decode (packet.encode ++ trailing) = .ok packet := by
  rw [Packet.decode, split_encode_append hsize]
  rfl

/-- A packet is read just from the bytes that hold a header and all that it declares. -/
theorem Packet.exists_decode_iff {data : Bytes} :
    (∃ packet, Packet.decode data = .ok packet) ↔
      headerSize ≤ data.length ∧ declaredSize data ≤ data.length - headerSize := by
  constructor
  · rintro ⟨packet, hpacket⟩
    have hlong : headerSize ≤ data.length := by
      refine Nat.le_of_not_lt fun hshort => ?_
      rw [Packet.decode_of_short hshort] at hpacket
      exact absurd hpacket (by simp)
    refine ⟨hlong, Nat.le_of_not_lt fun htruncated => ?_⟩
    rw [Packet.decode_of_truncated hlong htruncated] at hpacket
    exact absurd hpacket (by simp)
  · rintro ⟨hlong, hwhole⟩
    obtain ⟨packet, hpacket, -⟩ := Packet.decode_of_whole hlong hwhole
    exact ⟨packet, hpacket⟩

theorem Packet.encode_of_decode {data : Bytes} {packet : Packet}
    (h : Packet.decode data = .ok packet) :
    packet.encode = data.take (headerSize + packet.header.payloadSize.toNat) := by
  obtain ⟨hlong, hwhole⟩ := Packet.exists_decode_iff.mp ⟨packet, h⟩
  obtain ⟨other, hother, hbytes⟩ := Packet.decode_of_whole hlong hwhole
  rw [Except.ok.inj (h.symm.trans hother)]
  exact hbytes

end Datagram

open Datagram in
/--
Reading and writing undo each other.  Headers of packets take twelve bytes and those of
images sixteen, and both directions hold for every header and all bytes, whether or not
an image header passes its check.  Bytes are read as a packet just when they hold a
header and as many further bytes as the word at offset eight declares; what was read is
written to the same bytes, and a packet of the declared size is read back whatever
follows it.
-/
theorem reading_inverts_writing :
    WireForm 12 Header.encode Header.decode ∧
      WireForm 16 Image.Header.encode Image.Header.decode ∧
      (∀ data,
        ((∃ packet, Packet.decode data = .ok packet) ↔
          12 ≤ data.length ∧ declaredSize data ≤ data.length - 12) ∧
        (data.length < 12 → Packet.decode data = .error (.tooShort 12 data.length)) ∧
        (12 ≤ data.length → data.length - 12 < declaredSize data →
          Packet.decode data =
            .error (.truncated (declaredSize data) (data.length - 12))) ∧
        ∀ packet, Packet.decode data = .ok packet →
          packet.encode = data.take (12 + packet.header.payloadSize.toNat)) ∧
      ∀ (packet : Packet) (trailing : Bytes),
        packet.payload.length = packet.header.payloadSize.toNat →
          Packet.decode (packet.encode ++ trailing) = .ok packet := by
  refine ⟨Header.wireForm, Image.Header.wireForm, ?_, ?_⟩
  · intro data
    exact ⟨Packet.exists_decode_iff, Packet.decode_of_short, Packet.decode_of_truncated,
      fun packet => Packet.encode_of_decode⟩
  · intro packet trailing hsize
    exact Packet.decode_encode_append hsize trailing

open Datagram in
/-- A packet with a byte behind it, the same packet cut short, and an image header that fails. -/
theorem reading_inverts_writing_cut_short :
    let packet : Packet := ⟨⟨0x04030201, 5, 6, 2⟩, [30, 40]⟩
    let foreign : Image.Header := ⟨1, 9, 4, 3, 12, 7, 24⟩
    let whole : Bytes := [1, 2, 3, 4, 5, 0, 6, 0, 2, 0, 0, 0, 30, 40, 50]
    whole = packet.encode ++ [50] ∧
      Packet.decode whole = .ok packet ∧
      packet.encode = whole.take 14 ∧
      Packet.decode (whole.take 13) = .error (.truncated 2 1) ∧
      Packet.decode (whole.take 11) = .error (.tooShort 12 11) ∧
      foreign.check = .error (.badMagic 1) ∧
      Image.Header.decode (foreign.encode ++ [1]) = .ok foreign := by
  intro packet foreign whole
  obtain ⟨-, himage, hpackets, hback⟩ := reading_inverts_writing
  have hwhole : whole = packet.encode ++ [50] := by decide
  have hread : Packet.decode whole = .ok packet := hwhole ▸ hback packet [50] (by decide)
  have hbytes := (hpackets whole).2.2.2 packet hread
  have htruncated := (hpackets (whole.take 13)).2.2.1 (by decide) (by decide)
  have hshort := (hpackets (whole.take 11)).2.1 (by decide)
  exact ⟨hwhole, hread, hbytes, htruncated, hshort, rfl,
    himage.decode_encode foreign [1]⟩

end Framecast
