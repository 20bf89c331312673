import Framecast.Command.Send
import Framecast.Proofs.Image.Headers
import Framecast.Proofs.Output.Placing
import Framecast.Proofs.Reassembly.Duplicates

/-!
# Images sent over a lossy network and written to files

An image is encoded, cut into packets and sent; some packets are lost, and what
arrives is handed over and written.  The header and the pixels that the files hold are
those of the image, with zeros for what lost packets held.  The first packet is longer
than a header, so the header is there or lost as a whole, while the pixels are out of
step with the packets by its size.
-/

namespace Framecast

open Framecast.Assembly (Frame FrameState Settings)
open Framecast.Datagram (fragment)
open Framecast.Reassembly (Delivers Restores Transfer finish framesOf)

/-! ## Bytes with gaps -/

/-- Bytes that start at `offset` in a frame, with zeros for what lost packets held. -/
def blanked (stride offset : Nat) (packets kept : List Datagram.Packet) (bytes : Bytes) :
    Bytes :=
  bytes.mapIdx fun index byte =>
    if ∃ sent ∈ kept, packets[(offset + index) / stride]? = some sent then byte else 0

theorem length_blanked (stride offset : Nat) (packets kept : List Datagram.Packet)
    (bytes : Bytes) : (blanked stride offset packets kept bytes).length = bytes.length :=
  List.length_mapIdx

theorem blanked_append (stride : Nat) (packets kept : List Datagram.Packet)
    (front back : Bytes) :
    blanked stride 0 packets kept (front ++ back) =
      blanked stride 0 packets kept front ++
        blanked stride front.length packets kept back := by
  simp only [blanked, List.mapIdx_append, Nat.zero_add, Nat.add_comm front.length]

/-- Bytes within the first packet are there or lost as a whole. -/
theorem blanked_of_length_le {stride : Nat} (packets kept : List Datagram.Packet)
    {bytes : Bytes} (h : bytes.length ≤ stride) :
    blanked stride 0 packets kept bytes =
      if ∃ sent ∈ kept, packets[0]? = some sent then bytes
      else List.replicate bytes.length 0 := by
  have hzero : ∀ index < bytes.length, (0 + index) / stride = 0 :=
    fun index hlt => Nat.div_eq_of_lt (by omega)
  by_cases hfirst : ∃ sent ∈ kept, packets[0]? = some sent
  · rw [if_pos hfirst]
    refine List.ext_getElem (length_blanked ..) fun index _ hlt => ?_
    simp only [blanked, List.getElem_mapIdx, hzero index hlt, if_pos hfirst]
  · rw [if_neg hfirst]
    refine List.ext_getElem (by simp [length_blanked]) fun index _ hlt => ?_
    rw [List.length_replicate] at hlt
    simp only [blanked, List.getElem_mapIdx, hzero index hlt, if_neg hfirst,
      List.getElem_replicate]

namespace Reassembly

/-- What is handed over is the original up to some byte, with zeros for what was lost. -/
theorem Restores.data_prefix {stride : Nat} {packets kept : List Datagram.Packet}
    {original : Bytes} {frame : Frame} (h : Restores stride packets kept original frame)
    (hle : frame.size ≤ original.length) :
    frame.data <+: blanked stride 0 packets kept original := by
  rw [List.prefix_iff_getElem?]
  intro position hlt
  have hinside := List.getElem?_eq_getElem (Nat.lt_of_lt_of_le hlt hle)
  rw [blanked, List.getElem?_mapIdx, hinside, Option.map_some, Nat.zero_add,
    ← List.getElem?_eq_getElem hlt]
  by_cases hkept : ∃ sent ∈ kept, packets[position / stride]? = some sent
  · rw [if_pos hkept, ← hinside]
    obtain ⟨sent, hmem, hsent⟩ := hkept
    exact (h.byte_of_kept position hlt sent hmem hsent).symm
  · rw [if_neg hkept]
    exact (h.byte_of_lost position hlt fun sent hmem hsent => hkept ⟨sent, hmem, hsent⟩).symm

section
variable {settings : Settings} {frameId : UInt32} {original : Bytes}
  {packets kept : List Datagram.Packet} {frame : Frame}
  (h : Transfer settings frameId original packets kept)
include h

/-- No packet ends before the first one does. -/
theorem Transfer.le_finish {sent : Datagram.Packet} (hmem : sent ∈ packets) :
    min settings.stride original.length ≤ finish settings.stride sent := by
  obtain ⟨hcut, -⟩ := h.isCut (h.getElem?_of_mem hmem)
  rw [finish, hcut.length_payload]
  rcases Nat.eq_zero_or_pos sent.header.packetId.toNat with hzero | hpositive
  · simp [hzero]
  · have hle := Nat.le_mul_of_pos_left settings.stride hpositive
    omega

theorem Transfer.size_le_of_restores
    (hframe : Restores settings.stride packets kept original frame) :
    frame.size ≤ original.length := by
  obtain ⟨sent, hmem, hfinish⟩ := hframe.exists_finish_eq
  exact hfinish ▸ h.finish_le (h.sublist.subset hmem)

theorem Transfer.le_size_of_restores
    (hframe : Restores settings.stride packets kept original frame) :
    min settings.stride original.length ≤ frame.size := by
  obtain ⟨sent, hmem, hfinish⟩ := hframe.exists_finish_eq
  exact hfinish ▸ h.le_finish (h.sublist.subset hmem)

/-- The first packet is known by its number. -/
theorem Transfer.first_kept_iff :
    (∃ sent ∈ kept, packets[0]? = some sent) ↔ ∃ sent ∈ kept, sent.header.packetId = 0 := by
  constructor
  · rintro ⟨sent, hmem, hsent⟩
    exact ⟨sent, hmem, UInt16.toNat_inj.mp (h.isCut hsent).1.packetId_eq⟩
  · rintro ⟨sent, hmem, hid⟩
    have hsent := h.getElem?_of_mem (h.sublist.subset hmem)
    rw [hid] at hsent
    exact ⟨sent, hmem, hsent⟩

end

theorem id_of_framesOf {frameId : UInt32} {steps : List Step} {frame : Frame}
    (h : frame ∈ framesOf frameId steps) : frame.id = frameId := by
  simpa using (List.mem_filter.mp h).2

/-- A drain retires the frame, and whichever call does hands it over as far as its packets
came through. -/
theorem Transfer.retires {settings : Settings} {reportsMissing : Bool}
    {start : Reassembly} (hstart : create settings reportsMissing = .ok start)
    (huncapped : settings.maxInFlight = none) {frameId : UInt32} {original : Bytes}
    {packets kept : List Datagram.Packet}
    (h : Transfer settings frameId original packets kept) (hkept : kept ≠ [])
    {earlier calls : List Call} (habsent : (start.run earlier).1.isInFlight frameId = false)
    (hdelivers : Delivers settings.stride frameId kept calls)
    (hstays : framesOf frameId ((start.run earlier).1.trail calls) = []) :
    (∀ drops, framesOf frameId ((start.run (earlier ++ calls)).1.trail [.drain drops]) ≠ []) ∧
      ∀ call, framesOf frameId ((start.run (earlier ++ calls)).1.trail [call]) ≠ [] →
        ∃ frame, framesOf frameId ((start.run (earlier ++ calls)).1.trail [call]) = [frame] ∧
          Restores settings.stride packets kept original frame := by
  obtain ⟨life, flight, hflight, harrival⟩ :=
    h.exists_arrival hstart huncapped hkept habsent hdelivers hstays
  have hsound := ((sound_of_create hstart).run (earlier ++ calls)).sound
  simp only [trail_cons, trail_nil, framesOf_cons, framesOf_nil, List.append_nil]
  constructor
  · intro drops hnone
    rw [signals_perform, (hsound.turn (.drain drops) frameId).2.drain_silent_iff] at hnone
    rw [hflight] at hnone
    exact absurd hnone (by simp)
  · intro call hretires
    rcases (hsound.turn call frameId).2.frames_eq with ⟨hnone, -⟩ | ⟨other, hother, -, honly⟩
    · exact absurd hnone hretires
    · rw [hflight] at hother
      rw [← Option.some.inj hother] at honly
      exact ⟨_, honly, harrival.restores call.drops⟩

end Reassembly

namespace Output

/-! ## What the files hold of an image -/

/-- What a header file and a pixel file hold of an image, as far as its packets came through. -/
structure Recovers (header : Image.Header) (raw : Bytes) (packets kept : List Datagram.Packet)
    (state : FrameState) (top pixels : Bytes) : Prop where
  state_eq : state = if kept = packets then .complete else .incomplete
  whole : kept = packets → top = header.encode ∧ pixels = raw
  top_eq : top = if ∃ sent ∈ kept, sent.header.packetId = 0 then header.encode
    else List.replicate Image.headerSize 0
  pixels_prefix :
    pixels <+: blanked Datagram.maxPayload Image.headerSize packets kept raw
  finish_le : ∀ sent ∈ kept,
    finish Datagram.maxPayload sent ≤ Image.headerSize + pixels.length
  exists_finish_eq : ∃ sent ∈ kept,
    finish Datagram.maxPayload sent = Image.headerSize + pixels.length

theorem headerSize_le_size {settings : Settings} {frameId : UInt32} {front back : Bytes}
    {packets kept : List Datagram.Packet} {frame : Frame}
    (h : Transfer settings frameId (front ++ back) packets kept)
    (hstride : settings.stride = Datagram.maxPayload)
    (hfront : front.length = Image.headerSize)
    (hframe : Restores settings.stride packets kept (front ++ back) frame) :
    Image.headerSize ≤ frame.data.length := by
  have hsize := h.le_size_of_restores hframe
  rw [hstride, List.length_append, hfront] at hsize
  exact Nat.le_trans (Nat.le_min.mpr ⟨by decide, Nat.le_add_right _ _⟩) hsize

/-- A frame that restores an encoded image splits into what is left of its two parts. -/
theorem recovers_of_restores {settings : Settings} {frameId : UInt32} {header : Image.Header}
    {raw : Bytes} {packets kept : List Datagram.Packet} {frame : Frame}
    (h : Transfer settings frameId (header.encode ++ raw) packets kept)
    (hstride : settings.stride = Datagram.maxPayload)
    (hframe : Restores settings.stride packets kept (header.encode ++ raw) frame) :
    Recovers header raw packets kept frame.state (frame.data.take Image.headerSize)
      (frame.data.drop Image.headerSize) := by
  have hheader := header.length_encode
  have hlong := headerSize_le_size h hstride hheader hframe
  have hsize : Image.headerSize + (frame.data.drop Image.headerSize).length = frame.size := by
    rw [List.length_drop, Frame.size]
    omega
  obtain ⟨rest, hrest⟩ := hframe.data_prefix (h.size_le_of_restores hframe)
  rw [hstride, blanked_append, hheader] at hrest
  have hsplit : frame.data.take Image.headerSize ++ (frame.data.drop Image.headerSize ++ rest) =
      blanked Datagram.maxPayload 0 packets kept header.encode ++
        blanked Datagram.maxPayload Image.headerSize packets kept raw := by
    rw [← List.append_assoc, List.take_append_drop, hrest]
  have hlength : (frame.data.take Image.headerSize).length =
      (blanked Datagram.maxPayload 0 packets kept header.encode).length := by
    rw [length_blanked, hheader, List.length_take, Nat.min_eq_left hlong]
  obtain ⟨htop, hpixels⟩ := List.append_inj hsplit hlength
  rw [hstride] at hframe
  refine {
    state_eq := ?_
    whole := ?_
    top_eq := ?_
    pixels_prefix := ⟨rest, hpixels⟩
    finish_le := by
      rw [hsize]
      exact hframe.finish_le_size
    exists_finish_eq := by
      rw [hsize]
      exact hframe.exists_finish_eq }
  · split
    · exact hframe.state_iff.mpr ‹_›
    · cases hstate : frame.state with
      | complete => exact absurd (hframe.state_iff.mp hstate) ‹_›
      | incomplete => rfl
  · intro hall
    rw [hframe.data_eq hall]
    exact ⟨List.take_left' hheader, List.drop_left' hheader⟩
  · rw [htop, blanked_of_length_le packets kept (by rw [hheader]; decide), hheader]
    simp only [h.first_kept_iff]

/-! ## The header that a sender keeps -/

/-- A sender that is asked to keep the header of its first frame writes these bytes, if that
frame is an image of this shape with these raw bytes. -/
def KeepsHeader (shape : Image.Shape) (raw contents : Bytes) : Prop :=
  ∀ (request : Command.SendRequest) (tree : Files.Tree) (image : Image.Raw) (path : String),
    request.shape = shape → request.headerDump = some path →
    request.source.raw tree 0 = .ok image → image.pixels = raw →
    ∃ header, request.frame tree 0 = .ok (header, image) ∧ ∀ after,
      (request.keepHeader tree 0 header = .ok after ↔ tree.write path contents = .ok after) ∧
      (request.keepHeader tree 0 header = .ok after → after.read path = .ok contents)

theorem keepsHeader_headerOf (shape : Image.Shape) {raw : Bytes}
    (h : raw.length < UInt32.size) : KeepsHeader shape raw (shape.headerOf raw).encode := by
  intro request tree image path hshape hdump hsource hpixels
  have hheader : request.shape.header image.size = .ok (shape.headerOf raw) := by
    rw [← image.length_pixels, hpixels, hshape]
    exact shape.header_of_lt h
  have hframe : request.frame tree 0 = .ok (shape.headerOf raw, image) := by
    rw [Command.SendRequest.frame, hsource]
    simp only [hheader]
  refine ⟨shape.headerOf raw, hframe, fun after => ?_⟩
  have hkeep : request.keepHeader tree 0 (shape.headerOf raw) = .ok after ↔
      tree.write path (shape.headerOf raw).encode = .ok after := by
    simp only [Command.SendRequest.keepHeader, hdump, Command.Outcome.writeFile]
    cases tree.write path (shape.headerOf raw).encode <;> simp
  exact ⟨hkeep, fun hafter => Files.Tree.read_of_write (hkeep.mp hafter)⟩

/-! ## From the image to its files -/

theorem length_lt_of_packetsNeeded {size : Nat}
    (h : Datagram.packetsNeeded size Datagram.maxPayload ≤ Datagram.maxPackets) :
    size < UInt32.size := by
  have hfew : Datagram.maxPackets < Datagram.packetsNeeded size Datagram.maxPayload ↔
      Datagram.maxPackets * Datagram.maxPayload < size :=
    Datagram.lt_packetsNeeded_iff (by decide)
  have hle : size ≤ Datagram.maxPackets * Datagram.maxPayload := by omega
  exact Nat.lt_of_le_of_lt hle (by decide)

/--
An image is encoded and cut into packets, of which some come through, in any order and
any number of times, to a receiver without a cap on the frames in flight.  The call that
retires the frame, a drain at the latest, hands it over, and it is written to any
directory that admits its files.  With all packets they hold the encoded image, its
header and its raw bytes.  With some of them lost they go by the names of a partial
frame, and hold the header or zeros in its place, and the raw bytes up to where the
farthest packet ends, with zeros for what was lost.
-/
theorem delivered_image_is_written {settings : Settings} {reportsMissing : Bool}
    {start : Reassembly} (hstart : Reassembly.create settings reportsMissing = .ok start)
    (hstride : settings.stride = Datagram.maxPayload)
    (hpayload : settings.maxPayload = Datagram.maxPayload)
    (huncapped : settings.maxInFlight = none) (shape : Image.Shape) {raw : Bytes}
    (hfits : Image.headerSize + raw.length ≤ settings.maxFrameSize)
    (hcount : Datagram.packetsNeeded (Image.headerSize + raw.length) Datagram.maxPayload ≤
      Datagram.maxPackets) (frameId : UInt32) :
    let header := shape.headerOf raw
    shape.encode raw = .ok (header.encode ++ raw) ∧
      header.pixelBytes.toNat = raw.length ∧
      Image.Header.decode header.encode = .ok header ∧ header.check = .ok () ∧
      KeepsHeader shape raw header.encode ∧
      (∃ blank, Image.Header.decode (List.replicate Image.headerSize 0) = .ok blank ∧
        blank.check = .error (.badMagic 0)) ∧
      ∃ packets, fragment frameId (header.encode ++ raw) Datagram.maxPayload = .ok packets ∧
        ∀ kept, kept.Sublist packets → kept ≠ [] → ∀ earlier calls,
          (start.run earlier).1.isInFlight frameId = false →
          Delivers settings.maxPayload frameId kept calls →
          framesOf frameId ((start.run earlier).1.trail calls) = [] →
          (∀ drops,
            framesOf frameId ((start.run (earlier ++ calls)).1.trail [.drain drops]) ≠ []) ∧
          ∀ call, framesOf frameId ((start.run (earlier ++ calls)).1.trail [call]) ≠ [] →
            ∃ frame, framesOf frameId ((start.run (earlier ++ calls)).1.trail [call]) = [frame] ∧
              frame.id = frameId ∧
              ∃ top pixels, Recovers header raw packets kept frame.state top pixels ∧
                ∀ (directory : Directory) (tree : Files.Tree) (place : Files.Path),
                  directory.Admits tree place (fileNames frame.state frame.id) →
                    directory.Writes tree place frame [top ++ pixels, top, pixels] := by
  intro header
  have hheader : header.encode.length = Image.headerSize := header.length_encode
  have hlength : (header.encode ++ raw).length = Image.headerSize + raw.length := by
    rw [List.length_append, hheader]
  have hraw : raw.length < UInt32.size :=
    Nat.lt_of_le_of_lt (Nat.le_add_left _ _) (length_lt_of_packetsNeeded hcount)
  rw [← hlength] at hfits hcount
  obtain ⟨packets, hfragment⟩ := Datagram.fragment_ok frameId (by decide) hcount
  refine ⟨shape.encode_of_lt hraw, UInt32.toNat_ofNat_of_lt' hraw, header.decode_encode,
    Image.Header.check_new _ _ _ _, keepsHeader_headerOf shape hraw, Image.Header.check_zeros,
    packets, hfragment, ?_⟩
  intro kept hsublist hkept earlier calls habsent hdelivers hstays
  have htransfer : Transfer settings frameId (header.encode ++ raw) packets kept :=
    ⟨hstride ▸ hfragment, hsublist, hstride ▸ by decide, hfits⟩
  rw [hpayload, ← hstride] at hdelivers
  obtain ⟨hdrains, hhands⟩ :=
    htransfer.retires hstart huncapped hkept habsent hdelivers hstays
  refine ⟨hdrains, fun call hretires => ?_⟩
  obtain ⟨frame, honly, hframe⟩ := hhands call hretires
  refine ⟨frame, honly, Reassembly.id_of_framesOf (honly ▸ List.mem_singleton_self frame),
    _, _, recovers_of_restores htransfer hstride hframe, ?_⟩
  intro directory tree place hadmits
  rw [List.take_append_drop]
  exact hadmits.writes (headerSize_le_size htransfer hstride hheader hframe)

/-- The packet with the header is lost, and the other one holds the last eight bytes. -/
theorem delivered_image_is_written_headless :
    let settings := { Settings.default with maxFrameSize := 2000 }
    let shape : Image.Shape := ⟨1392, 1, 8⟩
    let raw : Bytes := List.replicate 1392 7
    let first : Datagram.Packet :=
      ⟨⟨5, 0, 2, 1400⟩, (shape.headerOf raw).encode ++ List.replicate 1384 7⟩
    let second : Datagram.Packet := ⟨⟨5, 1, 2, 8⟩, List.replicate 8 7⟩
    let received : Reception.Packet :=
      ⟨⟨5, 1, 2, 8⟩, List.replicate 8 7, false, rfl, by decide⟩
    let start := Reassembly.initial settings false
    let calls : List Reassembly.Call := [.push received 0 1]
    let tree : Files.Tree := ⟨[(⟨"/out"⟩, .directory)], .root⟩
    let directory : Directory := ⟨"out"⟩
    Reassembly.create settings false = .ok start ∧
      Directory.create .empty "out" = .ok (tree, directory) ∧
      Delivers settings.maxPayload 5 [second] calls ∧
      ∃ frame, framesOf 5 ((start.run calls).1.trail [.drain 0]) = [frame] ∧
        let written := directory.write tree frame
        written.result = .ok () ∧
          written.tree.read (directory.pathOf "partial_frame_00000005_header.bin") =
            .ok (List.replicate Image.headerSize 0) ∧
          ∃ pixels,
            written.tree.read (directory.pathOf "partial_frame_00000005_raw.bin") =
              .ok pixels ∧
            pixels <+: blanked Datagram.maxPayload Image.headerSize [first, second] [second]
              raw := by
  intro settings shape raw first second received start calls tree directory
  have hlength : raw.length = 1392 := List.length_replicate
  have hstart : Reassembly.create settings false = .ok start := rfl
  have hcreate : Directory.create .empty "out" = .ok (tree, directory) := rfl
  have harrives : Reassembly.Arrives Datagram.maxPayload second received := ⟨[], by cbv⟩
  have hpackets : Reassembly.packetsFor 5 calls = [received] := by decide
  have hdelivers : Delivers settings.maxPayload 5 [second] calls := by
    constructor
    · intro packet hmem
      rw [hpackets] at hmem
      exact ⟨second, List.mem_singleton_self _, List.mem_singleton.mp hmem ▸ harrives⟩
    · intro sent hmem
      rw [List.mem_singleton.mp hmem, hpackets]
      exact ⟨received, List.mem_singleton_self _, harrives⟩
  obtain ⟨-, -, -, -, -, -, packets, hfragment, hwritten⟩ :=
    delivered_image_is_written hstart rfl rfl rfl shape
      (show Image.headerSize + raw.length ≤ 2000 by rw [hlength]; decide)
      (by rw [hlength]; decide) 5
  have hcut : (fragment 5 ((shape.headerOf raw).encode ++ raw) Datagram.maxPayload).toOption =
      some [first, second] := by decide +kernel
  rw [hfragment] at hcut
  obtain rfl : packets = [first, second] := Option.some.inj hcut
  obtain ⟨hdrains, hhands⟩ :=
    hwritten [second] (by simp) (by simp) [] calls (by decide) hdelivers (by decide)
  obtain ⟨frame, honly, hid, top, pixels, hrecovers, hfiles⟩ := hhands (.drain 0) (hdrains 0)
  have hstate : frame.state = .incomplete := by
    rw [hrecovers.state_eq, if_neg (by simp)]
  have htop : top = List.replicate Image.headerSize 0 := by
    rw [hrecovers.top_eq, if_neg (by decide)]
  have hnames : fileNames frame.state frame.id = ["partial_frame_00000005.bin",
      "partial_frame_00000005_header.bin", "partial_frame_00000005_raw.bin"] := by
    rw [hstate, hid]
    decide
  obtain ⟨place, hplace, hadmits⟩ := Directory.admits_of_create hcreate
  obtain rfl : (⟨"/out"⟩ : Files.Path) = place := Except.ok.inj hplace
  have hopen : directory.Admits tree ⟨"/out"⟩ (fileNames frame.state frame.id) := by
    rw [hnames]
    refine hadmits _ ?_ (by decide)
    intro name hname
    simp only [List.mem_cons, List.not_mem_nil, or_false] at hname
    rcases hname with rfl | rfl | rfl <;>
      exact Files.PathText.check_eq_ok_iff.mpr (by decide)
  obtain ⟨hresult, -, hread⟩ := hfiles directory tree ⟨"/out"⟩ hopen
  rw [hnames] at hread
  have hheader := hread ("partial_frame_00000005_header.bin", top) (by simp)
  have hpixels := hread ("partial_frame_00000005_raw.bin", pixels) (by simp)
  rw [htop] at hheader
  exact ⟨hstart, hcreate, hdelivers, frame, honly, hresult, hheader, pixels, hpixels,
    hrecovers.pixels_prefix⟩

end Output

end Framecast
