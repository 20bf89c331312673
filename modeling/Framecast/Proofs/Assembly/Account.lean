import Framecast.Proofs.Assembly.Likeness

/-!
# What an assembly holds

The account of an assembly lists the packets it was given since its frame
started, each with what became of it.  `Reflects` says that the state of the
assembly is what its account tells: the accepted packets are pairwise distinct,
each lies at its place in the buffer, every other byte is zero, and the counters
and flags follow from the account.  `Reflects.push` extends the account by one
packet; everything else known about frames in flight rests on it.
-/

namespace Framecast

namespace Assembly

/-! ## Accounts -/

structure Attempt where
  header : Datagram.Header
  payload : Bytes
  gapHint : Bool
  outcome : Outcome
deriving Repr, DecidableEq

/-- Whether an outcome leaves the frame corrupted. -/
def Outcome.harms : Outcome → Bool
  | .rejected .outOfRange => true
  | .rejected .oversize => true
  | .rejected .overflow => true
  | _ => false

namespace Attempt

def id (attempt : Attempt) : UInt16 := attempt.header.packetId

def offset (stride : Nat) (attempt : Attempt) : Nat := attempt.id.toNat * stride

def finish (stride : Nat) (attempt : Attempt) : Nat :=
  attempt.offset stride + attempt.payload.length

def Covers (stride : Nat) (attempt : Attempt) (position : Nat) : Prop :=
  attempt.offset stride ≤ position ∧ position < attempt.finish stride

instance (stride : Nat) (attempt : Attempt) (position : Nat) :
    Decidable (attempt.Covers stride position) :=
  inferInstanceAs (Decidable (_ ∧ _))

end Attempt

def accepted (attempts : List Attempt) : List Attempt :=
  attempts.filter fun attempt => attempt.outcome = .accepted

/-- The end of the last byte that some packets reach; zero if there are none. -/
def furthest (stride : Nat) (pieces : List Attempt) : Nat :=
  (pieces.map (Attempt.finish stride)).max?.getD 0

theorem mem_accepted {attempts : List Attempt} {attempt : Attempt} :
    attempt ∈ accepted attempts ↔ attempt ∈ attempts ∧ attempt.outcome = .accepted := by
  simp [accepted]

theorem accepted_append (attempts more : List Attempt) :
    accepted (attempts ++ more) = accepted attempts ++ accepted more :=
  List.filter_append ..

theorem accepted_singleton_of_accepted {attempt : Attempt}
    (h : attempt.outcome = .accepted) : accepted [attempt] = [attempt] := by
  simp [accepted, h]

theorem accepted_singleton_of_refused {attempt : Attempt}
    (h : attempt.outcome ≠ .accepted) : accepted [attempt] = [] := by
  simp [accepted, h]

theorem finish_le_furthest {stride : Nat} {pieces : List Attempt} {piece : Attempt}
    (hmem : piece ∈ pieces) : piece.finish stride ≤ furthest stride pieces := by
  have hfinish : piece.finish stride ∈ pieces.map (Attempt.finish stride) :=
    List.mem_map_of_mem hmem
  unfold furthest
  cases hmax : (pieces.map (Attempt.finish stride)).max? with
  | none =>
      rw [List.max?_eq_none_iff] at hmax
      rw [hmax] at hfinish
      exact absurd hfinish List.not_mem_nil
  | some greatest => exact (List.max?_eq_some_iff.mp hmax).2 _ hfinish

theorem furthest_le_iff {stride bound : Nat} {pieces : List Attempt} :
    furthest stride pieces ≤ bound ↔ ∀ piece ∈ pieces, piece.finish stride ≤ bound := by
  constructor
  · intro hle piece hmem
    exact Nat.le_trans (finish_le_furthest hmem) hle
  · intro hall
    unfold furthest
    cases hmax : (pieces.map (Attempt.finish stride)).max? with
    | none => exact Nat.zero_le _
    | some greatest =>
        obtain ⟨piece, hmem, hfinish⟩ := List.mem_map.mp (List.max?_eq_some_iff.mp hmax).1
        rw [Option.getD_some, ← hfinish]
        exact hall piece hmem

theorem exists_finish_eq_furthest {stride : Nat} {pieces : List Attempt} (h : pieces ≠ []) :
    ∃ piece ∈ pieces, piece.finish stride = furthest stride pieces := by
  unfold furthest
  cases hmax : (pieces.map (Attempt.finish stride)).max? with
  | none =>
      rw [List.max?_eq_none_iff, List.map_eq_nil_iff] at hmax
      exact absurd hmax h
  | some greatest => exact List.mem_map.mp (List.max?_eq_some_iff.mp hmax).1

theorem furthest_concat (stride : Nat) (pieces : List Attempt) (piece : Attempt) :
    furthest stride (pieces ++ [piece]) = max (furthest stride pieces) (piece.finish stride) := by
  apply Nat.le_antisymm
  · rw [furthest_le_iff]
    intro other hmem
    rcases List.mem_append.mp hmem with hold | hnew
    · exact Nat.le_trans (finish_le_furthest hold) (Nat.le_max_left _ _)
    · rw [List.mem_singleton.mp hnew]
      exact Nat.le_max_right _ _
  · apply Nat.max_le.mpr
    constructor
    · rw [furthest_le_iff]
      intro other hmem
      exact finish_le_furthest (List.mem_append_left _ hmem)
    · exact finish_le_furthest (List.mem_append_right _ (List.mem_singleton_self piece))

/-- Places of packets with different numbers do not meet while payloads fit the stride. -/
theorem not_covers_of_covers {stride position : Nat} {piece other : Attempt}
    (hlength : piece.payload.length ≤ stride) (hother : other.payload.length ≤ stride)
    (hid : piece.id ≠ other.id) (hcovers : piece.Covers stride position) :
    ¬ other.Covers stride position := by
  intro hcovers'
  obtain ⟨hfrom, hto⟩ := hcovers
  obtain ⟨hfrom', hto'⟩ := hcovers'
  have hne : piece.id.toNat ≠ other.id.toNat := fun h => hid (UInt16.toNat_inj.mp h)
  simp only [Attempt.finish, Attempt.offset] at hfrom hto hfrom' hto'
  rcases Nat.lt_or_gt_of_ne hne with hlt | hgt
  · have hmul : (piece.id.toNat + 1) * stride ≤ other.id.toNat * stride :=
      Nat.mul_le_mul_right stride hlt
    rw [Nat.succ_mul] at hmul
    omega
  · have hmul : (other.id.toNat + 1) * stride ≤ piece.id.toNat * stride :=
      Nat.mul_le_mul_right stride hgt
    rw [Nat.succ_mul] at hmul
    omega

/-! ## Verdicts -/

/-- The grounds of each verdict, in the order in which they are looked at. -/
inductive Judged (assembly : Assembly) (header : Datagram.Header) (payload : Bytes) :
    Outcome → Prop where
  | notStarted (hphase : assembly.phase = .empty) :
      Judged assembly header payload (.rejected .notStarted)
  | wrongFrame (hphase : assembly.phase ≠ .empty) (hframe : header.frameId ≠ assembly.frameId) :
      Judged assembly header payload (.rejected .wrongFrame)
  | outOfRange (hrange : assembly.present.size ≤ header.packetId.toNat) :
      Judged assembly header payload (.rejected .outOfRange)
  | duplicate (hpresent : assembly.hasPacket header.packetId = true) :
      Judged assembly header payload (.rejected .duplicate)
  | oversize (habsent : assembly.hasPacket header.packetId = false)
      (hlength : assembly.stride < payload.length) :
      Judged assembly header payload (.rejected .oversize)
  | overflow (habsent : assembly.hasPacket header.packetId = false)
      (hfinish : assembly.capacity <
        header.packetId.toNat * assembly.stride + payload.length) :
      Judged assembly header payload (.rejected .overflow)
  | accepted (hrange : header.packetId.toNat < assembly.present.size)
      (habsent : assembly.hasPacket header.packetId = false)
      (hlength : payload.length ≤ assembly.stride)
      (hfinish : header.packetId.toNat * assembly.stride + payload.length ≤
        assembly.capacity) :
      Judged assembly header payload .accepted

theorem judged_verdict (assembly : Assembly) (header : Datagram.Header) (payload : Bytes) :
    assembly.Judged header payload (assembly.verdict header payload) := by
  unfold verdict
  split
  · exact .notStarted ‹_›
  split
  · exact .wrongFrame ‹_› ‹_›
  split
  · exact .outOfRange ‹_›
  split
  · exact .duplicate ‹_›
  rename_i habsent
  rw [Bool.not_eq_true] at habsent
  split
  · exact .oversize habsent ‹_›
  split
  · exact .overflow habsent ‹_›
  · exact .accepted (by omega) habsent (by omega) (by omega)

theorem verdict_ne_evicted (assembly : Assembly) (header : Datagram.Header) (payload : Bytes) :
    assembly.verdict header payload ≠ .rejected .evicted := by
  intro hverdict
  have hjudged := assembly.judged_verdict header payload
  rw [hverdict] at hjudged
  cases hjudged

/-- What an outcome says about its packet, given the packets accepted in all. -/
def Attempt.Explained (assembly : Assembly) (pieces : List Attempt) (attempt : Attempt) :
    Prop :=
  match attempt.outcome with
  | .accepted => True
  | .rejected .duplicate => attempt.id ∈ pieces.map Attempt.id
  | .rejected .outOfRange => assembly.expected ≤ attempt.id.toNat
  | .rejected .oversize => assembly.stride < attempt.payload.length
  | .rejected .overflow => assembly.capacity < attempt.finish assembly.stride
  | .rejected _ => False

theorem Attempt.Explained.mono {assembly assembly' : Assembly} {pieces pieces' : List Attempt}
    {attempt : Attempt} (h : attempt.Explained assembly pieces)
    (hexpected : assembly'.expected = assembly.expected)
    (hstride : assembly'.stride = assembly.stride)
    (hcapacity : assembly'.capacity = assembly.capacity) (hpieces : pieces ⊆ pieces') :
    attempt.Explained assembly' pieces' := by
  unfold Attempt.Explained at h ⊢
  rw [hexpected, hstride, hcapacity]
  split at h <;> try exact h
  exact List.map_subset Attempt.id hpieces h

/-! ## The account of an assembly -/

/-- The state of the assembly is what its account tells. -/
structure Reflects (assembly : Assembly) (attempts : List Attempt) : Prop where
  receiving : assembly.phase = .receiving
  present_size : assembly.present.size = assembly.expected
  received_eq : assembly.received = (accepted attempts).length
  ids_nodup : ((accepted attempts).map Attempt.id).Nodup
  hasPacket_iff : ∀ packetId, assembly.hasPacket packetId = true ↔
    packetId ∈ (accepted attempts).map Attempt.id
  lengths_le : ∀ piece ∈ accepted attempts, piece.payload.length ≤ assembly.stride
  finishes_le : ∀ piece ∈ accepted attempts,
    piece.finish assembly.stride ≤ assembly.capacity
  frameSize_eq : assembly.frameSize = furthest assembly.stride (accepted attempts)
  byteAt_piece : ∀ piece ∈ accepted attempts, ∀ position,
    piece.Covers assembly.stride position →
      assembly.storage.byteAt position =
        piece.payload.getD (position - piece.offset assembly.stride) 0
  byteAt_elsewhere : ∀ position,
    (∀ piece ∈ accepted attempts, ¬ piece.Covers assembly.stride position) →
      assembly.storage.byteAt position = 0
  gapHints_eq : assembly.gapHints = (accepted attempts).countP (·.gapHint)
  corrupted_eq : assembly.corrupted = attempts.any (·.outcome.harms)
  explained : ∀ attempt ∈ attempts, attempt.Explained assembly (accepted attempts)

theorem hasPacket_lt {assembly : Assembly} {packetId : UInt16}
    (h : assembly.hasPacket packetId = true) : packetId.toNat < assembly.present.size := by
  apply Nat.lt_of_not_le
  intro hout
  simp [hasPacket, Array.getD_eq_getD_getElem?, Array.getElem?_eq_none hout] at h

theorem hasPacket_store (assembly : Assembly) (packetId other : UInt16) (payload : Bytes)
    (gapHint : Bool) (hrange : packetId.toNat < assembly.present.size) :
    (assembly.store packetId payload gapHint).hasPacket other =
      (decide (other = packetId) || assembly.hasPacket other) := by
  simp only [hasPacket, store, storeAt, Array.getD_eq_getD_getElem?]
  by_cases hsame : other = packetId
  · subst hsame
    simp [Array.getElem?_setIfInBounds_self_of_lt hrange]
  · have hne : packetId.toNat ≠ other.toNat := fun h => hsame (UInt16.toNat_inj.mp h).symm
    simp [Array.getElem?_setIfInBounds_ne hne, hsame]

/-- A frame that has just started has an empty account. -/
theorem Ready.reflects_start {capacity stride : Nat} {assembly : Assembly}
    (h : Ready capacity stride assembly) (frameId : UInt32) (packetCount : UInt16) :
    (assembly.start frameId packetCount).Reflects [] where
  receiving := rfl
  present_size := Array.size_replicate
  received_eq := rfl
  ids_nodup := List.nodup_nil
  hasPacket_iff := by
    intro packetId
    have habsent : (assembly.start frameId packetCount).hasPacket packetId = false := by
      simp only [hasPacket, Assembly.start, Array.getD_eq_getD_getElem?,
        Array.getElem?_replicate]
      split <;> rfl
    rw [habsent]
    simp [accepted]
  lengths_le := by simp [accepted]
  finishes_le := by simp [accepted]
  frameSize_eq := rfl
  byteAt_piece := by simp [accepted]
  byteAt_elsewhere := fun position _ => h.byteAt_start frameId packetCount position
  gapHints_eq := rfl
  corrupted_eq := rfl
  explained := by simp

section
variable {assembly : Assembly} {attempts : List Attempt} (h : assembly.Reflects attempts)
include h

theorem Reflects.ids_lt {piece : Attempt} (hmem : piece ∈ accepted attempts) :
    piece.id.toNat < assembly.expected := by
  have hpresent : assembly.hasPacket piece.id = true :=
    (h.hasPacket_iff piece.id).mpr (List.mem_map_of_mem hmem)
  have hlt := hasPacket_lt hpresent
  rwa [h.present_size] at hlt

/-- A refused packet leaves everything but the flags as it was. -/
theorem Reflects.refuse (attempt : Attempt) (hrefused : attempt.outcome ≠ .accepted)
    (hexplained : attempt.Explained assembly (accepted attempts)) (damaged : Array Bool) :
    { assembly with
      damaged
      corrupted := assembly.corrupted || attempt.outcome.harms }.Reflects
        (attempts ++ [attempt]) := by
  have hsame : accepted (attempts ++ [attempt]) = accepted attempts := by
    rw [accepted_append, accepted_singleton_of_refused hrefused, List.append_nil]
  exact {
    receiving := h.receiving
    present_size := h.present_size
    received_eq := by rw [hsame]; exact h.received_eq
    ids_nodup := by rw [hsame]; exact h.ids_nodup
    hasPacket_iff := by rw [hsame]; exact h.hasPacket_iff
    lengths_le := by rw [hsame]; exact h.lengths_le
    finishes_le := by rw [hsame]; exact h.finishes_le
    frameSize_eq := by rw [hsame]; exact h.frameSize_eq
    byteAt_piece := by rw [hsame]; exact h.byteAt_piece
    byteAt_elsewhere := by rw [hsame]; exact h.byteAt_elsewhere
    gapHints_eq := by rw [hsame]; exact h.gapHints_eq
    corrupted_eq := by simp [h.corrupted_eq]
    explained := by
      intro other hmem
      rw [hsame]
      rcases List.mem_append.mp hmem with hold | hnew
      · exact (h.explained other hold).mono rfl rfl rfl (List.Subset.refl _)
      · rw [List.mem_singleton.mp hnew]
        exact hexplained.mono rfl rfl rfl (List.Subset.refl _) }

/-- A packet is not among the accepted ones as long as its number is free. -/
theorem Reflects.id_ne {packetId : UInt16} (habsent : assembly.hasPacket packetId = false)
    {piece : Attempt} (hmem : piece ∈ accepted attempts) : piece.id ≠ packetId := by
  rintro rfl
  have hpresent := (h.hasPacket_iff piece.id).mpr (List.mem_map_of_mem hmem)
  exact absurd (habsent.symm.trans hpresent) (by decide)

theorem Reflects.ids_nodup_concat {attempt : Attempt}
    (habsent : assembly.hasPacket attempt.id = false) :
    ((accepted attempts ++ [attempt]).map Attempt.id).Nodup := by
  rw [List.map_append, List.map_singleton, List.nodup_append]
  refine ⟨h.ids_nodup, List.pairwise_singleton _ _, ?_⟩
  intro packetId hold other hother
  obtain ⟨piece, hmem, rfl⟩ := List.mem_map.mp hold
  rw [List.mem_singleton.mp hother]
  exact h.id_ne habsent hmem

omit h in
theorem byteAt_store (assembly : Assembly) (attempt : Attempt) (position : Nat) :
    (assembly.store attempt.id attempt.payload attempt.gapHint).storage.byteAt position =
      if attempt.Covers assembly.stride position then
        attempt.payload.getD (position - attempt.offset assembly.stride) 0
      else assembly.storage.byteAt position :=
  Storage.byteAt_write _ _ _ _

/-- The places of different packets do not overlap, so a new one disturbs no other. -/
theorem Reflects.byteAt_piece_store {attempt : Attempt}
    (habsent : assembly.hasPacket attempt.id = false)
    (hlength : attempt.payload.length ≤ assembly.stride) {piece : Attempt}
    (hmem : piece ∈ accepted attempts ++ [attempt]) {position : Nat}
    (hcovers : piece.Covers assembly.stride position) :
    (assembly.store attempt.id attempt.payload attempt.gapHint).storage.byteAt position =
      piece.payload.getD (position - piece.offset assembly.stride) 0 := by
  rw [byteAt_store]
  rcases List.mem_append.mp hmem with hold | hlast
  · have hout : ¬ attempt.Covers assembly.stride position :=
      not_covers_of_covers (h.lengths_le piece hold) hlength (h.id_ne habsent hold) hcovers
    rw [if_neg hout]
    exact h.byteAt_piece piece hold position hcovers
  · rw [List.mem_singleton.mp hlast] at hcovers ⊢
    exact if_pos hcovers

theorem Reflects.byteAt_elsewhere_store {attempt : Attempt} {position : Nat}
    (hout : ∀ piece ∈ accepted attempts ++ [attempt],
      ¬ piece.Covers assembly.stride position) :
    (assembly.store attempt.id attempt.payload attempt.gapHint).storage.byteAt position =
      0 := by
  have hlast : ¬ attempt.Covers assembly.stride position :=
    hout attempt (List.mem_append_right _ (List.mem_singleton_self _))
  rw [byteAt_store, if_neg hlast]
  apply h.byteAt_elsewhere
  intro piece hmem
  exact hout piece (List.mem_append_left _ hmem)

/-- An accepted packet joins the others at a place of its own. -/
theorem Reflects.accept (attempt : Attempt) (houtcome : attempt.outcome = .accepted)
    (hrange : attempt.id.toNat < assembly.present.size)
    (habsent : assembly.hasPacket attempt.id = false)
    (hlength : attempt.payload.length ≤ assembly.stride)
    (hfinish : attempt.finish assembly.stride ≤ assembly.capacity) :
    (assembly.store attempt.id attempt.payload attempt.gapHint).Reflects
      (attempts ++ [attempt]) := by
  have hpieces : accepted (attempts ++ [attempt]) = accepted attempts ++ [attempt] := by
    rw [accepted_append, accepted_singleton_of_accepted houtcome]
  exact {
    receiving := h.receiving
    present_size := by
      simp only [store, storeAt, Array.size_setIfInBounds]
      exact h.present_size
    received_eq := by
      rw [hpieces]
      simp [store, storeAt, h.received_eq]
    ids_nodup := by
      rw [hpieces]
      exact h.ids_nodup_concat habsent
    hasPacket_iff := by
      intro packetId
      rw [hpieces, hasPacket_store _ _ _ _ _ hrange, Bool.or_eq_true, decide_eq_true_iff,
        h.hasPacket_iff, List.map_append, List.mem_append, List.map_singleton,
        List.mem_singleton, or_comm]
    lengths_le := by
      rw [hpieces]
      exact List.forall_mem_append.mpr ⟨h.lengths_le, List.forall_mem_singleton.mpr hlength⟩
    finishes_le := by
      rw [hpieces]
      exact List.forall_mem_append.mpr ⟨h.finishes_le, List.forall_mem_singleton.mpr hfinish⟩
    frameSize_eq := by
      rw [hpieces, furthest_concat]
      simp only [store, storeAt, h.frameSize_eq]
      rfl
    byteAt_piece := by
      rw [hpieces]
      intro piece hmem position hcovers
      exact h.byteAt_piece_store habsent hlength hmem hcovers
    byteAt_elsewhere := by
      rw [hpieces]
      intro position hout
      exact h.byteAt_elsewhere_store hout
    gapHints_eq := by
      rw [hpieces, List.countP_append]
      cases hhint : attempt.gapHint <;> simp [store, storeAt, h.gapHints_eq, hhint]
    corrupted_eq := by
      simp [store, storeAt, h.corrupted_eq, houtcome, Outcome.harms]
    explained := by
      rw [hpieces]
      refine List.forall_mem_append.mpr ⟨?_, ?_⟩
      · intro other hold
        exact (h.explained other hold).mono rfl rfl rfl (List.subset_append_left _ _)
      · intro other hlast
        rw [List.mem_singleton.mp hlast, Attempt.Explained, houtcome]
        trivial }

/-- Taking a packet of the frame extends the account by it. -/
theorem Reflects.push {header : Datagram.Header} (hframe : header.frameId = assembly.frameId)
    (payload : Bytes) (gapHint : Bool) :
    (assembly.push header payload gapHint).1.Reflects
      (attempts ++ [⟨header, payload, gapHint, assembly.verdict header payload⟩]) := by
  have hjudged := assembly.judged_verdict header payload
  simp only [Assembly.push]
  generalize assembly.verdict header payload = outcome at hjudged ⊢
  -- a refusal is `refuse` at the flags it leaves behind
  have hrefuse := fun hrefused hexplained damaged =>
    h.refuse ⟨header, payload, gapHint, outcome⟩ hrefused hexplained damaged
  cases hjudged with
  | notStarted hphase =>
      rw [h.receiving] at hphase
      exact absurd hphase (by decide)
  | wrongFrame _ hother => exact absurd hframe hother
  | outOfRange hrange =>
      have hexplained : assembly.expected ≤ header.packetId.toNat := h.present_size ▸ hrange
      simpa [settle, Outcome.harms] using hrefuse (by simp) hexplained assembly.damaged
  | duplicate hpresent =>
      have hexplained := (h.hasPacket_iff header.packetId).mp hpresent
      simpa [settle, Outcome.harms] using hrefuse (by simp) hexplained assembly.damaged
  | oversize _ hlength =>
      simpa [settle, damage, Outcome.harms] using hrefuse (by simp) hlength
        (assembly.damaged.setIfInBounds header.packetId.toNat true)
  | overflow _ hfinish =>
      simpa [settle, damage, Outcome.harms] using hrefuse (by simp) hfinish
        (assembly.damaged.setIfInBounds header.packetId.toNat true)
  | accepted hrange habsent hlength hfinish =>
      exact h.accept ⟨header, payload, gapHint, .accepted⟩ rfl hrange habsent hlength hfinish

end

end Assembly

end Framecast
