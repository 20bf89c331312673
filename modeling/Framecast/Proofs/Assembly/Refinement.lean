import Framecast.Proofs.Assembly.Ideal
import Framecast.Proofs.Assembly.Places

/-!
# Assemblies and ideal frames

From a new assembly and an idle ideal frame on, the two are given the same operations.
While a frame is received they go back to the same account (`Follows`); between frames
both are blank.  Either way the assembly shows the ideal frame, so every push is decided
on the ideal frame's grounds, and no access misses its bounds, as long as the places that
are asked for are machine words.
-/

namespace Framecast.Assembly

/-! ## Flags -/

/-- A refusal leaves everything but the flags as it was. -/
theorem receive_of_refused {assembly : Assembly} {delivery : Delivery}
    (hrefused : (assembly.receive delivery).2 ≠ .accepted) :
    (assembly.receive delivery).1 =
      { assembly with
        damaged := (assembly.receive delivery).1.damaged
        corrupted := (assembly.receive delivery).1.corrupted } := by
  rw [receive_eq] at hrefused ⊢
  generalize assembly.judge delivery = outcome at hrefused ⊢
  cases outcome with
  | accepted => exact absurd rfl hrefused
  | rejected reason =>
      rw [carryOut_rejected]
      rfl

theorem corrupted_receive (assembly : Assembly) (delivery : Delivery) :
    (assembly.receive delivery).1.corrupted =
      (assembly.corrupted || (assembly.receive delivery).2.harms) := by
  rw [receive_eq]
  generalize assembly.judge delivery = outcome
  cases outcome with
  | accepted => exact (Bool.or_false _).symm
  | rejected reason =>
      rw [carryOut_rejected]
      rfl

theorem corrupted_receiveAll (assembly : Assembly) (deliveries : List Delivery) :
    (assembly.receiveAll deliveries).1.corrupted =
      (assembly.corrupted || (assembly.receiveAll deliveries).2.any Outcome.harms) := by
  induction deliveries generalizing assembly with
  | nil => exact (Bool.or_false _).symm
  | cons delivery rest ih =>
      rw [receiveAll_cons, ih, corrupted_receive, List.any_cons, Bool.or_assoc]

def Delivery.marks (delivery : Delivery) (outcome : Outcome) (packetId : UInt16) : Bool :=
  outcome.damages && delivery.id == packetId

/-- Only a packet that has an entry is marked as damaged. -/
theorem lt_size_of_damages {assembly : Assembly} {delivery : Delivery}
    (h : (assembly.judge delivery).damages = true) :
    delivery.id.toNat < assembly.present.size := by
  unfold judge verdict at h
  split at h
  · exact absurd h (by decide)
  split at h
  · exact absurd h (by decide)
  split at h
  · exact absurd h (by decide)
  · exact Nat.lt_of_not_le ‹_›

theorem Intact.isDamaged_receive {assembly : Assembly} (h : assembly.Intact)
    (delivery : Delivery) (packetId : UInt16) :
    (assembly.receive delivery).1.isDamaged packetId =
      (assembly.isDamaged packetId ||
        delivery.marks (assembly.receive delivery).2 packetId) := by
  rw [receive_eq]
  cases houtcome : assembly.judge delivery with
  | accepted => exact (Bool.or_false _).symm
  | rejected reason =>
      rw [carryOut_rejected, isDamaged, Assembly.refuse, Delivery.marks]
      cases hdamages : (Outcome.rejected reason).damages with
      | false => exact (Bool.or_false _).symm
      | true =>
          have hlt : delivery.id.toNat < assembly.damaged.size := by
            rw [h.damaged_size]
            exact lt_size_of_damages (houtcome ▸ hdamages)
          simp only [if_true, Bool.true_and, Array.getD_eq_getD_getElem?]
          by_cases hsame : delivery.id = packetId
          · subst hsame
            rw [Array.getElem?_setIfInBounds_self_of_lt hlt]
            simp
          · have hplace : delivery.id.toNat ≠ packetId.toNat :=
              fun hnumber => hsame (UInt16.toNat_inj.mp hnumber)
            rw [Array.getElem?_setIfInBounds_ne hplace, isDamaged,
              Array.getD_eq_getD_getElem?, beq_false_of_ne hsame, Bool.or_false]

theorem Intact.isDamaged_receiveAll {assembly : Assembly} (h : assembly.Intact)
    (deliveries : List Delivery) (packetId : UInt16) :
    (assembly.receiveAll deliveries).1.isDamaged packetId =
      (assembly.isDamaged packetId ||
        (deliveries.zip (assembly.receiveAll deliveries).2).any fun entry =>
          entry.1.marks entry.2 packetId) := by
  induction deliveries generalizing assembly with
  | nil => exact (Bool.or_false _).symm
  | cons delivery rest ih =>
      rw [receiveAll_cons, ih (h.receive delivery), h.isDamaged_receive, List.zip_cons_cons,
        List.any_cons, Bool.or_assoc]

/-! ## Frames being received -/

structure SameFrame (assembly : Assembly) (ideal : Ideal) : Prop where
  receiving : ideal.receiving = true
  capacity_eq : assembly.capacity = ideal.capacity
  stride_eq : assembly.stride = ideal.stride
  frameId_eq : assembly.frameId = ideal.frameId
  expected_eq : assembly.expected = ideal.expected.toNat

theorem SameFrame.carryOut {assembly : Assembly} {ideal : Ideal} (h : assembly.SameFrame ideal)
    (delivery : Delivery) (outcome : Outcome) :
    (assembly.carryOut delivery outcome).SameFrame (ideal.carryOut delivery outcome) := by
  obtain ⟨hreceiving, hcapacity, hstride, hframe, hexpected⟩ := h
  cases outcome with
  | accepted => exact ⟨hreceiving, hcapacity, hstride, hframe, hexpected⟩
  | rejected reason =>
      rw [carryOut_rejected]
      exact ⟨hreceiving, hcapacity, hstride, hframe, hexpected⟩

/-- An assembly and an ideal frame that go back to the same account. -/
structure Follows (assembly : Assembly) (ideal : Ideal) (attempts : List Attempt) : Prop
    extends SameFrame assembly ideal where
  reflects : assembly.Reflects attempts
  recounts : ideal.Recounts attempts
  isDamaged_iff : ∀ packetId, assembly.isDamaged packetId = true ↔ packetId ∈ ideal.damaged

section
variable {assembly : Assembly} {ideal : Ideal} {attempts : List Attempt}
  (h : assembly.Follows ideal attempts)
include h

theorem Follows.hasPacket_iff (packetId : UInt16) :
    assembly.hasPacket packetId = true ↔ packetId ∈ ideal.pieces := by
  rw [h.reflects.hasPacket_iff, h.recounts.mem_iff]

theorem Follows.frameSize_eq : assembly.frameSize = ideal.size := by
  rw [h.reflects.frameSize_eq, h.recounts.size_eq, h.stride_eq]

theorem Follows.shows (hclean : assembly.Clean) : assembly.Shows ideal where
  capacity_eq := h.capacity_eq
  stride_eq := h.stride_eq
  receiving_iff := iff_of_true h.reflects.receiving h.receiving
  frameId_eq := h.frameId_eq
  expected_eq := h.expected_eq
  present_size := h.reflects.present_size.trans h.expected_eq
  hasPacket_iff := h.hasPacket_iff
  received_eq := by
    rw [h.reflects.received_eq, h.recounts.keys_eq,
      List.toFinset_card_of_nodup h.reflects.ids_nodup, List.length_map]
  received_le := by
    have hcount : assembly.expected ≤ 65536 := by
      rw [h.expected_eq]
      exact Nat.le_of_lt ideal.expected.toNat_lt
    have hsum := h.reflects.received_add_missing hcount
    rw [h.expected_eq] at hsum
    omega
  length_data := by rw [frameData, Storage.length_read, h.frameSize_eq]
  data_piece := by
    intro packetId payload hlookup
    obtain ⟨piece, hmem, rfl, rfl⟩ := (h.recounts.lookup_iff packetId payload).mp hlookup
    refine List.prefix_iff_getElem?.mpr fun index hindex => ?_
    rw [List.getElem?_drop, ← h.stride_eq, ← List.getElem?_eq_getElem hindex]
    exact h.reflects.data_of_piece hmem hindex
  data_elsewhere := by
    intro position hlt hout
    refine h.reflects.data_elsewhere (h.frameSize_eq ▸ hlt) fun piece hmem => ?_
    have hlookup := (h.recounts.lookup_iff piece.id piece.payload).mpr ⟨piece, hmem, rfl, rfl⟩
    rw [h.stride_eq]
    exact hout piece.id piece.payload hlookup
  missing_eq :=
    missingPackets_eq_missing (h.reflects.present_size.trans h.expected_eq) h.hasPacket_iff
  gapHints_eq := h.reflects.gapHints_eq.trans h.recounts.gapHints_eq.symm
  corrupted_eq := h.reflects.corrupted_eq.trans h.recounts.corrupted_eq.symm
  isDamaged_iff := h.isDamaged_iff
  clean := hclean

/-- A packet of the frame extends the account of both. -/
theorem Follows.receive (hintact : assembly.Intact) {delivery : Delivery}
    (hframe : delivery.header.frameId = assembly.frameId) :
    (assembly.receive delivery).1.Follows (ideal.carryOut delivery (assembly.judge delivery))
      (attempts ++ [delivery.attempt (assembly.judge delivery)]) := by
  have hreflects : (assembly.receive delivery).1.Reflects
      (attempts ++ [delivery.attempt (assembly.judge delivery)]) :=
    h.reflects.push hframe delivery.payload delivery.gapHint
  have hdamaged := hintact.isDamaged_receive delivery
  have hjudged := assembly.judged_verdict delivery.header delivery.payload
  have hsame := h.carryOut delivery (assembly.judge delivery)
  rw [← judge] at hjudged
  rw [receive_eq] at hreflects hdamaged ⊢
  generalize assembly.judge delivery = outcome at hreflects hdamaged hjudged hsame ⊢
  cases outcome with
  | accepted =>
      have habsent : delivery.id ∉ ideal.pieces := by
        cases hjudged with
        | accepted _ habsent _ _ =>
            rw [← h.hasPacket_iff, Bool.not_eq_true]
            exact habsent
      exact {
        toSameFrame := hsame
        reflects := hreflects
        recounts := h.recounts.accept habsent
        isDamaged_iff := h.isDamaged_iff }
  | rejected reason =>
      exact {
        toSameFrame := hsame
        reflects := hreflects
        recounts := h.recounts.refuse delivery reason
        isDamaged_iff := by
          intro packetId
          rw [hdamaged, Bool.or_eq_true, h.isDamaged_iff, Ideal.carryOut, Ideal.refuse,
            Delivery.marks]
          cases (Outcome.rejected reason).damages with
          | true =>
              rw [if_pos rfl, Finset.mem_insert, Bool.true_and, beq_iff_eq, or_comm, eq_comm]
          | false => simp }

end

/-! ## Whatever is done -/

inductive Mirrors : Assembly → Ideal → Prop where
  | idle (assembly : Assembly) :
      Mirrors assembly.reset (.idle assembly.capacity assembly.stride)
  | receiving {assembly : Assembly} {ideal : Ideal} {attempts : List Attempt}
      (h : assembly.Follows ideal attempts) : Mirrors assembly ideal

structure Refines (assembly : Assembly) (ideal : Ideal) : Prop where
  mirrors : assembly.Mirrors ideal
  intact : assembly.Intact
  clean : assembly.Clean

theorem shows_reset {assembly : Assembly} (hclean : assembly.Clean) :
    assembly.reset.Shows (.idle assembly.capacity assembly.stride) where
  capacity_eq := rfl
  stride_eq := rfl
  receiving_iff := by simp [reset, Ideal.idle]
  frameId_eq := rfl
  expected_eq := rfl
  present_size := rfl
  hasPacket_iff := fun _ => iff_of_false (by simp [hasPacket, reset]) Finmap.notMem_empty
  received_eq := rfl
  received_le := Nat.le_refl 0
  length_data := Storage.length_read _ _
  data_piece := by simp [Ideal.idle]
  data_elsewhere := fun position hlt => absurd hlt (Nat.not_lt_zero position)
  missing_eq := rfl
  gapHints_eq := rfl
  corrupted_eq := rfl
  isDamaged_iff := by simp [isDamaged, reset, Ideal.idle]
  clean := hclean

theorem isDamaged_start (assembly : Assembly) (frameId : UInt32) (packetCount packetId : UInt16) :
    (assembly.start frameId packetCount).isDamaged packetId = false := by
  simp only [isDamaged, start, Array.getD_eq_getD_getElem?, Array.getElem?_replicate]
  split <;> rfl

theorem judge_of_foreign {assembly : Assembly} {delivery : Delivery}
    (hphase : assembly.phase = .receiving)
    (hframe : delivery.header.frameId ≠ assembly.frameId) :
    assembly.judge delivery = .rejected .wrongFrame := by
  rw [judge, verdict, if_neg (by rw [hphase]; decide), if_pos hframe]

theorem refines_new (capacity stride : Nat) :
    (new capacity stride).Refines (.idle capacity stride) where
  mirrors := .idle (new capacity stride)
  intact := intact_new capacity stride
  clean := (ready_new capacity stride).clean

section
variable {assembly : Assembly} {ideal : Ideal} (h : assembly.Refines ideal)
include h

theorem Refines.shows : assembly.Shows ideal := by
  cases h.mirrors with
  | idle assembly => exact shows_reset h.clean
  | receiving hfollows => exact hfollows.shows h.clean

theorem Refines.ready : Ready assembly.capacity assembly.stride assembly where
  capacity_eq := rfl
  stride_eq := rfl
  clean := h.clean

theorem Refines.start (frameId : UInt32) (packetCount : UInt16) :
    (assembly.start frameId packetCount).Refines (ideal.start frameId packetCount) where
  intact := assembly.intact_start frameId packetCount
  clean := (h.ready.start frameId packetCount).clean
  mirrors := .receiving {
    receiving := rfl
    capacity_eq := h.shows.capacity_eq
    stride_eq := h.shows.stride_eq
    frameId_eq := rfl
    expected_eq := rfl
    reflects := h.ready.reflects_start frameId packetCount
    recounts := ideal.recounts_start frameId packetCount
    isDamaged_iff := fun packetId =>
      iff_of_false (by rw [isDamaged_start]; decide) (Finset.notMem_empty packetId) }

theorem Refines.reset : assembly.reset.Refines (.idle ideal.capacity ideal.stride) where
  intact := h.intact.reset
  clean := h.clean
  mirrors := by
    rw [← h.shows.capacity_eq, ← h.shows.stride_eq]
    exact .idle assembly

theorem Refines.receive (delivery : Delivery) :
    (assembly.receive delivery).1.Refines (ideal.after (.push delivery)) where
  intact := h.intact.receive delivery
  clean := (h.ready.push delivery.header delivery.payload delivery.gapHint).clean
  mirrors := by
    rw [Ideal.after, ← h.shows.judge_eq]
    cases h.mirrors with
    | idle assembly =>
        -- no frame was started, so the packet is refused and both stay blank
        exact .idle assembly
    | receiving hfollows =>
        by_cases hframe : delivery.header.frameId = assembly.frameId
        · exact .receiving (hfollows.receive h.intact hframe)
        · -- a packet of another frame is no part of the account
          have houtcome := judge_of_foreign hfollows.reflects.receiving hframe
          have hideal : ideal.carryOut delivery (.rejected .wrongFrame) = ideal := by
            simp [Ideal.carryOut, Ideal.refuse, Outcome.harms, Outcome.damages]
          rw [receive_eq, houtcome, hideal]
          exact .receiving hfollows

theorem Refines.after (operation : Operation) :
    (assembly.after operation).Refines (ideal.after operation) := by
  cases operation with
  | start frameId packetCount => exact h.start frameId packetCount
  | push delivery => exact h.receive delivery
  | reset => exact h.reset

end

theorem Refines.foldl_after {assembly : Assembly} {ideal : Ideal} (h : assembly.Refines ideal)
    (operations : List Operation) :
    (operations.foldl Assembly.after assembly).Refines (operations.foldl Ideal.after ideal) := by
  induction operations generalizing assembly ideal with
  | nil => exact h
  | cons operation rest ih => exact ih (h.after operation)

/-- A push is decided within bounds, on the grounds of the ideal frame. -/
structure Decides (overflow : Overflow) (assembly : Assembly) (ideal : Ideal)
    (delivery : Delivery) : Prop where
  outcome_eq : (assembly.receive? overflow delivery).map Prod.snd = some (ideal.judge delivery)
  refused : ∀ next outcome, assembly.receive? overflow delivery = some (next, outcome) →
    outcome ≠ .accepted →
      next = { assembly with damaged := next.damaged, corrupted := next.corrupted }

theorem Refines.decides {assembly : Assembly} {ideal : Ideal} (h : assembly.Refines ideal)
    (overflow : Overflow) {delivery : Delivery} (hplace : assembly.Addresses delivery) :
    assembly.Decides overflow ideal delivery where
  outcome_eq := by
    rw [h.intact.receive?_eq overflow hplace, ← h.shows.judge_eq]
    rfl
  refused := by
    intro next outcome hreceive hrefused
    rw [h.intact.receive?_eq overflow hplace, Option.some.injEq] at hreceive
    have hkept : (assembly.receive delivery).2 ≠ .accepted → _ := receive_of_refused
    rw [hreceive] at hkept
    exact hkept hrefused

end Framecast.Assembly
