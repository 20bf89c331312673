import Framecast.Proofs.Assembly.Account
import Mathlib.Data.List.Sort
import Mathlib.Logic.Equiv.Defs

/-!
# The order of arrival

Packets with different numbers may change places: neither has a say in what becomes
of the other, and they leave their marks on different bytes and different entries.
So a sequence may be rearranged at will, as long as packets with the same number
keep their order among themselves; the assembly ends up in the same state, and the
same becomes of every packet.
-/

namespace Framecast

namespace Assembly

/-! ## Writes to different places -/

theorem Storage.size_write (storage : Storage) (offset : Nat) (payload : Bytes) :
    (storage.write offset payload).cells.size =
      max storage.cells.size (offset + payload.length) := by
  rw [Storage.write, Storage.size_overwrite, Storage.size_extend]

theorem Storage.eq_of_byteAt {left right : Storage}
    (hsize : left.cells.size = right.cells.size)
    (hbytes : ∀ offset, left.byteAt offset = right.byteAt offset) : left = right := by
  obtain ⟨cells⟩ := left
  obtain ⟨cells'⟩ := right
  refine congrArg Storage.mk (Array.ext hsize ?_)
  intro offset hlt hlt'
  simpa [Storage.byteAt, Array.getD, hlt, hlt'] using hbytes offset

/-- Writes that do not meet may change places. -/
theorem Storage.write_comm (storage : Storage) {offset offset' : Nat} {payload payload' : Bytes}
    (hapart : ∀ position, offset ≤ position ∧ position < offset + payload.length →
      ¬ (offset' ≤ position ∧ position < offset' + payload'.length)) :
    (storage.write offset payload).write offset' payload' =
      (storage.write offset' payload').write offset payload := by
  apply Storage.eq_of_byteAt
  · simp only [Storage.size_write]
    omega
  · intro position
    simp only [Storage.byteAt_write]
    by_cases hfirst : offset ≤ position ∧ position < offset + payload.length
    · rw [if_neg (hapart position hfirst), if_pos hfirst, if_pos hfirst]
    · rw [if_neg hfirst, if_neg hfirst]

/-! ## Refusals -/

def Outcome.damages : Outcome → Bool
  | .rejected .oversize => true
  | .rejected .overflow => true
  | _ => false

def refuse (assembly : Assembly) (reason : RejectReason) (packetId : UInt16) : Assembly :=
  { assembly with
    damaged :=
      if (Outcome.rejected reason).damages then
        assembly.damaged.setIfInBounds packetId.toNat true
      else assembly.damaged
    corrupted := assembly.corrupted || (Outcome.rejected reason).harms }

theorem settle_rejected (assembly : Assembly) (reason : RejectReason) (packetId : UInt16)
    (payload : Bytes) (gapHint : Bool) :
    assembly.settle (.rejected reason) packetId payload gapHint =
      assembly.refuse reason packetId := by
  cases reason <;> simp [settle, refuse, damage, Outcome.damages, Outcome.harms]

theorem refuse_comm (assembly : Assembly) (reason reason' : RejectReason)
    {packetId packetId' : UInt16} (hne : packetId.toNat ≠ packetId'.toNat) :
    (assembly.refuse reason packetId).refuse reason' packetId' =
      (assembly.refuse reason' packetId').refuse reason packetId := by
  simp only [refuse, Bool.or_assoc, Bool.or_comm (Outcome.rejected reason).harms]
  congr 1
  cases (Outcome.rejected reason).damages with
  | true =>
      cases (Outcome.rejected reason').damages with
      | true => exact Array.setIfInBounds_comm _ _ hne
      | false => rfl
  | false => rfl

/-! ## One delivery -/

structure Delivery where
  header : Datagram.Header
  payload : Bytes
  gapHint : Bool
deriving Repr, DecidableEq

def Delivery.id (delivery : Delivery) : UInt16 := delivery.header.packetId

def Delivery.attempt (delivery : Delivery) (outcome : Outcome) : Attempt :=
  ⟨delivery.header, delivery.payload, delivery.gapHint, outcome⟩

def judge (assembly : Assembly) (delivery : Delivery) : Outcome :=
  assembly.verdict delivery.header delivery.payload

def carryOut (assembly : Assembly) (delivery : Delivery) (outcome : Outcome) : Assembly :=
  assembly.settle outcome delivery.id delivery.payload delivery.gapHint

def receive (assembly : Assembly) (delivery : Delivery) : Assembly × Outcome :=
  assembly.push delivery.header delivery.payload delivery.gapHint

theorem receive_eq (assembly : Assembly) (delivery : Delivery) :
    assembly.receive delivery =
      (assembly.carryOut delivery (assembly.judge delivery), assembly.judge delivery) := rfl

theorem carryOut_accepted (assembly : Assembly) (delivery : Delivery) :
    assembly.carryOut delivery .accepted =
      assembly.store delivery.id delivery.payload delivery.gapHint := rfl

theorem carryOut_rejected (assembly : Assembly) (delivery : Delivery) (reason : RejectReason) :
    assembly.carryOut delivery (.rejected reason) = assembly.refuse reason delivery.id :=
  assembly.settle_rejected reason delivery.id delivery.payload delivery.gapHint

theorem judge_refuse (assembly : Assembly) (reason : RejectReason) (packetId : UInt16)
    (delivery : Delivery) :
    (assembly.refuse reason packetId).judge delivery = assembly.judge delivery := rfl

/-- A verdict looks at the frame, the sizes and the one entry of the packet's number. -/
theorem verdict_congr {left right : Assembly} {header : Datagram.Header} (payload : Bytes)
    (hphase : left.phase = right.phase) (hframe : left.frameId = right.frameId)
    (hsize : left.present.size = right.present.size)
    (hpresent : left.hasPacket header.packetId = right.hasPacket header.packetId)
    (hstride : left.stride = right.stride) (hcapacity : left.capacity = right.capacity) :
    left.verdict header payload = right.verdict header payload := by
  simp only [verdict, hphase, hframe, hsize, hpresent, hstride, hcapacity]

section
variable {first second : Delivery} (hne : first.id ≠ second.id)
include hne

theorem hasPacket_store_of_ne (assembly : Assembly) (payload : Bytes) (gapHint : Bool) :
    (assembly.store first.id payload gapHint).hasPacket second.id =
      assembly.hasPacket second.id := by
  have hplace : first.id.toNat ≠ second.id.toNat := fun h => hne (UInt16.toNat_inj.mp h)
  simp only [hasPacket, store, storeAt, Array.getD_eq_getD_getElem?,
    Array.getElem?_setIfInBounds_ne hplace]

/-- What becomes of a packet is not up to packets with other numbers. -/
theorem judge_carryOut (assembly : Assembly) (outcome : Outcome) :
    (assembly.carryOut first outcome).judge second = assembly.judge second := by
  cases outcome with
  | accepted =>
      have hsize : (assembly.store first.id first.payload first.gapHint).present.size =
          assembly.present.size := Array.size_setIfInBounds
      exact verdict_congr second.payload rfl rfl hsize
        (hasPacket_store_of_ne hne assembly first.payload first.gapHint) rfl rfl
  | rejected reason => rw [carryOut_rejected, judge_refuse]

theorem store_comm (assembly : Assembly) (hfirst : first.payload.length ≤ assembly.stride)
    (hsecond : second.payload.length ≤ assembly.stride) :
    (assembly.store first.id first.payload first.gapHint).store second.id second.payload
        second.gapHint =
      (assembly.store second.id second.payload second.gapHint).store first.id first.payload
        first.gapHint := by
  have hplace : first.id.toNat ≠ second.id.toNat := fun h => hne (UInt16.toNat_inj.mp h)
  have hapart : ∀ position, (first.attempt .accepted).Covers assembly.stride position →
      ¬ (second.attempt .accepted).Covers assembly.stride position :=
    fun position => not_covers_of_covers hfirst hsecond hne
  have hstorage : (assembly.storage.write (first.id.toNat * assembly.stride)
      first.payload).write (second.id.toNat * assembly.stride) second.payload =
        (assembly.storage.write (second.id.toNat * assembly.stride) second.payload).write
          (first.id.toNat * assembly.stride) first.payload := Storage.write_comm _ hapart
  have hpresent : (assembly.present.setIfInBounds first.id.toNat true).setIfInBounds
      second.id.toNat true =
        (assembly.present.setIfInBounds second.id.toNat true).setIfInBounds
          first.id.toNat true := Array.setIfInBounds_comm true true hplace
  simp only [store, storeAt]
  rw [hstorage, hpresent, Nat.max_right_comm assembly.dirty,
    Nat.max_right_comm assembly.frameSize]
  -- what is left is the count of hints
  cases first.gapHint <;> cases second.gapHint <;> rfl

theorem carryOut_comm (assembly : Assembly) :
    (assembly.carryOut first (assembly.judge first)).carryOut second
        (assembly.judge second) =
      (assembly.carryOut second (assembly.judge second)).carryOut first
        (assembly.judge first) := by
  have hjudged := assembly.judged_verdict first.header first.payload
  have hjudged' := assembly.judged_verdict second.header second.payload
  rw [← judge] at hjudged hjudged'
  generalize assembly.judge first = outcome at hjudged ⊢
  generalize assembly.judge second = outcome' at hjudged' ⊢
  cases outcome with
  | accepted =>
      cases outcome' with
      | accepted =>
          cases hjudged with
          | accepted _ _ hlength =>
              cases hjudged' with
              | accepted _ _ hlength' => exact store_comm hne assembly hlength hlength'
      | rejected reason' =>
          -- a payload and the flags of a refusal are kept apart
          simp only [carryOut_accepted, carryOut_rejected]
          rfl
  | rejected reason =>
      cases outcome' with
      | accepted =>
          simp only [carryOut_accepted, carryOut_rejected]
          rfl
      | rejected reason' =>
          simp only [carryOut_rejected]
          exact assembly.refuse_comm reason reason' fun h => hne (UInt16.toNat_inj.mp h)

/-- Packets with different numbers may change places. -/
theorem receive_comm (assembly : Assembly) :
    ((assembly.receive first).1.receive second).1 =
        ((assembly.receive second).1.receive first).1 ∧
      (assembly.receive first).2 = ((assembly.receive second).1.receive first).2 ∧
      ((assembly.receive first).1.receive second).2 = (assembly.receive second).2 := by
  simp only [receive_eq, judge_carryOut hne, judge_carryOut hne.symm, and_true]
  exact carryOut_comm hne assembly

end

/-! ## Sequences of deliveries -/

def receiveAll (assembly : Assembly) : List Delivery → Assembly × List Outcome
  | [] => (assembly, [])
  | delivery :: rest =>
      let (next, outcome) := assembly.receive delivery
      let (last, later) := next.receiveAll rest
      (last, outcome :: later)

theorem receiveAll_cons (assembly : Assembly) (delivery : Delivery) (rest : List Delivery) :
    assembly.receiveAll (delivery :: rest) =
      (((assembly.receive delivery).1.receiveAll rest).1,
        (assembly.receive delivery).2 :: ((assembly.receive delivery).1.receiveAll rest).2) :=
  rfl

@[simp] theorem length_receiveAll (assembly : Assembly) (deliveries : List Delivery) :
    (assembly.receiveAll deliveries).2.length = deliveries.length := by
  induction deliveries generalizing assembly with
  | nil => rfl
  | cons delivery rest ih => rw [receiveAll_cons, List.length_cons, ih, List.length_cons]

section
variable {ι : Type} (content : ι → Delivery)

/--
What becomes of marked deliveries.  Marks tell apart deliveries of equal content, so
that their outcomes can be compared between two orders.
-/
def fates (assembly : Assembly) (marks : List ι) : List (ι × Outcome) :=
  marks.zip (assembly.receiveAll (marks.map content)).2

theorem fates_cons (assembly : Assembly) (mark : ι) (rest : List ι) :
    assembly.fates content (mark :: rest) =
      (mark, (assembly.receive (content mark)).2) ::
        (assembly.receive (content mark)).1.fates content rest := rfl

/-- Two orders of marked deliveries that come to the same. -/
structure Interchangeable (assembly : Assembly) (left right : List ι) : Prop where
  state_eq : (assembly.receiveAll (left.map content)).1 =
    (assembly.receiveAll (right.map content)).1
  fates_perm : (assembly.fates content left).Perm (assembly.fates content right)

variable {content}

theorem Interchangeable.refl (assembly : Assembly) (marks : List ι) :
    Interchangeable content assembly marks marks := ⟨rfl, .refl _⟩

theorem Interchangeable.symm {assembly : Assembly} {left right : List ι}
    (h : Interchangeable content assembly left right) :
    Interchangeable content assembly right left := ⟨h.state_eq.symm, h.fates_perm.symm⟩

theorem Interchangeable.trans {assembly : Assembly} {left middle right : List ι}
    (h : Interchangeable content assembly left middle)
    (h' : Interchangeable content assembly middle right) :
    Interchangeable content assembly left right :=
  ⟨h.state_eq.trans h'.state_eq, h.fates_perm.trans h'.fates_perm⟩

theorem Interchangeable.cons {assembly : Assembly} {mark : ι} {left right : List ι}
    (h : Interchangeable content (assembly.receive (content mark)).1 left right) :
    Interchangeable content assembly (mark :: left) (mark :: right) :=
  ⟨h.state_eq, h.fates_perm.cons _⟩

theorem Interchangeable.swap (assembly : Assembly) {mark other : ι}
    (hne : (content mark).id ≠ (content other).id) (rest : List ι) :
    Interchangeable content assembly (mark :: other :: rest) (other :: mark :: rest) := by
  obtain ⟨hstate, hfate, hfate'⟩ := receive_comm hne assembly
  constructor
  · simp only [List.map_cons, receiveAll_cons, hstate]
  · simp only [fates_cons, hstate, hfate, hfate']
    exact .swap _ _ _

/-- A delivery may be moved in front of deliveries with other numbers. -/
theorem Interchangeable.front (assembly : Assembly) {mark : ι} {before : List ι}
    (hother : ∀ other ∈ before, (content other).id ≠ (content mark).id) (rest : List ι) :
    Interchangeable content assembly (before ++ mark :: rest) (mark :: (before ++ rest)) := by
  induction before generalizing assembly with
  | nil => exact .refl assembly _
  | cons first before ih =>
      have htail := ih (assembly.receive (content first)).1 fun other hmem =>
        hother other (List.mem_cons_of_mem first hmem)
      exact htail.cons.trans (.swap assembly (hother first List.mem_cons_self) _)

/--
Orders in which the deliveries of each number come in the same order come to the
same: the first delivery of the one order is moved to the front of the other.
-/
theorem Interchangeable.of_filter_eq (assembly : Assembly) {left right : List ι}
    (hkept : ∀ number, left.filter (fun mark => (content mark).id = number) =
      right.filter fun mark => (content mark).id = number) :
    Interchangeable content assembly left right := by
  induction left generalizing assembly right with
  | nil =>
      cases right with
      | nil => exact .refl assembly []
      | cons mark rest => exact absurd (hkept (content mark).id) (by simp)
  | cons mark rest ih =>
      have hfirst := (hkept (content mark).id).symm
      rw [List.filter_cons_of_pos (by simp), List.filter_eq_cons_iff] at hfirst
      obtain ⟨before, after, rfl, hother, -, -⟩ := hfirst
      replace hother : ∀ other ∈ before, (content other).id ≠ (content mark).id := by
        simpa using hother
      have hfront := front assembly hother after
      refine Interchangeable.trans (.cons (ih _ ?_)) hfront.symm
      intro number
      have hnumber := hkept number
      rw [List.filter_append] at hnumber ⊢
      by_cases hmark : (content mark).id = number
      · have hnone : before.filter (fun other => (content other).id = number) = [] := by
          rw [List.filter_eq_nil_iff]
          intro other hmem
          simpa [← hmark] using hother other hmem
        simpa [hmark, hnone] using hnumber
      · simpa [hmark] using hnumber

theorem mem_fates {assembly : Assembly} {marks : List ι} {mark : ι} {outcome : Outcome} :
    (mark, outcome) ∈ assembly.fates content marks ↔
      ∃ place : Nat, marks[place]? = some mark ∧
        (assembly.receiveAll (marks.map content)).2[place]? = some outcome := by
  rw [fates, List.mem_iff_getElem?]
  simp only [List.getElem?_zip_eq_some]

end

/-! ## Rearrangements -/

/-- A rearrangement of deliveries that keeps those with the same number in their order. -/
structure Rearrangement (first second : List Delivery) where
  /-- Where each delivery goes. -/
  place : Fin first.length ≃ Fin second.length
  same : ∀ index, second[place index] = first[index]
  kept : ∀ index later, index < later → first[index].id = first[later].id →
    place index < place later

namespace Rearrangement

section
variable {first second : List Delivery} (order : Rearrangement first second)
include order

/-- The places of the first sequence in the order in which the second one has them. -/
def sources : List (Fin first.length) :=
  (List.finRange second.length).map order.place.symm

theorem eq_place_of_getElem?_sources {position : Nat} {index : Fin first.length}
    (h : order.sources[position]? = some index) : position = order.place index := by
  rw [sources, List.getElem?_map, Option.map_eq_some_iff] at h
  obtain ⟨place, hplace, rfl⟩ := h
  rw [Equiv.apply_symm_apply]
  obtain ⟨hlt, hvalue⟩ := List.getElem?_eq_some_iff.mp hplace
  rw [List.getElem_finRange] at hvalue
  rw [← hvalue]
  rfl

theorem map_get_sources : order.sources.map first.get = second := by
  have hget : first.get ∘ order.place.symm = second.get := by
    funext index
    simpa using (order.same (order.place.symm index)).symm
  rw [sources, List.map_map, hget, List.map_get_finRange]

theorem perm_sources : (List.finRange first.length).Perm order.sources := by
  have hnodup : order.sources.Nodup :=
    (List.nodup_finRange second.length).map order.place.symm.injective
  refine (List.perm_ext_iff_of_nodup (List.nodup_finRange first.length) hnodup).mpr ?_
  intro index
  have hmem : index ∈ order.sources :=
    List.mem_map.mpr ⟨order.place index, List.mem_finRange _, order.place.symm_apply_apply index⟩
  exact iff_of_true (List.mem_finRange index) hmem

/-- Among the places of one number the second sequence keeps the order of the first. -/
theorem pairwise_sources (number : UInt16) :
    (order.sources.filter fun index => (first.get index).id = number).Pairwise (· < ·) := by
  rw [List.pairwise_filter, sources, List.pairwise_map]
  refine (List.pairwise_lt_finRange second.length).imp ?_
  intro position later hlt hnumber hnumber'
  have hid : (first.get (order.place.symm position)).id =
      (first.get (order.place.symm later)).id :=
    (of_decide_eq_true hnumber).trans (of_decide_eq_true hnumber').symm
  rcases lt_trichotomy (order.place.symm position) (order.place.symm later) with h | h | h
  · exact h
  · exact absurd (order.place.symm.injective h) (ne_of_lt hlt)
  · have hback := order.kept _ _ h hid.symm
    rw [Equiv.apply_symm_apply, Equiv.apply_symm_apply] at hback
    exact absurd hback (lt_asymm hlt)

/-- Of each number, both sequences have the same deliveries in the same order. -/
theorem filter_eq (number : UInt16) :
    (List.finRange first.length).filter (fun index => (first.get index).id = number) =
      order.sources.filter fun index => (first.get index).id = number := by
  have hfirst : ((List.finRange first.length).filter fun index =>
      (first.get index).id = number).Pairwise (· < ·) :=
    (List.pairwise_lt_finRange first.length).filter _
  exact (order.perm_sources.filter _).eq_of_pairwise
    (fun _ _ _ _ hlt hgt => absurd hgt (lt_asymm hlt)) hfirst (order.pairwise_sources number)

theorem mem_first {delivery : Delivery} (h : delivery ∈ second) : delivery ∈ first := by
  rw [← order.map_get_sources] at h
  obtain ⟨index, -, rfl⟩ := List.mem_map.mp h
  exact List.get_mem first index

/--
Every assembly, whatever its state and its sizes, ends up in the same state, and the
same becomes of every delivery.
-/
theorem receiveAll_alike (assembly : Assembly) :
    (assembly.receiveAll first).1 = (assembly.receiveAll second).1 ∧
      ∀ index : Fin first.length, ∃ outcome,
        (assembly.receiveAll first).2[(index : Nat)]? = some outcome ∧
          (assembly.receiveAll second).2[(order.place index : Nat)]? = some outcome := by
  obtain ⟨hstate, hfates⟩ := Interchangeable.of_filter_eq assembly order.filter_eq
  rw [List.map_get_finRange, order.map_get_sources] at hstate
  refine ⟨hstate, fun index => ?_⟩
  have hlt : (index : Nat) < (assembly.receiveAll first).2.length := by
    rw [length_receiveAll]
    exact index.isLt
  have houtcome := List.getElem?_eq_getElem hlt
  have hfate : (index, (assembly.receiveAll first).2[(index : Nat)]) ∈
      assembly.fates first.get (List.finRange first.length) := by
    rw [mem_fates, List.map_get_finRange]
    exact ⟨index, by simp, houtcome⟩
  obtain ⟨place, hsource, houtcome'⟩ := mem_fates.mp (hfates.subset hfate)
  rw [order.map_get_sources] at houtcome'
  have hplace : place = order.place index := order.eq_place_of_getElem?_sources hsource
  exact ⟨_, houtcome, hplace ▸ houtcome'⟩

end

end Rearrangement

end Assembly

end Framecast
