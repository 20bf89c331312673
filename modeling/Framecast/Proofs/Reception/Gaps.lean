import Mathlib.Data.Finset.Dedup
import Mathlib.Data.List.NodupEquivFin
import Framecast.Proofs.Datagram.Partition
import Framecast.Reception.Continuity

/-!
# Gaps are losses, as long as the order is kept

When frames with different ids are sent one after the other and packets are lost on the
way but none overtakes another, the memory of the last packet is enough to see every
loss: a packet that arrives shows a gap just when the packet before it in its frame was
lost.  So there are as many gaps as there are stretches of lost packets in front of one
that arrives.
-/

namespace Framecast

namespace Datagram

def Packet.place (packet : Packet) : UInt32 × Nat :=
  (packet.header.frameId, packet.header.packetId.toNat)

structure CutFrame where
  id : UInt32
  frame : Bytes
  budget : Nat
  packets : List Packet
  cut : fragment id frame budget = .ok packets

def stream (frames : List CutFrame) : List Packet :=
  frames.flatMap CutFrame.packets

/-! ## The order of a stream -/

/-- The places of packets sent in order: those of a frame are numbered without a break. -/
structure InOrder (places : List (UInt32 × Nat)) : Prop where
  ascending : places.Pairwise fun place later => place.1 = later.1 → place.2 < later.2
  adjacent : ∀ (index : Nat) (frameId : UInt32) (number : Nat),
    places[index]? = some (frameId, number + 1) →
      ∃ before, index = before + 1 ∧ places[before]? = some (frameId, number)

theorem CutFrame.places_eq (frame : CutFrame) :
    frame.packets.map Packet.place =
      (List.range frame.packets.length).map fun number => (frame.id, number) := by
  have hparts := partitions_of_fragment frame.cut
  apply List.ext_getElem?
  intro number
  rw [List.getElem?_map, List.getElem?_map]
  cases hpacket : frame.packets[number]? with
  | none =>
      rw [List.getElem?_eq_none_iff] at hpacket
      rw [List.getElem?_eq_none (by simpa using hpacket)]
      rfl
  | some packet =>
      have hlt : number < frame.packets.length := (List.getElem?_eq_some_iff.mp hpacket).1
      have hframe := hparts.frameId_eq packet (List.mem_of_getElem? hpacket)
      have hnumber := hparts.packetId_eq number packet hpacket
      rw [List.getElem?_range hlt, Option.map_some, Option.map_some, Packet.place, hframe,
        hnumber]

theorem mem_ids_of_mem_stream {frames : List CutFrame} {place : UInt32 × Nat}
    (h : place ∈ (stream frames).map Packet.place) : place.1 ∈ frames.map CutFrame.id := by
  rw [stream, List.map_flatMap, List.mem_flatMap] at h
  obtain ⟨frame, hframe, hplace⟩ := h
  rw [frame.places_eq, List.mem_map] at hplace
  obtain ⟨number, -, rfl⟩ := hplace
  exact List.mem_map_of_mem hframe

theorem CutFrame.in_order (frame : CutFrame) : InOrder (frame.packets.map Packet.place) := by
  rw [frame.places_eq]
  constructor
  · rw [List.pairwise_map]
    refine List.pairwise_lt_range.imp ?_
    intro number later hlt _
    exact hlt
  · intro index frameId number hplace
    rw [List.getElem?_map, Option.map_eq_some_iff] at hplace
    obtain ⟨found, hfound, heq⟩ := hplace
    obtain ⟨rfl, rfl⟩ := Prod.mk.inj heq
    obtain ⟨hlt, hindex⟩ := List.getElem?_eq_some_iff.mp hfound
    rw [List.getElem_range] at hindex
    rw [List.length_range] at hlt
    refine ⟨number, hindex, ?_⟩
    rw [List.getElem?_map, List.getElem?_range (by omega)]
    rfl

theorem InOrder.append {places later : List (UInt32 × Nat)} (h : InOrder places)
    (hlater : InOrder later) (hapart : ∀ place ∈ places, ∀ other ∈ later, place.1 ≠ other.1) :
    InOrder (places ++ later) where
  ascending := List.pairwise_append.mpr ⟨h.ascending, hlater.ascending,
    fun place hplace other hother hsame => absurd hsame (hapart place hplace other hother)⟩
  adjacent := by
    intro index frameId number hplace
    by_cases hfirst : index < places.length
    · rw [List.getElem?_append_left hfirst] at hplace
      obtain ⟨before, rfl, hbefore⟩ := h.adjacent index frameId number hplace
      refine ⟨before, rfl, ?_⟩
      rwa [List.getElem?_append_left (by omega)]
    · rw [List.getElem?_append_right (by omega)] at hplace
      obtain ⟨before, hindex, hbefore⟩ := hlater.adjacent _ frameId number hplace
      refine ⟨places.length + before, by omega, ?_⟩
      rwa [List.getElem?_append_right (by omega), Nat.add_sub_cancel_left]

theorem stream_in_order {frames : List CutFrame} (h : (frames.map CutFrame.id).Nodup) :
    InOrder ((stream frames).map Packet.place) := by
  induction frames with
  | nil => exact ⟨List.Pairwise.nil, fun index _ _ hplace => absurd hplace (by simp [stream])⟩
  | cons frame rest ih =>
      rw [List.map_cons, List.nodup_cons] at h
      rw [stream, List.flatMap_cons, ← stream, List.map_append]
      refine frame.in_order.append (ih h.2) ?_
      intro place hplace other hother hsame
      rw [frame.places_eq, List.mem_map] at hplace
      obtain ⟨number, -, rfl⟩ := hplace
      have hmem := mem_ids_of_mem_stream hother
      rw [← hsame] at hmem
      exact h.1 hmem

section
variable {places : List (UInt32 × Nat)} (h : InOrder places)
include h

theorem InOrder.mem_of_succ {frameId : UInt32} {number : Nat}
    (hmem : (frameId, number + 1) ∈ places) : (frameId, number) ∈ places := by
  obtain ⟨index, hindex⟩ := List.mem_iff_getElem?.mp hmem
  obtain ⟨before, -, hbefore⟩ := h.adjacent index frameId number hindex
  exact List.mem_of_getElem? hbefore

theorem InOrder.mem_of_le {frameId : UInt32} {number later : Nat} (hle : number ≤ later)
    (hmem : (frameId, later) ∈ places) : (frameId, number) ∈ places := by
  induction hle with
  | refl => exact hmem
  | step _ ih => exact ih (h.mem_of_succ hmem)

theorem InOrder.nodup : places.Nodup := by
  refine h.ascending.imp fun hascending hsame => ?_
  subst hsame
  exact Nat.lt_irrefl _ (hascending rfl)

/-- Nothing stands between a packet and the one before it. -/
theorem InOrder.not_between {other : UInt32 × Nat} {frameId : UInt32} {number : Nat} :
    ¬ [(frameId, number), other, (frameId, number + 1)].Sublist places := by
  intro hsub
  obtain ⟨embed, hembed⟩ := List.sublist_iff_exists_orderEmbedding_getElem?_eq.mp hsub
  have hfirst : places[embed 0]? = some (frameId, number) := (hembed 0).symm
  have hlast : places[embed 2]? = some (frameId, number + 1) := (hembed 2).symm
  have hlower : embed 0 < embed 1 := embed.lt_iff_lt.mpr (by decide)
  have hupper : embed 1 < embed 2 := embed.lt_iff_lt.mpr (by decide)
  obtain ⟨before, hindex, hbefore⟩ := h.adjacent _ frameId number hlast
  obtain ⟨hleft, hfirst⟩ := List.getElem?_eq_some_iff.mp hfirst
  obtain ⟨hright, hbefore⟩ := List.getElem?_eq_some_iff.mp hbefore
  have hascending := List.pairwise_iff_getElem.mp h.ascending (embed 0) before hleft hright
    (by omega)
  rw [hfirst, hbefore] at hascending
  exact Nat.lt_irrefl number (hascending rfl)

end

end Datagram

namespace Reception

open Datagram (CutFrame InOrder Packet stream)

/-! ## One packet after the others -/

theorem Continuity.gaps_concat (continuity : Continuity) (headers : List Datagram.Header)
    (header : Datagram.Header) :
    continuity.gaps (headers ++ [header]) =
      continuity.gaps headers ++
        [(headers.getLast?.elim continuity after).gapBefore header] := by
  induction headers generalizing continuity with
  | nil => rfl
  | cons first rest ih =>
      rw [List.cons_append, gaps, ih, gaps, List.cons_append, List.getLast?_cons]
      cases rest.getLast? <;> rfl

/-- The packet before this one in its frame is none of those that arrived. -/
def Missed (arrived : List (UInt32 × Nat)) (place : UInt32 × Nat) : Prop :=
  0 < place.2 ∧ (place.1, place.2 - 1) ∉ arrived

instance (arrived : List (UInt32 × Nat)) (place : UInt32 × Nat) :
    Decidable (Missed arrived place) :=
  inferInstanceAs (Decidable (_ ∧ _))

/-- What arrived before the last packet is not the one in front of the next. -/
theorem missed_iff {sent : List (UInt32 × Nat)} (h : InOrder sent)
    {earlier : List (UInt32 × Nat)} {last place : UInt32 × Nat}
    (hsub : (earlier ++ [last, place]).Sublist sent) :
    Missed (earlier ++ [last]) place ↔
      0 < place.2 ∧ (last.1 = place.1 → last.2 + 1 ≠ place.2) := by
  obtain ⟨frameId, number⟩ := place
  refine and_congr_right fun hpositive => ?_
  obtain ⟨before, rfl⟩ := Nat.exists_eq_succ_of_ne_zero (Nat.ne_of_gt hpositive)
  have hnone : (frameId, before) ∉ earlier := by
    intro hmem
    have hthree := (List.singleton_sublist.mpr hmem).append
      (List.Sublist.refl [last, (frameId, before + 1)])
    exact h.not_between (hthree.trans hsub)
  rw [List.mem_append, List.mem_singleton]
  constructor
  · intro hmissed hsame hnext
    exact hmissed (Or.inr (Prod.ext hsame.symm (Nat.succ.inj hnext).symm))
  · rintro hlast (hmem | heq)
    · exact hnone hmem
    · rw [← heq] at hlast
      exact hlast rfl rfl

theorem ne_zero_iff {packetId : UInt16} : packetId ≠ 0 ↔ 0 < packetId.toNat := by
  rw [ne_eq, ← UInt16.toNat_inj, Nat.pos_iff_ne_zero]
  rfl

/-- Numbers that are counted up do not start again from zero. -/
theorem eq_succ_iff {packetId last : UInt16} (hlt : last.toNat < packetId.toNat) :
    packetId = last + 1 ↔ last.toNat + 1 = packetId.toNat := by
  have hbound : packetId.toNat < 2 ^ 16 := packetId.toNat_lt
  have hone : (1 : UInt16).toNat = 1 := rfl
  have hnext : (last + 1).toNat = last.toNat + 1 := by
    rw [UInt16.toNat_add, hone]
    exact Nat.mod_eq_of_lt (by omega)
  rw [← UInt16.toNat_inj, hnext, eq_comm]

/-- The packet that arrived last tells whether the one before the next was missed. -/
theorem gapBefore_iff {sent : List (UInt32 × Nat)} (h : InOrder sent)
    {arrived : List Packet} {packet : Packet}
    (hsub : ((arrived ++ [packet]).map Packet.place).Sublist sent) :
    ((arrived.map Packet.header).getLast?.elim .initial Continuity.after).gapBefore
        packet.header = true ↔
      Missed (arrived.map Packet.place) packet.place := by
  rw [List.getLast?_map]
  cases hlast : arrived.getLast? with
  | none =>
      rw [List.getLast?_eq_none_iff.mp hlast]
      simp [Continuity.gapBefore, Continuity.initial, Missed, Packet.place, ← ne_zero_iff]
  | some last =>
      obtain ⟨earlier, rfl⟩ := List.getLast?_eq_some_iff.mp hlast
      rw [List.append_assoc, List.map_append] at hsub
      have hascending := (List.pairwise_append.mp (h.ascending.sublist hsub)).2.1
      have hnumber : last.place.1 = packet.place.1 → last.place.2 < packet.place.2 := by
        simpa using hascending
      rw [List.map_append, List.map_singleton, missed_iff h hsub, Option.map_some,
        Option.elim_some, Continuity.after, Continuity.gapBefore]
      simp only
      split
      · rename_i hsame
        have hlt := hnumber hsame
        rw [bne_iff_ne, ne_eq, eq_succ_iff hlt]
        exact ⟨fun hnext => ⟨by omega, fun _ => hnext⟩, fun hmissed => hmissed.2 hsame⟩
      · rename_i hother
        rw [bne_iff_ne, ne_zero_iff]
        exact ⟨fun hpositive => ⟨hpositive, fun hsame => absurd hsame hother⟩, And.left⟩

/-! ## All packets that arrive -/

/-- The packet in front of another never arrives after it. -/
theorem missed_concat_iff {sent arrived : List (UInt32 × Nat)} (h : InOrder sent)
    {place last : UInt32 × Nat} (hsub : (arrived ++ [last]).Sublist sent)
    (hmem : place ∈ arrived ++ [last]) :
    Missed (arrived ++ [last]) place ↔ Missed arrived place := by
  refine and_congr_right fun hpositive => ?_
  rw [List.mem_append, List.mem_singleton, not_or, and_iff_left_iff_imp]
  intro _ hfront
  obtain ⟨hframe, hbefore⟩ := Prod.ext_iff.mp hfront
  simp only at hframe hbefore
  have hnumber : place.2 ≤ last.2 := by
    rw [List.mem_append, List.mem_singleton] at hmem
    rcases hmem with hearlier | rfl
    · have hascending := (List.pairwise_append.mp (h.ascending.sublist hsub)).2.2 place
        hearlier last (List.mem_singleton_self last)
      exact Nat.le_of_lt (hascending hframe)
    · exact Nat.le_refl _
  omega

theorem missed_iff_lost {sent arrived : List (UInt32 × Nat)} (h : InOrder sent)
    {place : UInt32 × Nat} (hmem : place ∈ sent) :
    Missed arrived place ↔ 0 < place.2 ∧ (place.1, place.2 - 1) ∈ sent ∧
      (place.1, place.2 - 1) ∉ arrived :=
  and_congr_right fun _ => ⟨fun hmissed => ⟨h.mem_of_le (Nat.sub_le _ _) hmem, hmissed⟩, And.right⟩

theorem gaps_eq {sent : List (UInt32 × Nat)} (h : InOrder sent) {arrived : List Packet}
    (hsub : (arrived.map Packet.place).Sublist sent) :
    Continuity.initial.gaps (arrived.map Packet.header) =
      arrived.map fun packet => decide (Missed (arrived.map Packet.place) packet.place) := by
  induction arrived using List.reverseRecOn with
  | nil => rfl
  | append_singleton arrived packet ih =>
      have hplaces : (arrived ++ [packet]).map Packet.place =
          arrived.map Packet.place ++ [packet.place] := List.map_append
      have hearlier : (arrived.map Packet.place).Sublist sent := by
        rw [hplaces] at hsub
        exact (List.sublist_append_left _ _).trans hsub
      have hmissed : ∀ other ∈ arrived ++ [packet],
          decide (Missed ((arrived ++ [packet]).map Packet.place) other.place) =
            decide (Missed (arrived.map Packet.place) other.place) := by
        intro other hother
        have hmem := List.mem_map_of_mem (f := Packet.place) hother
        rw [hplaces] at hsub hmem ⊢
        exact decide_eq_decide.mpr (missed_concat_iff h hsub hmem)
      have hgap : ((arrived.map Packet.header).getLast?.elim .initial
          Continuity.after).gapBefore packet.header =
            decide (Missed (arrived.map Packet.place) packet.place) := by
        rw [Bool.eq_iff_iff, decide_eq_true_iff]
        exact gapBefore_iff h hsub
      rw [List.map_congr_left hmissed, List.map_append, List.map_singleton,
        Continuity.gaps_concat, ih hearlier, hgap, List.map_append, List.map_singleton]

/-! ## Stretches of lost packets -/

/-- The packets of a frame from `first` up to `next`, without `next` itself. -/
structure Stretch where
  frameId : UInt32
  first : Nat
  next : Nat
deriving Repr, DecidableEq

/-- A stretch of lost packets that cannot be longer and is followed by one that arrived. -/
structure Stretch.IsLost (sent arrived : List (UInt32 × Nat)) (stretch : Stretch) : Prop where
  first_lt : stretch.first < stretch.next
  lost : ∀ number, stretch.first ≤ number → number < stretch.next →
    (stretch.frameId, number) ∈ sent ∧ (stretch.frameId, number) ∉ arrived
  followed : (stretch.frameId, stretch.next) ∈ arrived
  longest : stretch.first = 0 ∨ (stretch.frameId, stretch.first - 1) ∈ arrived

/-- Where the stretch of lost packets in front of a packet begins; at the packet itself
if there is none. -/
def lostFrom (arrived : List (UInt32 × Nat)) (frameId : UInt32) : Nat → Nat
  | 0 => 0
  | number + 1 =>
      if (frameId, number) ∈ arrived then number + 1 else lostFrom arrived frameId number

section
variable {arrived : List (UInt32 × Nat)} {frameId : UInt32}

theorem lostFrom_le (number : Nat) : lostFrom arrived frameId number ≤ number := by
  induction number with
  | zero => exact Nat.le_refl 0
  | succ number ih =>
      rw [lostFrom]
      split <;> omega

/-- The stretch is lost, and it cannot be longer. -/
theorem lostFrom_eq_iff {first next : Nat} (hle : first ≤ next) :
    lostFrom arrived frameId next = first ↔
      (∀ number, first ≤ number → number < next → (frameId, number) ∉ arrived) ∧
        (first = 0 ∨ (frameId, first - 1) ∈ arrived) := by
  induction next with
  | zero =>
      obtain rfl := Nat.le_zero.mp hle
      exact iff_of_true rfl ⟨fun number _ hlt => absurd hlt (Nat.not_lt_zero number), Or.inl rfl⟩
  | succ next ih =>
      rw [lostFrom]
      split
      · rename_i harrived
        constructor
        · rintro rfl
          exact ⟨fun number hge hlt => absurd hlt (Nat.not_lt.mpr hge), Or.inr harrived⟩
        · rintro ⟨hlost, -⟩
          refine Nat.le_antisymm (Nat.le_of_not_lt fun hlt => ?_) hle
          exact hlost next (Nat.le_of_lt_succ hlt) (Nat.lt_succ_self next) harrived
      · rename_i hmissing
        rcases Nat.lt_or_ge next first with hlt | hge
        · -- the packet in front is lost, so the stretch does not begin after it
          obtain rfl : first = next + 1 := Nat.le_antisymm hle hlt
          have hbelow : lostFrom arrived frameId next ≤ next := lostFrom_le next
          exact iff_of_false (by omega) fun ⟨_, hlongest⟩ => by
            rcases hlongest with hzero | harrived
            · omega
            · exact hmissing harrived
        · rw [ih hge]
          refine and_congr_left fun _ => ⟨fun hlost number hfrom hto => ?_,
            fun hlost number hfrom hto => hlost number hfrom (Nat.lt_succ_of_lt hto)⟩
          rcases Nat.lt_succ_iff_lt_or_eq.mp hto with hlt | rfl
          · exact hlost number hfrom hlt
          · exact hmissing

end

/-- One stretch of lost packets ends at every packet whose predecessor was missed. -/
theorem isLost_iff {sent arrived : List (UInt32 × Nat)} (h : InOrder sent)
    (hsub : arrived.Sublist sent) {stretch : Stretch} :
    stretch.IsLost sent arrived ↔
      (stretch.frameId, stretch.next) ∈ arrived ∧
        Missed arrived (stretch.frameId, stretch.next) ∧
        lostFrom arrived stretch.frameId stretch.next = stretch.first := by
  obtain ⟨frameId, first, next⟩ := stretch
  constructor
  · rintro ⟨hlt, hlost, hfollowed, hlongest⟩
    simp only at hlt hlost hfollowed hlongest ⊢
    refine ⟨hfollowed, ⟨by omega, ?_⟩, ?_⟩
    · exact (hlost (next - 1) (by omega) (by omega)).2
    · rw [lostFrom_eq_iff (Nat.le_of_lt hlt)]
      exact ⟨fun number hfrom hto => (hlost number hfrom hto).2, hlongest⟩
  · rintro ⟨hfollowed, ⟨hpositive, hmissed⟩, hfirst⟩
    simp only at hfollowed hpositive hmissed hfirst
    have hle : first ≤ next := hfirst ▸ lostFrom_le next
    obtain ⟨hlost, hlongest⟩ := (lostFrom_eq_iff hle).mp hfirst
    have hnext : first ≠ next := by
      rintro rfl
      rcases hlongest with hzero | harrived
      · omega
      · exact hmissed harrived
    refine ⟨Nat.lt_of_le_of_ne hle hnext, fun number hfrom hto => ⟨?_, hlost number hfrom hto⟩,
      hfollowed, hlongest⟩
    exact h.mem_of_le (Nat.le_of_lt hto) (hsub.subset hfollowed)

def stretchBefore (arrived : List (UInt32 × Nat)) (place : UInt32 × Nat) : Stretch :=
  ⟨place.1, lostFrom arrived place.1 place.2, place.2⟩

theorem exists_stretches {sent arrived : List (UInt32 × Nat)} (h : InOrder sent)
    (hsub : arrived.Sublist sent) :
    ∃ stretches : Finset Stretch,
      (∀ stretch, stretch ∈ stretches ↔ stretch.IsLost sent arrived) ∧
        stretches.card = arrived.countP fun place => Missed arrived place := by
  let ends := arrived.filter fun place => Missed arrived place
  have hnodup : (ends.map (stretchBefore arrived)).Nodup := by
    have hback : (ends.map (stretchBefore arrived)).map
        (fun stretch => (stretch.frameId, stretch.next)) = ends := by
      rw [List.map_map]
      exact List.map_id ends
    apply List.Nodup.of_map fun stretch : Stretch => (stretch.frameId, stretch.next)
    rw [hback]
    exact h.nodup.sublist (List.filter_sublist.trans hsub)
  refine ⟨(ends.map (stretchBefore arrived)).toFinset, fun stretch => ?_, ?_⟩
  · rw [List.mem_toFinset, List.mem_map, isLost_iff h hsub]
    constructor
    · rintro ⟨place, hplace, rfl⟩
      obtain ⟨hmem, hmissed⟩ := List.mem_filter.mp hplace
      exact ⟨hmem, of_decide_eq_true hmissed, rfl⟩
    · rintro ⟨hmem, hmissed, hfirst⟩
      refine ⟨_, List.mem_filter.mpr ⟨hmem, decide_eq_true hmissed⟩, ?_⟩
      rw [stretchBefore, hfirst]
  · rw [List.toFinset_card_of_nodup hnodup, List.length_map, List.countP_eq_length_filter]

section
variable {sent : List (UInt32 × Nat)} (h : InOrder sent) {arrived : List Packet}
  (hsub : (arrived.map Packet.place).Sublist sent)
include h hsub

theorem getElem?_gaps_eq_true_iff {index : Nat} {packet : Packet}
    (hpacket : arrived[index]? = some packet) :
    (Continuity.initial.gaps (arrived.map Packet.header))[index]? = some true ↔
      0 < packet.place.2 ∧ (packet.place.1, packet.place.2 - 1) ∈ sent ∧
        (packet.place.1, packet.place.2 - 1) ∉ arrived.map Packet.place := by
  have hmem : packet.place ∈ sent :=
    hsub.subset (List.mem_map_of_mem (List.mem_of_getElem? hpacket))
  rw [gaps_eq h hsub, List.getElem?_map, hpacket, ← missed_iff_lost h hmem, Option.map_some,
    Option.some.injEq, decide_eq_true_iff]

theorem count_gaps : (Continuity.initial.gaps (arrived.map Packet.header)).count true =
    (arrived.map Packet.place).countP fun place => Missed (arrived.map Packet.place) place := by
  rw [gaps_eq h hsub, List.count_eq_countP, List.countP_map, List.countP_map]
  congr 1
  funext packet
  simp

end

/--
Of the packets of frames that are sent in order some arrive.  Those that show a gap are
those whose predecessor in their frame was lost; there are as many of them as stretches
of lost packets in front of a packet of the same frame.  When all arrive, none shows a
gap.
-/
theorem gaps_tell_losses {frames : List CutFrame} (hids : (frames.map CutFrame.id).Nodup)
    {arrived : List Packet} (harrived : arrived.Sublist (stream frames)) :
    let sent := (stream frames).map Packet.place
    let places := arrived.map Packet.place
    let gaps := Continuity.initial.gaps (arrived.map Packet.header)
    gaps.length = arrived.length ∧
      (∀ (index : Nat) (packet : Packet), arrived[index]? = some packet →
        (gaps[index]? = some true ↔
          0 < packet.place.2 ∧ (packet.place.1, packet.place.2 - 1) ∈ sent ∧
            (packet.place.1, packet.place.2 - 1) ∉ places)) ∧
      (∃ stretches : Finset Stretch,
        (∀ stretch, stretch ∈ stretches ↔ stretch.IsLost sent places) ∧
          gaps.count true = stretches.card) ∧
      (Continuity.initial.gaps ((stream frames).map Packet.header)).count true = 0 := by
  intro sent places gaps
  have hsent : InOrder sent := Datagram.stream_in_order hids
  have hplaces : places.Sublist sent := harrived.map Packet.place
  refine ⟨?_, fun index packet => getElem?_gaps_eq_true_iff hsent hplaces, ?_, ?_⟩
  · have hgaps : gaps = _ := gaps_eq hsent hplaces
    rw [hgaps, List.length_map]
  · obtain ⟨stretches, hmem, hcard⟩ := exists_stretches hsent hplaces
    exact ⟨stretches, hmem, (count_gaps hsent hplaces).trans hcard.symm⟩
  · rw [count_gaps hsent (List.Sublist.refl _), List.countP_eq_zero]
    intro place hplace hmissed
    obtain ⟨-, hfront, hlost⟩ := (missed_iff_lost hsent hplace).mp (of_decide_eq_true hmissed)
    exact hlost hfront

/-- A hole in one frame, a frame that is lost as a whole, and one without head and tail. -/
theorem gaps_tell_losses_scattered :
    let whole : CutFrame := ⟨7, [10, 20, 30], 1,
      [⟨⟨7, 0, 3, 1⟩, [10]⟩, ⟨⟨7, 1, 3, 1⟩, [20]⟩, ⟨⟨7, 2, 3, 1⟩, [30]⟩], by cbv⟩
    let silent : CutFrame := ⟨3, [40], 4, [⟨⟨3, 0, 1, 1⟩, [40]⟩], by cbv⟩
    let torn : CutFrame := ⟨9, [50, 60, 70, 80, 90], 2,
      [⟨⟨9, 0, 3, 2⟩, [50, 60]⟩, ⟨⟨9, 1, 3, 2⟩, [70, 80]⟩, ⟨⟨9, 2, 3, 1⟩, [90]⟩], by cbv⟩
    let frames := [whole, silent, torn]
    let arrived : List Packet :=
      [⟨⟨7, 0, 3, 1⟩, [10]⟩, ⟨⟨7, 2, 3, 1⟩, [30]⟩, ⟨⟨9, 1, 3, 2⟩, [70, 80]⟩]
    (frames.map CutFrame.id).Nodup ∧ arrived.Sublist (stream frames) ∧
      Continuity.initial.gaps (arrived.map Packet.header) = [false, true, true] ∧
      ∃ stretches : Finset Stretch,
        (∀ stretch, stretch ∈ stretches ↔
          stretch.IsLost ((stream frames).map Packet.place) (arrived.map Packet.place)) ∧
          stretches.card = 2 := by
  intro whole silent torn frames arrived
  have hids : (frames.map CutFrame.id).Nodup := by decide
  have hsub : arrived.Sublist (stream frames) := by decide
  have hgaps : Continuity.initial.gaps (arrived.map Packet.header) = [false, true, true] := by
    decide
  obtain ⟨-, -, ⟨stretches, hmem, hcount⟩, -⟩ := gaps_tell_losses hids hsub
  rw [hgaps] at hcount
  exact ⟨hids, hsub, hgaps, stretches, hmem, hcount.symm⟩

end Reception

end Framecast
