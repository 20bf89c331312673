import Framecast.Proofs.Assembly.Account
import Framecast.Reassembly.Basic

/-!
# The table of flights

The flights of a reassembly stand in strictly ascending order of their ids, so a
frame has at most one flight and looking it up is unaffected by whatever happens
to the others.  Each operation on the table has one lemma that says what a
look-up finds afterwards, and one that says that the order is kept.
-/

namespace Framecast.Reassembly

def Ascending (flights : List Flight) : Prop :=
  flights.Pairwise fun flight later => flight.id < later.id

def lookup (frameId : UInt32) (flights : List Flight) : Option Flight :=
  flights.find? fun flight => flight.id = frameId

theorem find?_eq_lookup (reassembly : Reassembly) (frameId : UInt32) :
    reassembly.find? frameId = lookup frameId reassembly.flights := rfl

theorem isInFlight_eq_isSome (reassembly : Reassembly) (frameId : UInt32) :
    reassembly.isInFlight frameId = (reassembly.find? frameId).isSome := by
  rw [isInFlight, find?, Bool.eq_iff_iff, List.any_eq_true, List.find?_isSome]

@[simp] theorem lookup_nil (frameId : UInt32) : lookup frameId [] = none := rfl

theorem lookup_cons (frameId : UInt32) (flight : Flight) (flights : List Flight) :
    lookup frameId (flight :: flights) =
      if flight.id = frameId then some flight else lookup frameId flights := by
  by_cases hid : flight.id = frameId <;> simp [lookup, hid]

theorem lookup_eq_none_iff {frameId : UInt32} {flights : List Flight} :
    lookup frameId flights = none ↔ ∀ flight ∈ flights, flight.id ≠ frameId := by
  simp [lookup]

theorem id_of_lookup {frameId : UInt32} {flights : List Flight} {flight : Flight}
    (h : lookup frameId flights = some flight) : flight.id = frameId := by
  simpa using List.find?_some h

theorem Ascending.lookup_tail {flight : Flight} {flights : List Flight}
    (h : Ascending (flight :: flights)) : lookup flight.id flights = none := by
  rw [lookup_eq_none_iff]
  intro later hmem hid
  have hlt : flight.id < later.id := List.rel_of_pairwise_cons h hmem
  rw [hid] at hlt
  exact UInt32.lt_irrefl _ hlt

theorem Ascending.lookup_mem {flights : List Flight} (h : Ascending flights) {flight : Flight}
    (hmem : flight ∈ flights) : lookup flight.id flights = some flight := by
  induction flights with
  | nil => exact absurd hmem List.not_mem_nil
  | cons head rest ih =>
      rw [lookup_cons]
      rcases List.mem_cons.mp hmem with rfl | hrest
      · rw [if_pos rfl]
      · have hne : head.id ≠ flight.id := by
          intro hid
          exact lookup_eq_none_iff.mp h.lookup_tail flight hrest hid.symm
        rw [if_neg hne, ih (List.Pairwise.of_cons h) hrest]

/-! ## Taking flights out and changing them -/

theorem Ascending.filter {flights : List Flight} (h : Ascending flights)
    (keep : Flight → Bool) : Ascending (flights.filter keep) :=
  List.Pairwise.filter keep h

theorem Ascending.lookup_filter {flights : List Flight} (h : Ascending flights)
    (keep : Flight → Bool) (frameId : UInt32) :
    lookup frameId (flights.filter keep) = (lookup frameId flights).filter keep := by
  induction flights with
  | nil => rfl
  | cons head rest ih =>
      have hrest := ih (List.Pairwise.of_cons h)
      by_cases hid : head.id = frameId
      · subst hid
        rw [h.lookup_tail] at hrest
        cases hkeep : keep head <;> simp [lookup_cons, Option.filter, hkeep, hrest]
      · cases hkeep : keep head <;> simp [lookup_cons, hkeep, hid, hrest]

/-- A flight of the table, and the flights that are left without it. -/
theorem Ascending.perm_cons_filter {flights : List Flight} (h : Ascending flights)
    {flight : Flight} (hmem : flight ∈ flights) :
    flights.Perm (flight :: flights.filter fun other => other.id ≠ flight.id) := by
  induction flights with
  | nil => exact absurd hmem List.not_mem_nil
  | cons head rest ih =>
      rcases List.mem_cons.mp hmem with rfl | hrest
      · have hkept : rest.filter (fun other => other.id ≠ flight.id) = rest := by
          rw [List.filter_eq_self]
          intro other hother
          exact decide_eq_true (lookup_eq_none_iff.mp h.lookup_tail other hother)
        rw [List.filter_cons_of_neg (by simp), hkept]
      · have hne : head.id ≠ flight.id := fun hid =>
          lookup_eq_none_iff.mp h.lookup_tail flight hrest hid.symm
        rw [List.filter_cons_of_pos (by simpa using hne)]
        exact ((ih (List.Pairwise.of_cons h) hrest).cons head).trans (.swap _ _ _)

section
variable {change : Flight → Flight} (hid : ∀ flight, (change flight).id = flight.id)
include hid

theorem Ascending.map {flights : List Flight} (h : Ascending flights) :
    Ascending (flights.map change) := by
  refine List.Pairwise.map change ?_ h
  intro flight later hlt
  rwa [hid, hid]

theorem lookup_map (flights : List Flight) (frameId : UInt32) :
    lookup frameId (flights.map change) = (lookup frameId flights).map change := by
  induction flights with
  | nil => rfl
  | cons head rest ih =>
      rw [List.map_cons, lookup_cons, lookup_cons, hid, ih]
      split <;> rfl

end

/-! ## Putting a flight in -/

theorem mem_insertFlight {flight other : Flight} {flights : List Flight} :
    other ∈ insertFlight flight flights ↔ other = flight ∨ other ∈ flights := by
  induction flights with
  | nil => simp [insertFlight]
  | cons head rest ih =>
      rw [insertFlight]
      split
      · rw [List.mem_cons]
      · rw [List.mem_cons, ih, List.mem_cons]
        exact or_left_comm

theorem insertFlight_perm (flight : Flight) (flights : List Flight) :
    (insertFlight flight flights).Perm (flight :: flights) := by
  induction flights with
  | nil => exact .refl _
  | cons head rest ih =>
      rw [insertFlight]
      split
      · exact .refl _
      · exact (ih.cons head).trans (.swap _ _ _)

theorem lookup_insertFlight {flight : Flight} {flights : List Flight}
    (habsent : lookup flight.id flights = none) (frameId : UInt32) :
    lookup frameId (insertFlight flight flights) =
      if flight.id = frameId then some flight else lookup frameId flights := by
  induction flights with
  | nil => rw [insertFlight, lookup_cons]
  | cons head rest ih =>
      rw [lookup_cons] at habsent
      by_cases hhead : head.id = flight.id
      · rw [if_pos hhead] at habsent
        exact absurd habsent (by simp)
      · rw [if_neg hhead] at habsent
        rw [insertFlight]
        split
        · rw [lookup_cons]
        · rw [lookup_cons, lookup_cons, ih habsent]
          by_cases hframe : flight.id = frameId
          · have hne : head.id ≠ frameId := hframe ▸ hhead
            rw [if_neg hne, if_pos hframe, if_pos hframe]
          · rw [if_neg hframe, if_neg hframe]

theorem Ascending.insertFlight {flight : Flight} {flights : List Flight}
    (h : Ascending flights) (habsent : lookup flight.id flights = none) :
    Ascending (insertFlight flight flights) := by
  induction flights with
  | nil => exact List.pairwise_singleton _ _
  | cons head rest ih =>
      rw [lookup_cons] at habsent
      by_cases hhead : head.id = flight.id
      · rw [if_pos hhead] at habsent
        exact absurd habsent (by simp)
      rw [if_neg hhead] at habsent
      rw [Reassembly.insertFlight]
      by_cases hlt : flight.id < head.id
      · rw [if_pos hlt]
        refine List.pairwise_cons.mpr ⟨?_, h⟩
        intro later hmem
        rcases List.mem_cons.mp hmem with rfl | hrest
        · exact hlt
        · exact UInt32.lt_trans hlt (List.rel_of_pairwise_cons h hrest)
      · rw [if_neg hlt]
        refine List.pairwise_cons.mpr ⟨?_, ih (List.Pairwise.of_cons h) habsent⟩
        intro later hmem
        rcases mem_insertFlight.mp hmem with rfl | hrest
        · rw [UInt32.lt_iff_toNat_lt] at hlt ⊢
          have hne : head.id.toNat ≠ later.id.toNat := fun h => hhead (UInt32.toNat_inj.mp h)
          omega
        · exact List.rel_of_pairwise_cons h hrest

/-! ## Single flights -/

theorem oldestFlight_mem {flights : List Flight} {flight : Flight}
    (h : oldestFlight flights = some flight) : flight ∈ flights := by
  induction flights generalizing flight with
  | nil => exact absurd h (by simp [oldestFlight])
  | cons head rest ih =>
      rw [oldestFlight] at h
      cases hrest : oldestFlight rest with
      | none =>
          rw [hrest] at h
          rw [← Option.some.inj h]
          exact List.mem_cons_self
      | some other =>
          rw [hrest] at h
          simp only at h
          split at h
          · rw [← Option.some.inj h]
            exact List.mem_cons_of_mem head (ih hrest)
          · rw [← Option.some.inj h]
            exact List.mem_cons_self

namespace Flight

theorem receive_eq (flight : Flight) (packet : Reception.Packet) (now : Nat) :
    flight.receive packet now =
      { flight with
        assembly :=
          (flight.assembly.push packet.header packet.payload packet.gapBefore).1
        updatedAt :=
          if flight.assembly.verdict packet.header packet.payload = .accepted then now
          else flight.updatedAt } := rfl

@[simp] theorem id_receive (flight : Flight) (packet : Reception.Packet) (now : Nat) :
    (flight.receive packet now).id = flight.id := by
  simp only [receive, id, Assembly.push]
  cases flight.assembly.verdict packet.header packet.payload with
  | accepted => rfl
  | rejected reason => cases reason <;> rfl

/-- A frame's flight before its first packet, in the given buffer. -/
def opened (buffer : Assembly) (header : Datagram.Header) (drops now : Nat) : Flight where
  assembly := buffer.start header.frameId header.packetCount
  openedAt := now
  updatedAt := now
  dropsAtStart := drops

def Alike (left right : Flight) : Prop :=
  ∃ assembly : Assembly, left = { right with assembly } ∧ assembly.Alike right.assembly

section
variable {left right : Flight} (h : left.Alike right)
include h

theorem Alike.id_eq : left.id = right.id := by
  obtain ⟨assembly, rfl, halike⟩ := h
  exact halike.frameId_eq

theorem Alike.due?_eq (settings : Assembly.Settings) (now : Nat) :
    left.due? settings now = right.due? settings now := by
  obtain ⟨assembly, rfl, halike⟩ := h
  simp only [due?, halike.isFull_eq]

theorem Alike.verdict_eq (header : Datagram.Header) (payload : Bytes) :
    left.assembly.verdict header payload = right.assembly.verdict header payload := by
  obtain ⟨assembly, rfl, halike⟩ := h
  exact halike.verdict_eq header payload

theorem Alike.expected_eq : left.assembly.expected = right.assembly.expected := by
  obtain ⟨assembly, rfl, halike⟩ := h
  exact halike.expected_eq

theorem Alike.receive (packet : Reception.Packet) (now : Nat) :
    (left.receive packet now).Alike (right.receive packet now) := by
  obtain ⟨assembly, rfl, halike⟩ := h
  refine ⟨(assembly.push packet.header packet.payload packet.gapBefore).1, ?_,
    halike.push packet.header packet.payload packet.gapBefore⟩
  rw [receive_eq, receive_eq, halike.verdict_eq]

end

/-- Whatever two buffers held before, frames that start in them are alike. -/
theorem opened_alike {capacity stride : Nat} {buffer other : Assembly}
    (h : buffer.Ready capacity stride) (h' : other.Ready capacity stride)
    (header : Datagram.Header) (drops now : Nat) :
    (opened buffer header drops now).Alike (opened other header drops now) :=
  ⟨buffer.start header.frameId header.packetCount, rfl,
    h.start_alike h' header.frameId header.packetCount⟩

end Flight

end Framecast.Reassembly
