import Framecast.Proofs.Reassembly.Trail
import Mathlib.Data.List.Forall2

/-!
# Idle buffers

How many idle buffers a reassembly keeps shows nowhere outside.  Two reassemblies on
settings that differ in this number alone hold flights that are alike, one by one; each
function of the state machine keeps them so and tells the same of both, whether a
frame starts in a buffer with a past or in a new one.
-/

namespace Framecast

open Framecast.Assembly (RetireReason Settings)

namespace Reassembly

/-! ## Flights that are alike, one by one -/

theorem rel_cases {α : Type} {R : α → α → Prop} {left right : Option α}
    (h : Option.Rel R left right) :
    (left = none ∧ right = none) ∨ ∃ a b, left = some a ∧ right = some b ∧ R a b := by
  cases h with
  | none => exact Or.inl ⟨rfl, rfl⟩
  | some hrel => exact Or.inr ⟨_, _, rfl, rfl, hrel⟩

section
variable {left right : Flight} (h : left.Alike right)
include h

theorem Flight.Alike.openedAt_eq : left.openedAt = right.openedAt := by
  obtain ⟨assembly, rfl, -⟩ := h
  rfl

theorem Flight.Alike.retiredState_eq : retiredState left = retiredState right := by
  obtain ⟨assembly, rfl, storage, rfl, -⟩ := h
  rfl

theorem Flight.Alike.receiveAt (packet : Reception.Packet) (now : Nat) :
    (receiveAt packet now left).Alike (receiveAt packet now right) := by
  rw [Reassembly.receiveAt, Reassembly.receiveAt, h.id_eq]
  split
  · exact h.receive packet now
  · exact h

end

section
variable {flights flights' : List Flight} (h : List.Forall₂ Flight.Alike flights flights')
include h

theorem lookup_alike (frameId : UInt32) :
    Option.Rel Flight.Alike (lookup frameId flights) (lookup frameId flights') := by
  induction h with
  | nil => exact .none
  | cons halike _ ih =>
      rw [lookup_cons, lookup_cons, halike.id_eq]
      split
      · exact .some halike
      · exact ih

theorem oldestFlight_alike :
    Option.Rel Flight.Alike (oldestFlight flights) (oldestFlight flights') := by
  induction h with
  | nil => exact .none
  | cons halike _ ih =>
      rw [oldestFlight, oldestFlight]
      rcases rel_cases ih with ⟨hnone, hnone'⟩ | ⟨other, other', hsome, hsome', hother⟩
      · rw [hnone, hnone']
        exact .some halike
      · simp only [hsome, hsome', halike.openedAt_eq, hother.openedAt_eq]
        split
        · exact .some hother
        · exact .some halike

theorem insertFlight_alike {flight flight' : Flight} (halike : flight.Alike flight') :
    List.Forall₂ Flight.Alike (insertFlight flight flights) (insertFlight flight' flights') := by
  induction h with
  | nil => exact .cons halike .nil
  | cons hhead hrest ih =>
      rw [insertFlight, insertFlight, halike.id_eq, hhead.id_eq]
      split
      · exact .cons halike (.cons hhead hrest)
      · exact .cons hhead ih

theorem ids_alike : flights.map Flight.id = flights'.map Flight.id := by
  induction h with
  | nil => rfl
  | cons halike _ ih => rw [List.map_cons, List.map_cons, halike.id_eq, ih]

end

/-! ## Twins -/

/-- Two states that differ at most in their idle buffers and in how buffers are laid out. -/
structure Twins (left right : Reassembly) : Prop where
  settings_eq :
    left.settings = { right.settings with spareBuffers := left.settings.spareBuffers }
  reportsMissing_eq : left.reportsMissing = right.reportsMissing
  flights_alike : List.Forall₂ Flight.Alike left.flights right.flights
  evictedIds_eq : left.evictedIds = right.evictedIds
  counters_eq : left.counters = right.counters

def AlikeLeaving (entry entry' : Flight × RetireReason) : Prop :=
  entry.1.Alike entry'.1 ∧ entry.2 = entry'.2

theorem keepSpare_frame (reassembly : Reassembly) (assembly : Assembly) :
    ∃ spares, reassembly.keepSpare assembly = { reassembly with spares } := by
  rw [keepSpare]
  split
  · exact ⟨_, rfl⟩
  · exact ⟨reassembly.spares, rfl⟩

section
variable {left right : Reassembly} (h : Twins left right)
include h

theorem Twins.maxInFlight_eq : left.settings.maxInFlight = right.settings.maxInFlight := by
  rw [h.settings_eq]

theorem Twins.due?_eq {flight flight' : Flight} (halike : flight.Alike flight') (now : Nat) :
    flight.due? left.settings now = flight'.due? right.settings now := by
  rw [halike.due?_eq, h.settings_eq]
  rfl

theorem Twins.settleRetired {flight flight' : Flight} (halike : flight.Alike flight') :
    Twins (left.settleRetired flight) (right.settleRetired flight') := by
  rw [Reassembly.settleRetired, Reassembly.settleRetired, halike.retiredState_eq,
    h.counters_eq]
  obtain ⟨spares, hleft⟩ := keepSpare_frame
    { left with counters := right.counters.retire (retiredState flight') } flight.assembly
  obtain ⟨spares', hright⟩ := keepSpare_frame
    { right with counters := right.counters.retire (retiredState flight') } flight'.assembly
  rw [hleft, hright]
  exact ⟨h.settings_eq, h.reportsMissing_eq, h.flights_alike, h.evictedIds_eq, rfl⟩

end

/-- Twins see alike flights off with the same signals, and stay twins. -/
theorem Twins.retireAll {left right : Reassembly} (h : Twins left right) (drops : Nat)
    {leaving leaving' : List (Flight × RetireReason)}
    (hleaving : List.Forall₂ AlikeLeaving leaving leaving') :
    Twins (retireAll drops leaving left).1 (retireAll drops leaving' right).1 ∧
      (retireAll drops leaving left).2 = (retireAll drops leaving' right).2 := by
  induction hleaving generalizing left right with
  | nil => exact ⟨h, rfl⟩
  | cons hentry _ ih =>
      obtain ⟨halike, hreason⟩ := hentry
      obtain ⟨htwins, hlater⟩ := ih (h.settleRetired halike)
      rw [retireAll_cons, retireAll_cons]
      refine ⟨htwins, ?_⟩
      rw [hlater, h.reportsMissing_eq, hreason, halike.retireSignals_eq]

section
variable {left right : Reassembly} (h : Twins left right)
include h

theorem Twins.evictOldest (limit drops : Nat) :
    Twins (left.evictOldest limit drops).1 (right.evictOldest limit drops).1 ∧
      (left.evictOldest limit drops).2 = (right.evictOldest limit drops).2 := by
  rcases rel_cases (oldestFlight_alike h.flights_alike) with
    ⟨hleft, hright⟩ | ⟨flight, flight', hleft, hright, halike⟩
  · rw [Reassembly.evictOldest, Reassembly.evictOldest, hleft, hright]
    exact ⟨h, rfl⟩
  · rw [evictOldest_of_some hleft, evictOldest_of_some hright]
    refine Twins.retireAll ?_ drops (.cons ⟨halike, rfl⟩ .nil)
    refine ⟨h.settings_eq, h.reportsMissing_eq, ?_, ?_, ?_⟩
    · apply List.rel_filter ?_ h.flights_alike
      intro other other' hother
      simp [hother.id_eq, halike.id_eq]
    · simp only [withoutEvicted, h.evictedIds_eq, halike.id_eq]
    · simp only [withoutEvicted, h.counters_eq]

end

theorem Twins.evictMany {left right : Reassembly} (h : Twins left right)
    (limit drops count : Nat) :
    Twins (evictMany limit drops count left).1 (evictMany limit drops count right).1 ∧
      (evictMany limit drops count left).2 = (evictMany limit drops count right).2 := by
  induction count generalizing left right with
  | zero => exact ⟨h, rfl⟩
  | succ count ih =>
      obtain ⟨hnext, hsignals⟩ := h.evictOldest limit drops
      obtain ⟨hlast, hlater⟩ := ih hnext
      rw [evictMany_succ, evictMany_succ]
      exact ⟨hlast, by rw [hsignals, hlater]⟩

section
variable {left right : Reassembly} (h : Twins left right)
include h

theorem Twins.makeRoom (drops : Nat) :
    Twins (left.makeRoom drops).1 (right.makeRoom drops).1 ∧
      (left.makeRoom drops).2 = (right.makeRoom drops).2 := by
  rw [Reassembly.makeRoom, Reassembly.makeRoom, h.maxInFlight_eq, h.flights_alike.length_eq]
  cases right.settings.maxInFlight with
  | none => exact ⟨h, rfl⟩
  | some limit => exact h.evictMany limit drops _

/-- A frame starts alike in both, though one may reuse a buffer and the other not. -/
theorem Twins.openFrame (hleft : left.Sound) (hright : right.Sound)
    (header : Datagram.Header) (drops now : Nat) :
    Twins (left.openFrame header drops now).1 (right.openFrame header drops now).1 ∧
      (left.openFrame header drops now).2 = (right.openFrame header drops now).2 := by
  have hready := hleft.takeBuffer_ready.1
  have hsizes : left.settings.maxFrameSize = right.settings.maxFrameSize ∧
      left.settings.stride = right.settings.stride := by
    rw [h.settings_eq]
    exact ⟨rfl, rfl⟩
  rw [hsizes.1, hsizes.2] at hready
  have halike := Flight.opened_alike hready hright.takeBuffer_ready.1 header drops now
  refine ⟨⟨h.settings_eq, h.reportsMissing_eq, ?_, h.evictedIds_eq, ?_⟩, rfl⟩
  · exact insertFlight_alike h.flights_alike halike
  · simp only [Reassembly.openFrame, h.counters_eq]

theorem Twins.deliver (packet : Reception.Packet) (now : Nat) :
    Twins (left.deliver packet now).1 (right.deliver packet now).1 ∧
      (left.deliver packet now).2 = (right.deliver packet now).2 := by
  rcases rel_cases (lookup_alike h.flights_alike packet.frameId) with
    ⟨hleft, hright⟩ | ⟨flight, flight', hleft, hright, halike⟩
  · rw [← find?_eq_lookup] at hleft hright
    rw [Reassembly.deliver, Reassembly.deliver, hleft, hright]
    exact ⟨h, rfl⟩
  · rw [deliver_of_some hleft, deliver_of_some hright, halike.verdict_eq, halike.expected_eq]
    refine ⟨⟨h.settings_eq, h.reportsMissing_eq, ?_, h.evictedIds_eq, ?_⟩, rfl⟩
    · apply List.rel_map ?_ h.flights_alike
      intro other other' hother
      exact hother.receiveAt packet now
    · simp only [h.counters_eq]

theorem Twins.push (hleft : left.Sound) (hright : right.Sound) (packet : Reception.Packet)
    (drops now : Nat) :
    Twins (left.push packet drops now).1 (right.push packet drops now).1 ∧
      (left.push packet drops now).2 = (right.push packet drops now).2 := by
  rcases rel_cases (lookup_alike h.flights_alike packet.frameId) with
    ⟨habsent, habsent'⟩ | ⟨flight, flight', hfound, hfound', -⟩
  · by_cases hlate : packet.frameId ∈ left.evictedIds
    · have hlate' : packet.frameId ∈ right.evictedIds := h.evictedIds_eq ▸ hlate
      rw [push_of_refused habsent hlate, push_of_refused habsent' hlate']
      refine ⟨⟨h.settings_eq, h.reportsMissing_eq, h.flights_alike, h.evictedIds_eq, ?_⟩, rfl⟩
      simp only [refuseEvicted, h.counters_eq]
    · have hnew' : packet.frameId ∉ right.evictedIds := h.evictedIds_eq ▸ hlate
      rw [push_of_absent habsent hlate, push_of_absent habsent' hnew']
      obtain ⟨hroom, hevictions⟩ := h.makeRoom drops
      have hsound := (hleft.displaced_makeRoom drops packet.frameId).1.sound
      have hsound' := (hright.displaced_makeRoom drops packet.frameId).1.sound
      obtain ⟨hopening, hstarted⟩ := hroom.openFrame hsound hsound' packet.header drops now
      obtain ⟨hdelivery, hanswer⟩ := hopening.deliver packet now
      exact ⟨hdelivery, by simp only [hevictions, hstarted, hanswer]⟩
  · rw [push_of_present hfound, push_of_present hfound']
    exact h.deliver packet now

theorem Twins.sweep (drops now : Nat) :
    Twins (left.sweep drops now).1 (right.sweep drops now).1 ∧
      (left.sweep drops now).2 = (right.sweep drops now).2 := by
  have hdue : List.Forall₂ AlikeLeaving (left.dueFlights now) (right.dueFlights now) := by
    apply List.rel_filterMap ?_ h.flights_alike
    intro flight flight' halike
    simp only [h.due?_eq halike]
    cases flight'.due? right.settings now with
    | none => exact .none
    | some reason => exact .some ⟨halike, rfl⟩
  have hkept : Twins
      { left with flights :=
          left.flights.filter fun flight => (flight.due? left.settings now).isNone }
      { right with flights :=
          right.flights.filter fun flight => (flight.due? right.settings now).isNone } := by
    refine ⟨h.settings_eq, h.reportsMissing_eq, ?_, h.evictedIds_eq, h.counters_eq⟩
    apply List.rel_filter ?_ h.flights_alike
    intro flight flight' halike
    simp only [h.due?_eq halike]
  obtain ⟨hlast, hsignals⟩ := hkept.retireAll drops hdue
  exact ⟨hlast, Prod.ext hdue.length_eq hsignals⟩

theorem Twins.drain (drops : Nat) :
    Twins (left.drain drops).1 (right.drain drops).1 ∧
      (left.drain drops).2 = (right.drain drops).2 := by
  have hleaving : List.Forall₂ AlikeLeaving
      (left.flights.map fun flight => (flight, RetireReason.shutdown))
      (right.flights.map fun flight => (flight, RetireReason.shutdown)) := by
    apply List.rel_map ?_ h.flights_alike
    intro flight flight' halike
    exact ⟨halike, rfl⟩
  have hempty : Twins { left with flights := [] } { right with flights := [] } :=
    ⟨h.settings_eq, h.reportsMissing_eq, .nil, h.evictedIds_eq, h.counters_eq⟩
  obtain ⟨hlast, hsignals⟩ := hempty.retireAll drops hleaving
  refine ⟨hlast, ?_⟩
  simp only [Reassembly.drain, hsignals, hleaving.length_eq]

/-- Twins answer every call alike and stay twins. -/
theorem Twins.step (hleft : left.Sound) (hright : right.Sound) (call : Call) :
    Twins (left.step call).1 (right.step call).1 ∧
      (left.step call).2 = (right.step call).2 := by
  cases call with
  | push packet drops now =>
      obtain ⟨hnext, hanswer⟩ := h.push hleft hright packet drops now
      exact ⟨hnext, by simp only [Reassembly.step, hanswer]⟩
  | sweep drops now =>
      obtain ⟨hnext, hanswer⟩ := h.sweep drops now
      exact ⟨hnext, by simp only [Reassembly.step, hanswer]⟩
  | drain drops =>
      obtain ⟨hnext, hanswer⟩ := h.drain drops
      exact ⟨hnext, by simp only [Reassembly.step, hanswer]⟩

end

/-! ## The number of idle buffers -/

def Stocked (reassembly : Reassembly) : Prop :=
  reassembly.spares.length ≤ reassembly.settings.spareBuffers

section
variable {reassembly : Reassembly} (h : reassembly.Stocked)
include h

theorem Stocked.with_flights (flights : List Flight) :
    Stocked { reassembly with flights } := h

theorem Stocked.settleRetired (flight : Flight) :
    (reassembly.settleRetired flight).Stocked := by
  rw [Reassembly.settleRetired, keepSpare]
  split
  · rename_i hroom
    exact hroom
  · exact h

theorem Stocked.openFrame (header : Datagram.Header) (drops now : Nat) :
    (reassembly.openFrame header drops now).1.Stocked := by
  show reassembly.takeBuffer.2.length ≤ reassembly.settings.spareBuffers
  rw [Stocked] at h
  rw [takeBuffer]
  cases hspares : reassembly.spares with
  | nil => exact Nat.zero_le _
  | cons spare rest =>
      rw [hspares] at h
      exact Nat.le_of_succ_le h

theorem Stocked.deliver (packet : Reception.Packet) (now : Nat) :
    (reassembly.deliver packet now).1.Stocked := by
  rw [Reassembly.deliver]
  split <;> exact h

end

theorem Stocked.retireAll {reassembly : Reassembly} (h : reassembly.Stocked) (drops : Nat)
    (leaving : List (Flight × RetireReason)) :
    (retireAll drops leaving reassembly).1.Stocked := by
  induction leaving generalizing reassembly with
  | nil => exact h
  | cons entry rest ih => exact ih (h.settleRetired entry.1)

theorem Stocked.evictOldest {reassembly : Reassembly} (h : reassembly.Stocked)
    (limit drops : Nat) : (reassembly.evictOldest limit drops).1.Stocked := by
  cases hold : oldestFlight reassembly.flights with
  | none =>
      rw [Reassembly.evictOldest, hold]
      exact h
  | some flight =>
      rw [evictOldest_of_some hold]
      have hout : (reassembly.withoutEvicted limit flight).Stocked := h
      exact hout.retireAll drops _

theorem Stocked.evictMany {reassembly : Reassembly} (h : reassembly.Stocked)
    (limit drops count : Nat) : (evictMany limit drops count reassembly).1.Stocked := by
  induction count generalizing reassembly with
  | zero => exact h
  | succ count ih => exact ih (h.evictOldest limit drops)

theorem Stocked.makeRoom {reassembly : Reassembly} (h : reassembly.Stocked) (drops : Nat) :
    (reassembly.makeRoom drops).1.Stocked := by
  rw [Reassembly.makeRoom]
  split
  · exact h
  · exact h.evictMany _ _ _

section
variable {reassembly : Reassembly} (h : reassembly.Stocked)
include h

theorem Stocked.push (packet : Reception.Packet) (drops now : Nat) :
    (reassembly.push packet drops now).1.Stocked := by
  rw [Reassembly.push]
  split
  · exact h.deliver packet now
  split
  · exact h
  · exact ((h.makeRoom drops).openFrame packet.header drops now).deliver packet now

theorem Stocked.step (call : Call) : (reassembly.step call).1.Stocked := by
  cases call with
  | push packet drops now => exact h.push packet drops now
  | sweep drops now => exact (h.with_flights _).retireAll drops _
  | drain drops => exact (h.with_flights _).retireAll drops _

end

theorem Stocked.run {reassembly : Reassembly} (h : reassembly.Stocked) (calls : List Call) :
    (reassembly.run calls).1.Stocked := by
  induction calls generalizing reassembly with
  | nil => exact h
  | cons call rest ih => exact ih (h.step call)

/-! ## Runs of twins -/

structure Appearance where
  call : Call
  reply : Reply
  signals : List Signal
  counters : Counters
  inFlight : List UInt32
deriving Repr, DecidableEq

def Step.appearance (step : Step) : Appearance where
  call := step.call
  reply := step.reply
  signals := step.signals
  counters := step.after.counters
  inFlight := step.after.flights.map Flight.id

theorem Twins.appearances {left right : Reassembly} (h : Twins left right)
    (hleft : left.Sound) (hright : right.Sound) (calls : List Call) :
    (left.trail calls).map Step.appearance = (right.trail calls).map Step.appearance := by
  induction calls generalizing left right with
  | nil => rfl
  | cons call rest ih =>
      obtain ⟨hnext, hanswer⟩ := h.step hleft hright call
      have hrest := ih hnext (hleft.step call).sound (hright.step call).sound
      have hhead : (left.perform call).appearance = (right.perform call).appearance := by
        simp only [Step.appearance, perform, hanswer, hnext.counters_eq,
          ids_alike hnext.flights_alike]
      rw [trail_cons, trail_cons, List.map_cons, List.map_cons, hhead, hrest]

/--
How many idle buffers are kept, even none at all, changes nothing that a run shows: not
the answers, nor the signals with the frames and their bytes, nor the counters and the
ids in flight after each step.  And there are never more idle buffers than allowed.
-/
theorem idle_buffers_leave_no_mark {settings : Settings} {spareBuffers : Nat}
    {reportsMissing : Bool} {start other : Reassembly}
    (hstart : create settings reportsMissing = .ok start)
    (hother : create { settings with spareBuffers } reportsMissing = .ok other)
    (calls : List Call) :
    (start.run calls).2 = (other.run calls).2 ∧
      (start.trail calls).map Step.appearance = (other.trail calls).map Step.appearance ∧
      (start.run calls).1.spares.length ≤ settings.spareBuffers ∧
      (other.run calls).1.spares.length ≤ spareBuffers := by
  have hsound := sound_of_create hstart
  have hsound' := sound_of_create hother
  rw [eq_initial_of_create hstart] at hsound ⊢
  rw [eq_initial_of_create hother] at hsound' ⊢
  have htwins : Twins (initial settings reportsMissing)
      (initial { settings with spareBuffers } reportsMissing) :=
    ⟨rfl, rfl, .nil, rfl, rfl⟩
  have hshown := htwins.appearances hsound hsound' calls
  have hstocked : (initial settings reportsMissing).Stocked := Nat.zero_le _
  have hstocked' : (initial { settings with spareBuffers } reportsMissing).Stocked :=
    Nat.zero_le _
  have hkept := hstocked.run calls
  have hkept' := hstocked'.run calls
  rw [Stocked, (hsound.run calls).settings_eq] at hkept
  rw [Stocked, (hsound'.run calls).settings_eq] at hkept'
  refine ⟨?_, hshown, hkept, hkept'⟩
  have hanswers := congrArg (List.map fun shown => (shown.reply, shown.signals)) hshown
  rw [List.map_map, List.map_map] at hanswers
  rw [run_eq_trail, run_eq_trail]
  exact hanswers

/-- A second frame with a gap, in the buffer of the first one or in a new one. -/
theorem idle_buffers_leave_no_mark_reused :
    let settings := { Settings.default with
      maxFrameSize := 16, stride := 4, maxPayload := 4, spareBuffers := 1 }
    let packet : Reception.Packet := ⟨⟨7, 0, 1, 4⟩, [10, 20, 30, 40], false, rfl, by decide⟩
    let later : Reception.Packet := ⟨⟨8, 1, 2, 1⟩, [50], false, rfl, by decide⟩
    let calls : List Call := [.push packet 0 5, .sweep 0 6, .push later 0 7, .drain 0]
    let start := initial settings false
    let other := initial { settings with spareBuffers := 0 } false
    create settings false = .ok start ∧
      create { settings with spareBuffers := 0 } false = .ok other ∧
      (start.run (calls.take 2)).1.spares ≠ (other.run (calls.take 2)).1.spares ∧
      (start.run calls).2 = (other.run calls).2 ∧
      (Signal.frames ((start.run calls).2.flatMap Prod.snd)).map Assembly.Frame.data =
        [[10, 20, 30, 40], [0, 0, 0, 0, 50]] := by
  intro settings packet later calls start other
  have hstart : create settings false = .ok start := rfl
  have hother : create { settings with spareBuffers := 0 } false = .ok other := rfl
  have hmark := idle_buffers_leave_no_mark hstart hother calls
  exact ⟨hstart, hother, by decide, hmark.1, by decide⟩

end Reassembly

end Framecast
