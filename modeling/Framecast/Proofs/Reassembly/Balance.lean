import Mathlib.Data.List.Induction
import Framecast.Proofs.Reassembly.History
import Framecast.Proofs.Reassembly.Retirement
import Framecast.Proofs.Statistics.Totals

/-!
# Balanced books

The counters of the reassembly, the frames in flight, the signals told so far and the
tally that is kept of the frames handed over are four accounts of the same run.  A state
is balanced with the signals that led to it when they agree; every function of the
state machine keeps that balance, so it holds after every call of every run.
-/

namespace Framecast

open Framecast.Assembly (Frame FrameState RetireReason Settings)
open Framecast.Statistics (Tally)

namespace Reassembly

/-! ## Packets held by the frames in flight -/

def held (flights : List Flight) : Nat :=
  (flights.map fun flight => flight.assembly.received).sum

theorem held_cons (flight : Flight) (rest : List Flight) :
    held (flight :: rest) = flight.assembly.received + held rest := rfl

theorem held_append (flights later : List Flight) :
    held (flights ++ later) = held flights + held later := by
  rw [held, List.map_append, List.sum_append]
  rfl

theorem held_perm {flights other : List Flight} (h : flights.Perm other) :
    held flights = held other :=
  (h.map _).sum_nat

theorem Flight.received_receive (flight : Flight) (packet : Reception.Packet) (now : Nat) :
    (flight.receive packet now).assembly.received =
      flight.assembly.received +
        if flight.assembly.verdict packet.header packet.payload = .accepted then 1 else 0 := by
  rw [Flight.receive_eq, Assembly.push]
  cases flight.assembly.verdict packet.header packet.payload with
  | accepted => rfl
  | rejected reason => cases reason <;> rfl

theorem map_receiveAt_of_forall_ne {flights : List Flight} {packet : Reception.Packet}
    (h : ∀ flight ∈ flights, flight.id ≠ packet.frameId) (now : Nat) :
    flights.map (receiveAt packet now) = flights := by
  have hsame : ∀ flight ∈ flights, receiveAt packet now flight = id flight :=
    fun flight hmem => if_neg (h flight hmem)
  rw [List.map_congr_left hsame, List.map_id]

/-- A packet that is accepted adds one to what the flights hold. -/
theorem Ascending.held_receiveAt {flights : List Flight} (h : Ascending flights)
    {packet : Reception.Packet} {flight : Flight}
    (hfound : lookup packet.frameId flights = some flight) (now : Nat) :
    held (flights.map (receiveAt packet now)) =
      held flights +
        if flight.assembly.verdict packet.header packet.payload = .accepted then 1 else 0 := by
  have hid := id_of_lookup hfound
  have hperm := h.perm_cons_filter (List.mem_of_find?_eq_some hfound)
  have hothers : ∀ other ∈ flights.filter (fun other => other.id ≠ flight.id),
      other.id ≠ packet.frameId := by
    intro other hmem
    rw [← hid]
    exact of_decide_eq_true (List.mem_filter.mp hmem).2
  have hown : receiveAt packet now flight = flight.receive packet now := if_pos hid
  rw [held_perm (hperm.map (receiveAt packet now)), held_perm hperm, List.map_cons,
    map_receiveAt_of_forall_ne hothers, hown, held_cons, held_cons, Flight.received_receive]
  omega

/-! ## Counting -/

theorem Counters.foldl_retire (counters : Counters) (frames : List Frame) :
    frames.foldl (fun counters frame => counters.retire frame.state) counters =
      { counters with
        emitted := counters.emitted + frames.length
        complete := counters.complete +
          frames.countP fun frame => frame.state = .complete
        incomplete := counters.incomplete +
          frames.countP fun frame => frame.state = .incomplete } := by
  induction frames generalizing counters with
  | nil => rfl
  | cons frame rest ih =>
      rw [List.foldl_cons, ih]
      cases hstate : frame.state <;> simp [retire, hstate] <;> omega

theorem Counters.count_eq (counters : Counters) (outcome : Assembly.Outcome) :
    counters.count outcome =
      { counters with
        accepted := counters.accepted + if outcome = .accepted then 1 else 0
        rejected := counters.rejected + if outcome = .accepted then 0 else 1 } := by
  cases outcome <;> rfl

theorem counters_settleRetired (reassembly : Reassembly) (flight : Flight) :
    (reassembly.settleRetired flight).counters =
      reassembly.counters.retire (retiredState flight) := by
  simp only [settleRetired, keepSpare]
  split <;> rfl

theorem counters_retireAll (drops : Nat) (leaving : List (Flight × RetireReason))
    (reassembly : Reassembly) :
    (retireAll drops leaving reassembly).1.counters =
      (Signal.frames (retireAll drops leaving reassembly).2).foldl
        (fun counters frame => counters.retire frame.state) reassembly.counters := by
  induction leaving generalizing reassembly with
  | nil => rfl
  | cons entry rest ih =>
      rw [retireAll_cons, Signal.frames_append, frames_retireSignals, List.singleton_append,
        List.foldl_cons, ih, counters_settleRetired]
      rfl

/-! ## Balance -/

/--
The counters of a state agree with its flights, with what was told so far, and with how
many packets it was given.
-/
structure Balanced (reassembly : Reassembly) (told : List Signal) (packets : Nat) : Prop where
  started_eq : reassembly.counters.started =
    reassembly.counters.emitted + reassembly.flights.length
  emitted_eq : reassembly.counters.emitted = (Signal.frames told).length
  complete_eq : reassembly.counters.complete =
    (Signal.frames told).countP fun frame => frame.state = .complete
  incomplete_eq : reassembly.counters.incomplete =
    (Signal.frames told).countP fun frame => frame.state = .incomplete
  evicted_eq : reassembly.counters.evicted =
    (Signal.retirements told).countP fun entry => entry.2.2 = .evicted
  answered_eq : reassembly.counters.accepted + reassembly.counters.rejected = packets
  accepted_eq : reassembly.counters.accepted =
    ((Signal.frames told).map Frame.received).sum + held reassembly.flights

theorem balanced_initial (settings : Settings) (reportsMissing : Bool) :
    Balanced (initial settings reportsMissing) [] 0 := ⟨rfl, rfl, rfl, rfl, rfl, rfl, rfl⟩

section
variable {reassembly : Reassembly} {told : List Signal} {packets : Nat}
  (h : reassembly.Balanced told packets)
include h

/-- Signals that tell of no retirement and hand over no frame do not matter. -/
theorem Balanced.tell {signals : List Signal} (hframes : Signal.frames signals = [])
    (hretirements : Signal.retirements signals = []) :
    reassembly.Balanced (told ++ signals) packets := by
  have hframes' : Signal.frames (told ++ signals) = Signal.frames told := by
    rw [Signal.frames_append, hframes, List.append_nil]
  have hretirements' : Signal.retirements (told ++ signals) = Signal.retirements told := by
    rw [Signal.retirements_append, hretirements, List.append_nil]
  exact {
    started_eq := h.started_eq
    emitted_eq := by rw [hframes', h.emitted_eq]
    complete_eq := by rw [hframes', h.complete_eq]
    incomplete_eq := by rw [hframes', h.incomplete_eq]
    evicted_eq := by rw [hretirements', h.evicted_eq]
    answered_eq := h.answered_eq
    accepted_eq := by rw [hframes', h.accepted_eq] }

/--
Flights that have been taken out retire in balance, if their evictions have been
counted before.
-/
theorem Balanced.retireAll {rest : Reassembly} {leaving : List (Flight × RetireReason)}
    (hflights : reassembly.flights.Perm (leaving.map Prod.fst ++ rest.flights))
    (hcounters : rest.counters = { reassembly.counters with
      evicted := reassembly.counters.evicted +
        leaving.countP fun entry => entry.2 = .evicted }) (drops : Nat) :
    (retireAll drops leaving rest).1.Balanced (told ++ (retireAll drops leaving rest).2)
      packets := by
  have hlength : reassembly.flights.length = leaving.length + rest.flights.length := by
    rw [hflights.length_eq, List.length_append, List.length_map]
  have hheld : held reassembly.flights = held (leaving.map Prod.fst) + held rest.flights := by
    rw [held_perm hflights, held_append]
  have hframes := frames_retireAll drops leaving rest
  -- a frame counts as many packets as its flight has received
  have hreceived : ((Signal.frames (Reassembly.retireAll drops leaving rest).2).map
      Frame.received).sum = held (leaving.map Prod.fst) := by
    rw [hframes, held, List.map_map, List.map_map]
    rfl
  have hevictions : (Signal.retirements (Reassembly.retireAll drops leaving rest).2).countP
      (fun entry => entry.2.2 = .evicted) = leaving.countP fun entry => entry.2 = .evicted := by
    rw [retirements_retireAll, List.countP_map]
    rfl
  have hafter := counters_retireAll drops leaving rest
  rw [Counters.foldl_retire, hcounters] at hafter
  constructor <;> rw [hafter]
  · rw [flights_retireAll, h.started_eq, hlength, hframes, List.length_map]
    exact (Nat.add_assoc _ _ _).symm
  · rw [Signal.frames_append, List.length_append, h.emitted_eq]
  · rw [Signal.frames_append, List.countP_append, h.complete_eq]
  · rw [Signal.frames_append, List.countP_append, h.incomplete_eq]
  · rw [Signal.retirements_append, List.countP_append, hevictions, h.evicted_eq]
  · exact h.answered_eq
  · rw [flights_retireAll, Signal.frames_append, List.map_append, List.sum_append, hreceived,
      h.accepted_eq, hheld, Nat.add_assoc]

/-! ## Making room -/

theorem Balanced.evictOldest (hsound : reassembly.Sound) (limit drops : Nat) :
    (reassembly.evictOldest limit drops).1.Balanced
      (told ++ (reassembly.evictOldest limit drops).2) packets := by
  cases hold : oldestFlight reassembly.flights with
  | none =>
      rw [Reassembly.evictOldest, hold]
      exact h.tell rfl rfl
  | some flight =>
      rw [evictOldest_of_some hold]
      refine h.retireAll ?_ rfl drops
      exact hsound.ascending.perm_cons_filter (oldestFlight_mem hold)

theorem Balanced.evictMany (hsound : reassembly.Sound)
    (hcapped : reassembly.settings.maxInFlight ≠ none) (limit drops count : Nat) :
    (evictMany limit drops count reassembly).1.Balanced
      (told ++ (evictMany limit drops count reassembly).2) packets := by
  induction count generalizing reassembly told with
  | zero => exact h.tell rfl rfl
  | succ count ih =>
      have hnext := (hsound.displaced_evictOldest hcapped limit drops 0).1
      rw [evictMany_succ, ← List.append_assoc]
      exact ih (h.evictOldest hsound limit drops) hnext.sound (hnext.capped hcapped)

theorem Balanced.makeRoom (hsound : reassembly.Sound) (drops : Nat) :
    (reassembly.makeRoom drops).1.Balanced (told ++ (reassembly.makeRoom drops).2) packets := by
  rw [Reassembly.makeRoom]
  cases hlimit : reassembly.settings.maxInFlight with
  | none => exact h.tell rfl rfl
  | some limit => exact h.evictMany hsound (by simp [hlimit]) limit drops _

/-! ## Opening and delivering -/

theorem Balanced.openFrame (header : Datagram.Header) (drops now : Nat) :
    (reassembly.openFrame header drops now).1.Balanced
      (told ++ (reassembly.openFrame header drops now).2) packets := by
  let flight := Flight.opened reassembly.takeBuffer.1 header drops now
  have hperm := insertFlight_perm flight reassembly.flights
  have hlength := hperm.length_eq
  have hheld : held (insertFlight flight reassembly.flights) = held reassembly.flights := by
    rw [held_perm hperm, held_cons]
    exact Nat.zero_add _
  refine Balanced.tell ?_ rfl rfl
  exact {
    started_eq := by
      show reassembly.counters.started + 1 = reassembly.counters.emitted +
        (insertFlight flight reassembly.flights).length
      rw [hlength, h.started_eq]
      rfl
    emitted_eq := h.emitted_eq
    complete_eq := h.complete_eq
    incomplete_eq := h.incomplete_eq
    evicted_eq := h.evicted_eq
    answered_eq := h.answered_eq
    accepted_eq := by
      show reassembly.counters.accepted = _ + held (insertFlight flight reassembly.flights)
      rw [hheld, h.accepted_eq] }

/-- An answer is counted, and an accepted packet is held by a flight. -/
theorem Balanced.answer {after : Reassembly} (outcome : Assembly.Outcome)
    (hcounters : after.counters = reassembly.counters.count outcome)
    (hlength : after.flights.length = reassembly.flights.length)
    (hheld : held after.flights =
      held reassembly.flights + if outcome = .accepted then 1 else 0) :
    after.Balanced told (packets + 1) := by
  have hanswered := h.answered_eq
  rw [Counters.count_eq] at hcounters
  constructor <;> rw [hcounters]
  · rw [hlength, h.started_eq]
  · exact h.emitted_eq
  · exact h.complete_eq
  · exact h.incomplete_eq
  · exact h.evicted_eq
  · show (_ + if outcome = .accepted then 1 else 0) + (_ + if _ then 0 else 1) = packets + 1
    split <;> omega
  · rw [hheld, h.accepted_eq, Nat.add_assoc]

theorem Balanced.deliver (hsound : reassembly.Sound) {packet : Reception.Packet}
    {flight : Flight} (hfound : reassembly.find? packet.frameId = some flight) (now : Nat) :
    (reassembly.deliver packet now).1.Balanced
      (told ++ (reassembly.deliver packet now).2.2) (packets + 1) := by
  rw [deliver_of_some hfound]
  refine Balanced.tell ?_ rfl (retirements_packetEvent ..)
  exact h.answer _ rfl (List.length_map _) (hsound.ascending.held_receiveAt hfound now)

theorem Balanced.push (hsound : reassembly.Sound) (packet : Reception.Packet)
    (drops now : Nat) :
    (reassembly.push packet drops now).1.Balanced
      (told ++ (reassembly.push packet drops now).2.2) (packets + 1) := by
  cases hfound : reassembly.find? packet.frameId with
  | some flight =>
      rw [push_of_present hfound]
      exact h.deliver hsound hfound now
  | none =>
      by_cases hlate : packet.frameId ∈ reassembly.evictedIds
      · rw [push_of_refused hfound hlate]
        refine Balanced.tell ?_ rfl (retirements_packetEvent ..)
        exact h.answer (.rejected .evicted) rfl rfl rfl
      · obtain ⟨hroom, hdisplaced, -⟩ := hsound.displaced_makeRoom drops packet.frameId
        obtain ⟨hopening, hopened⟩ :=
          hroom.sound.openFrame_spec (hdisplaced.of_absent hfound).1 drops now
        have hthere := (hopened packet.frameId).trans (if_pos rfl)
        rw [push_of_absent hfound hlate]
        simp only [← List.append_assoc]
        exact ((h.makeRoom hsound drops).openFrame packet.header drops now).deliver
          hopening.sound hthere now

/-! ## Sweeping and draining -/

omit h in
/-- The flights that are due, and those that a sweep leaves. -/
theorem perm_dueFlights (reassembly : Reassembly) (now : Nat) :
    reassembly.flights.Perm ((reassembly.dueFlights now).map Prod.fst ++
      reassembly.flights.filter fun flight =>
        (flight.due? reassembly.settings now).isNone) := by
  let isDue := fun flight : Flight => (flight.due? reassembly.settings now).isSome
  have hdue : (reassembly.dueFlights now).map Prod.fst = reassembly.flights.filter isDue := by
    rw [dueFlights, List.map_filterMap, ← List.filterMap_eq_filter]
    apply List.filterMap_congr
    intro flight _
    cases hreason : flight.due? reassembly.settings now <;> simp [isDue, Option.guard, hreason]
  have hstays : ∀ flight : Flight,
      (flight.due? reassembly.settings now).isNone = !isDue flight := by
    intro flight
    exact (Option.not_isSome _).symm
  simp only [hdue, hstays]
  exact (List.filter_append_perm isDue reassembly.flights).symm

theorem Balanced.sweep (drops now : Nat) :
    (reassembly.sweep drops now).1.Balanced (told ++ (reassembly.sweep drops now).2.2)
      packets := by
  have hnone : (reassembly.dueFlights now).countP (fun entry => entry.2 = .evicted) = 0 := by
    rw [List.countP_eq_zero]
    intro entry hmem
    simpa using ne_evicted_of_due hmem
  refine h.retireAll ?_ ?_ drops
  · exact perm_dueFlights reassembly now
  · rw [hnone]
    rfl

theorem Balanced.drain (drops : Nat) :
    (reassembly.drain drops).1.Balanced (told ++ (reassembly.drain drops).2.2) packets := by
  let leaving := reassembly.flights.map fun flight => (flight, RetireReason.shutdown)
  have hall : leaving.map Prod.fst = reassembly.flights := by
    rw [List.map_map]
    exact List.map_id _
  have hnone : leaving.countP (fun entry => entry.2 = .evicted) = 0 := by
    rw [List.countP_eq_zero]
    intro entry hmem
    obtain ⟨flight, -, rfl⟩ := List.mem_map.mp hmem
    simp
  have hretired : Balanced (Reassembly.retireAll drops leaving { reassembly with flights := [] }).1
      (told ++ (Reassembly.retireAll drops leaving { reassembly with flights := [] }).2)
      packets := by
    refine h.retireAll ?_ ?_ drops
    · rw [hall, List.append_nil]
    · rw [hnone]
      rfl
  show Balanced _ (told ++ (_ ++ _)) _
  rw [← List.append_assoc]
  exact hretired.tell (by split <;> rfl) (retirements_drained _)

end

/-! ## Runs -/

theorem Balanced.step {reassembly : Reassembly} {told : List Signal} {packets : Nat}
    (h : reassembly.Balanced told packets) (hsound : reassembly.Sound) (call : Call) :
    (reassembly.step call).1.Balanced (told ++ (reassembly.step call).2.2)
      (packets + if call.isPush then 1 else 0) := by
  cases call with
  | push packet drops now => exact h.push hsound packet drops now
  | sweep drops now => exact h.sweep drops now
  | drain drops => exact h.drain drops

theorem Balanced.run {reassembly : Reassembly} {told : List Signal} {packets : Nat}
    (h : reassembly.Balanced told packets) (hsound : reassembly.Sound) (calls : List Call) :
    (reassembly.run calls).1.Balanced
      (told ++ (reassembly.trail calls).flatMap Step.signals)
      (packets + calls.countP Call.isPush) := by
  induction calls generalizing reassembly told packets with
  | nil => exact h.tell rfl rfl
  | cons call rest ih =>
      have hrest := ih (h.step hsound call) (hsound.step call).sound
      rw [List.append_assoc, Nat.add_assoc, Nat.add_comm (if call.isPush then 1 else 0)] at hrest
      rw [List.countP_cons]
      exact hrest

/-! ## Frames that are handed over -/

theorem Sound.exists_flight_of_mem_frames {reassembly : Reassembly} (h : reassembly.Sound)
    {call : Call} {frame : Frame} (hmem : frame ∈ Signal.frames (reassembly.step call).2.2) :
    ∃ flight, reassembly.find? frame.id = some flight ∧
      frame = retiredFrame flight call.drops := by
  have habout : frame ∈ Signal.frames (Signal.about frame.id (reassembly.step call).2.2) := by
    rw [Signal.frames_about]
    exact List.mem_filter.mpr ⟨hmem, decide_eq_true rfl⟩
  rcases (h.turn call frame.id).2.frames_eq with ⟨hnone, -⟩ | ⟨flight, hfound, -, honly⟩
  · rw [hnone] at habout
    exact absurd habout List.not_mem_nil
  · rw [honly] at habout
    exact ⟨flight, hfound, List.mem_singleton.mp habout⟩

section
variable {settings : Settings} {reportsMissing : Bool} {start : Reassembly}
  (hstart : create settings reportsMissing = .ok start)
include hstart

theorem received_le_expected (calls : List Call) :
    ∀ frame ∈ Signal.frames ((start.trail calls).flatMap Step.signals),
      frame.received ≤ frame.expected := by
  -- a frame is handed over by the last call, or by the run that leads to it
  induction calls using List.reverseRecOn with
  | nil => simp
  | append_singleton calls call ih =>
      intro frame hmem
      rw [trail_append, List.flatMap_append, Signal.frames_append] at hmem
      rcases List.mem_append.mp hmem with hbefore | hlast
      · exact ih frame hbefore
      · have hsound := ((sound_of_create hstart).run calls).sound
        rw [trail_cons, trail_nil, List.flatMap_singleton] at hlast
        obtain ⟨flight, hfound, hframe⟩ := hsound.exists_flight_of_mem_frames hlast
        obtain ⟨life, -, hdescribes⟩ := exists_life_of_find? hstart hfound
        rw [hframe]
        exact (hdescribes.yields call.drops).received_le

/-! ## Every run -/

structure Accounts (state : Reassembly) (told : List Signal) (tally : Tally)
    (packets : Nat) : Prop where
  started_eq : state.counters.started = state.counters.emitted + state.flights.length
  emitted_split : state.counters.emitted =
    state.counters.complete + state.counters.incomplete
  emitted_eq_length : state.counters.emitted = (Signal.frames told).length
  emitted_eq_total : state.counters.emitted = tally.total
  complete_eq : tally.complete = state.counters.complete
  incomplete_eq : tally.incomplete = state.counters.incomplete
  incomplete_split : tally.incomplete = tally.incompleteByQueue + tally.incompleteByGap
  evicted_eq : state.counters.evicted =
    (Signal.retirements told).countP fun entry => entry.2.2 = .evicted
  answered_eq : state.counters.accepted + state.counters.rejected = packets
  accepted_eq : state.counters.accepted = tally.packetsReceived + held state.flights
  received_le : tally.packetsReceived ≤ tally.packetsExpected

/--
After every run, the counters agree with the frames in flight, with the signals that
were told and with the tally of the frames that were handed over.
-/
theorem counters_agree_with_tally (calls : List Call) :
    let told := (start.trail calls).flatMap Step.signals
    Accounts (start.run calls).1 told (Tally.addAll {} (Signal.frames told))
      (calls.countP Call.isPush) := by
  intro told
  have hbalanced : (start.run calls).1.Balanced told (calls.countP Call.isPush) := by
    have hinitial : start.Balanced [] 0 := by
      rw [eq_initial_of_create hstart]
      exact balanced_initial settings reportsMissing
    have hrun := hinitial.run (sound_of_create hstart) calls
    rw [List.nil_append, Nat.zero_add] at hrun
    exact hrun
  have htotals := Tally.totals_addAll (Signal.frames told)
  have htotal := hbalanced.emitted_eq.trans htotals.total_eq.symm
  have hcomplete := htotals.complete_eq.trans hbalanced.complete_eq.symm
  have hincomplete := htotals.incomplete_eq.trans hbalanced.incomplete_eq.symm
  exact {
    started_eq := hbalanced.started_eq
    emitted_split := by rw [htotal, htotals.total_split, hcomplete, hincomplete]
    emitted_eq_length := hbalanced.emitted_eq
    emitted_eq_total := htotal
    complete_eq := hcomplete
    incomplete_eq := hincomplete
    incomplete_split := htotals.incomplete_split
    evicted_eq := hbalanced.evicted_eq
    answered_eq := hbalanced.answered_eq
    accepted_eq := by rw [hbalanced.accepted_eq, htotals.received_eq]
    received_le := htotals.received_le_expected (received_le_expected hstart calls) }

end

/--
The books of a run in which a frame is evicted under pressure, another completes, a late
packet is refused and a third frame stays in flight.
-/
theorem counters_agree_with_tally_evicted :
    let settings := { Settings.default with
      maxFrameSize := 16, stride := 4, maxPayload := 4, maxInFlight := some 1 }
    let packet : Reception.Packet := ⟨⟨7, 1, 2, 1⟩, [10], false, rfl, by decide⟩
    let newer : Reception.Packet := ⟨⟨8, 0, 1, 1⟩, [20], false, rfl, by decide⟩
    let last : Reception.Packet := ⟨⟨9, 0, 2, 1⟩, [30], false, rfl, by decide⟩
    let start := initial settings false
    let calls : List Call :=
      [.push packet 0 5, .push newer 3 6, .sweep 3 7, .push packet 3 8, .push last 3 9]
    let told := (start.trail calls).flatMap Step.signals
    let tally : Tally := {
      total := 2, complete := 1, incomplete := 1, incompleteByQueue := 1,
      packetsExpected := 3, packetsReceived := 2 }
    create settings false = .ok start ∧
      Accounts (start.run calls).1 told tally 4 ∧ held (start.run calls).1.flights = 1 := by
  intro settings packet newer last start calls told tally
  have hstart : create settings false = .ok start := rfl
  have htally : Tally.addAll {} (Signal.frames told) = tally := by decide
  have haccounts := counters_agree_with_tally hstart calls
  exact ⟨hstart, htally ▸ haccounts, by decide⟩

end Reassembly

end Framecast
