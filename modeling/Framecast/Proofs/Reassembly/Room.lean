import Framecast.Proofs.Reassembly.Retirement

/-!
# Room for new frames

Under a limit there are never more frames in flight than it allows.  A frame gives way
only to one that is new while the limit is reached, and it is the one that was
opened first; the loop that makes room takes one round then and none otherwise.
Without a limit no frame gives way at all.
-/

namespace Framecast

open Framecast.Assembly (FrameState RetireReason Settings)

namespace Reassembly

/-! ## The oldest flight -/

def Flight.Precedes (flight other : Flight) : Prop :=
  flight.openedAt < other.openedAt ∨
    flight.openedAt = other.openedAt ∧ flight.id < other.id

theorem exists_oldestFlight {flights : List Flight} (h : flights ≠ []) :
    ∃ flight, oldestFlight flights = some flight := by
  cases flights with
  | nil => exact absurd rfl h
  | cons head rest =>
      rw [oldestFlight]
      cases oldestFlight rest with
      | none => exact ⟨head, rfl⟩
      | some other =>
          by_cases hlt : other.openedAt < head.openedAt
          · exact ⟨other, if_pos hlt⟩
          · exact ⟨head, if_neg hlt⟩

theorem oldestFlight_cons {head oldest : Flight} {rest : List Flight}
    (hold : oldestFlight (head :: rest) = some oldest) :
    (oldest = head ∧
        ∀ candidate, oldestFlight rest = some candidate →
          head.openedAt ≤ candidate.openedAt) ∨
      (oldestFlight rest = some oldest ∧ oldest.openedAt < head.openedAt) := by
  rw [oldestFlight] at hold
  cases hrest : oldestFlight rest with
  | none =>
      rw [hrest] at hold
      exact Or.inl ⟨(Option.some.inj hold).symm, by simp⟩
  | some candidate =>
      rw [hrest] at hold
      by_cases hlt : candidate.openedAt < head.openedAt
      · obtain rfl : candidate = oldest := by simpa [hlt] using hold
        exact Or.inr ⟨rfl, hlt⟩
      · obtain rfl : head = oldest := by simpa [hlt] using hold
        refine Or.inl ⟨rfl, ?_⟩
        intro other hother
        rw [← Option.some.inj hother]
        omega

theorem Ascending.oldestFlight_precedes {flights : List Flight} (h : Ascending flights)
    {oldest : Flight} (hold : oldestFlight flights = some oldest) :
    ∀ other ∈ flights, other ≠ oldest → oldest.Precedes other := by
  induction flights generalizing oldest with
  | nil => exact absurd hold (by simp [oldestFlight])
  | cons head rest ih =>
      have hrest : Ascending rest := List.Pairwise.of_cons h
      intro other hmem hne
      rcases oldestFlight_cons hold with ⟨rfl, hfirst⟩ | ⟨hold', hlt⟩
      · have hother : other ∈ rest := (List.mem_cons.mp hmem).resolve_left hne
        have hid : oldest.id < other.id := List.rel_of_pairwise_cons h hother
        obtain ⟨candidate, hcandidate⟩ := exists_oldestFlight (List.ne_nil_of_mem hother)
        have hle := hfirst candidate hcandidate
        -- the head was opened no later than the oldest of the rest, and its id is the least
        have htime : oldest.openedAt ≤ other.openedAt := by
          by_cases hsame : other = candidate
          · rw [hsame]
            exact hle
          · rcases ih hrest hcandidate other hother hsame with hlt | ⟨heq, -⟩ <;> omega
        rcases Nat.lt_or_eq_of_le htime with hlt | heq
        · exact Or.inl hlt
        · exact Or.inr ⟨heq, hid⟩
      · rcases List.mem_cons.mp hmem with rfl | hother
        · exact Or.inl hlt
        · exact ih hrest hold' other hother hne

/-! ## The size of the table -/

theorem length_openFrame (reassembly : Reassembly) (header : Datagram.Header)
    (drops now : Nat) :
    (reassembly.openFrame header drops now).1.flights.length =
      reassembly.flights.length + 1 :=
  (insertFlight_perm _ reassembly.flights).length_eq

theorem length_deliver (reassembly : Reassembly) (packet : Reception.Packet) (now : Nat) :
    (reassembly.deliver packet now).1.flights.length = reassembly.flights.length := by
  rw [deliver]
  split
  · rfl
  · exact List.length_map _

theorem Sound.length_evictOldest {reassembly : Reassembly} (h : reassembly.Sound)
    (hsome : 0 < reassembly.flights.length) (limit drops : Nat) :
    (reassembly.evictOldest limit drops).1.flights.length + 1 =
      reassembly.flights.length := by
  obtain ⟨flight, hold⟩ := exists_oldestFlight (List.ne_nil_of_length_pos hsome)
  have hlength := (h.ascending.perm_cons_filter (oldestFlight_mem hold)).length_eq
  rw [evictOldest_of_some hold, flights_retireAll, hlength]
  rfl

/-! ## Making room -/

/--
The loop that evicts the oldest frame as long as the limit is reached, with the number
of its rounds and what it tells.  The two rules exclude each other, so a loop that comes
to an end does so in one way only.
-/
inductive Clearing (limit drops : Nat) :
    Reassembly → Nat → Reassembly → List Signal → Prop where
  | done {state : Reassembly} (hroom : state.flights.length < limit) :
      Clearing limit drops state 0 state []
  | round {state last : Reassembly} {rounds : Nat} {later : List Signal}
      (hfull : limit ≤ state.flights.length)
      (hrest : Clearing limit drops (state.evictOldest limit drops).1 rounds last later) :
      Clearing limit drops state (rounds + 1) last
        ((state.evictOldest limit drops).2 ++ later)

theorem Clearing.room {limit drops rounds : Nat} {state last : Reassembly}
    {signals : List Signal} (h : Clearing limit drops state rounds last signals) :
    last.flights.length < limit := by
  induction h with
  | done hroom => exact hroom
  | round _ _ ih => exact ih

theorem Sound.clearing_evictMany {reassembly : Reassembly} (h : reassembly.Sound)
    (hcapped : reassembly.settings.maxInFlight ≠ none) {limit : Nat} (hpos : 0 < limit)
    (drops : Nat) {count : Nat} (hcount : reassembly.flights.length + 1 - limit = count) :
    Clearing limit drops reassembly count (evictMany limit drops count reassembly).1
      (evictMany limit drops count reassembly).2 := by
  induction count generalizing reassembly with
  | zero => exact .done (by omega)
  | succ count ih =>
      have hlength := h.length_evictOldest (by omega) limit drops
      have hnext := (h.displaced_evictOldest hcapped limit drops 0).1
      rw [evictMany_succ]
      exact .round (by omega) (ih hnext.sound (hnext.capped hcapped) (by omega))

/-- The rounds that make room are those of the loop, which comes to an end. -/
theorem Sound.clearing_makeRoom {reassembly : Reassembly} (h : reassembly.Sound) {limit : Nat}
    (hlimit : reassembly.settings.maxInFlight = some limit) (hpos : 0 < limit)
    (drops : Nat) :
    Clearing limit drops reassembly (reassembly.flights.length + 1 - limit)
      (reassembly.makeRoom drops).1 (reassembly.makeRoom drops).2 := by
  have hcapped : reassembly.settings.maxInFlight ≠ none := by simp [hlimit]
  rw [makeRoom, hlimit]
  exact h.clearing_evictMany hcapped hpos drops rfl

section
variable {reassembly : Reassembly} {limit : Nat}
  (hlimit : reassembly.settings.maxInFlight = some limit)
include hlimit

theorem makeRoom_of_room (hroom : reassembly.flights.length < limit) (drops : Nat) :
    reassembly.makeRoom drops = (reassembly, []) := by
  have hcount : reassembly.flights.length + 1 - limit = 0 := by omega
  rw [makeRoom, hlimit]
  simp only [hcount, evictMany]

theorem makeRoom_of_full (hfull : reassembly.flights.length = limit) (drops : Nat) :
    reassembly.makeRoom drops = reassembly.evictOldest limit drops := by
  have hcount : reassembly.flights.length + 1 - limit = 1 := by omega
  rw [makeRoom, hlimit]
  simp only [hcount, evictMany, List.append_nil]

end

/-! ## The limit holds -/

def Capped (reassembly : Reassembly) : Prop :=
  ∀ limit, reassembly.settings.maxInFlight = some limit →
    0 < limit ∧ reassembly.flights.length ≤ limit

theorem capped_initial {settings : Settings} (h : Valid settings) (reportsMissing : Bool) :
    (initial settings reportsMissing).Capped := by
  intro limit hlimit
  have hmem : (Assembly.Setting.maxInFlight, settings.maxInFlight.getD 1) ∈
      settings.nonZero := by
    simp [Settings.nonZero]
  have hpos := h.nonZero _ hmem
  replace hlimit : settings.maxInFlight = some limit := hlimit
  rw [hlimit] at hpos
  exact ⟨hpos, Nat.zero_le _⟩

theorem Capped.of_length_le {before after : Reassembly} (h : before.Capped)
    (hsettings : after.settings = before.settings)
    (hlength : after.flights.length ≤ before.flights.length) : after.Capped := by
  intro limit hlimit
  rw [hsettings] at hlimit
  obtain ⟨hpos, hle⟩ := h limit hlimit
  exact ⟨hpos, Nat.le_trans hlength hle⟩

theorem Capped.push {reassembly : Reassembly} (h : reassembly.Capped)
    (hsound : reassembly.Sound) (packet : Reception.Packet) (drops now : Nat) :
    (reassembly.push packet drops now).1.Capped := by
  cases hfound : reassembly.find? packet.frameId with
  | some flight =>
      rw [push_of_present hfound]
      exact h.of_length_le (hsound.deliver_spec hfound now).1.settings_eq
        (Nat.le_of_eq (length_deliver reassembly packet now))
  | none =>
      by_cases hlate : packet.frameId ∈ reassembly.evictedIds
      · rw [push_of_refused hfound hlate]
        exact h.of_length_le rfl (Nat.le_refl _)
      · intro limit hlimit
        rw [(hsound.push_absent_spec hfound hlate drops now).1.settings_eq] at hlimit
        have hpos := (h limit hlimit).1
        have hroom := (hsound.clearing_makeRoom hlimit hpos drops).room
        refine ⟨hpos, ?_⟩
        rw [push_of_absent hfound hlate]
        simp only [length_deliver, length_openFrame]
        omega

theorem Capped.step {reassembly : Reassembly} (h : reassembly.Capped)
    (hsound : reassembly.Sound) (call : Call) : (reassembly.step call).1.Capped := by
  have hsettings := (hsound.step call).settings_eq
  cases call with
  | push packet drops now => exact h.push hsound packet drops now
  | sweep drops now =>
      refine h.of_length_le hsettings ?_
      simp only [Reassembly.step, Reassembly.sweep, flights_retireAll]
      exact List.length_filter_le _ _
  | drain drops =>
      refine h.of_length_le hsettings ?_
      simp only [Reassembly.step, Reassembly.drain, flights_retireAll]
      exact Nat.zero_le _

theorem Capped.run {reassembly : Reassembly} (h : reassembly.Capped)
    (hsound : reassembly.Sound) (calls : List Call) : (reassembly.run calls).1.Capped := by
  induction calls generalizing reassembly with
  | nil => exact h
  | cons call rest ih => exact ih (h.step hsound call) (hsound.step call).sound

/-! ## What a push does to the other frames -/

structure Undisturbed (before after : Reassembly) (signals : List Signal) (frameId : UInt32) :
    Prop where
  retirements_eq : Signal.retirements signals = []
  frames_eq : Signal.frames signals = []
  others_eq : ∀ other, other ≠ frameId → after.find? other = before.find? other

/-- One frame gives way to that of a packet, and all others are left as they are. -/
structure Replaces (before after : Reassembly) (signals : List Signal)
    (packet : Reception.Packet) (drops : Nat) (victim : Flight) : Prop where
  mem : victim ∈ before.flights
  oldest : ∀ other ∈ before.flights, other ≠ victim → victim.Precedes other
  retirements_eq : Signal.retirements signals =
    [(victim.id, if victim.assembly.isComplete then .complete else .incomplete, .evicted)]
  signals_eq : ∃ outcome, signals =
    retireSignals before.reportsMissing victim .evicted drops ++
      [.event (.started packet.frameId packet.header.packetCount.toNat drops),
        .event (packetEvent packet packet.header.packetCount.toNat outcome)]
  gone : after.find? victim.id = none
  others_eq : ∀ other, other ≠ packet.frameId → other ≠ victim.id →
    after.find? other = before.find? other

theorem Sound.signals_push_absent {reassembly : Reassembly} (h : reassembly.Sound)
    {packet : Reception.Packet} (habsent : reassembly.find? packet.frameId = none)
    (hnew : packet.frameId ∉ reassembly.evictedIds) (drops now : Nat) :
    ∃ outcome, (reassembly.push packet drops now).2.2 =
      (reassembly.makeRoom drops).2 ++
        [.event (.started packet.frameId packet.header.packetCount.toNat drops),
          .event (packetEvent packet packet.header.packetCount.toNat outcome)] := by
  let room := reassembly.makeRoom drops
  let flight := Flight.opened room.1.takeBuffer.1 packet.header drops now
  obtain ⟨hroom, hdisplaced, -⟩ := h.displaced_makeRoom drops packet.frameId
  have hopened := (hroom.sound.openFrame_spec (hdisplaced.of_absent habsent).1 drops now).2
  have hfound : (room.1.openFrame packet.header drops now).1.find? packet.frameId =
      some flight := (hopened packet.frameId).trans (if_pos rfl)
  refine ⟨flight.assembly.verdict packet.header packet.payload, ?_⟩
  rw [push_of_absent habsent hnew]
  simp only [room] at hfound
  simp only [deliver_of_some hfound, List.append_assoc]
  rfl

theorem retirements_opening (packet : Reception.Packet) (count drops expected : Nat)
    (outcome : Assembly.Outcome) :
    Signal.retirements [.event (.started packet.frameId count drops),
      .event (packetEvent packet expected outcome)] = [] := by
  cases outcome <;> rfl

theorem frames_opening (packet : Reception.Packet) (count drops expected : Nat)
    (outcome : Assembly.Outcome) :
    Signal.frames [.event (.started packet.frameId count drops),
      .event (packetEvent packet expected outcome)] = [] := rfl

section
variable {reassembly : Reassembly} (h : reassembly.Sound) {packet : Reception.Packet}
  {drops : Nat}
include h

/-- A push disturbs no other frame, unless room has to be made for a new one. -/
theorem Sound.undisturbed
    (hroom : reassembly.find? packet.frameId = none → packet.frameId ∉ reassembly.evictedIds →
      reassembly.makeRoom drops = (reassembly, [])) (now : Nat) :
    Undisturbed reassembly (reassembly.push packet drops now).1
      (reassembly.push packet drops now).2.2 packet.frameId := by
  cases hfound : reassembly.find? packet.frameId with
  | some flight =>
      have hreceived := (h.deliver_spec hfound now).2
      rw [push_of_present hfound]
      refine ⟨?_, ?_, fun other hother => (hreceived other).trans (if_neg (Ne.symm hother))⟩
      · rw [deliver_of_some hfound]
        exact retirements_packetEvent ..
      · rw [deliver_of_some hfound]
        rfl
  | none =>
      by_cases hlate : packet.frameId ∈ reassembly.evictedIds
      · rw [push_of_refused hfound hlate]
        exact ⟨rfl, rfl, fun _ _ => rfl⟩
      · have hempty := hroom hfound hlate
        obtain ⟨-, buffer, flight, outcome, -, -, -, -, hseen⟩ :=
          h.push_absent_spec hfound hlate drops now
        obtain ⟨outcome', hsignals⟩ := h.signals_push_absent hfound hlate drops now
        rw [hempty, List.nil_append] at hsignals
        refine ⟨?_, ?_, ?_⟩
        · rw [hsignals, retirements_opening]
        · rw [hsignals, frames_opening]
        · intro other hother
          rw [(hseen other).1, if_neg (Ne.symm hother), hempty]

/-- At the limit the oldest frame gives way to a new one. -/
theorem Sound.replaces {limit : Nat}
    (hlimit : reassembly.settings.maxInFlight = some limit)
    (habsent : reassembly.find? packet.frameId = none)
    (hnew : packet.frameId ∉ reassembly.evictedIds)
    (hfull : reassembly.flights.length = limit) (hpos : 0 < limit) (now : Nat) :
    ∃ victim, Replaces reassembly (reassembly.push packet drops now).1
      (reassembly.push packet drops now).2.2 packet drops victim := by
  have hsome : reassembly.flights ≠ [] :=
    List.ne_nil_of_length_pos (Nat.lt_of_lt_of_eq hpos hfull.symm)
  obtain ⟨victim, hold⟩ := exists_oldestFlight hsome
  have hmem := oldestFlight_mem hold
  have hother : packet.frameId ≠ victim.id := fun hid =>
    lookup_eq_none_iff.mp habsent victim hmem hid.symm
  have hmade := (makeRoom_of_full hlimit hfull drops).trans (evictOldest_of_some hold limit drops)
  have hleft : ∀ frameId, (reassembly.makeRoom drops).1.find? frameId =
      if victim.id = frameId then none else reassembly.find? frameId := by
    intro frameId
    rw [hmade, find?_retireAll, h.find?_withoutEvicted]
  obtain ⟨-, buffer, flight, outcome, -, -, -, -, hseen⟩ :=
    h.push_absent_spec habsent hnew drops now
  obtain ⟨outcome', hsignals⟩ := h.signals_push_absent habsent hnew drops now
  have htold : (reassembly.makeRoom drops).2 =
      retireSignals reassembly.reportsMissing victim .evicted drops := by
    rw [hmade, signals_retireAll, List.flatMap_singleton]
    rfl
  rw [htold] at hsignals
  refine ⟨victim, hmem, h.ascending.oldestFlight_precedes hold, ?_, ⟨outcome', hsignals⟩, ?_, ?_⟩
  · rw [hsignals, Signal.retirements_append, retirements_retireSignals, retirements_opening,
      List.append_nil]
    rfl
  · rw [(hseen victim.id).1, if_neg hother, hleft, if_pos rfl]
  · intro other hnotNew hnotVictim
    rw [(hseen other).1, if_neg (Ne.symm hnotNew), hleft, if_neg (Ne.symm hnotVictim)]

end

/-! ## Without a limit -/

theorem Sound.reason_ne_evicted {reassembly : Reassembly} (h : reassembly.Sound)
    (huncapped : reassembly.settings.maxInFlight = none) (call : Call)
    {entry : UInt32 × FrameState × RetireReason}
    (hmem : entry ∈ Signal.retirements (reassembly.step call).2.2) :
    entry.2.2 ≠ .evicted := by
  cases call with
  | push packet drops now =>
      have hroom := (h.displaced_makeRoom drops packet.frameId).2.2 huncapped
      have hnone : Signal.retirements (reassembly.push packet drops now).2.2 = [] :=
        (h.undisturbed (fun _ _ => hroom) now).retirements_eq
      replace hmem : entry ∈ Signal.retirements (reassembly.push packet drops now).2.2 := hmem
      rw [hnone] at hmem
      exact absurd hmem List.not_mem_nil
  | sweep drops now =>
      replace hmem : entry ∈ Signal.retirements (reassembly.sweep drops now).2.2 := hmem
      rw [retirements_sweep] at hmem
      obtain ⟨due, hdue, rfl⟩ := List.mem_map.mp hmem
      exact ne_evicted_of_due hdue
  | drain drops =>
      replace hmem : entry ∈ Signal.retirements (reassembly.drain drops).2.2 := hmem
      rw [retirements_drain] at hmem
      obtain ⟨flight, -, rfl⟩ := List.mem_map.mp hmem
      simp [retirement]

theorem Sound.reasons_ne_evicted {reassembly : Reassembly} (h : reassembly.Sound)
    (huncapped : reassembly.settings.maxInFlight = none) (calls : List Call) :
    ∀ entry ∈ Signal.retirements ((reassembly.trail calls).flatMap Step.signals),
      entry.2.2 ≠ .evicted := by
  induction calls generalizing reassembly with
  | nil => simp
  | cons call rest ih =>
      have hstep := h.step call
      intro entry hmem
      rw [trail_cons, List.flatMap_cons, Signal.retirements_append] at hmem
      rcases List.mem_append.mp hmem with hfirst | hlater
      · exact h.reason_ne_evicted huncapped call hfirst
      · exact ih hstep.sound (hstep.settings_eq ▸ huncapped) entry hlater

/-! ## Every run -/

/-- A frame that is neither in flight nor remembered as evicted finds the table full. -/
def Crowded (reassembly : Reassembly) (limit : Nat) (frameId : UInt32) : Prop :=
  reassembly.find? frameId = none ∧ frameId ∉ reassembly.evictedIds ∧
    reassembly.flights.length = limit

theorem Sound.undisturbed_of_not_crowded {reassembly : Reassembly} (h : reassembly.Sound)
    (hcapped : reassembly.Capped) {limit : Nat}
    (hlimit : reassembly.settings.maxInFlight = some limit) {packet : Reception.Packet}
    (hnot : ¬ reassembly.Crowded limit packet.frameId) (drops now : Nat) :
    Undisturbed reassembly (reassembly.push packet drops now).1
      (reassembly.push packet drops now).2.2 packet.frameId := by
  refine h.undisturbed ?_ now
  intro habsent hnew
  have hroom : reassembly.flights.length < limit :=
    Nat.lt_of_le_of_ne (hcapped limit hlimit).2 fun hfull => hnot ⟨habsent, hnew, hfull⟩
  exact makeRoom_of_room hlimit hroom drops

/--
Under a limit no run has more frames in flight than it allows.  The loop that makes
room takes one round at the limit and none below it, and the push of a new frame at the
limit retires the oldest frame, while any other push retires none.  Without a limit no
frame is ever evicted.
-/
theorem only_the_oldest_gives_way {settings : Settings} {reportsMissing : Bool}
    {start : Reassembly} (hstart : create settings reportsMissing = .ok start)
    (calls : List Call) :
    let state := (start.run calls).1
    (∀ limit, settings.maxInFlight = some limit →
      state.flights.length ≤ limit ∧
        ∀ (packet : Reception.Packet) (drops now : Nat),
          let pushed := state.push packet drops now
          Clearing limit drops state (if state.flights.length = limit then 1 else 0)
              (state.makeRoom drops).1 (state.makeRoom drops).2 ∧
            (state.Crowded limit packet.frameId →
              ∃ victim, Replaces state pushed.1 pushed.2.2 packet drops victim) ∧
            (¬ state.Crowded limit packet.frameId →
              Undisturbed state pushed.1 pushed.2.2 packet.frameId)) ∧
      (settings.maxInFlight = none →
        ∀ entry ∈ Signal.retirements ((start.trail calls).flatMap Step.signals),
          entry.2.2 ≠ .evicted) := by
  intro state
  have hstarts := sound_of_create hstart
  have hinitial := eq_initial_of_create hstart
  have hterms : start.settings = settings := by
    rw [hinitial]
    rfl
  have hrun : Succeeds start state := hstarts.run calls
  have hcapped : state.Capped := by
    apply Capped.run _ hstarts calls
    rw [hinitial]
    exact capped_initial (valid_of_create hstart) reportsMissing
  constructor
  · intro limit hlimit
    rw [← hterms, ← hrun.settings_eq] at hlimit
    obtain ⟨hpos, hle⟩ := hcapped limit hlimit
    refine ⟨hle, fun packet drops now => ⟨?_, ?_, ?_⟩⟩
    · have hrounds : state.flights.length + 1 - limit =
          if state.flights.length = limit then 1 else 0 := by
        split <;> omega
      rw [← hrounds]
      exact hrun.sound.clearing_makeRoom hlimit hpos drops
    · rintro ⟨habsent, hnew, hfull⟩
      exact hrun.sound.replaces hlimit habsent hnew hfull hpos now
    · intro hnot
      exact hrun.sound.undisturbed_of_not_crowded hcapped hlimit hnot drops now
  · intro huncapped
    rw [← hterms] at huncapped
    exact hstarts.reasons_ne_evicted huncapped calls

/-- Of two frames that were opened at the same time, that of the lesser id gives way. -/
theorem only_the_oldest_gives_way_tied :
    let settings := { Settings.default with
      maxFrameSize := 16, stride := 4, maxPayload := 4, maxInFlight := some 2 }
    let packet : Reception.Packet := ⟨⟨7, 0, 2, 1⟩, [10], false, rfl, by decide⟩
    let tied : Reception.Packet := ⟨⟨3, 0, 1, 1⟩, [20], false, rfl, by decide⟩
    let newer : Reception.Packet := ⟨⟨9, 0, 1, 1⟩, [30], false, rfl, by decide⟩
    let start := initial settings false
    let calls : List Call := [.push packet 0 5, .push tied 0 5]
    let state := (start.run calls).1
    let pushed := state.push newer 0 4
    create settings false = .ok start ∧ state.Crowded 2 newer.frameId ∧
      ∃ victim, victim.id = 3 ∧ Replaces state pushed.1 pushed.2.2 newer 0 victim := by
  intro settings packet tied newer start calls
  have hstart : create settings false = .ok start := rfl
  have hcrowded : (start.run calls).1.Crowded 2 newer.frameId := by
    refine ⟨rfl, ?_, rfl⟩
    decide
  obtain ⟨victim, hreplaces⟩ :=
    (((only_the_oldest_gives_way hstart calls).1 2 rfl).2 newer 0 4).2.1 hcrowded
  have htold : Signal.retirements ((start.run calls).1.push newer 0 4).2.2 =
      [(3, .complete, .evicted)] := by decide
  have hid : victim.id = 3 := by
    rw [hreplaces.retirements_eq] at htold
    simp only [List.cons.injEq, Prod.mk.injEq] at htold
    exact htold.1.1
  exact ⟨hstart, hcrowded, victim, hid, hreplaces⟩

end Reassembly

end Framecast
