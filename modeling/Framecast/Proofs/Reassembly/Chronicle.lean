import Framecast.Proofs.Reassembly.History

/-!
# The events of a frame

The events about one frame tell its lives one after the other: each is opened,
reports its packets, and ends with the missing packets and the retirement.  Only
the last life may still lack its end.  In the events of all frames together a
retirement stands unbroken, with its missing packets right before it.
-/

namespace Framecast

open Framecast.Assembly (Attempt Event Frame FrameState Outcome RejectReason RetireReason
  Settings accepted)

namespace Reassembly

/-! ## The grammar of a frame's events -/

def acceptedIds (events : List Event) : List UInt16 :=
  events.filterMap fun
    | .accepted _ packetId .. => some packetId
    | _ => none

/-- How many events report an accepted packet that a gap preceded. -/
def hintedCount (events : List Event) : Nat :=
  events.countP fun
    | .accepted _ _ _ _ gapHint => gapHint
    | _ => false

inductive PacketReport (frameId : UInt32) (count : Nat) : Event → Prop where
  | accepted (packetId : UInt16) (payloadSize : Nat) (gapHint : Bool) :
      PacketReport frameId count (.accepted frameId packetId count payloadSize gapHint)
  | rejected (packetId : UInt16) {reason : RejectReason}
      (hreason : reason ∈ [RejectReason.outOfRange, .duplicate, .oversize, .overflow]) :
      PacketReport frameId count (.rejected frameId packetId reason)

/-- What a life of `count` packets reports between its opening and its end. -/
structure Reports (frameId : UInt32) (count : Nat) (reports : List Event) : Prop where
  nonempty : reports ≠ []
  each : ∀ report ∈ reports, PacketReport frameId count report
  ids_nodup : (acceptedIds reports).Nodup

structure Ending where
  missing : List UInt16
  state : FrameState
  reason : RetireReason
  received : Nat
  expected : Nat
  frameSize : Nat
  queuePressure : Bool
  gapHints : Nat

def Ending.events (frameId : UInt32) (ending : Ending) : List Event :=
  (ending.missing.map fun packetId => .missing frameId packetId ending.expected) ++
    [.retired frameId ending.state ending.reason ending.received ending.expected
      ending.frameSize ending.queuePressure ending.gapHints]

/-- The end gives a true account of what was reported before. -/
structure Ending.Settles (ending : Ending) (count : Nat) (reports : List Event) : Prop where
  expected_eq : ending.expected = count
  received_eq : ending.received = (acceptedIds reports).length
  gapHints_eq : ending.gapHints = hintedCount reports
  missing_ascending : ending.missing.Pairwise fun packetId later =>
    packetId.toNat < later.toNat
  /-- Every number below the count was either accepted or is missing, and only once. -/
  slots : ((acceptedIds reports ++ ending.missing).map UInt16.toNat).Perm
    (List.range ending.expected)
  missing_eq_nil : ending.state = .complete → ending.missing = []

/-- The events of a frame, life after life; the flag tells whether the last one goes on. -/
inductive Chronicle (frameId : UInt32) : Bool → List Event → Prop where
  | nil : Chronicle frameId false []
  /-- A late packet of an evicted frame is refused between two lives. -/
  | refused {events : List Event} (h : Chronicle frameId false events)
      (packetId : UInt16) :
      Chronicle frameId false (events ++ [.rejected frameId packetId .evicted])
  /-- A whole life. -/
  | finished {events reports : List Event} {count : Nat} {ending : Ending} (drops : Nat)
      (h : Chronicle frameId false events) (hreports : Reports frameId count reports)
      (hending : ending.Settles count reports) :
      Chronicle frameId false
        (events ++ .started frameId count drops :: reports ++ ending.events frameId)
  /-- A life that goes on. -/
  | unfinished {events reports : List Event} {count : Nat} (drops : Nat)
      (h : Chronicle frameId false events) (hreports : Reports frameId count reports) :
      Chronicle frameId true (events ++ .started frameId count drops :: reports)

/-! ## What a life reports -/

def report (frameId : UInt32) (count : Nat) (attempt : Attempt) : Event :=
  match attempt.outcome with
  | .accepted =>
      .accepted frameId attempt.id count attempt.header.payloadSize.toNat attempt.gapHint
  | .rejected reason => .rejected frameId attempt.id reason

def Life.reports (frameId : UInt32) (life : Life) : List Event :=
  life.attempts.map (report frameId life.opener.packetCount.toNat)

def Life.events (frameId : UInt32) (life : Life) : List Event :=
  .started frameId life.opener.packetCount.toNat life.dropsAtStart :: life.reports frameId

theorem packetEvent_eq_report (packet : Reception.Packet) (expected : Nat)
    (outcome : Outcome) :
    packetEvent packet expected outcome =
      report packet.frameId expected
        ⟨packet.header, packet.payload, packet.gapBefore, outcome⟩ := by
  cases outcome <;> rfl

theorem Life.events_record (frameId : UInt32) (life : Life) (packet : Reception.Packet)
    (outcome : Outcome) (now : Nat) :
    (life.record packet outcome now).events frameId =
      life.events frameId ++ [report frameId life.opener.packetCount.toNat
        ⟨packet.header, packet.payload, packet.gapBefore, outcome⟩] := by
  simp [events, reports, record]

theorem acceptedIds_map_report (frameId : UInt32) (count : Nat) (attempts : List Attempt) :
    acceptedIds (attempts.map (report frameId count)) =
      (accepted attempts).map Attempt.id := by
  induction attempts with
  | nil => rfl
  | cons attempt rest ih =>
      simp only [acceptedIds, accepted] at ih ⊢
      rw [List.map_cons]
      cases houtcome : attempt.outcome with
      | accepted => simp [report, houtcome, ih]
      | rejected reason => simp [report, houtcome, ih]

theorem hintedCount_map_report (frameId : UInt32) (count : Nat) (attempts : List Attempt) :
    hintedCount (attempts.map (report frameId count)) =
      (accepted attempts).countP (·.gapHint) := by
  induction attempts with
  | nil => rfl
  | cons attempt rest ih =>
      simp only [hintedCount, accepted] at ih ⊢
      rw [List.map_cons, List.countP_cons, ih]
      cases houtcome : attempt.outcome with
      | accepted => simp [report, houtcome, List.countP_cons]
      | rejected reason => simp [report, houtcome]

section
variable {settings : Settings} {reportsMissing : Bool} {frameId : UInt32} {life : Life}
  {flight : Flight}

/-- The packets of a frame in flight are refused for one of four reasons only. -/
theorem Life.Describes.reports (h : life.Describes settings frameId flight)
    (hbegun : life.Begun) :
    Reports frameId life.opener.packetCount.toNat (life.reports frameId) where
  nonempty := by
    obtain ⟨first, rest, hattempts, -⟩ := hbegun
    simp [Life.reports, hattempts]
  each := by
    intro event hmem
    obtain ⟨attempt, hattempt, rfl⟩ := List.mem_map.mp hmem
    have hexplained := h.reflects.explained attempt hattempt
    unfold Attempt.Explained at hexplained
    rw [report]
    split at hexplained
    all_goals rename_i houtcome; rw [houtcome]
    · exact .accepted ..
    · exact .rejected _ (by simp)
    · exact .rejected _ (by simp)
    · exact .rejected _ (by simp)
    · exact .rejected _ (by simp)
    · exact hexplained.elim
  ids_nodup := by
    rw [Life.reports, acceptedIds_map_report]
    exact h.reflects.ids_nodup

def Ending.of (flight : Flight) (reason : RetireReason) (drops : Nat) : Ending where
  missing := if retiredState flight = .incomplete then flight.assembly.missingPackets else []
  state := retiredState flight
  reason := reason
  received := flight.assembly.received
  expected := flight.assembly.expected
  frameSize := flight.assembly.frameSize
  queuePressure := decide (flight.dropsAtStart < drops)
  gapHints := flight.assembly.gapHints

theorem Ending.events_of (flight : Flight) (reason : RetireReason) (drops : Nat) :
    (Ending.of flight reason drops).events flight.id =
      Signal.events (retireSignals true flight reason drops) := by
  rw [events_retireSignals, missingEvents, Ending.events]
  by_cases hstate : retiredState flight = .incomplete
  · have hmissing : (Ending.of flight reason drops).missing =
        flight.assembly.missingPackets := if_pos hstate
    rw [hmissing, if_pos ⟨hstate, rfl⟩]
    rfl
  · have hmissing : (Ending.of flight reason drops).missing = [] := if_neg hstate
    rw [hmissing, if_neg fun h => hstate h.1]
    rfl

theorem Life.Describes.settles (h : life.Describes settings frameId flight)
    (reason : RetireReason) (drops : Nat) :
    (Ending.of flight reason drops).Settles life.opener.packetCount.toNat
      (life.reports frameId) := by
  have hreflects := h.reflects
  have hids : acceptedIds (life.reports frameId) = (accepted life.attempts).map Attempt.id :=
    acceptedIds_map_report ..
  have hsize : flight.assembly.present.size ≤ 65536 := hreflects.present_size ▸ h.expected_le
  exact {
    expected_eq := h.expected_eq
    received_eq := by
      rw [hids, List.length_map]
      exact hreflects.received_eq
    gapHints_eq := by
      rw [Life.reports, hintedCount_map_report]
      exact hreflects.gapHints_eq
    missing_ascending := by
      simp only [Ending.of]
      split
      · exact Assembly.missingPackets_ascending hsize
      · exact List.Pairwise.nil
    slots := by
      have hslots := hreflects.perm_range h.expected_le
      rw [hids]
      simp only [Ending.of]
      split
      · exact hslots
      · rename_i hstate
        -- a complete frame misses nothing, whether or not it says so
        have hfull : flight.assembly.isFull = true := by
          cases hfull : flight.assembly.isFull with
          | true => rfl
          | false => exact absurd (by simp [retiredState, Assembly.isComplete, hfull]) hstate
        rwa [(hreflects.isFull_iff h.expected_le).mp hfull] at hslots
    missing_eq_nil := by
      intro hcomplete
      simp only [Ending.of] at hcomplete ⊢
      rw [if_neg (by simp [hcomplete])] }

/-! ## Along a run -/

/-- The events tell past lives in full, and then the present one as far as it went. -/
def Tells (frameId : UInt32) (life? : Option Life) (events : List Event) : Prop :=
  ∃ past, Chronicle frameId false past ∧
    events = past ++ (life?.map (Life.events frameId)).getD []

theorem Tells.chronicle {events : List Event} (h : Tells frameId none events) :
    Chronicle frameId false events := by
  obtain ⟨past, hpast, rfl⟩ := h
  rw [Option.map_none, Option.getD_none, List.append_nil]
  exact hpast

theorem Chronicle.tells {events : List Event} (h : Chronicle frameId false events) :
    Tells frameId none events :=
  ⟨events, h, (List.append_nil events).symm⟩

/-- The retirement of a frame ends its life. -/
theorem Tells.retire {events : List Event} (htells : Tells frameId (some life) events)
    (h : life.Describes settings frameId flight) (hbegun : life.Begun)
    (reason : RetireReason) (drops : Nat) :
    Tells frameId none (events ++ Signal.events (retireSignals true flight reason drops)) := by
  obtain ⟨past, hpast, rfl⟩ := htells
  have hlife := hpast.finished life.dropsAtStart (h.reports hbegun) (h.settles reason drops)
  rw [← Ending.events_of, h.id_eq]
  exact hlife.tells

/-- A packet of the frame continues its life. -/
theorem Tells.record {events : List Event} (htells : Tells frameId (some life) events)
    {packet : Reception.Packet} (hframe : packet.frameId = frameId) (outcome : Outcome)
    (now : Nat) :
    Tells frameId (some (life.record packet outcome now))
      (events ++ [packetEvent packet life.opener.packetCount.toNat outcome]) := by
  obtain ⟨past, hpast, rfl⟩ := htells
  refine ⟨past, hpast, ?_⟩
  rw [packetEvent_eq_report, hframe, Option.map_some, Option.getD_some, Option.map_some,
    Option.getD_some, Life.events_record, List.append_assoc]

/-- Whatever turn a frame takes, its events go on telling its lives. -/
theorem Turn.tells {call : Call} {before after : Option Flight} {reply : Reply}
    {signals : List Signal} {life? : Option Life} {events : List Event}
    (h : Turn settings true frameId call before reply signals after)
    (hlife : Option.Rel (Life.Describes settings frameId) life? before)
    (hbegun : ∀ life ∈ life?, life.Begun) (htells : Tells frameId life? events) :
    Tells frameId (Life.next frameId life? call reply signals)
      (events ++ Signal.events signals) := by
  cases h with
  | passed hother =>
      rw [Life.next_of_other hother, Signal.events_nil, List.append_nil]
      exact htells
  | retired hother =>
      rw [Life.next_of_retired hother]
      cases hlife with
      | some hdescribes => exact htells.retire hdescribes (hbegun _ rfl) _ _
  | evicted hother =>
      rw [Life.next_of_retired (Call.frameId?_push_ne hother _ _)]
      cases hlife with
      | some hdescribes => exact htells.retire hdescribes (hbegun _ rfl) _ _
  | @refused packet _ _ hframe =>
      cases hlife
      rw [Life.next_of_refused hframe]
      exact (htells.chronicle.refused packet.header.packetId).tells
  | @opened packet drops now _ _ outcome hframe =>
      cases hlife
      have hopening : Tells frameId (some (Life.opened packet.header drops now))
          (events ++ [.started frameId packet.header.packetCount.toNat drops]) :=
        ⟨events, htells.chronicle, rfl⟩
      have hfirst := hopening.record hframe outcome now
      rw [List.append_assoc] at hfirst
      rw [Life.next_of_opened hframe]
      exact hfirst
  | @received packet drops now flight outcome hframe =>
      cases hlife with
      | some hdescribes =>
          have hnext := htells.record hframe outcome now
          rw [← hdescribes.expected_eq] at hnext
          rw [Life.next_of_received hframe]
          exact hnext

end

/-- Along every run from a sound state, the events of a frame tell its lives. -/
theorem Sound.follow_tells {reassembly : Reassembly} (h : reassembly.Sound)
    (hreports : reassembly.reportsMissing = true) (calls : List Call) {frameId : UInt32}
    {life? : Option Life} {events : List Event}
    (hlife : Option.Rel (Life.Describes reassembly.settings frameId) life?
      (reassembly.find? frameId))
    (hbegun : ∀ life ∈ life?, life.Begun) (htells : Tells frameId life? events) :
    Tells frameId (Life.follow frameId life? (reassembly.trail calls))
      (events ++ eventsOf frameId (reassembly.trail calls)) := by
  induction calls generalizing reassembly life? events with
  | nil =>
      rw [trail_nil, eventsOf_nil, List.append_nil]
      exact htells
  | cons call rest ih =>
      have hstep := h.step call
      have hturn := (h.turn call frameId).2
      have hnext := hturn.describes hlife
      rw [← hstep.settings_eq] at hnext
      rw [hreports] at hturn
      have hrest := ih hstep.sound (hstep.reportsMissing_eq.trans hreports) hnext
        (Life.begun_next hbegun call _ _) (hturn.tells hlife hbegun htells)
      rw [trail_cons, eventsOf_cons, ← List.append_assoc]
      exact hrest

/-- After every run, the events of a frame tell its past lives and the present one. -/
theorem lifeOf_tells {settings : Settings} {start : Reassembly}
    (hstart : create settings true = .ok start) (calls : List Call) (frameId : UInt32) :
    Tells frameId (lifeOf frameId (start.trail calls))
      (eventsOf frameId (start.trail calls)) := by
  have hsound := sound_of_create hstart
  rw [eq_initial_of_create hstart] at hsound ⊢
  exact hsound.follow_tells rfl calls .none (by simp) Chronicle.nil.tells

/-! ## The events of all frames -/

/-- Missing packets are told in one piece with the retirement that they belong to. -/
inductive Unbroken : List Event → Prop where
  | nil : Unbroken []
  | other {event : Event} {rest : List Event} (hother : event.isMissing = false)
      (h : Unbroken rest) : Unbroken (event :: rest)
  | ending {rest : List Event} (frameId : UInt32) (ending : Ending) (h : Unbroken rest) :
      Unbroken (ending.events frameId ++ rest)

namespace Unbroken

theorem append {events later : List Event} (h : Unbroken events) (h' : Unbroken later) :
    Unbroken (events ++ later) := by
  induction h with
  | nil => exact h'
  | other hother _ ih => exact .other hother ih
  | ending frameId ending _ ih =>
      rw [List.append_assoc]
      exact .ending frameId ending ih

theorem singleton {event : Event} (hother : event.isMissing = false) : Unbroken [event] :=
  .other hother .nil

/-- After a missing packet come the other ones missing, and then the retirement. -/
theorem after_missing {events : List Event} (h : Unbroken events) {before later : List Event}
    {frameId : UInt32} {packetId : UInt16} {count : Nat}
    (hsplit : events = before ++ .missing frameId packetId count :: later) :
    ∃ ending : Ending, ∃ rest, later = ending.events frameId ++ rest := by
  induction h generalizing before with
  | nil => exact absurd hsplit (by simp)
  | @other event rest hother _ ih =>
      cases before with
      | nil =>
          rw [(List.cons.inj hsplit).1] at hother
          exact absurd hother (by simp [Event.isMissing])
      | cons head tail => exact ih (List.cons.inj hsplit).2
  | @ending rest other ending _ ih =>
      obtain ⟨missing, state, reason, received, expected, frameSize, pressure, hints⟩ := ending
      induction missing generalizing before with
      | nil =>
          cases before with
          | nil => exact absurd (List.cons.inj hsplit).1 (by simp)
          | cons head tail => exact ih (List.cons.inj hsplit).2
      | cons first more ihMore =>
          cases before with
          | nil =>
              obtain ⟨hfirst, hmore⟩ := List.cons.inj hsplit
              have hframe : other = frameId := (Event.missing.inj hfirst).1
              subst hframe
              exact ⟨⟨more, state, reason, received, expected, frameSize, pressure, hints⟩,
                rest, hmore.symm⟩
          | cons head tail => exact ihMore (List.cons.inj hsplit).2

end Unbroken

theorem unbroken_retireSignals (reportsMissing : Bool) (flight : Flight)
    (reason : RetireReason) (drops : Nat) :
    Unbroken (Signal.events (retireSignals reportsMissing flight reason drops)) := by
  rw [events_retireSignals]
  cases reportsMissing with
  | true =>
      have hending := Unbroken.nil.ending flight.id (Ending.of flight reason drops)
      rw [List.append_nil, Ending.events_of, events_retireSignals] at hending
      exact hending
  | false =>
      rw [missingEvents, if_neg (by simp)]
      exact .singleton rfl

theorem unbroken_retireAll (drops : Nat) (leaving : List (Flight × RetireReason))
    (reassembly : Reassembly) :
    Unbroken (Signal.events (retireAll drops leaving reassembly).2) := by
  induction leaving generalizing reassembly with
  | nil => exact .nil
  | cons entry rest ih =>
      rw [retireAll_cons, Signal.events_append]
      exact (unbroken_retireSignals _ _ _ _).append (ih _)

theorem unbroken_evictMany (limit drops count : Nat) (reassembly : Reassembly) :
    Unbroken (Signal.events (evictMany limit drops count reassembly).2) := by
  induction count generalizing reassembly with
  | zero => exact .nil
  | succ count ih =>
      rw [evictMany_succ, Signal.events_append]
      refine Unbroken.append ?_ (ih _)
      cases holdest : oldestFlight reassembly.flights with
      | none =>
          rw [evictOldest, holdest]
          exact .nil
      | some flight =>
          rw [evictOldest_of_some holdest]
          exact unbroken_retireAll ..

theorem unbroken_makeRoom (reassembly : Reassembly) (drops : Nat) :
    Unbroken (Signal.events (reassembly.makeRoom drops).2) := by
  rw [makeRoom]
  cases reassembly.settings.maxInFlight with
  | none => exact .nil
  | some limit => exact unbroken_evictMany ..

theorem unbroken_deliver (reassembly : Reassembly) (packet : Reception.Packet) (now : Nat) :
    Unbroken (Signal.events (reassembly.deliver packet now).2.2) := by
  cases hfound : reassembly.find? packet.frameId with
  | none =>
      rw [deliver, hfound]
      exact .nil
  | some flight =>
      rw [deliver_of_some hfound]
      refine .singleton ?_
      cases flight.assembly.verdict packet.header packet.payload <;> rfl

theorem unbroken_push (reassembly : Reassembly) (packet : Reception.Packet)
    (drops now : Nat) :
    Unbroken (Signal.events (reassembly.push packet drops now).2.2) := by
  cases hfound : reassembly.find? packet.frameId with
  | some flight =>
      rw [push_of_present hfound]
      exact unbroken_deliver ..
  | none =>
      by_cases hlate : packet.frameId ∈ reassembly.evictedIds
      · rw [push_of_refused hfound hlate]
        exact .singleton rfl
      · rw [push_of_absent hfound hlate]
        simp only [Signal.events_append]
        refine (Unbroken.append ?_ (.singleton rfl)).append ?_
        · exact unbroken_makeRoom ..
        · exact unbroken_deliver ..

theorem unbroken_step (reassembly : Reassembly) (call : Call) :
    Unbroken (Signal.events (reassembly.step call).2.2) := by
  cases call with
  | push packet drops now => exact unbroken_push reassembly packet drops now
  | sweep drops now => exact unbroken_retireAll ..
  | drain drops =>
      have hlast : ∀ count,
          Signal.events (if 0 < count then [Signal.drained count] else []) = [] := by
        intro count
        split <;> rfl
      show Unbroken (Signal.events ((retireAll drops _ _).2 ++ _))
      rw [Signal.events_append, hlast, List.append_nil]
      exact unbroken_retireAll ..

theorem unbroken_trail (reassembly : Reassembly) (calls : List Call) :
    Unbroken (Signal.events ((reassembly.trail calls).flatMap Step.signals)) := by
  induction calls generalizing reassembly with
  | nil => exact .nil
  | cons call rest ih =>
      rw [trail_cons, List.flatMap_cons, Signal.events_append]
      exact (unbroken_step reassembly call).append (ih _)

/-! ## Openings -/

/-- A frame is opened by a packet of its own, which says how many packets it has. -/
theorem Turn.started_of_mem {settings : Settings} {reportsMissing : Bool} {frameId : UInt32}
    {call : Call} {before after : Option Flight} {reply : Reply} {signals : List Signal}
    (h : Turn settings reportsMissing frameId call before reply signals after)
    {count drops : Nat} (hmem : .started frameId count drops ∈ Signal.events signals) :
    ∃ packet now, call = .push packet drops now ∧ packet.frameId = frameId ∧
      packet.header.packetCount.toNat = count := by
  have hretired : ∀ flight reason drops',
      .started frameId count drops ∉
        Signal.events (retireSignals reportsMissing flight reason drops') := by
    intro flight reason drops'
    rw [events_retireSignals, missingEvents]
    split <;> simp [retiredEvent]
  cases h with
  | passed => exact absurd hmem List.not_mem_nil
  | retired => exact absurd hmem (hretired _ _ _)
  | evicted => exact absurd hmem (hretired _ _ _)
  | refused => exact absurd hmem (by simp)
  | @opened packet _ now _ _ outcome hframe =>
      rw [Signal.events_event, Signal.events_event, List.mem_cons] at hmem
      rcases hmem with hopening | hreport
      · obtain ⟨-, rfl, rfl⟩ := Event.started.inj hopening
        exact ⟨packet, now, rfl, hframe, rfl⟩
      · exact absurd hreport (by cases outcome <;> simp [packetEvent])
  | @received _ _ _ _ outcome =>
      exact absurd hmem (by cases outcome <;> simp [packetEvent])

theorem started_of_mem_trail {reassembly : Reassembly} (h : reassembly.Sound)
    {calls : List Call} {step : Step} (hstep : step ∈ reassembly.trail calls)
    {frameId : UInt32} {count drops : Nat}
    (hmem : .started frameId count drops ∈ Signal.events step.signals) :
    ∃ packet now, step.call = .push packet drops now ∧ packet.frameId = frameId ∧
      packet.header.packetCount.toNat = count := by
  induction calls generalizing reassembly with
  | nil => exact absurd hstep List.not_mem_nil
  | cons call rest ih =>
      rcases List.mem_cons.mp hstep with rfl | hrest
      · have hown : .started frameId count drops ∈
            Signal.events (Signal.about frameId (reassembly.step call).2.2) := by
          rw [Signal.events_about]
          exact List.mem_filter.mpr ⟨hmem, decide_eq_true rfl⟩
        exact (h.turn call frameId).2.started_of_mem hown
      · exact ih (h.step call).sound hrest

/-! ## The chronicle of a run -/

/--
When missing packets are reported, the events of every frame tell its lives in
order, the last one unfinished just when the frame is still in flight; missing
packets are told in one piece with their retirement; and the packet count of a
life is that of the packet which opened it.
-/
theorem events_tell_lives {settings : Settings} {start : Reassembly}
    (hstart : create settings true = .ok start) (calls : List Call) :
    let steps := start.trail calls
    (∀ frameId, Chronicle frameId ((start.run calls).1.isInFlight frameId)
        (eventsOf frameId steps)) ∧
      (∀ before later frameId packetId count,
        Signal.events (steps.flatMap Step.signals) =
            before ++ .missing frameId packetId count :: later →
          ∃ ending : Ending, ∃ rest, later = ending.events frameId ++ rest) ∧
      ∀ step ∈ steps, ∀ frameId count drops,
        .started frameId count drops ∈ Signal.events step.signals →
          ∃ packet now, step.call = .push packet drops now ∧ packet.frameId = frameId ∧
            packet.header.packetCount.toNat = count := by
  intro steps
  refine ⟨?_, ?_, ?_⟩
  · intro frameId
    have hsome : (lifeOf frameId steps).isSome = (start.run calls).1.isInFlight frameId :=
      isSome_lifeOf hstart calls frameId
    have htells : Tells frameId (lifeOf frameId steps) (eventsOf frameId steps) :=
      lifeOf_tells hstart calls frameId
    rw [← hsome]
    cases hlife : lifeOf frameId steps with
    | none =>
        rw [hlife] at htells
        exact htells.chronicle
    | some life =>
        rw [hlife] at htells
        obtain ⟨past, hpast, hevents⟩ := htells
        obtain ⟨flight, -, hdescribes⟩ := exists_flight_of_lifeOf hstart hlife
        rw [hevents]
        exact hpast.unfinished life.dropsAtStart
          (hdescribes.reports (begun_of_lifeOf hlife))
  · intro before later frameId packetId count hsplit
    exact (unbroken_trail start calls).after_missing hsplit
  · intro step hstep frameId count drops hmem
    exact started_of_mem_trail (sound_of_create hstart) hstep hmem

/-- An evicted frame has told its life in full, with the packet that it lacked. -/
theorem events_tell_lives_evicted :
    let settings := { Settings.default with
      maxFrameSize := 16, stride := 4, maxPayload := 4, maxInFlight := some 1 }
    let packet : Reception.Packet := ⟨⟨7, 1, 2, 3⟩, [30, 40, 50], true, rfl, by decide⟩
    let newer : Reception.Packet := ⟨⟨8, 0, 1, 1⟩, [99], false, rfl, by decide⟩
    let calls : List Call := [.push packet 0 5, .push newer 3 6, .push packet 3 7]
    let start := initial settings true
    let events : List Event :=
      [.started 7 2 0, .accepted 7 1 2 3 true, .missing 7 0 2,
        .retired 7 .incomplete .evicted 1 2 7 true 1, .rejected 7 1 .evicted]
    create settings true = .ok start ∧ eventsOf 7 (start.trail calls) = events ∧
      Chronicle 7 false events := by
  intro settings packet newer calls start events
  have hstart : create settings true = .ok start := rfl
  have hevents : eventsOf 7 (start.trail calls) = events := by decide
  have hover : (start.run calls).1.isInFlight 7 = false := by decide
  have hchronicle := (events_tell_lives hstart calls).1 7
  rw [hevents, hover] at hchronicle
  exact ⟨hstart, hevents, hchronicle⟩

end Reassembly

end Framecast
