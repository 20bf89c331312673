import Framecast.Proofs.Reassembly.Delivery
import Framecast.Proofs.Reassembly.Timing

/-!
# Duplicates

A frame whose packets all arrive is handed over whole, by a look at the timers or by the
drain at the end.  A duplicate that comes before that does no harm.  One that comes later
finds no frame in flight and no memory of one, so it opens the frame again: the frame is
handed over once just when none comes.
-/

namespace Framecast

open Framecast.Assembly (Frame Settings)
open Framecast.Datagram (fragment)

namespace Reassembly

/-! ## Runs that hand nothing over -/

/-- Without a cap, a frame stays away and unmentioned just when no packet of it comes. -/
theorem Turn.silent_iff {settings : Settings} {reportsMissing : Bool} {frameId : UInt32}
    {call : Call} {before after : Option Flight} {reply : Reply} {signals : List Signal}
    (huncapped : settings.maxInFlight = none)
    (h : Turn settings reportsMissing frameId call before reply signals after) :
    Signal.frames signals = [] ∧ after = none ↔ before = none ∧ packetsFor frameId [call] = [] := by
  cases h with
  | passed hother => simp [packetsFor_of_other hother]
  | retired => simp [frames_retireSignals]
  | evicted => simp [frames_retireSignals]
  | refused _ hcapped => exact absurd huncapped hcapped
  | opened hframe => simp [packetsFor_push hframe]
  | received => simp

/-- A drain hands a frame over just when it is in flight. -/
theorem Turn.drain_silent_iff {settings : Settings} {reportsMissing : Bool} {frameId : UInt32}
    {drops : Nat} {before after : Option Flight} {reply : Reply} {signals : List Signal}
    (h : Turn settings reportsMissing frameId (.drain drops) before reply signals after) :
    Signal.frames signals = [] ↔ before = none := by
  cases h with
  | passed _ hstays =>
      cases before with
      | none => simp
      | some flight => exact absurd (hstays flight rfl) (by simp [Call.dismisses])
  | retired => simp [frames_retireSignals]

/-- Without a cap, a run with a drain at its end tells whether a frame was ever there. -/
theorem Sound.framesOf_drained_eq_nil_iff {state : Reassembly} (h : state.Sound)
    (huncapped : state.settings.maxInFlight = none) (frameId : UInt32) (calls : List Call)
    (drops : Nat) :
    framesOf frameId (state.trail (calls ++ [.drain drops])) = [] ↔
      state.find? frameId = none ∧ packetsFor frameId calls = [] := by
  induction calls generalizing state with
  | nil =>
      rw [List.nil_append, trail_cons, trail_nil, framesOf_cons, framesOf_nil, List.append_nil,
        signals_perform, (h.turn (.drain drops) frameId).2.drain_silent_iff]
      exact (and_iff_left rfl).symm
  | cons call rest ih =>
      have hstep := h.step call
      have hturn := (h.turn call frameId).2.silent_iff huncapped
      rw [← hstep.settings_eq] at huncapped
      rw [List.cons_append, trail_cons, framesOf_cons, List.append_eq_nil_iff,
        ih hstep.sound huncapped, ← List.singleton_append, packetsFor_append,
        List.append_eq_nil_iff, ← and_assoc, ← and_assoc, ← hturn]
      rfl

/-- Without a cap, a frame that is in flight was brought there by a packet. -/
theorem Sound.packetsFor_ne_nil_of_find? {state : Reassembly} (h : state.Sound)
    (huncapped : state.settings.maxInFlight = none) {frameId : UInt32} {calls : List Call}
    (habsent : state.find? frameId = none)
    (hfound : (state.run calls).1.find? frameId ≠ none) : packetsFor frameId calls ≠ [] := by
  intro hnone
  have hsilent := (h.framesOf_drained_eq_nil_iff huncapped frameId calls 0).mpr ⟨habsent, hnone⟩
  have hrun := h.run calls
  rw [trail_append, framesOf_append, List.append_eq_nil_iff] at hsilent
  rw [← hrun.settings_eq] at huncapped
  have hlast := hrun.sound.framesOf_drained_eq_nil_iff huncapped frameId [] 0
  exact hfound (hlast.mp hsilent.2).1

/-! ## The first time a frame is handed over -/

/-- A frame that is handed over is handed over by some call for the first time. -/
theorem exists_first_of_framesOf_ne_nil {state : Reassembly} {frameId : UInt32}
    {calls : List Call} (h : framesOf frameId (state.trail calls) ≠ []) :
    ∃ earlier call later, calls = earlier ++ call :: later ∧
      framesOf frameId (state.trail earlier) = [] ∧
        framesOf frameId ((state.run earlier).1.trail [call]) ≠ [] := by
  induction calls generalizing state with
  | nil => exact absurd rfl h
  | cons call rest ih =>
      by_cases hcall : framesOf frameId (state.trail [call]) = []
      · rw [trail_cons, ← List.singleton_append, framesOf_append] at h
        rw [trail_cons, trail_nil] at hcall
        rw [hcall, List.nil_append] at h
        obtain ⟨earlier, next, later, rfl, hnone, hsome⟩ := ih h
        refine ⟨call :: earlier, next, later, rfl, ?_, hsome⟩
        rw [trail_cons, ← List.singleton_append, framesOf_append, hcall, hnone]
        rfl
      · exact ⟨[], call, rest, rfl, rfl, hcall⟩

theorem framesOf_split (state : Reassembly) (frameId : UInt32) (earlier : List Call)
    (call : Call) (later : List Call) :
    framesOf frameId (state.trail (earlier ++ call :: later)) =
      framesOf frameId (state.trail earlier) ++
        (framesOf frameId ((state.run earlier).1.trail [call]) ++
          framesOf frameId ((state.run (earlier ++ [call])).1.trail later)) := by
  have hcalls : earlier ++ call :: later = earlier ++ ([call] ++ later) := rfl
  rw [hcalls, trail_append, framesOf_append, trail_append, framesOf_append, run_append_state]

/-- The call that hands a frame over hands over its flight, and leaves none. -/
theorem Sound.exists_flight_of_framesOf_ne_nil {state : Reassembly} (h : state.Sound)
    {frameId : UInt32} {call : Call} (hframes : framesOf frameId (state.trail [call]) ≠ []) :
    ∃ flight, state.find? frameId = some flight ∧
      (state.step call).1.find? frameId = none ∧
      framesOf frameId (state.trail [call]) = [retiredFrame flight call.drops] := by
  rw [trail_cons, trail_nil, framesOf_cons, framesOf_nil, List.append_nil] at hframes ⊢
  rcases (h.turn call frameId).2.frames_eq with ⟨hnone, -⟩ | ⟨flight, hfound, hgone, hone⟩
  · exact absurd hnone hframes
  · exact ⟨flight, hfound, hgone, hone⟩

/-! ## Frames that arrive whole -/

/-- As long as a frame is not handed over, just what came of it so far has arrived. -/
theorem Transfer.exists_arrival_so_far {settings : Settings} {reportsMissing : Bool}
    {start : Reassembly} (hstart : create settings reportsMissing = .ok start)
    (huncapped : settings.maxInFlight = none) {frameId : UInt32} {original : Bytes}
    {packets : List Datagram.Packet}
    (h : Transfer settings frameId original packets packets) {calls : List Call}
    (hcopies : ∀ received ∈ packetsFor frameId calls, ∃ sent ∈ packets,
      Arrives settings.stride sent received)
    (hstays : framesOf frameId (start.trail calls) = []) {flight : Flight}
    (hfound : (start.run calls).1.find? frameId = some flight) :
    ∃ kept life, Arrival settings frameId original packets kept life flight := by
  classical
  -- the packets of which a copy came so far
  let kept := packets.filter fun sent =>
    ∃ received ∈ packetsFor frameId calls, Arrives settings.stride sent received
  have habsent : (start.run []).1.isInFlight frameId = false :=
    isInFlight_of_create hstart frameId
  have hdelivers : Delivers settings.stride frameId kept calls := by
    constructor
    · intro received hmem
      obtain ⟨sent, hsent, harrives⟩ := hcopies received hmem
      exact ⟨sent, List.mem_filter.mpr ⟨hsent, by simpa using ⟨received, hmem, harrives⟩⟩,
        harrives⟩
    · intro sent hmem
      simpa using (List.mem_filter.mp hmem).2
  have hcame : packetsFor frameId calls ≠ [] := by
    apply (sound_of_create hstart).packetsFor_ne_nil_of_find?
    · rw [settings_of_create hstart, huncapped]
    · exact find?_of_create hstart frameId
    · simp [hfound]
  have hkept : kept ≠ [] := by
    obtain ⟨received, hmem⟩ := List.exists_mem_of_ne_nil _ hcame
    obtain ⟨sent, hsent, -⟩ := hdelivers.of_kept received hmem
    exact List.ne_nil_of_mem hsent
  have htransfer : Transfer settings frameId original packets kept :=
    ⟨h.fragment_eq, List.filter_sublist, h.stride_le, h.fits⟩
  obtain ⟨life, other, hother, harrival⟩ :=
    htransfer.exists_arrival hstart huncapped hkept habsent hdelivers hstays
  obtain rfl : other = flight := Option.some.inj (hother.symm.trans hfound)
  exact ⟨kept, life, harrival⟩

theorem Arrival.kept_eq_of_isFull {settings : Settings} {frameId : UInt32} {original : Bytes}
    {packets kept : List Datagram.Packet} {life : Life} {flight : Flight}
    (h : Arrival settings frameId original packets kept life flight)
    (hfull : flight.assembly.isFull = true) : kept = packets := by
  rw [Assembly.isFull, beq_iff_eq, h.holds.received_eq, h.holds.expected_eq] at hfull
  exact h.length_eq_iff.mp hfull

/-- Before the drain, a frame that is handed over in time is full. -/
theorem Patient.full_of_handed {frameId : UInt32} {state : Reassembly} (hsound : state.Sound)
    (huncapped : state.settings.maxInFlight = none) {call : Call} {rest : List Call}
    (h : Patient frameId state (call :: rest)) (hdrain : ∀ drops, call ≠ .drain drops)
    {flight : Flight} (hfound : state.find? frameId = some flight)
    (hgone : (state.step call).1.find? frameId = none) : flight.assembly.isFull = true := by
  have hturn := (hsound.turn call frameId).2
  rw [hfound, hgone] at hturn
  generalize Signal.about frameId (state.step call).2.2 = signals at hturn
  generalize (state.step call).2.1 = reply at hturn
  cases hturn with
  | evicted _ hcapped => exact absurd huncapped hcapped
  | @retired _ _ reason _ _ hreason =>
      cases call with
      | push => exact absurd hreason (by simp [Call.dismisses])
      | sweep drops now => exact (h.full_of_due? hfound hreason).2
      | drain drops => exact absurd rfl (hdrain drops)

/-! ## Once and again -/

section
variable {settings : Settings} {reportsMissing : Bool} {start : Reassembly}
  (hstart : create settings reportsMissing = .ok start)
  (huncapped : settings.maxInFlight = none) {frameId : UInt32} {original : Bytes}
  {packets : List Datagram.Packet}
  (h : Transfer settings frameId original packets packets) (hpackets : packets ≠ [])
  {calls : List Call} (hdelivers : Delivers settings.stride frameId packets calls)
  (hdrain : ∀ call ∈ calls, ∀ drops, call ≠ .drain drops)
  (hpatient : Patient frameId start calls) (drops : Nat)
include hstart huncapped h hpackets hdelivers hdrain hpatient

/-- Of a frame that arrives, the first thing handed over is the whole frame. -/
theorem Transfer.exists_first_whole :
    ∃ first rest, framesOf frameId (start.trail (calls ++ [.drain drops])) = first :: rest ∧
      Restores settings.stride packets packets original first := by
  have hsound := sound_of_create hstart
  have hcap : start.settings.maxInFlight = none := by
    rw [settings_of_create hstart, huncapped]
  by_cases hstays : framesOf frameId (start.trail calls) = []
  · -- it is the drain that hands the frame over
    have habsent : (start.run []).1.isInFlight frameId = false :=
      isInFlight_of_create hstart frameId
    obtain ⟨life, flight, hfound, harrival⟩ :=
      h.exists_arrival hstart huncapped hpackets habsent hdelivers hstays
    have hrun := hsound.run calls
    rw [← hrun.settings_eq] at hcap
    have hlast : framesOf frameId ((start.run calls).1.trail [.drain drops]) ≠ [] := by
      intro hnone
      have hgone := (hrun.sound.framesOf_drained_eq_nil_iff hcap frameId [] drops).mp hnone
      rw [List.nil_append] at hfound
      rw [hfound] at hgone
      exact absurd hgone.1 (by simp)
    obtain ⟨other, hother, -, hone⟩ := hrun.sound.exists_flight_of_framesOf_ne_nil hlast
    obtain rfl : flight = other := Option.some.inj (hfound.symm.trans hother)
    refine ⟨_, [], ?_, harrival.restores drops⟩
    rw [trail_append, framesOf_append, hstays, hone]
    rfl
  · -- a look at the timers does, so the frame was full
    obtain ⟨earlier, call, later, rfl, hnone, hsome⟩ := exists_first_of_framesOf_ne_nil hstays
    have hrun := hsound.run earlier
    rw [← hrun.settings_eq] at hcap
    obtain ⟨flight, hfound, hgone, hone⟩ := hrun.sound.exists_flight_of_framesOf_ne_nil hsome
    have hfull := hpatient.run.full_of_handed hrun.sound hcap (hdrain call (by simp)) hfound hgone
    have hcopies : ∀ received ∈ packetsFor frameId earlier, ∃ sent ∈ packets,
        Arrives settings.stride sent received := by
      intro received hmem
      apply hdelivers.of_kept
      rw [packetsFor_append]
      exact List.mem_append_left _ hmem
    obtain ⟨kept, life, harrival⟩ :=
      h.exists_arrival_so_far hstart huncapped hcopies hnone hfound
    obtain rfl := harrival.kept_eq_of_isFull hfull
    refine ⟨_, framesOf frameId ((start.run (earlier ++ [call])).1.trail
      (later ++ [.drain drops])), ?_, harrival.restores call.drops⟩
    rw [List.append_assoc, List.cons_append, framesOf_split, hnone, hone]
    rfl

/-- It is handed over once just when no packet of it comes after it was handed over. -/
theorem Transfer.once_iff :
    (∃ frame, framesOf frameId (start.trail (calls ++ [.drain drops])) = [frame]) ↔
      ∀ earlier call later, calls = earlier ++ call :: later →
        framesOf frameId ((start.run earlier).1.trail [call]) ≠ [] →
          packetsFor frameId later = [] := by
  have hsound := sound_of_create hstart
  have hcap : start.settings.maxInFlight = none := by
    rw [settings_of_create hstart, huncapped]
  have hlast : ∀ earlier call later, framesOf frameId
      ((start.run (earlier ++ [call])).1.trail (later ++ [.drain drops])) = [] ↔
        (start.run (earlier ++ [call])).1.find? frameId = none ∧
          packetsFor frameId later = [] := by
    intro earlier call later
    have hrun := hsound.run (earlier ++ [call])
    exact hrun.sound.framesOf_drained_eq_nil_iff (hrun.settings_eq ▸ hcap) frameId later drops
  constructor
  · rintro ⟨frame, hone⟩ earlier call later rfl hsome
    have hlength := congrArg List.length hone
    rw [List.append_assoc, List.cons_append, framesOf_split, List.length_append,
      List.length_append, List.length_singleton] at hlength
    have hpositive := List.length_pos_iff.mpr hsome
    exact ((hlast earlier call later).mp (List.length_eq_zero_iff.mp (by omega))).2
  · intro hnever
    obtain ⟨first, rest, hfirst, -⟩ := h.exists_first_whole hstart huncapped hpackets hdelivers
      hdrain hpatient drops
    by_cases hstays : framesOf frameId (start.trail calls) = []
    · rw [trail_append, framesOf_append, hstays, List.nil_append] at hfirst ⊢
      have hsome : framesOf frameId ((start.run calls).1.trail [.drain drops]) ≠ [] := by
        simp [hfirst]
      have hrun := hsound.run calls
      obtain ⟨flight, -, -, hone⟩ := hrun.sound.exists_flight_of_framesOf_ne_nil hsome
      exact ⟨_, hone⟩
    · obtain ⟨earlier, call, later, rfl, hnone, hsome⟩ :=
        exists_first_of_framesOf_ne_nil hstays
      have hrun := hsound.run earlier
      obtain ⟨flight, -, hgone, hone⟩ := hrun.sound.exists_flight_of_framesOf_ne_nil hsome
      have hrest : (start.run (earlier ++ [call])).1.find? frameId = none := by
        rw [run_append_state]
        exact hgone
      refine ⟨retiredFrame flight call.drops, ?_⟩
      rw [List.append_assoc, List.cons_append, framesOf_split, hnone, hone,
        (hlast earlier call later).mpr ⟨hrest, hnever earlier call later rfl hsome⟩]
      rfl

end

/--
All packets of a frame arrive in a run that drains only at its end, without a cap on the
frames in flight, in any order and any number of times, and no timer of the frame expires.
Then the first frame handed over under its id is complete and has the bytes of the
original, and it is the only one just when no packet of the frame arrives after the frame
was handed over.
-/
theorem delivered_frame_comes_once_iff {settings : Settings} {reportsMissing : Bool}
    {start : Reassembly} (hstart : create settings reportsMissing = .ok start)
    (hpayload : settings.maxPayload = settings.stride)
    (huncapped : settings.maxInFlight = none) {original : Bytes} (hbytes : original ≠ [])
    (hfits : original.length ≤ settings.maxFrameSize)
    (hcount : Datagram.packetsNeeded original.length settings.stride ≤ Datagram.maxPackets)
    (frameId : UInt32) :
    ∃ packets, fragment frameId original settings.stride = .ok packets ∧
      ∀ calls drops, Delivers settings.maxPayload frameId packets calls →
        (∀ call ∈ calls, ∀ count, call ≠ .drain count) → Patient frameId start calls →
          let steps := start.trail (calls ++ [.drain drops])
          (∃ first rest, framesOf frameId steps = first :: rest ∧ first.state = .complete ∧
            first.complete = true ∧ first.corrupted = false ∧ first.data = original) ∧
          ((∃ frame, framesOf frameId steps = [frame]) ↔
            ∀ earlier call later, calls = earlier ++ call :: later →
              framesOf frameId ((start.run earlier).1.trail [call]) ≠ [] →
                packetsFor frameId later = []) := by
  have hvalid := valid_of_create hstart
  have hpositive : 0 < settings.stride :=
    hvalid.nonZero (.stride, settings.stride) (by simp [Settings.nonZero])
  have hstride : settings.stride ≤ Reception.payloadCapacity :=
    hpayload ▸ hvalid.maxPayload_le_capacity
  obtain ⟨packets, hfragment⟩ := Datagram.fragment_ok frameId hpositive hcount
  have h : Transfer settings frameId original packets packets :=
    ⟨hfragment, List.Sublist.refl _, hstride, hfits⟩
  have hpackets : packets ≠ [] := by
    have hlt := Datagram.div_lt_packetsNeeded hpositive (List.length_pos_iff.mpr hbytes)
    rw [← Datagram.length_of_fragment hfragment] at hlt
    exact List.length_pos_iff.mp (Nat.lt_of_le_of_lt (Nat.zero_le _) hlt)
  refine ⟨packets, hfragment, ?_⟩
  intro calls drops hdelivers hdrain hpatient steps
  rw [hpayload] at hdelivers
  obtain ⟨first, rest, hfirst, hrestores⟩ :=
    h.exists_first_whole hstart huncapped hpackets hdelivers hdrain hpatient drops
  refine ⟨⟨first, rest, hfirst, hrestores.state_iff.mpr rfl, hrestores.complete_iff.mpr rfl,
    ?_, hrestores.data_eq rfl⟩, h.once_iff hstart huncapped hpackets hdelivers hdrain hpatient
      drops⟩
  rw [← Bool.not_eq_true, hrestores.corrupted_iff]
  simp

/-- A duplicate that comes before the timers are looked at does no harm. -/
theorem delivered_frame_comes_once_iff_early :
    let settings := { Settings.default with maxFrameSize := 16, stride := 4, maxPayload := 4 }
    let original : Bytes := [10, 20, 30]
    let sent : Datagram.Packet := ⟨⟨7, 0, 1, 3⟩, [10, 20, 30]⟩
    let received : Reception.Packet := ⟨⟨7, 0, 1, 3⟩, [10, 20, 30], false, rfl, by decide⟩
    let start := initial settings false
    let calls : List Call := [.push received 0 1, .push received 0 2, .sweep 0 3]
    create settings false = .ok start ∧ fragment 7 original 4 = .ok [sent] ∧
      Delivers 4 7 [sent] calls ∧ Patient 7 start calls ∧
      ∃ frame, framesOf 7 (start.trail (calls ++ [.drain 0])) = [frame] ∧
        frame.state = .complete ∧ frame.data = original := by
  intro settings original sent received start calls
  have hstart : create settings false = .ok start := rfl
  have hfragment : fragment 7 original 4 = .ok [sent] := by cbv
  have harrives : Arrives 4 sent received := ⟨[1, 2], by cbv⟩
  have hcame : packetsFor 7 calls = [received, received] := by decide
  have hdelivers : Delivers 4 7 [sent] calls := by
    constructor
    · intro packet hmem
      have hsame : packet = received := by simpa [hcame] using hmem
      exact ⟨sent, List.mem_singleton_self _, hsame ▸ harrives⟩
    · intro packet hmem
      rw [List.mem_singleton.mp hmem, hcame]
      exact ⟨received, List.mem_cons_self, harrives⟩
  have hpatient : Patient 7 start calls := by decide
  obtain ⟨packets, hcut, hruns⟩ := delivered_frame_comes_once_iff hstart rfl rfl
    (show original ≠ [] by decide) (show original.length ≤ 16 by decide) (by decide) 7
  obtain rfl : packets = [sent] := Except.ok.inj (hcut.symm.trans hfragment)
  obtain ⟨⟨first, rest, hfirst, hstate, -, -, hdata⟩, -⟩ :=
    hruns calls 0 hdelivers (by simp [calls]) hpatient
  have hlength : (framesOf 7 (start.trail (calls ++ [.drain 0]))).length = 1 := by decide
  rw [hfirst, List.length_cons, Nat.succ_inj, List.length_eq_zero_iff] at hlength
  rw [hlength] at hfirst
  exact ⟨hstart, hfragment, hdelivers, hpatient, first, hfirst, hstate, hdata⟩

/-- A duplicate that comes after a look at the timers brings the whole frame out again. -/
theorem duplicate_after_handover_comes_again :
    let settings := { Settings.default with maxFrameSize := 16, stride := 4, maxPayload := 4 }
    let original : Bytes := [10, 20, 30]
    let sent : Datagram.Packet := ⟨⟨7, 0, 1, 3⟩, [10, 20, 30]⟩
    let received : Reception.Packet := ⟨⟨7, 0, 1, 3⟩, [10, 20, 30], false, rfl, by decide⟩
    let start := initial settings false
    let calls : List Call := [.push received 0 1, .sweep 0 2, .push received 0 3]
    create settings false = .ok start ∧ fragment 7 original 4 = .ok [sent] ∧
      Reception.Packet.ofDatagram sent.encode 4 = .ok received ∧
      (∀ frameId, Patient frameId start calls) ∧
      (framesOf 7 (start.trail (calls ++ [.drain 0]))).map Frame.data =
        [original, original] := by
  intro settings original sent received start calls
  have hstart : create settings false = .ok start := rfl
  refine ⟨hstart, by cbv, by cbv, ?_, by decide⟩
  intro frameId
  exact (sound_of_create hstart).patient_of_looksAt_le frameId (by decide)

end Reassembly

end Framecast
