import Framecast.Proofs.Reassembly.Draining

/-!
# Which losses show as queue pressure

A frame's drop count is taken when the worker pushes its first packet, not when that
packet enters the queue.  So a frame shows the packets that the queue refused while it was
in flight, and those that were refused while its first packet waited do not show.
-/

namespace Framecast

open Framecast.Assembly (Event Frame FrameState Settings)
open Framecast.Reception (Packet Queue)
open Framecast.Statistics (Tally)

namespace Reassembly

/-- A frame that a call leaves in flight was in flight before, or the call opened it. -/
theorem Sound.opened_or_in_flight {reassembly : Reassembly} (h : reassembly.Sound)
    {call : Call} {frameId : UInt32} {flight : Flight}
    (hfound : (reassembly.step call).1.find? frameId = some flight) :
    (∃ earlier, reassembly.find? frameId = some earlier ∧
        flight.dropsAtStart = earlier.dropsAtStart) ∨
      ∃ packet drops now, call = .push packet drops now ∧ packet.frameId = frameId ∧
        reassembly.find? frameId = none ∧ flight.dropsAtStart = drops := by
  have hturn := (h.turn call frameId).2
  rw [hfound] at hturn
  generalize reassembly.find? frameId = before? at hturn ⊢
  generalize Signal.about frameId _ = signals at hturn
  generalize (reassembly.step call).2.1 = reply at hturn
  generalize hafter : some flight = after? at hturn
  cases hturn with
  | passed => exact .inl ⟨flight, hafter.symm, rfl⟩
  | received =>
      obtain rfl := Option.some.inj hafter
      exact .inl ⟨_, rfl, rfl⟩
  | opened hframe _ hflight =>
      obtain rfl := Option.some.inj hafter
      subst hflight
      exact .inr ⟨_, _, _, rfl, hframe, rfl, rfl⟩
  | retired | evicted | refused => exact absurd hafter (by simp)

namespace Loop

/-! ## Single moves -/

theorem asks_cases (loop : Loop) (move : Move) :
    loop.asks move = [] ∨
      ∃ readings call, move = .act readings ∧ loop.asks move = [call] := by
  cases move with
  | offer | shutdown => exact .inl rfl
  | act readings =>
      cases hstage : loop.stage with
      | timing =>
          cases hdue : loop.isSweepDue readings.first <;> simp [asks, hstage, hdue]
      | waiting | holding | emptyHanded | leaving | finished => simp [asks, hstage]

theorem holding_of_asks {loop : Loop} {readings : Readings} {packet : Packet}
    {drops now : Nat} (hasks : loop.asks (.act readings) = [.push packet drops now]) :
    loop.stage = .holding packet ∧ drops = loop.worker.queue.dropped := by
  cases hstage : loop.stage with
  | holding => simp_all [asks]
  | timing => cases hdue : loop.isSweepDue readings.first <;> simp_all [asks]
  | waiting | emptyHanded | leaving | finished => simp_all [asks]

/-! ## Since a frame was opened -/

/-- The frame was opened by a move of the worker and has been in flight since. -/
structure Opened (loop : Loop) (frameId : UInt32) (before : List Move)
    (opening : Readings) (during : List Move) : Prop where
  holding : ∃ packet, (loop.after before).stage = .holding packet ∧ packet.frameId = frameId
  absent : (loop.after before).worker.reassembly.isInFlight frameId = false
  present : ∀ later, later <+: during →
    (loop.after (before ++ .act opening :: later)).worker.reassembly.isInFlight frameId = true

variable {loop : Loop} {frameId : UInt32}

theorem Opened.extend {before during : List Move} {opening : Readings}
    (h : loop.Opened frameId before opening during) {move : Move}
    (hpresent : (loop.after
      (before ++ .act opening :: (during ++ [move]))).worker.reassembly.isInFlight frameId = true) :
    loop.Opened frameId before opening (during ++ [move]) := by
  refine ⟨h.holding, h.absent, ?_⟩
  intro later hprefix
  rcases List.prefix_concat_iff.mp hprefix with rfl | hearlier
  · exact hpresent
  · exact h.present later hearlier

/-- A frame in flight was opened by the worker, under the drop count of that moment. -/
theorem exists_opening (hsound : loop.worker.reassembly.Sound)
    (habsent : loop.worker.reassembly.find? frameId = none) {moves : List Move}
    {flight : Flight}
    (hfound : (loop.after moves).worker.reassembly.find? frameId = some flight) :
    ∃ before opening during, moves = before ++ .act opening :: during ∧
      loop.Opened frameId before opening during ∧
      flight.dropsAtStart = (loop.after before).worker.queue.dropped := by
  induction moves using List.reverseRecOn generalizing flight with
  | nil => exact absurd hfound (by simp [habsent])
  | append_singleton moves move ih =>
      let state := loop.after moves
      have hthere :
          (loop.after (moves ++ [move])).worker.reassembly.isInFlight frameId = true := by
        rw [isInFlight_eq_isSome, hfound]
        rfl
      -- a frame that was in flight before keeps the drop count of its opening
      have hgoes : ∀ earlier, state.worker.reassembly.find? frameId = some earlier →
          flight.dropsAtStart = earlier.dropsAtStart →
          ∃ before opening during, moves ++ [move] = before ++ .act opening :: during ∧
            loop.Opened frameId before opening during ∧
            flight.dropsAtStart = (loop.after before).worker.queue.dropped := by
        intro earlier hearlier hdrops
        obtain ⟨before, opening, during, rfl, hopened, hcount⟩ := ih hearlier
        refine ⟨before, opening, during ++ [move], by simp, hopened.extend ?_,
          hdrops.trans hcount⟩
        simpa using hthere
      have hstate : (loop.after (moves ++ [move])).worker.reassembly =
          (state.worker.reassembly.run (state.asks move)).1 := by
        rw [after_append]
        exact (state.step_spec move).1
      rw [hstate] at hfound
      rcases state.asks_cases move with hnone | ⟨readings, call, rfl, hasks⟩
      · rw [hnone] at hfound
        exact hgoes flight hfound rfl
      · have hstateSound : state.worker.reassembly.Sound := by
          rw [(loop.run_spec moves).1]
          exact (hsound.run _).sound
        rw [hasks] at hfound
        obtain ⟨earlier, hearlier, hdrops⟩ | ⟨packet, drops, now, rfl, hframe, hnew, hdrops⟩ :=
          hstateSound.opened_or_in_flight hfound
        · exact hgoes earlier hearlier hdrops
        · obtain ⟨hholding, hcount⟩ := holding_of_asks hasks
          refine ⟨moves, readings, [], rfl, ⟨⟨packet, hholding, hframe⟩, ?_, ?_⟩,
            hdrops.trans hcount⟩
          · rw [isInFlight_eq_isSome, hnew]
            rfl
          · intro later hlater
            rw [List.prefix_nil.mp hlater]
            exact hthere

/-- A frame that a move hands over was in flight and has the queue's drop count. -/
theorem exists_flight_of_mem_frames (hsound : loop.worker.reassembly.Sound) {move : Move}
    {frame : Frame} (hframe : frame ∈ Signal.frames (loop.step move).2) :
    ∃ flight, loop.worker.reassembly.find? frame.id = some flight ∧
      frame = retiredFrame flight loop.worker.queue.dropped := by
  rw [(loop.step_spec move).2] at hframe
  rcases loop.asks_cases move with hnone | ⟨readings, call, -, hasks⟩
  · rw [hnone] at hframe
    exact absurd hframe List.not_mem_nil
  · rw [hasks] at hframe
    have hhanded : frame ∈ Signal.frames (loop.worker.reassembly.step call).2.2 := by
      simpa [trail_cons, signals_perform] using hframe
    obtain ⟨flight, hfound, hretired⟩ := hsound.exists_flight_of_mem_frames hhanded
    have hasked : call ∈ loop.asks move := by simp [hasks]
    have hdrops := drops_of_asks hasked
    exact ⟨flight, hfound, hdrops ▸ hretired⟩

end Loop

section
variable {settings : Settings} {reportsMissing : Bool} {start : Reassembly}
  (hstart : create settings reportsMissing = .ok start)
include hstart

/--
A worker runs in front of a fresh reassembly, with a queue of any capacity.  A frame that
it hands over shows queue pressure exactly if the queue refused a packet, of any frame,
between the move that opened the frame and its retirement; an incomplete frame is then
put down to the queue, and to a gap otherwise.
-/
theorem pressure_iff_refused_in_flight (capacity : Nat) (shutdown : Bool) (now : Nat)
    (moves : List Loop.Move) (move : Loop.Move) {frame : Frame} :
    let loop := Loop.start ⟨.empty capacity, start⟩ shutdown now
    frame ∈ Signal.frames ((loop.after moves).step move).2 →
      ∃ before opening during, moves = before ++ .act opening :: during ∧
        loop.Opened frame.id before opening during ∧
        let refused := (loop.after (before ++ [.act opening])).refused during
        (frame.queuePressure = true ↔ refused ≠ []) ∧
        (frame.state = .incomplete → ∀ tally : Tally,
          (tally.add frame).incompleteByQueue =
              tally.incompleteByQueue + (if refused = [] then 0 else 1) ∧
            (tally.add frame).incompleteByGap =
              tally.incompleteByGap + (if refused = [] then 1 else 0)) := by
  intro loop hframe
  have hsound : (loop.after moves).worker.reassembly.Sound := by
    rw [(loop.run_spec moves).1]
    exact ((sound_of_create hstart).run _).sound
  obtain ⟨flight, hfound, hretired⟩ := Loop.exists_flight_of_mem_frames hsound hframe
  have hfresh : loop.worker.reassembly.Sound := sound_of_create hstart
  obtain ⟨before, opening, during, rfl, hopened, hdrops⟩ :=
    Loop.exists_opening hfresh (find?_of_create hstart frame.id) hfound
  refine ⟨before, opening, during, rfl, hopened, ?_⟩
  intro refused
  have hopening : (loop.after (before ++ [.act opening])).worker.queue.dropped =
      (loop.after before).worker.queue.dropped := by
    rw [Loop.after_append, ((loop.after before).carries [.act opening]).dropped_eq]
    simp [Loop.refuses]
  have hlast : (loop.after (before ++ .act opening :: during)).worker.queue.dropped =
      flight.dropsAtStart + refused.length := by
    rw [List.append_cons, Loop.after_append,
      ((loop.after (before ++ [Loop.Move.act opening])).carries during).dropped_eq, hopening,
      hdrops]
  have hpressure : frame.queuePressure = true ↔ refused ≠ [] := by
    rw [hretired, hlast]
    show decide (flight.dropsAtStart < flight.dropsAtStart + refused.length) = true ↔ _
    rw [decide_eq_true_iff, ← List.length_pos_iff]
    omega
  refine ⟨hpressure, ?_⟩
  intro hincomplete tally
  by_cases hnone : refused = []
  · have hgap : frame.queuePressure = false := by simpa [hnone] using hpressure
    simp [Tally.add, hincomplete, hgap, hnone]
  · have hqueue : frame.queuePressure = true := hpressure.mpr hnone
    simp [Tally.add, hincomplete, hqueue, hnone]

end

/-- The queue refuses the last packet of a frame after the worker has opened the frame. -/
theorem pressure_iff_refused_in_flight_late :
    let settings := { Settings.default with maxFrameSize := 16, stride := 4, maxPayload := 4 }
    let first : Packet := ⟨⟨7, 0, 3, 1⟩, [10], false, rfl, by decide⟩
    let second : Packet := ⟨⟨7, 1, 3, 1⟩, [20], false, rfl, by decide⟩
    let third : Packet := ⟨⟨7, 2, 3, 1⟩, [30], false, rfl, by decide⟩
    let start := initial settings false
    let loop := Loop.start ⟨.empty 1, start⟩ true 0
    let act : Loop.Move := .act ⟨true, 0, settings.shutdownGrace, 0⟩
    let moves := [.offer first, act, act, .offer second, .offer third] ++ List.replicate 6 act
    let frame : Frame := {
      id := 7, state := .incomplete, complete := false, corrupted := true,
      queuePressure := true, expected := 3, received := 2, data := [10, 0, 0, 0, 20] }
    create settings false = .ok start ∧
      frame ∈ Signal.frames ((loop.after moves).step act).2 ∧
      ∃ before opening during, moves = before ++ .act opening :: during ∧
        loop.Opened 7 before opening during ∧
        (loop.after (before ++ [.act opening])).refused during ≠ [] := by
  intro settings first second third start loop act moves frame
  have hstart : create settings false = .ok start := rfl
  have hframe : frame ∈ Signal.frames ((loop.after moves).step act).2 := by decide
  obtain ⟨before, opening, during, hmoves, hopened, hpressure, -⟩ :=
    pressure_iff_refused_in_flight hstart 1 true 0 moves act hframe
  exact ⟨hstart, hframe, before, opening, during, hmoves, hopened, hpressure.mp rfl⟩

/--
The first packet of a frame enters the queue and the other one is refused while the first
one waits.  The frame comes out without it, shows no queue pressure, and is put down to a
gap.
-/
theorem refused_while_first_waits_shows_no_pressure :
    let settings := { Settings.default with maxFrameSize := 16, stride := 4, maxPayload := 4 }
    let first : Packet := ⟨⟨7, 0, 2, 1⟩, [10], false, rfl, by decide⟩
    let second : Packet := ⟨⟨7, 1, 2, 1⟩, [20], false, rfl, by decide⟩
    let start := initial settings false
    let loop := Loop.start ⟨.empty 1, start⟩ true 0
    let act : Loop.Move := .act ⟨true, 0, settings.shutdownGrace, 0⟩
    let moves := [.offer first, .offer second] ++ List.replicate 5 act
    let frame : Frame := {
      id := 7, state := .incomplete, complete := false, corrupted := true,
      queuePressure := false, expected := 2, received := 1, data := [10] }
    let tally := Tally.add {} frame
    create settings false = .ok start ∧
      loop.entered [.offer first] = [first] ∧
      (loop.after [.offer first]).refused [.offer second] = [second] ∧
      frame ∈ Signal.frames ((loop.after moves).step act).2 ∧
      tally.incompleteByQueue = 0 ∧ tally.incompleteByGap = 1 := by
  decide

end Reassembly

end Framecast
