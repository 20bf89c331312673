import Framecast.Proofs.Assembly.Completion
import Framecast.Proofs.Reassembly.Trail

/-!
# The lives of frames

A frame's life is what the outside has seen of it since it was last opened: the
packet that opened it, and every packet it was given with what became of it.
Lives are read off the steps of a run alone.  `Life.Describes` says that a flight
is what its life tells, and every step keeps it so; when a flight leaves, the
frame handed over is therefore determined by the life that ends.
-/

namespace Framecast

open Framecast.Assembly (Attempt Event Frame Outcome RetireReason Settings accepted furthest)

namespace Reassembly

/-- What was seen of a frame since it was opened. -/
structure Life where
  /-- The header of the packet that opened the frame. -/
  opener : Datagram.Header
  openedAt : Nat
  /-- When the last packet was accepted, or else when the frame was opened. -/
  acceptedAt : Nat
  /-- The drop count when the frame was opened. -/
  dropsAtStart : Nat
  /-- The packets that the frame was given, in order. -/
  attempts : List Attempt
deriving Repr, DecidableEq

def Signal.opens : Signal → Bool
  | .event (.started ..) => true
  | _ => false

def Signal.closes : Signal → Bool
  | .emitted _ => true
  | _ => false

namespace Life

def opened (header : Datagram.Header) (drops now : Nat) : Life where
  opener := header
  openedAt := now
  acceptedAt := now
  dropsAtStart := drops
  attempts := []

def record (life : Life) (packet : Reception.Packet) (outcome : Outcome) (now : Nat) : Life :=
  { life with
    acceptedAt := if outcome = .accepted then now else life.acceptedAt
    attempts :=
      life.attempts ++ [⟨packet.header, packet.payload, packet.gapBefore, outcome⟩] }

/-- The packets that were accepted. -/
def pieces (life : Life) : List Attempt :=
  accepted life.attempts

/-- A frame's life after a call, from the answer and the signals about the frame. -/
def next (frameId : UInt32) (life? : Option Life) (call : Call) (reply : Reply)
    (signals : List Signal) : Option Life :=
  match call, reply with
  | .push packet drops now, .outcome outcome =>
      if packet.frameId = frameId then
        let current := if signals.any Signal.opens then
          some (opened packet.header drops now) else life?
        current.map fun life => life.record packet outcome now
      else if signals.any Signal.closes then none
      else life?
  | _, _ => if signals.any Signal.closes then none else life?

def follow (frameId : UInt32) (life? : Option Life) (steps : List Step) : Option Life :=
  steps.foldl (fun life? step =>
    next frameId life? step.call step.reply (Signal.about frameId step.signals)) life?

end Life

/-- The life that a frame leads after some steps of a run, if it leads one. -/
def lifeOf (frameId : UInt32) (steps : List Step) : Option Life :=
  Life.follow frameId none steps

theorem lifeOf_append (frameId : UInt32) (steps later : List Step) :
    lifeOf frameId (steps ++ later) = Life.follow frameId (lifeOf frameId steps) later :=
  List.foldl_append

/-- The first packet of a life is the one that opened the frame. -/
def Life.Begun (life : Life) : Prop :=
  ∃ first rest, life.attempts = first :: rest ∧ first.header = life.opener

theorem Life.begun_opened (packet : Reception.Packet) (drops now : Nat) (outcome : Outcome) :
    ((opened packet.header drops now).record packet outcome now).Begun :=
  ⟨_, [], rfl, rfl⟩

theorem Life.Begun.record {life : Life} (h : life.Begun) (packet : Reception.Packet)
    (outcome : Outcome) (now : Nat) : (life.record packet outcome now).Begun := by
  obtain ⟨first, rest, hattempts, hopener⟩ := h
  exact ⟨first, rest ++ [⟨packet.header, packet.payload, packet.gapBefore, outcome⟩],
    congrArg (· ++ _) hattempts, hopener⟩

theorem Life.begun_next {frameId : UInt32} {life? : Option Life}
    (h : ∀ life ∈ life?, life.Begun) (call : Call) (reply : Reply) (signals : List Signal) :
    ∀ life ∈ next frameId life? call reply signals, life.Begun := by
  intro life hlife
  unfold next at hlife
  split at hlife
  · split at hlife
    · obtain ⟨current, hcurrent, rfl⟩ := Option.map_eq_some_iff.mp hlife
      split at hcurrent
      · rw [← Option.some.inj hcurrent]
        exact begun_opened ..
      · exact (h current hcurrent).record ..
    · split at hlife
      · exact absurd hlife (by simp)
      · exact h life hlife
  · split at hlife
    · exact absurd hlife (by simp)
    · exact h life hlife

theorem Life.begun_follow {frameId : UInt32} (steps : List Step) {life? : Option Life}
    (h : ∀ life ∈ life?, life.Begun) : ∀ life ∈ follow frameId life? steps, life.Begun := by
  induction steps generalizing life? with
  | nil => exact h
  | cons step rest ih =>
      exact ih (begun_next h step.call step.reply (Signal.about frameId step.signals))

theorem begun_of_lifeOf {frameId : UInt32} {steps : List Step} {life : Life}
    (h : lifeOf frameId steps = some life) : life.Begun :=
  Life.begun_follow steps (by simp) life h

/-! ## Lives and flights -/

structure Life.Describes (settings : Settings) (frameId : UInt32) (life : Life)
    (flight : Flight) : Prop where
  id_eq : flight.id = frameId
  expected_eq : flight.assembly.expected = life.opener.packetCount.toNat
  openedAt_eq : flight.openedAt = life.openedAt
  updatedAt_eq : flight.updatedAt = life.acceptedAt
  dropsAtStart_eq : flight.dropsAtStart = life.dropsAtStart
  ready : flight.assembly.Ready settings.maxFrameSize settings.stride
  reflects : flight.assembly.Reflects life.attempts

section
variable {settings : Settings} {reportsMissing : Bool} {frameId : UInt32}

theorem Flight.expected_receive (flight : Flight) (packet : Reception.Packet) (now : Nat) :
    (flight.receive packet now).assembly.expected = flight.assembly.expected := by
  simp only [receive, Assembly.push]
  cases flight.assembly.verdict packet.header packet.payload with
  | accepted => rfl
  | rejected reason => cases reason <;> rfl

theorem Life.describes_opened {buffer : Assembly}
    (hready : buffer.Ready settings.maxFrameSize settings.stride) (header : Datagram.Header)
    (drops now : Nat) :
    (opened header drops now).Describes settings header.frameId
      (Flight.opened buffer header drops now) where
  id_eq := rfl
  expected_eq := rfl
  openedAt_eq := rfl
  updatedAt_eq := rfl
  dropsAtStart_eq := rfl
  ready := hready.start header.frameId header.packetCount
  reflects := hready.reflects_start header.frameId header.packetCount

theorem Life.Describes.receive {life : Life} {flight : Flight}
    (h : life.Describes settings frameId flight) {packet : Reception.Packet}
    (hframe : packet.frameId = frameId) (now : Nat) :
    (life.record packet (flight.assembly.verdict packet.header packet.payload) now).Describes
      settings frameId (flight.receive packet now) where
  id_eq := (flight.id_receive packet now).trans h.id_eq
  expected_eq := (flight.expected_receive packet now).trans h.expected_eq
  openedAt_eq := h.openedAt_eq
  updatedAt_eq := by rw [Flight.receive_eq, record, h.updatedAt_eq]
  dropsAtStart_eq := h.dropsAtStart_eq
  ready := Flight.ready_receive h.ready packet now
  reflects := by
    have hown : packet.header.frameId = flight.assembly.frameId :=
      hframe.trans h.id_eq.symm
    exact h.reflects.push hown packet.payload packet.gapBefore

theorem Life.next_of_other {life? : Option Life} {call : Call} {reply : Reply}
    {signals : List Signal} (h : call.frameId? ≠ some frameId) :
    next frameId life? call reply signals =
      if signals.any Signal.closes then none else life? := by
  cases call with
  | push packet drops now =>
      have hother : packet.frameId ≠ frameId := fun hframe => h (congrArg some hframe)
      cases reply with
      | outcome outcome => rw [next, if_neg hother]
      | retired count => rfl
  | sweep => rfl
  | drain => rfl

theorem Life.next_of_retired {life? : Option Life} {call : Call}
    (h : call.frameId? ≠ some frameId) (reply : Reply) (flight : Flight)
    (reason : RetireReason) (drops : Nat) :
    next frameId life? call reply (retireSignals reportsMissing flight reason drops) = none := by
  have hcloses : (retireSignals reportsMissing flight reason drops).any Signal.closes = true := by
    rw [retireSignals, List.any_append]
    simp [Signal.closes]
  rw [next_of_other h, if_pos hcloses]

theorem Life.next_of_opened {life? : Option Life} {packet : Reception.Packet}
    (hframe : packet.frameId = frameId) (count drops drops' now : Nat) (outcome : Outcome)
    (later : List Signal) :
    next frameId life? (.push packet drops now) (.outcome outcome)
        (.event (.started frameId count drops') :: later) =
      some ((opened packet.header drops now).record packet outcome now) := by
  rw [next, if_pos hframe]
  rfl

theorem Life.next_of_received {life? : Option Life} {packet : Reception.Packet}
    (hframe : packet.frameId = frameId) (expected drops now : Nat) (outcome : Outcome) :
    next frameId life? (.push packet drops now) (.outcome outcome)
        [.event (packetEvent packet expected outcome)] =
      life?.map fun life => life.record packet outcome now := by
  have hnotOpened :
      [Signal.event (packetEvent packet expected outcome)].any Signal.opens = false := by
    cases outcome <;> rfl
  rw [next, if_pos hframe, hnotOpened]
  rfl

theorem Life.next_of_refused {packet : Reception.Packet} (hframe : packet.frameId = frameId)
    (drops now : Nat) :
    next frameId none (.push packet drops now) (.outcome (.rejected .evicted))
      [.event (.rejected frameId packet.header.packetId .evicted)] = none := by
  rw [next, if_pos hframe]
  rfl

/-- Whatever turn a frame takes, its life goes on telling what its flight is. -/
theorem Turn.describes {call : Call} {before after : Option Flight} {reply : Reply}
    {signals : List Signal} {life? : Option Life}
    (h : Turn settings reportsMissing frameId call before reply signals after)
    (hlife : Option.Rel (Life.Describes settings frameId) life? before) :
    Option.Rel (Life.Describes settings frameId)
      (Life.next frameId life? call reply signals) after := by
  cases h with
  | passed hother =>
      rw [Life.next_of_other hother]
      exact hlife
  | retired hother =>
      rw [Life.next_of_retired hother]
      exact .none
  | evicted hother =>
      rw [Life.next_of_retired (Call.frameId?_push_ne hother _ _)]
      exact .none
  | refused hframe =>
      cases hlife
      rw [Life.next_of_refused hframe]
      exact .none
  | opened hframe hready hflight houtcome =>
      rw [Life.next_of_opened hframe]
      subst hframe hflight houtcome
      exact .some ((Life.describes_opened hready _ _ _).receive rfl _)
  | received hframe houtcome =>
      rw [Life.next_of_received hframe]
      subst houtcome
      cases hlife with
      | some hdescribes => exact .some (hdescribes.receive hframe _)

end

/-- Along every run from a sound state, lives go on telling what the flights are. -/
theorem Sound.follow_describes {reassembly : Reassembly} (h : reassembly.Sound)
    (calls : List Call) {frameId : UInt32} {life? : Option Life}
    (hlife : Option.Rel (Life.Describes reassembly.settings frameId) life?
      (reassembly.find? frameId)) :
    Option.Rel (Life.Describes reassembly.settings frameId)
      (Life.follow frameId life? (reassembly.trail calls))
      ((reassembly.run calls).1.find? frameId) := by
  induction calls generalizing reassembly life? with
  | nil => exact hlife
  | cons call rest ih =>
      have hstep := h.step call
      have hnext := (h.turn call frameId).2.describes hlife
      rw [← hstep.settings_eq] at hnext
      have hrest := ih hstep.sound hnext
      rw [hstep.settings_eq] at hrest
      exact hrest

/-- After every run, the life of a frame tells what its flight is. -/
theorem lifeOf_describes {settings : Settings} {reportsMissing : Bool} {start : Reassembly}
    (hstart : create settings reportsMissing = .ok start) (calls : List Call)
    (frameId : UInt32) :
    Option.Rel (Life.Describes settings frameId) (lifeOf frameId (start.trail calls))
      ((start.run calls).1.find? frameId) := by
  have hsound := sound_of_create hstart
  rw [eq_initial_of_create hstart] at hsound ⊢
  exact hsound.follow_describes calls .none

theorem exists_life_of_find? {settings : Settings} {reportsMissing : Bool} {start : Reassembly}
    (hstart : create settings reportsMissing = .ok start) {calls : List Call}
    {frameId : UInt32} {flight : Flight}
    (hfound : (start.run calls).1.find? frameId = some flight) :
    ∃ life, lifeOf frameId (start.trail calls) = some life ∧
      life.Describes settings frameId flight := by
  have hlife := lifeOf_describes hstart calls frameId
  rw [hfound] at hlife
  generalize lifeOf frameId (start.trail calls) = life? at hlife ⊢
  cases hlife with
  | some hdescribes => exact ⟨_, rfl, hdescribes⟩

theorem exists_flight_of_lifeOf {settings : Settings} {reportsMissing : Bool}
    {start : Reassembly} (hstart : create settings reportsMissing = .ok start)
    {calls : List Call} {frameId : UInt32} {life : Life}
    (hfound : lifeOf frameId (start.trail calls) = some life) :
    ∃ flight, (start.run calls).1.find? frameId = some flight ∧
      life.Describes settings frameId flight := by
  have hlife := lifeOf_describes hstart calls frameId
  rw [hfound] at hlife
  generalize (start.run calls).1.find? frameId = flight? at hlife ⊢
  cases hlife with
  | some hdescribes => exact ⟨_, rfl, hdescribes⟩

theorem isSome_lifeOf {settings : Settings} {reportsMissing : Bool} {start : Reassembly}
    (hstart : create settings reportsMissing = .ok start) (calls : List Call)
    (frameId : UInt32) :
    (lifeOf frameId (start.trail calls)).isSome =
      (start.run calls).1.isInFlight frameId := by
  have hlife := lifeOf_describes hstart calls frameId
  rw [isInFlight_eq_isSome]
  generalize lifeOf frameId (start.trail calls) = life? at hlife
  generalize (start.run calls).1.find? frameId = flight? at hlife
  cases hlife <;> rfl

/-! ## Frames and the lives they end -/

structure Life.Yields (settings : Settings) (life : Life) (drops : Nat) (frame : Frame) :
    Prop where
  expected_eq : frame.expected = life.opener.packetCount.toNat
  ids_nodup : (life.pieces.map Attempt.id).Nodup
  ids_lt : ∀ piece ∈ life.pieces, piece.id.toNat < frame.expected
  received_eq : frame.received = life.pieces.length
  received_le : frame.received ≤ frame.expected
  size_eq : frame.size = furthest settings.stride life.pieces
  size_le : frame.size ≤ settings.maxFrameSize
  byte_of_piece : ∀ piece ∈ life.pieces, ∀ index < piece.payload.length,
    frame.data[piece.offset settings.stride + index]? = piece.payload[index]?
  byte_elsewhere : ∀ position < frame.size,
    (∀ piece ∈ life.pieces, ¬ piece.Covers settings.stride position) →
      frame.data[position]? = some 0
  complete_iff : frame.complete = true ↔ life.pieces.length = frame.expected
  state_iff : frame.state = .complete ↔
    life.pieces.length = frame.expected ∧
      ∀ attempt ∈ life.attempts, attempt.outcome.harms = false
  corrupted_iff : frame.corrupted = true ↔ frame.state = .incomplete
  queuePressure_iff : frame.queuePressure = true ↔ life.dropsAtStart < drops

theorem Life.Describes.expected_le {settings : Settings} {frameId : UInt32} {life : Life}
    {flight : Flight} (h : life.Describes settings frameId flight) :
    flight.assembly.expected ≤ 65536 := by
  rw [h.expected_eq]
  exact Nat.le_of_lt life.opener.packetCount.toNat_lt

theorem Life.Describes.retiredState_iff {settings : Settings} {frameId : UInt32} {life : Life}
    {flight : Flight} (h : life.Describes settings frameId flight) :
    retiredState flight = .complete ↔
      life.pieces.length = flight.assembly.expected ∧
        ∀ attempt ∈ life.attempts, attempt.outcome.harms = false := by
  rw [pieces, ← h.reflects.isComplete_iff, retiredState]
  cases flight.assembly.isComplete <;> simp

/-- A flight that leaves becomes the frame that its life yields. -/
theorem Life.Describes.yields {settings : Settings} {frameId : UInt32} {life : Life}
    {flight : Flight} (h : life.Describes settings frameId flight) (drops : Nat) :
    life.Yields settings drops (retiredFrame flight drops) := by
  have hreflects := h.reflects
  have hstride := h.ready.stride_eq
  have hsize : (retiredFrame flight drops).size = flight.assembly.frameSize :=
    Assembly.Storage.length_read _ _
  have hsum := hreflects.received_add_missing h.expected_le
  exact {
    expected_eq := h.expected_eq
    ids_nodup := hreflects.ids_nodup
    ids_lt := fun piece hmem => hreflects.ids_lt hmem
    received_eq := hreflects.received_eq
    received_le := by
      show flight.assembly.received ≤ flight.assembly.expected
      omega
    size_eq := by
      rw [hsize, hreflects.frameSize_eq, hstride]
      rfl
    size_le := by
      rw [hsize, ← h.ready.capacity_eq]
      exact hreflects.frameSize_le
    byte_of_piece := by
      intro piece hmem index hindex
      rw [← hstride]
      exact hreflects.data_of_piece hmem hindex
    byte_elsewhere := by
      intro position hlt hout
      rw [hsize] at hlt
      rw [← hstride] at hout
      exact hreflects.data_elsewhere hlt hout
    complete_iff := by
      show flight.assembly.isFull = true ↔ _
      rw [Assembly.isFull, beq_iff_eq, hreflects.received_eq]
      rfl
    state_iff := h.retiredState_iff
    corrupted_iff := by
      show (flight.assembly.hasGap || flight.assembly.corrupted) = true ↔
        retiredState flight = .incomplete
      rw [hreflects.hasGap_eq h.expected_le, retiredState, Assembly.isComplete,
        hreflects.receiving]
      cases flight.assembly.isFull <;> cases flight.assembly.corrupted <;> simp
    queuePressure_iff := by
      show decide (flight.dropsAtStart < drops) = true ↔ _
      rw [decide_eq_true_iff, h.dropsAtStart_eq] }

/-- A turn hands over the frame of a flight that leaves, and nothing else. -/
theorem Turn.frames_eq {settings : Settings} {reportsMissing : Bool} {frameId : UInt32}
    {call : Call} {before after : Option Flight} {reply : Reply} {signals : List Signal}
    (h : Turn settings reportsMissing frameId call before reply signals after) :
    (Signal.frames signals = [] ∧ (before.isSome → after.isSome)) ∨
      ∃ flight, before = some flight ∧ after = none ∧
        Signal.frames signals = [retiredFrame flight call.drops] := by
  cases h with
  | passed => exact Or.inl ⟨rfl, id⟩
  | retired => exact Or.inr ⟨_, rfl, rfl, frames_retireSignals ..⟩
  | evicted => exact Or.inr ⟨_, rfl, rfl, frames_retireSignals ..⟩
  | refused => exact Or.inl ⟨rfl, id⟩
  | opened => exact Or.inl ⟨rfl, fun _ => rfl⟩
  | received => exact Or.inl ⟨rfl, id⟩

/--
Whatever packets, times and drop counts a run brings, a frame that it hands over
is the frame that the life ending there yields.
-/
theorem emitted_frame_yielded_by_life {settings : Settings} {reportsMissing : Bool}
    {start : Reassembly} (hstart : create settings reportsMissing = .ok start)
    (calls : List Call) (call : Call) {frame : Frame}
    (hframe : frame ∈ Signal.frames ((start.run calls).1.step call).2.2) :
    ∃ life, lifeOf frame.id (start.trail calls) = some life ∧
      life.Yields settings call.drops frame := by
  have hsound := (sound_of_create hstart).run calls
  have hmem : frame ∈ Signal.frames (Signal.about frame.id
      ((start.run calls).1.step call).2.2) := by
    rw [Signal.frames_about]
    exact List.mem_filter.mpr ⟨hframe, decide_eq_true rfl⟩
  rcases (hsound.sound.turn call frame.id).2.frames_eq with ⟨hnone, -⟩ |
    ⟨flight, hflight, -, honly⟩
  · rw [hnone] at hmem
    exact absurd hmem List.not_mem_nil
  · rw [honly, List.mem_singleton] at hmem
    obtain ⟨life, hfound, hdescribes⟩ := exists_life_of_find? hstart hflight
    refine ⟨life, hfound, ?_⟩
    rw [hmem]
    exact hdescribes.yields call.drops

/-- A frame that is evicted with its first packet missing reads as zero there. -/
theorem emitted_frame_yielded_by_life_evicted :
    let settings := { Settings.default with
      maxFrameSize := 16, stride := 4, maxPayload := 4, maxInFlight := some 1 }
    let packet : Reception.Packet := ⟨⟨7, 1, 2, 3⟩, [30, 40, 50], false, rfl, by decide⟩
    let newer : Reception.Packet := ⟨⟨8, 0, 1, 1⟩, [99], false, rfl, by decide⟩
    let start := initial settings false
    let frame : Frame := {
      id := 7, state := .incomplete, complete := false, corrupted := true,
      queuePressure := true, expected := 2, received := 1, data := [0, 0, 0, 0, 30, 40, 50] }
    create settings false = .ok start ∧
      frame ∈ Signal.frames ((start.run [.push packet 0 5]).1.step (.push newer 3 6)).2.2 ∧
      ∃ life, lifeOf 7 (start.trail [.push packet 0 5]) = some life ∧
        life.Yields settings 3 frame := by
  intro settings packet newer start frame
  have hstart : create settings false = .ok start := rfl
  have hframe : frame ∈
      Signal.frames ((start.run [.push packet 0 5]).1.step (.push newer 3 6)).2.2 := by
    decide
  exact ⟨hstart, hframe, emitted_frame_yielded_by_life hstart _ _ hframe⟩

end Reassembly

end Framecast
