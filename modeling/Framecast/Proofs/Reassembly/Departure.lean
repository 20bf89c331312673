import Framecast.Proofs.Reassembly.Flights

/-!
# Departing flights

A retirement tells the missing packets, then the retirement, then hands over the
frame, and all of it is about that one frame.  Retiring several flights tells
this of one after the other and touches nothing in the state but the counters
and the idle buffers.
-/

namespace Framecast

open Framecast.Assembly (Event Frame RetireReason Settings)

namespace Reassembly

/-! ## What a signal is about -/

namespace Signal

def frameId? : Signal → Option UInt32
  | .event happening => some happening.frameId
  | .emitted frame => some frame.id
  | .drained _ => none

def about (frameId : UInt32) (signals : List Signal) : List Signal :=
  signals.filter fun signal => signal.frameId? = some frameId

@[simp] theorem about_nil (frameId : UInt32) : about frameId [] = [] := rfl

theorem about_cons (frameId : UInt32) (signal : Signal) (rest : List Signal) :
    about frameId (signal :: rest) =
      if signal.frameId? = some frameId then signal :: about frameId rest
      else about frameId rest := by
  by_cases hframe : signal.frameId? = some frameId <;> simp [about, hframe]

@[simp] theorem about_append (frameId : UInt32) (signals later : List Signal) :
    about frameId (signals ++ later) = about frameId signals ++ about frameId later :=
  List.filter_append ..

theorem about_of_forall_eq {frameId : UInt32} {signals : List Signal}
    (h : ∀ signal ∈ signals, signal.frameId? = some frameId) :
    about frameId signals = signals := by
  rw [about, List.filter_eq_self]
  intro signal hmem
  exact decide_eq_true (h signal hmem)

theorem about_of_forall_ne {frameId : UInt32} {signals : List Signal}
    (h : ∀ signal ∈ signals, signal.frameId? ≠ some frameId) :
    about frameId signals = [] := by
  rw [about, List.filter_eq_nil_iff]
  intro signal hmem
  simp [h signal hmem]

@[simp] theorem events_nil : events [] = [] := rfl

@[simp] theorem events_event (happening : Event) (rest : List Signal) :
    events (.event happening :: rest) = happening :: events rest := rfl

@[simp] theorem events_emitted (frame : Frame) (rest : List Signal) :
    events (.emitted frame :: rest) = events rest := rfl

@[simp] theorem events_drained (count : Nat) (rest : List Signal) :
    events (.drained count :: rest) = events rest := rfl

@[simp] theorem events_append (signals later : List Signal) :
    events (signals ++ later) = events signals ++ events later :=
  List.filterMap_append ..

@[simp] theorem frames_nil : frames [] = [] := rfl

@[simp] theorem frames_event (happening : Event) (rest : List Signal) :
    frames (.event happening :: rest) = frames rest := rfl

@[simp] theorem frames_emitted (frame : Frame) (rest : List Signal) :
    frames (.emitted frame :: rest) = frame :: frames rest := rfl

@[simp] theorem frames_drained (count : Nat) (rest : List Signal) :
    frames (.drained count :: rest) = frames rest := rfl

@[simp] theorem frames_append (signals later : List Signal) :
    frames (signals ++ later) = frames signals ++ frames later :=
  List.filterMap_append ..

theorem events_map_event (happenings : List Event) :
    events (happenings.map Signal.event) = happenings := by
  induction happenings with
  | nil => rfl
  | cons happening rest ih => rw [List.map_cons, events_event, ih]

theorem frames_map_event (happenings : List Event) :
    frames (happenings.map Signal.event) = [] := by
  induction happenings with
  | nil => rfl
  | cons happening rest ih => rw [List.map_cons, frames_event, ih]

/-- The events about a frame are the events of the signals about it. -/
theorem events_about (frameId : UInt32) (signals : List Signal) :
    events (about frameId signals) =
      (events signals).filter fun happening => happening.frameId = frameId := by
  induction signals with
  | nil => rfl
  | cons signal rest ih =>
      rw [about_cons]
      cases signal with
      | event happening =>
          by_cases hframe : happening.frameId = frameId <;> simp [frameId?, hframe, ih]
      | emitted frame => by_cases hframe : frame.id = frameId <;> simp [frameId?, hframe, ih]
      | drained count => simp [frameId?, ih]

/-- The frames with an id are the frames of the signals about it. -/
theorem frames_about (frameId : UInt32) (signals : List Signal) :
    frames (about frameId signals) =
      (frames signals).filter fun frame => frame.id = frameId := by
  induction signals with
  | nil => rfl
  | cons signal rest ih =>
      rw [about_cons]
      cases signal with
      | event happening =>
          by_cases hframe : happening.frameId = frameId <;> simp [frameId?, hframe, ih]
      | emitted frame => by_cases hframe : frame.id = frameId <;> simp [frameId?, hframe, ih]
      | drained count => simp [frameId?, ih]

end Signal

/-! ## One retirement -/

theorem frameId?_retireSignals {reportsMissing : Bool} {flight : Flight}
    {reason : RetireReason} {drops : Nat} {signal : Signal}
    (hmem : signal ∈ retireSignals reportsMissing flight reason drops) :
    signal.frameId? = some flight.id := by
  simp only [retireSignals, missingEvents, List.mem_append, List.mem_map, List.mem_cons,
    List.not_mem_nil, or_false] at hmem
  rcases hmem with ⟨happening, hmissing, rfl⟩ | rfl | rfl
  · split at hmissing
    · obtain ⟨packetId, -, rfl⟩ := List.mem_map.mp hmissing
      rfl
    · exact absurd hmissing List.not_mem_nil
  · rfl
  · rfl

theorem about_retireSignals (frameId : UInt32) (reportsMissing : Bool) (flight : Flight)
    (reason : RetireReason) (drops : Nat) :
    Signal.about frameId (retireSignals reportsMissing flight reason drops) =
      if flight.id = frameId then retireSignals reportsMissing flight reason drops
      else [] := by
  by_cases hid : flight.id = frameId
  · rw [if_pos hid]
    apply Signal.about_of_forall_eq
    intro signal hmem
    rw [frameId?_retireSignals hmem, hid]
  · rw [if_neg hid]
    apply Signal.about_of_forall_ne
    intro signal hmem hframe
    rw [frameId?_retireSignals hmem] at hframe
    exact hid (Option.some.inj hframe)

theorem frames_retireSignals (reportsMissing : Bool) (flight : Flight)
    (reason : RetireReason) (drops : Nat) :
    Signal.frames (retireSignals reportsMissing flight reason drops) =
      [retiredFrame flight drops] := by
  rw [retireSignals, Signal.frames_append, Signal.frames_map_event]
  rfl

theorem events_retireSignals (reportsMissing : Bool) (flight : Flight)
    (reason : RetireReason) (drops : Nat) :
    Signal.events (retireSignals reportsMissing flight reason drops) =
      missingEvents reportsMissing flight ++ [retiredEvent flight reason drops] := by
  rw [retireSignals, Signal.events_append, Signal.events_map_event]
  rfl

/-- Flights that are alike leave with the same signals. -/
theorem Flight.Alike.retireSignals_eq {left right : Flight} (h : left.Alike right)
    (reportsMissing : Bool) (reason : RetireReason) (drops : Nat) :
    retireSignals reportsMissing left reason drops =
      retireSignals reportsMissing right reason drops := by
  obtain ⟨assembly, rfl, halike⟩ := h
  have hframe := halike.toFrame_eq
  obtain ⟨storage, rfl, -⟩ := halike
  simp only [retireSignals, retiredFrame, hframe]
  rfl

/-! ## Several retirements -/

theorem retireAll_cons (drops : Nat) (entry : Flight × RetireReason)
    (rest : List (Flight × RetireReason)) (reassembly : Reassembly) :
    retireAll drops (entry :: rest) reassembly =
      ((retireAll drops rest (reassembly.settleRetired entry.1)).1,
        retireSignals reassembly.reportsMissing entry.1 entry.2 drops ++
          (retireAll drops rest (reassembly.settleRetired entry.1)).2) := rfl

theorem reportsMissing_settleRetired (reassembly : Reassembly) (flight : Flight) :
    (reassembly.settleRetired flight).reportsMissing = reassembly.reportsMissing := by
  simp only [settleRetired, keepSpare]
  split <;> rfl

theorem signals_retireAll (drops : Nat) (leaving : List (Flight × RetireReason))
    (reassembly : Reassembly) :
    (retireAll drops leaving reassembly).2 = leaving.flatMap fun entry =>
      retireSignals reassembly.reportsMissing entry.1 entry.2 drops := by
  induction leaving generalizing reassembly with
  | nil => rfl
  | cons entry rest ih =>
      rw [retireAll_cons, ih, reportsMissing_settleRetired, List.flatMap_cons]

/-- Retiring flights changes nothing but the counters and the idle buffers. -/
theorem retireAll_frame (drops : Nat) (leaving : List (Flight × RetireReason))
    (reassembly : Reassembly) :
    ∃ counters spares,
      (retireAll drops leaving reassembly).1 = { reassembly with counters, spares } ∧
        ∀ spare ∈ spares, spare ∈ reassembly.spares ∨
          ∃ entry ∈ leaving, spare = entry.1.assembly.reset := by
  induction leaving generalizing reassembly with
  | nil => exact ⟨reassembly.counters, reassembly.spares, rfl, fun spare h => Or.inl h⟩
  | cons entry rest ih =>
      obtain ⟨counters, spares, hstate, hspares⟩ := ih (reassembly.settleRetired entry.1)
      have hsettled : ∀ spare ∈ (reassembly.settleRetired entry.1).spares,
          spare ∈ reassembly.spares ∨ spare = entry.1.assembly.reset := by
        intro spare hmem
        simp only [settleRetired, keepSpare] at hmem
        split at hmem
        · rcases List.mem_cons.mp hmem with hnew | hold
          · exact Or.inr hnew
          · exact Or.inl hold
        · exact Or.inl hmem
      refine ⟨counters, spares, ?_, ?_⟩
      · rw [retireAll_cons, hstate]
        simp only [settleRetired, keepSpare]
        split <;> rfl
      · intro spare hmem
        rcases hspares spare hmem with hold | ⟨later, hlater, hreset⟩
        · rcases hsettled spare hold with hbefore | hreset
          · exact Or.inl hbefore
          · exact Or.inr ⟨entry, List.mem_cons_self, hreset⟩
        · exact Or.inr ⟨later, List.mem_cons_of_mem entry hlater, hreset⟩

/-- Of the flights that leave a table together, only a frame's own one tells of it. -/
theorem Ascending.about_leaving {flights : List Flight} (h : Ascending flights)
    (choose : Flight → Option RetireReason) (reportsMissing : Bool) (drops : Nat)
    (frameId : UInt32) :
    Signal.about frameId
      ((flights.filterMap fun flight =>
        (choose flight).map fun reason => (flight, reason)).flatMap fun entry =>
          retireSignals reportsMissing entry.1 entry.2 drops) =
      match lookup frameId flights with
      | none => []
      | some flight =>
          match choose flight with
          | none => []
          | some reason => retireSignals reportsMissing flight reason drops := by
  induction flights with
  | nil => rfl
  | cons head rest ih =>
      have hrest := ih (List.Pairwise.of_cons h)
      rw [lookup_cons]
      by_cases hid : head.id = frameId
      · rw [if_pos hid]
        rw [← hid, h.lookup_tail] at hrest
        subst hid
        cases hchoice : choose head with
        | none => simpa [hchoice] using hrest
        | some reason =>
            simp only [List.filterMap_cons, hchoice, Option.map_some, List.flatMap_cons,
              Signal.about_append, about_retireSignals, if_true]
            rw [hrest, List.append_nil]
      · rw [if_neg hid, ← hrest]
        cases hchoice : choose head with
        | none => simp [hchoice]
        | some reason =>
            simp only [List.filterMap_cons, hchoice, Option.map_some, List.flatMap_cons,
              Signal.about_append, about_retireSignals, if_neg hid, List.nil_append]

end Reassembly

end Framecast
