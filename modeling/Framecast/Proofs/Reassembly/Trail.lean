import Framecast.Proofs.Reassembly.Turn

/-!
# Runs step by step

The trail of a run lists its calls, each with the answer, the signals and the
state it leads to.  Sound states stay sound along it, so the six turns describe
every step of every run that starts under sound settings.
-/

namespace Framecast

open Framecast.Assembly (Event Frame Outcome Settings)

namespace Reassembly

structure Step where
  call : Call
  reply : Reply
  signals : List Signal
  after : Reassembly

def perform (reassembly : Reassembly) (call : Call) : Step :=
  let (after, reply, signals) := reassembly.step call
  { call, reply, signals, after }

def trail (reassembly : Reassembly) : List Call → List Step
  | [] => []
  | call :: rest => reassembly.perform call :: (reassembly.perform call).after.trail rest

def eventsOf (frameId : UInt32) (steps : List Step) : List Event :=
  (Signal.events (steps.flatMap Step.signals)).filter fun happening =>
    happening.frameId = frameId

def framesOf (frameId : UInt32) (steps : List Step) : List Frame :=
  (Signal.frames (steps.flatMap Step.signals)).filter fun frame => frame.id = frameId

/-- What became of a frame's packet, if the step brought one. -/
def Step.outcome? (frameId : UInt32) (step : Step) : Option Outcome :=
  match step.call, step.reply with
  | .push packet _ _, .outcome outcome =>
      if packet.frameId = frameId then some outcome else none
  | _, _ => none

def outcomesOf (frameId : UInt32) (steps : List Step) : List Outcome :=
  steps.filterMap (Step.outcome? frameId)

/-! ## Trails and runs -/

theorem signals_perform (reassembly : Reassembly) (call : Call) :
    (reassembly.perform call).signals = (reassembly.step call).2.2 := rfl

@[simp] theorem trail_nil (reassembly : Reassembly) : reassembly.trail [] = [] := rfl

theorem trail_cons (reassembly : Reassembly) (call : Call) (rest : List Call) :
    reassembly.trail (call :: rest) =
      reassembly.perform call :: (reassembly.step call).1.trail rest := rfl

theorem run_cons_state (reassembly : Reassembly) (call : Call) (rest : List Call) :
    (reassembly.run (call :: rest)).1 = ((reassembly.step call).1.run rest).1 := rfl

theorem run_append_state (reassembly : Reassembly) (calls later : List Call) :
    (reassembly.run (calls ++ later)).1 = ((reassembly.run calls).1.run later).1 := by
  induction calls generalizing reassembly with
  | nil => rfl
  | cons call rest ih => rw [List.cons_append, run_cons_state, run_cons_state, ih]

/-- A trail shows the answers and the signals of its run. -/
theorem run_eq_trail (reassembly : Reassembly) (calls : List Call) :
    (reassembly.run calls).2 =
      (reassembly.trail calls).map fun step => (step.reply, step.signals) := by
  induction calls generalizing reassembly with
  | nil => rfl
  | cons call rest ih =>
      rw [trail_cons, List.map_cons, ← ih]
      rfl

theorem trail_append (reassembly : Reassembly) (calls later : List Call) :
    reassembly.trail (calls ++ later) =
      reassembly.trail calls ++ (reassembly.run calls).1.trail later := by
  induction calls generalizing reassembly with
  | nil => rfl
  | cons call rest ih =>
      rw [List.cons_append, trail_cons, trail_cons, ih, List.cons_append, run_cons_state]

/-- Where a trail is split, its run is split. -/
theorem exists_of_trail_eq {reassembly : Reassembly} {calls : List Call}
    {before after : List Step} {step : Step}
    (h : reassembly.trail calls = before ++ step :: after) :
    ∃ earlier call later, calls = earlier ++ call :: later ∧
      before = reassembly.trail earlier ∧ step = (reassembly.run earlier).1.perform call ∧
        after = step.after.trail later := by
  induction before generalizing reassembly calls with
  | nil =>
      cases calls with
      | nil => exact absurd h (by simp)
      | cons call rest =>
          obtain ⟨rfl, rfl⟩ := List.cons.inj h
          exact ⟨[], call, rest, rfl, rfl, rfl, rfl⟩
  | cons head tail ih =>
      cases calls with
      | nil => exact absurd h (by simp)
      | cons call rest =>
          obtain ⟨rfl, htail⟩ := List.cons.inj h
          obtain ⟨earlier, next, later, rfl, rfl, hstep, hafter⟩ := ih htail
          exact ⟨call :: earlier, next, later, rfl, rfl, hstep, hafter⟩

@[simp] theorem eventsOf_nil (frameId : UInt32) : eventsOf frameId [] = [] := rfl

@[simp] theorem framesOf_nil (frameId : UInt32) : framesOf frameId [] = [] := rfl

theorem eventsOf_append (frameId : UInt32) (steps later : List Step) :
    eventsOf frameId (steps ++ later) = eventsOf frameId steps ++ eventsOf frameId later := by
  simp [eventsOf]

theorem framesOf_append (frameId : UInt32) (steps later : List Step) :
    framesOf frameId (steps ++ later) = framesOf frameId steps ++ framesOf frameId later := by
  simp [framesOf]

theorem eventsOf_cons (frameId : UInt32) (step : Step) (rest : List Step) :
    eventsOf frameId (step :: rest) =
      Signal.events (Signal.about frameId step.signals) ++ eventsOf frameId rest := by
  simp [eventsOf, Signal.events_about]

theorem framesOf_cons (frameId : UInt32) (step : Step) (rest : List Step) :
    framesOf frameId (step :: rest) =
      Signal.frames (Signal.about frameId step.signals) ++ framesOf frameId rest := by
  simp [framesOf, Signal.frames_about]

/-- What became of a frame's packets is answered to calls that bring them. -/
theorem Step.outcome?_of_other {frameId : UInt32} {step : Step}
    (h : step.call.frameId? ≠ some frameId) : step.outcome? frameId = none := by
  obtain ⟨call, reply, signals, after⟩ := step
  cases call with
  | push packet drops now =>
      have hother : packet.frameId ≠ frameId := fun hframe => h (congrArg some hframe)
      cases reply <;> simp [Step.outcome?, hother]
  | sweep => rfl
  | drain => rfl

/-! ## Soundness along runs -/

structure Valid (settings : Settings) : Prop where
  nonZero : ∀ entry ∈ settings.nonZero, 0 < entry.2
  maxPayload_le_capacity : settings.maxPayload ≤ Reception.payloadCapacity
  maxPayload_le_stride : settings.maxPayload ≤ settings.stride
  stride_le_maxFrameSize : settings.stride ≤ settings.maxFrameSize
  idleTimeout_le_maxLifetime : settings.idleTimeout ≤ settings.maxLifetime

theorem valid_of_check {settings : Settings} (h : settings.check = .ok ()) :
    Valid settings := by
  rw [Settings.check] at h
  split at h
  · exact absurd h (by simp)
  rename_i hnone
  split at h
  · exact absurd h (by simp)
  split at h
  · exact absurd h (by simp)
  split at h
  · exact absurd h (by simp)
  split at h
  · exact absurd h (by simp)
  refine ⟨?_, by omega, by omega, by omega, by omega⟩
  intro entry hmem
  have hne := List.find?_eq_none.mp hnone entry hmem
  rw [decide_eq_true_iff] at hne
  omega

theorem valid_of_create {settings : Settings} {reportsMissing : Bool} {start : Reassembly}
    (h : create settings reportsMissing = .ok start) : Valid settings := by
  rw [create] at h
  split at h
  · exact absurd h (by simp)
  · exact valid_of_check ‹_›

theorem eq_initial_of_create {settings : Settings} {reportsMissing : Bool}
    {start : Reassembly} (h : create settings reportsMissing = .ok start) :
    start = initial settings reportsMissing := by
  rw [create] at h
  split at h
  · exact absurd h (by simp)
  · exact (Except.ok.inj h).symm

theorem settings_of_create {settings : Settings} {reportsMissing : Bool} {start : Reassembly}
    (h : create settings reportsMissing = .ok start) : start.settings = settings := by
  rw [eq_initial_of_create h]
  rfl

theorem flights_of_create {settings : Settings} {reportsMissing : Bool} {start : Reassembly}
    (h : create settings reportsMissing = .ok start) : start.flights = [] := by
  rw [eq_initial_of_create h]
  rfl

theorem find?_of_create {settings : Settings} {reportsMissing : Bool} {start : Reassembly}
    (h : create settings reportsMissing = .ok start) (frameId : UInt32) :
    start.find? frameId = none := by
  rw [find?, flights_of_create h, List.find?_nil]

theorem isInFlight_of_create {settings : Settings} {reportsMissing : Bool} {start : Reassembly}
    (h : create settings reportsMissing = .ok start) (frameId : UInt32) :
    start.isInFlight frameId = false := by
  rw [isInFlight_eq_isSome, find?_of_create h]
  rfl

theorem sound_of_create {settings : Settings} {reportsMissing : Bool} {start : Reassembly}
    (h : create settings reportsMissing = .ok start) : start.Sound := by
  rw [eq_initial_of_create h]
  exact sound_initial settings reportsMissing

theorem Sound.run {reassembly : Reassembly} (h : reassembly.Sound) (calls : List Call) :
    Succeeds reassembly (reassembly.run calls).1 := by
  induction calls generalizing reassembly with
  | nil => exact h.refl_succeeds
  | cons call rest ih =>
      have hstep := h.step call
      exact hstep.trans (ih hstep.sound)

end Reassembly

end Framecast
