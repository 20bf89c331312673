import Framecast.Proofs.Reassembly.Turn

/-!
# Runs without reports of missing packets

Whether missing packets are reported one by one makes no difference to anything else.  Each
function of the state machine leads from the muted state to the muted next state, with the
same answer and the same signals less the reports, and so does every run.
-/

namespace Framecast

open Framecast.Assembly (Event RetireReason Settings)

namespace Reassembly

/-- The same state, with missing packets no longer reported. -/
def muted (reassembly : Reassembly) : Reassembly :=
  { reassembly with reportsMissing := false }

namespace Signal

def reportsMissing : Signal → Bool
  | .event happening => happening.isMissing
  | _ => false

def muted (signals : List Signal) : List Signal :=
  signals.filter fun signal => !signal.reportsMissing

@[simp] theorem muted_nil : muted [] = [] := rfl

@[simp] theorem muted_append (signals later : List Signal) :
    muted (signals ++ later) = muted signals ++ muted later :=
  List.filter_append ..

theorem muted_cons (signal : Signal) (rest : List Signal) :
    muted (signal :: rest) =
      if signal.reportsMissing then muted rest else signal :: muted rest := by
  cases hreports : signal.reportsMissing <;> simp [muted, hreports]

theorem events_muted (signals : List Signal) :
    events (muted signals) = (events signals).filter fun happening => !happening.isMissing := by
  induction signals with
  | nil => rfl
  | cons signal rest ih =>
      rw [muted_cons]
      cases signal with
      | event happening =>
          cases hmissing : happening.isMissing <;> simp [reportsMissing, hmissing, ih]
      | emitted frame => simpa [reportsMissing] using ih
      | drained count => simpa [reportsMissing] using ih

end Signal

/-! ## Retirements -/

theorem muted_retireSignals (reportsMissing : Bool) (flight : Flight) (reason : RetireReason)
    (drops : Nat) :
    retireSignals false flight reason drops =
      Signal.muted (retireSignals reportsMissing flight reason drops) := by
  have hreports : Signal.muted ((missingEvents reportsMissing flight).map .event) = [] := by
    rw [Signal.muted, List.filter_eq_nil_iff]
    intro signal hmem
    obtain ⟨happening, hhappening, rfl⟩ := List.mem_map.mp hmem
    unfold missingEvents at hhappening
    split at hhappening
    · obtain ⟨packetId, -, rfl⟩ := List.mem_map.mp hhappening
      simp [Signal.reportsMissing, Event.isMissing]
    · exact absurd hhappening List.not_mem_nil
  rw [retireSignals, retireSignals, Signal.muted_append, hreports]
  simp [missingEvents, Signal.muted, Signal.reportsMissing, retiredEvent, Event.isMissing]

theorem muted_settleRetired (reassembly : Reassembly) (flight : Flight) :
    reassembly.muted.settleRetired flight = (reassembly.settleRetired flight).muted := by
  simp only [settleRetired, keepSpare, apply_ite muted]
  rfl

theorem muted_retireAll (drops : Nat) (leaving : List (Flight × RetireReason))
    (reassembly : Reassembly) :
    retireAll drops leaving reassembly.muted =
      ((retireAll drops leaving reassembly).1.muted,
        Signal.muted (retireAll drops leaving reassembly).2) := by
  induction leaving generalizing reassembly with
  | nil => rfl
  | cons entry rest ih =>
      rw [retireAll_cons, retireAll_cons, muted_settleRetired, ih, Signal.muted_append,
        ← muted_retireSignals]
      rfl

/-! ## The calls -/

theorem muted_evictOldest (reassembly : Reassembly) (limit drops : Nat) :
    reassembly.muted.evictOldest limit drops =
      ((reassembly.evictOldest limit drops).1.muted,
        Signal.muted (reassembly.evictOldest limit drops).2) := by
  cases hold : oldestFlight reassembly.flights with
  | none =>
      have hmuted : oldestFlight reassembly.muted.flights = none := hold
      rw [evictOldest, evictOldest, hold, hmuted]
      rfl
  | some flight =>
      have hmuted : oldestFlight reassembly.muted.flights = some flight := hold
      rw [evictOldest_of_some hold, evictOldest_of_some hmuted]
      exact muted_retireAll drops _ (reassembly.withoutEvicted limit flight)

theorem muted_evictMany (limit drops count : Nat) (reassembly : Reassembly) :
    evictMany limit drops count reassembly.muted =
      ((evictMany limit drops count reassembly).1.muted,
        Signal.muted (evictMany limit drops count reassembly).2) := by
  induction count generalizing reassembly with
  | zero => rfl
  | succ count ih =>
      rw [evictMany_succ, evictMany_succ, muted_evictOldest, ih, Signal.muted_append]

theorem muted_makeRoom (reassembly : Reassembly) (drops : Nat) :
    reassembly.muted.makeRoom drops =
      ((reassembly.makeRoom drops).1.muted, Signal.muted (reassembly.makeRoom drops).2) := by
  unfold makeRoom
  cases hlimit : reassembly.settings.maxInFlight with
  | none => simp [muted, hlimit]
  | some limit =>
      simp only [muted, hlimit]
      exact muted_evictMany limit drops _ reassembly

theorem muted_openFrame (reassembly : Reassembly) (header : Datagram.Header) (drops now : Nat) :
    reassembly.muted.openFrame header drops now =
      ((reassembly.openFrame header drops now).1.muted,
        Signal.muted (reassembly.openFrame header drops now).2) := rfl

theorem muted_packetEvent (packet : Reception.Packet) (expected : Nat)
    (outcome : Assembly.Outcome) :
    Signal.muted [.event (packetEvent packet expected outcome)] =
      [.event (packetEvent packet expected outcome)] := by
  cases outcome <;> rfl

theorem muted_deliver (reassembly : Reassembly) (packet : Reception.Packet) (now : Nat) :
    reassembly.muted.deliver packet now =
      ((reassembly.deliver packet now).1.muted, (reassembly.deliver packet now).2.1,
        Signal.muted (reassembly.deliver packet now).2.2) := by
  cases hfound : reassembly.find? packet.frameId with
  | none =>
      have hmuted : reassembly.muted.find? packet.frameId = none := hfound
      rw [deliver, deliver, hfound, hmuted]
      rfl
  | some flight =>
      have hmuted : reassembly.muted.find? packet.frameId = some flight := hfound
      rw [deliver_of_some hfound, deliver_of_some hmuted]
      simp only [muted_packetEvent]
      rfl

theorem muted_push (reassembly : Reassembly) (packet : Reception.Packet) (drops now : Nat) :
    reassembly.muted.push packet drops now =
      ((reassembly.push packet drops now).1.muted, (reassembly.push packet drops now).2.1,
        Signal.muted (reassembly.push packet drops now).2.2) := by
  cases hfound : reassembly.find? packet.frameId with
  | some flight =>
      have hmuted : reassembly.muted.find? packet.frameId = some flight := hfound
      rw [push_of_present hfound, push_of_present hmuted, muted_deliver]
  | none =>
      have hmuted : reassembly.muted.find? packet.frameId = none := hfound
      by_cases hlate : packet.frameId ∈ reassembly.evictedIds
      · rw [push_of_refused hfound hlate, push_of_refused hmuted hlate]
        rfl
      · rw [push_of_absent hfound hlate, push_of_absent hmuted hlate]
        simp only [muted_makeRoom, muted_openFrame, muted_deliver, Signal.muted_append]

theorem muted_sweep (reassembly : Reassembly) (drops now : Nat) :
    reassembly.muted.sweep drops now =
      ((reassembly.sweep drops now).1.muted, (reassembly.sweep drops now).2.1,
        Signal.muted (reassembly.sweep drops now).2.2) := by
  let kept := reassembly.flights.filter fun flight =>
    (flight.due? reassembly.settings now).isNone
  have hretired := muted_retireAll drops (reassembly.dueFlights now)
    { reassembly with flights := kept }
  exact congrArg (fun last => (last.1, (reassembly.dueFlights now).length, last.2)) hretired

theorem muted_drain (reassembly : Reassembly) (drops : Nat) :
    reassembly.muted.drain drops =
      ((reassembly.drain drops).1.muted, (reassembly.drain drops).2.1,
        Signal.muted (reassembly.drain drops).2.2) := by
  let leaving := reassembly.flights.map fun flight => (flight, RetireReason.shutdown)
  have hretired := muted_retireAll drops leaving { reassembly with flights := [] }
  have hdrained : Signal.muted (if 0 < leaving.length then [.drained leaving.length] else []) =
      if 0 < leaving.length then [.drained leaving.length] else [] := by
    split <;> rfl
  have hsame := congrArg (fun last => (last.1, leaving.length,
    last.2 ++ if 0 < leaving.length then [Signal.drained leaving.length] else [])) hretired
  simp only [drain, Signal.muted_append]
  rw [hdrained]
  exact hsame

theorem muted_step (reassembly : Reassembly) (call : Call) :
    reassembly.muted.step call =
      ((reassembly.step call).1.muted, (reassembly.step call).2.1,
        Signal.muted (reassembly.step call).2.2) := by
  cases call with
  | push packet drops now => simp only [step, muted_push]
  | sweep drops now => simp only [step, muted_sweep]
  | drain drops => simp only [step, muted_drain]

/-! ## Runs -/

def eventsDuring (reassembly : Reassembly) (calls : List Call) : List Event :=
  Signal.events ((reassembly.run calls).2.flatMap Prod.snd)

theorem eventsDuring_cons (reassembly : Reassembly) (call : Call) (rest : List Call) :
    reassembly.eventsDuring (call :: rest) =
      Signal.events (reassembly.step call).2.2 ++
        (reassembly.step call).1.eventsDuring rest :=
  Signal.events_append ..

/-- A muted run tells everything but the missing packets. -/
theorem eventsDuring_muted (reassembly : Reassembly) (calls : List Call) :
    reassembly.muted.eventsDuring calls =
      (reassembly.eventsDuring calls).filter fun happening => !happening.isMissing := by
  induction calls generalizing reassembly with
  | nil => rfl
  | cons call rest ih =>
      rw [eventsDuring_cons, eventsDuring_cons, muted_step, ih, Signal.events_muted,
        List.filter_append]

end Reassembly

end Framecast
