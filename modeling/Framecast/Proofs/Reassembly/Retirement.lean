import Framecast.Observation.Observer
import Framecast.Proofs.Reassembly.Trail

/-!
# Retirements that are told

Every function of the state machine tells of the frames that retire in it, with the state
in which they retire and the reason, and of no others.
-/

namespace Framecast

open Framecast.Assembly (FrameState RetireReason Settings)

namespace Reassembly

/-- The retirements that signals tell of: frame, state and reason. -/
def Signal.retirements (signals : List Signal) : List (UInt32 × FrameState × RetireReason) :=
  Observation.retirements (events signals)

def retirement (entry : Flight × RetireReason) : UInt32 × FrameState × RetireReason :=
  (entry.1.id, retiredState entry.1, entry.2)

namespace Signal

@[simp] theorem retirements_nil : retirements [] = [] := rfl

@[simp] theorem retirements_append (signals later : List Signal) :
    retirements (signals ++ later) = retirements signals ++ retirements later := by
  simp [retirements, Observation.retirements]

end Signal

theorem retirements_retireSignals (reportsMissing : Bool) (flight : Flight)
    (reason : RetireReason) (drops : Nat) :
    Signal.retirements (retireSignals reportsMissing flight reason drops) =
      [retirement (flight, reason)] := by
  have hmissing : Observation.retirements (missingEvents reportsMissing flight) = [] := by
    rw [Observation.retirements, List.filterMap_eq_nil_iff]
    intro happening hmem
    rw [missingEvents] at hmem
    split at hmem
    · obtain ⟨packetId, -, rfl⟩ := List.mem_map.mp hmem
      rfl
    · exact absurd hmem List.not_mem_nil
  rw [Signal.retirements, events_retireSignals, Observation.retirements,
    List.filterMap_append, ← Observation.retirements, hmissing]
  rfl

theorem flights_retireAll (drops : Nat) (leaving : List (Flight × RetireReason))
    (reassembly : Reassembly) :
    (retireAll drops leaving reassembly).1.flights = reassembly.flights := by
  obtain ⟨counters, spares, hstate, -⟩ := retireAll_frame drops leaving reassembly
  rw [hstate]

theorem retirements_retireAll (drops : Nat) (leaving : List (Flight × RetireReason))
    (reassembly : Reassembly) :
    Signal.retirements (retireAll drops leaving reassembly).2 = leaving.map retirement := by
  induction leaving generalizing reassembly with
  | nil => rfl
  | cons entry rest ih =>
      rw [retireAll_cons, Signal.retirements_append, retirements_retireSignals, ih]
      rfl

theorem frames_retireAll (drops : Nat) (leaving : List (Flight × RetireReason))
    (reassembly : Reassembly) :
    Signal.frames (retireAll drops leaving reassembly).2 =
      leaving.map fun entry => retiredFrame entry.1 drops := by
  induction leaving generalizing reassembly with
  | nil => rfl
  | cons entry rest ih =>
      rw [retireAll_cons, Signal.frames_append, frames_retireSignals, ih]
      rfl

theorem retirements_packetEvent (packet : Reception.Packet) (expected : Nat)
    (outcome : Assembly.Outcome) :
    Signal.retirements [.event (packetEvent packet expected outcome)] = [] := by
  cases outcome <;> rfl

/-! ## Sweeps and drains -/

theorem retirements_sweep (reassembly : Reassembly) (drops now : Nat) :
    Signal.retirements (reassembly.sweep drops now).2.2 =
      (reassembly.dueFlights now).map retirement :=
  retirements_retireAll ..

theorem reason_of_due {reassembly : Reassembly} {now : Nat}
    {entry : Flight × RetireReason} (hmem : entry ∈ reassembly.dueFlights now) :
    entry.2 = .completed ∨ entry.2 = .lifetimeExpired ∨ entry.2 = .idleTimeout := by
  obtain ⟨flight, -, hflight⟩ := List.mem_filterMap.mp hmem
  obtain ⟨reason, hdue, rfl⟩ := Option.map_eq_some_iff.mp hflight
  unfold Flight.due? at hdue
  split at hdue
  · exact .inl (Option.some.inj hdue).symm
  split at hdue
  · exact .inr (.inl (Option.some.inj hdue).symm)
  split at hdue
  · exact .inr (.inr (Option.some.inj hdue).symm)
  · exact absurd hdue (by simp)

/-- Nothing that falls due retires as evicted. -/
theorem ne_evicted_of_due {reassembly : Reassembly} {now : Nat}
    {entry : Flight × RetireReason} (hmem : entry ∈ reassembly.dueFlights now) :
    entry.2 ≠ .evicted := by
  rcases reason_of_due hmem with h | h | h <;> simp [h]

theorem retirements_drained (count : Nat) :
    Signal.retirements (if 0 < count then [.drained count] else []) = [] := by
  split <;> rfl

theorem retirements_drain (reassembly : Reassembly) (drops : Nat) :
    Signal.retirements (reassembly.drain drops).2.2 =
      reassembly.flights.map fun flight => retirement (flight, .shutdown) := by
  let leaving := reassembly.flights.map fun flight => (flight, RetireReason.shutdown)
  show Signal.retirements ((retireAll drops leaving _).2 ++ _) = _
  rw [Signal.retirements_append, retirements_drained, List.append_nil, retirements_retireAll,
    List.map_map]
  rfl

end Reassembly

end Framecast
