import Framecast.Assembly.Basic
import Framecast.Assembly.Settings

/-!
# Frames in flight

A flight is a frame that is being received, together with the times and the drop
count by which its retirement is judged.  Flights are kept in a list in
ascending order of their frame ids.
-/

namespace Framecast.Reassembly

open Framecast.Assembly (RetireReason Settings Outcome)

structure Flight where
  assembly : Assembly
  /-- When the packet that opened the frame was pushed. -/
  openedAt : Nat
  /-- When the last packet was accepted, or else when the frame was opened. -/
  updatedAt : Nat
  /-- The queue's drop count when the frame was opened. -/
  dropsAtStart : Nat
deriving Repr, DecidableEq

namespace Flight

def id (flight : Flight) : UInt32 := flight.assembly.frameId

/-- Push one packet; only an accepted packet counts as activity. -/
def receive (flight : Flight) (packet : Reception.Packet) (now : Nat) : Flight :=
  let (assembly, outcome) :=
    flight.assembly.push packet.header packet.payload packet.gapBefore
  { flight with
    assembly
    updatedAt := if outcome = .accepted then now else flight.updatedAt }

/--
Why the flight is to retire at time `now`, if it is: because it is full, else
because of its age, else because it is idle.  A clock that went backwards counts
as no time at all.
-/
def due? (settings : Settings) (now : Nat) (flight : Flight) : Option RetireReason :=
  if flight.assembly.isFull then some .completed
  else if settings.maxLifetime < now - flight.openedAt then some .lifetimeExpired
  else if settings.idleTimeout < now - flight.updatedAt then some .idleTimeout
  else none

end Flight

/-- Put a flight in front of the first one with a greater id. -/
def insertFlight (flight : Flight) : List Flight → List Flight
  | [] => [flight]
  | head :: rest =>
      if flight.id < head.id then flight :: head :: rest
      else head :: insertFlight flight rest

/-- The flight that was opened first; of several, the one with the least id. -/
def oldestFlight : List Flight → Option Flight
  | [] => none
  | flight :: rest =>
      match oldestFlight rest with
      | none => some flight
      | some other => if other.openedAt < flight.openedAt then some other else some flight

end Framecast.Reassembly
