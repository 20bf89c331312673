import Framecast.Log
import Framecast.Observation.Trace

/-!
# Observers

Observers watch the events of a reassembly.  A recorder keeps them, a trace keeps
the last packets, a logger tells the log, and a group passes them on.  Reports of
missing packets go only to members that ask for them; `tracesMissing` says
whether an observer does.
-/

namespace Framecast.Observation

open Framecast.Assembly (Event FrameState RejectReason RetireReason)

/-- A watcher of events, with what it has kept so far. -/
inductive Observer where
  /-- Keeps every event it is told, the last in front; `missing` asks for missing packets. -/
  | recorder (missing : Bool) (newestFirst : List Event)
  /-- Keeps the last accepted and missing packets. -/
  | trace (ring : Trace)
  /-- Writes events to the log. -/
  | logger
  /-- Passes events on to its members. -/
  | group (members : List Observer)
deriving Repr

/-- What the log says about an event; nothing about missing packets. -/
def logEvent : Event → List LogRecord
  | .started frameId packetCount queueDrops =>
      [⟨.debug, "frame started",
        [("frame_id", .number frameId.toNat), ("packet_count", .number packetCount),
          ("queue_drops", .number queueDrops)]⟩]
  | .accepted frameId packetId packetCount payloadSize gapHint =>
      [⟨.trace, "packet accepted",
        [("frame_id", .number frameId.toNat), ("packet_id", .number packetId.toNat),
          ("packet_count", .number packetCount), ("payload_size", .number payloadSize),
          ("gap_hint", .flag gapHint)]⟩]
  | .rejected frameId packetId reason =>
      [⟨.warn, "packet rejected",
        [("frame_id", .number frameId.toNat), ("packet_id", .number packetId.toNat),
          ("reason", .text reason.name)]⟩]
  | .missing .. => []
  | .retired frameId .complete _ received _ frameSize _ _ =>
      [⟨.info, "frame complete",
        [("frame_id", .number frameId.toNat), ("packets", .number received),
          ("frame_size", .number frameSize)]⟩]
  | .retired frameId .incomplete reason received expected frameSize queuePressure gapHints =>
      [⟨.warn, "frame partial",
        [("frame_id", .number frameId.toNat), ("reason", .text reason.name),
          ("missing", .number (expected - received)), ("expected", .number expected),
          ("frame_size", .number frameSize), ("queue_pressure", .flag queuePressure),
          ("gap_hints", .number gapHints)]⟩]

namespace Observer

def tracesMissing : Observer → Bool
  | .recorder missing _ => missing
  | .trace _ => true
  | .logger => false
  | .group members => anyTracesMissing members
where
  /-- Whether any of several observers asks for reports of missing packets. -/
  anyTracesMissing : List Observer → Bool
    | [] => false
    | member :: rest => member.tracesMissing || anyTracesMissing rest

def observe (event : Event) : Observer → Observer
  | .recorder missing newestFirst => .recorder missing (event :: newestFirst)
  | .trace ring => .trace (ring.observe event)
  | .logger => .logger
  | .group members => .group (observeEach members)
where
  /-- Pass the event on to each member, unless the member is not to see it. -/
  observeEach : List Observer → List Observer
    | [] => []
    | member :: rest =>
        (if event.isMissing && !member.tracesMissing then member
          else observe event member) :: observeEach rest

/-- What the observer writes to the log when it is told an event. -/
def logOf (event : Event) : Observer → List LogRecord
  | .recorder .. => []
  | .trace _ => []
  | .logger => logEvent event
  | .group members => logOfEach members
where
  /-- What the members write, one after the other. -/
  logOfEach : List Observer → List LogRecord
    | [] => []
    | member :: rest =>
        (if event.isMissing && !member.tracesMissing then [] else logOf event member) ++
          logOfEach rest

/-- What an observer that is a recorder, or the first recorder in a group, has kept. -/
def recorded : Observer → List Event
  | .recorder _ newestFirst => newestFirst.reverse
  | .group members => (members.findSome? fun
      | .recorder _ newestFirst => some newestFirst.reverse
      | _ => none).getD []
  | _ => []

/-- The trace that the observer is, or the first one in a group. -/
def trace? : Observer → Option Trace
  | .trace ring => some ring
  | .group members => members.findSome? fun
      | .trace ring => some ring
      | _ => none
  | _ => none

def observeAll (observer : Observer) (events : List Event) : Observer :=
  events.foldl (fun current event => current.observe event) observer

def logOfAll (observer : Observer) (events : List Event) : List LogRecord :=
  events.flatMap fun event => observer.logOf event

end Observer

/-- How many packets among the events were refused for the given reason. -/
def countRejections (events : List Event) (reason : RejectReason) : Nat :=
  events.countP fun
    | .rejected _ _ found => found == reason
    | _ => false

def retirements (events : List Event) : List (UInt32 × FrameState × RetireReason) :=
  events.filterMap fun
    | .retired frameId state reason .. => some (frameId, state, reason)
    | _ => none

end Framecast.Observation
