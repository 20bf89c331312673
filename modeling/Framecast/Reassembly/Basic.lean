import Framecast.Log
import Framecast.Reassembly.Flight

/-!
# Reassembling the packet stream

The reassembly tracks every frame in flight and decides when each one retires:
when it is full or a timer expires and somebody looks (`sweep`), when room is
needed for a newer frame (`push`), or at the end (`drain`).  Time and the drop
count of the packet queue are arguments, so that a run is a fold over calls.
What the calls tell the outside is a list of signals in the order in which they
happen.
-/

namespace Framecast

open Framecast.Assembly (Event Frame FrameState Outcome RejectReason RetireReason Settings
  SettingsError)

namespace Reassembly

structure Counters where
  started : Nat := 0
  emitted : Nat := 0
  complete : Nat := 0
  incomplete : Nat := 0
  evicted : Nat := 0
  accepted : Nat := 0
  rejected : Nat := 0
deriving Repr, DecidableEq

def Counters.count (counters : Counters) : Outcome → Counters
  | .accepted => { counters with accepted := counters.accepted + 1 }
  | .rejected _ => { counters with rejected := counters.rejected + 1 }

def Counters.retire (counters : Counters) : FrameState → Counters
  | .complete =>
      { counters with emitted := counters.emitted + 1, complete := counters.complete + 1 }
  | .incomplete =>
      { counters with
        emitted := counters.emitted + 1
        incomplete := counters.incomplete + 1 }

inductive Signal where
  /-- An event for the observers. -/
  | event (event : Event)
  /-- A retired frame, handed over for good. -/
  | emitted (frame : Frame)
  /-- The last frames were drained, and there were some. -/
  | drained (count : Nat)
deriving Repr, DecidableEq

end Reassembly

open Reassembly in
structure Reassembly where
  settings : Assembly.Settings
  /-- Whether missing packets of incomplete frames are reported one by one. -/
  reportsMissing : Bool
  /-- The frames in flight, in ascending order of their ids. -/
  flights : List Flight
  /-- Idle buffers, the one returned last in front. -/
  spares : List Assembly
  /-- The ids of the frames evicted last, oldest first. -/
  evictedIds : List UInt32
  counters : Counters
deriving Repr, DecidableEq

namespace Reassembly

def initial (settings : Settings) (reportsMissing : Bool) : Reassembly where
  settings
  reportsMissing
  flights := []
  spares := []
  evictedIds := []
  counters := {}

/-- A reassembly without frames, if the settings are sound. -/
def create (settings : Settings) (reportsMissing : Bool) : Except SettingsError Reassembly :=
  match settings.check with
  | .error cause => .error cause
  | .ok () => .ok (initial settings reportsMissing)

def find? (reassembly : Reassembly) (frameId : UInt32) : Option Flight :=
  reassembly.flights.find? fun flight => flight.id = frameId

def isInFlight (reassembly : Reassembly) (frameId : UInt32) : Bool :=
  reassembly.flights.any fun flight => flight.id = frameId

/-- Keep the buffer of a retired frame, unless there are enough idle ones. -/
def keepSpare (reassembly : Reassembly) (assembly : Assembly) : Reassembly :=
  if reassembly.spares.length < reassembly.settings.spareBuffers then
    { reassembly with spares := assembly.reset :: reassembly.spares }
  else reassembly

def retiredState (flight : Flight) : FrameState :=
  if flight.assembly.isComplete then .complete else .incomplete

/-- The frame that a retiring flight becomes, under the given drop count. -/
def retiredFrame (flight : Flight) (drops : Nat) : Frame :=
  flight.assembly.toFrame (retiredState flight) (decide (flight.dropsAtStart < drops))

def retiredEvent (flight : Flight) (reason : RetireReason) (drops : Nat) : Event :=
  .retired flight.id (retiredState flight) reason flight.assembly.received
    flight.assembly.expected flight.assembly.frameSize
    (decide (flight.dropsAtStart < drops)) flight.assembly.gapHints

/-- The reports of the packets that a retiring flight lacks. -/
def missingEvents (reportsMissing : Bool) (flight : Flight) : List Event :=
  if retiredState flight = .incomplete ∧ reportsMissing = true then
    flight.assembly.missingPackets.map fun packetId =>
      .missing flight.id packetId flight.assembly.expected
  else []

/-- All signals of a retirement: missing packets, the event, the frame. -/
def retireSignals (reportsMissing : Bool) (flight : Flight) (reason : RetireReason)
    (drops : Nat) : List Signal :=
  (missingEvents reportsMissing flight).map .event ++
    [.event (retiredEvent flight reason drops), .emitted (retiredFrame flight drops)]

/-- Count a retirement and keep the buffer; the flight has been taken out before. -/
def settleRetired (reassembly : Reassembly) (flight : Flight) : Reassembly :=
  { reassembly with
    counters := reassembly.counters.retire (retiredState flight) }.keepSpare flight.assembly

def retireAll (drops : Nat) :
    List (Flight × RetireReason) → Reassembly → Reassembly × List Signal
  | [], reassembly => (reassembly, [])
  | (flight, reason) :: rest, reassembly =>
      let signals := retireSignals reassembly.reportsMissing flight reason drops
      let (reassembly, later) := retireAll drops rest (reassembly.settleRetired flight)
      (reassembly, signals ++ later)

/-- Add an id to the memory of evictions, which holds at most `limit` of them. -/
def remember (limit : Nat) (frameId : UInt32) (evictedIds : List UInt32) : List UInt32 :=
  (if limit ≤ evictedIds.length then evictedIds.drop 1 else evictedIds) ++ [frameId]

/-- Retire the oldest frame and remember its id, so that its late packets are refused. -/
def evictOldest (reassembly : Reassembly) (limit drops : Nat) : Reassembly × List Signal :=
  match oldestFlight reassembly.flights with
  | none => (reassembly, [])
  | some flight =>
      let flights := reassembly.flights.filter fun other => other.id ≠ flight.id
      let counters := { reassembly.counters with evicted := reassembly.counters.evicted + 1 }
      let evictedIds := remember limit flight.id reassembly.evictedIds
      retireAll drops [(flight, .evicted)] { reassembly with flights, counters, evictedIds }

def evictMany (limit drops : Nat) : Nat → Reassembly → Reassembly × List Signal
  | 0, reassembly => (reassembly, [])
  | count + 1, reassembly =>
      let (reassembly, signals) := reassembly.evictOldest limit drops
      let (reassembly, later) := evictMany limit drops count reassembly
      (reassembly, signals ++ later)

/-- Evict frames until there is room for one more under the limit, if there is a limit. -/
def makeRoom (reassembly : Reassembly) (drops : Nat) : Reassembly × List Signal :=
  match reassembly.settings.maxInFlight with
  | none => (reassembly, [])
  | some limit =>
      evictMany limit drops (reassembly.flights.length + 1 - limit) reassembly

/-- An idle buffer, or a new one, and the remaining idle buffers. -/
def takeBuffer (reassembly : Reassembly) : Assembly × List Assembly :=
  match reassembly.spares with
  | [] => (.new reassembly.settings.maxFrameSize reassembly.settings.stride, [])
  | assembly :: rest => (assembly, rest)

def openFrame (reassembly : Reassembly) (header : Datagram.Header) (drops now : Nat) :
    Reassembly × List Signal :=
  let (assembly, spares) := reassembly.takeBuffer
  let flight : Flight := {
    assembly := assembly.start header.frameId header.packetCount
    openedAt := now
    updatedAt := now
    dropsAtStart := drops }
  let flights := insertFlight flight reassembly.flights
  let counters := { reassembly.counters with started := reassembly.counters.started + 1 }
  ({ reassembly with flights, spares, counters },
    [.event (.started header.frameId header.packetCount.toNat drops)])

def packetEvent (packet : Reception.Packet) (expected : Nat) : Outcome → Event
  | .accepted =>
      .accepted packet.frameId packet.header.packetId expected
        packet.header.payloadSize.toNat packet.gapBefore
  | .rejected reason => .rejected packet.frameId packet.header.packetId reason

def deliver (reassembly : Reassembly) (packet : Reception.Packet) (now : Nat) :
    Reassembly × Outcome × List Signal :=
  match reassembly.find? packet.frameId with
  | none => (reassembly, .rejected .notStarted, [])
  | some flight =>
      let outcome := flight.assembly.verdict packet.header packet.payload
      let event := packetEvent packet flight.assembly.expected outcome
      let flights := reassembly.flights.map fun other =>
        if other.id = packet.frameId then other.receive packet now else other
      let counters := reassembly.counters.count outcome
      ({ reassembly with flights, counters }, outcome, [.event event])

/-- Refuse a late packet of an evicted frame. -/
def refuseEvicted (reassembly : Reassembly) (packet : Reception.Packet) :
    Reassembly × Outcome × List Signal :=
  let outcome : Outcome := .rejected .evicted
  ({ reassembly with counters := reassembly.counters.count outcome }, outcome,
    [.event (packetEvent packet 0 outcome)])

/--
Route a packet to its frame.  A frame seen for the first time is opened, after
making room for it, unless it was evicted not long ago.
-/
def push (reassembly : Reassembly) (packet : Reception.Packet) (drops now : Nat) :
    Reassembly × Outcome × List Signal :=
  if reassembly.isInFlight packet.frameId then reassembly.deliver packet now
  else if packet.frameId ∈ reassembly.evictedIds then reassembly.refuseEvicted packet
  else
    let (reassembly, evictions) := reassembly.makeRoom drops
    let (reassembly, opening) := reassembly.openFrame packet.header drops now
    let (reassembly, outcome, delivery) := reassembly.deliver packet now
    (reassembly, outcome, evictions ++ opening ++ delivery)

/-- The flights that are due at time `now`, with their reasons. -/
def dueFlights (reassembly : Reassembly) (now : Nat) : List (Flight × RetireReason) :=
  reassembly.flights.filterMap fun flight =>
    (flight.due? reassembly.settings now).map fun reason => (flight, reason)

/-- Retire every frame that is full or whose timer has expired, and count them. -/
def sweep (reassembly : Reassembly) (drops now : Nat) : Reassembly × Nat × List Signal :=
  let due := reassembly.dueFlights now
  let flights := reassembly.flights.filter fun flight =>
    (flight.due? reassembly.settings now).isNone
  let (reassembly, signals) := retireAll drops due { reassembly with flights }
  (reassembly, due.length, signals)

def drain (reassembly : Reassembly) (drops : Nat) : Reassembly × Nat × List Signal :=
  let remaining := reassembly.flights.map fun flight => (flight, RetireReason.shutdown)
  let (reassembly, signals) := retireAll drops remaining { reassembly with flights := [] }
  let count := remaining.length
  (reassembly, count, signals ++ if 0 < count then [.drained count] else [])

inductive Call where
  | push (packet : Reception.Packet) (drops now : Nat)
  | sweep (drops now : Nat)
  | drain (drops : Nat)
deriving Repr, DecidableEq

inductive Reply where
  | outcome (outcome : Outcome)
  | retired (count : Nat)
deriving Repr, DecidableEq

def step (reassembly : Reassembly) : Call → Reassembly × Reply × List Signal
  | .push packet drops now =>
      let (next, outcome, signals) := reassembly.push packet drops now
      (next, .outcome outcome, signals)
  | .sweep drops now =>
      let (next, count, signals) := reassembly.sweep drops now
      (next, .retired count, signals)
  | .drain drops =>
      let (next, count, signals) := reassembly.drain drops
      (next, .retired count, signals)

def run (reassembly : Reassembly) : List Call → Reassembly × List (Reply × List Signal)
  | [] => (reassembly, [])
  | call :: rest =>
      let (next, reply, signals) := reassembly.step call
      let (last, later) := next.run rest
      (last, (reply, signals) :: later)

namespace Signal

def events (signals : List Signal) : List Event :=
  signals.filterMap fun
    | .event happening => some happening
    | _ => none

def frames (signals : List Signal) : List Frame :=
  signals.filterMap fun
    | .emitted frame => some frame
    | _ => none

end Signal

end Reassembly

end Framecast
