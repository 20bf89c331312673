import Framecast.Assembly.Event
import Framecast.Datagram.Header

/-!
# The trace ring

A trace keeps the last entries of the packet history in a ring of fixed size: the
entry with sequence number `n` overwrites the one in slot `n` modulo the
capacity.  Reading starts at the slot that would be overwritten next, so entries
come out oldest first.
-/

namespace Framecast.Observation

open Framecast.Assembly (Event)

inductive TraceKind where
  /-- Seen on the network. -/
  | received
  /-- Copied into a frame buffer. -/
  | accepted
  /-- Absent when its frame retired. -/
  | missing
deriving Repr, DecidableEq

def TraceKind.mark : TraceKind → String
  | .received => "RX"
  | .accepted => "OK"
  | .missing => "MISS"

structure TraceFact where
  kind : TraceKind
  frameId : UInt32
  packetId : UInt16
  packetCount : Nat
  payloadSize : Nat
  gap : Bool
deriving Repr, DecidableEq

def TraceFact.ofHeader (kind : TraceKind) (header : Datagram.Header) (gap : Bool) :
    TraceFact where
  kind
  frameId := header.frameId
  packetId := header.packetId
  packetCount := header.packetCount.toNat
  payloadSize := header.payloadSize.toNat
  gap

/-- A fact with its place in the history. -/
structure TraceEntry where
  sequence : Nat
  fact : TraceFact
deriving Repr, DecidableEq

structure Trace where
  /-- How many entries were ever recorded. -/
  recorded : Nat
  slots : Array (Option TraceEntry)
deriving Repr, DecidableEq

namespace Trace

def defaultCapacity : Nat := 4096

/-- An empty trace; it keeps at least one entry. -/
def new (capacity : Nat) : Trace := ⟨0, Array.replicate (max capacity 1) none⟩

def capacity (trace : Trace) : Nat := trace.slots.size

/-- Record a fact over the oldest entry. -/
def record (trace : Trace) (fact : TraceFact) : Trace where
  recorded := trace.recorded + 1
  slots :=
    trace.slots.setIfInBounds (trace.recorded % trace.slots.size)
      (some ⟨trace.recorded, fact⟩)

def recordReceived (trace : Trace) (header : Datagram.Header) (gap : Bool) : Trace :=
  trace.record (.ofHeader .received header gap)

/-- What an event puts into a trace: accepted and missing packets only. -/
def factOf? : Event → Option TraceFact
  | .accepted frameId packetId packetCount payloadSize gap =>
      some ⟨.accepted, frameId, packetId, packetCount, payloadSize, gap⟩
  | .missing frameId packetId packetCount =>
      some ⟨.missing, frameId, packetId, packetCount, 0, false⟩
  | _ => none

/-- Record an event, if it is one that traces keep. -/
def observe (trace : Trace) (event : Event) : Trace :=
  match factOf? event with
  | none => trace
  | some fact => trace.record fact

/-- The entries kept, oldest first. -/
def entries (trace : Trace) : List TraceEntry :=
  let slots := trace.slots.toList
  let next := trace.recorded % trace.slots.size
  (slots.drop next ++ slots.take next).filterMap fun slot => slot

def line (entry : TraceEntry) : String :=
  let fact := entry.fact
  s!"{entry.sequence} " ++ fact.kind.mark ++
    s!" {fact.frameId.toNat} {fact.packetId.toNat}/{fact.packetCount} {fact.payloadSize} " ++
    (if fact.gap then "GAP" else "-") ++ "\n"

/-- The text of a trace: a heading, then one line for each entry. -/
def text (trace : Trace) : String :=
  "# seq kind frame_id packet_id/packet_count payload gap\n" ++
    String.join (trace.entries.map line)

end Trace

end Framecast.Observation
