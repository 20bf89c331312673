import Framecast.Observation.Trace
import Framecast.Log
import Framecast.Reception.Continuity
import Framecast.Reception.Queue
import Framecast.Statistics.Report

/-!
# Taking in datagrams

The intake checks every datagram, notes gaps in the packet stream, and passes the
packets on to the queue.  A datagram that is no packet of legal size is counted
and forgotten: it changes nothing else.
-/

namespace Framecast.Reception

open Framecast.Observation (Trace)
open Framecast.Statistics (DatagramTotals)

/-- Bytes of a datagram that are received; the rest of a longer one is cut off. -/
def receiveBuffer : Nat := 2048

structure Intake where
  /-- Largest payload that is let in. -/
  maxPayload : Nat
  queue : Queue
  continuity : Continuity
  totals : DatagramTotals
  trace : Option Trace
deriving Repr

namespace Intake

def initial (maxPayload queueCapacity : Nat) (trace : Option Trace) : Intake where
  maxPayload
  queue := .empty queueCapacity
  continuity := .initial
  totals := {}
  trace

def refuse (intake : Intake) : Intake :=
  { intake with
    totals := { intake.totals with malformed := intake.totals.malformed + 1 } }

/-- Let a packet in that came in a datagram of `size` bytes; the flag tells of a gap. -/
def accept (intake : Intake) (packet : Packet) (size : Nat) : Intake × Bool :=
  let gap := intake.continuity.gapBefore packet.header
  let totals := intake.totals
  ({ intake with
      queue := (intake.queue.push (packet.withGap gap)).1
      continuity := .after packet.header
      totals := { totals with
        packets := totals.packets + 1
        bytes := totals.bytes + size
        gapHints := if gap then totals.gapHints + 1 else totals.gapHints }
      trace := intake.trace.map fun trace => trace.recordReceived packet.header gap },
    gap)

def receive (intake : Intake) (datagram : Bytes) : Intake × List LogRecord :=
  let data := datagram.take receiveBuffer
  match Packet.ofDatagram data intake.maxPayload with
  | .error cause =>
      (intake.refuse,
        [⟨.debug, "dropping datagram: " ++ cause.message, [("len", .number data.length)]⟩])
  | .ok packet =>
      let (next, gap) := intake.accept packet data.length
      (next,
        if gap then
          [⟨.trace, "out-of-sequence packet",
            [("frame_id", .number packet.frameId.toNat),
              ("packet_id", .number packet.header.packetId.toNat)]⟩]
        else [])

/-- Take in datagrams in order, with the state and the log records after each. -/
def receiveAll (intake : Intake) : List Bytes → Intake × List (Intake × List LogRecord)
  | [] => (intake, [])
  | datagram :: rest =>
      let (next, log) := intake.receive datagram
      let (last, later) := next.receiveAll rest
      (last, (next, log) :: later)

def closingLog (intake : Intake) : LogRecord :=
  ⟨.info, "UDP receive loop exiting",
    [("packets", .number intake.totals.packets), ("bytes", .number intake.totals.bytes),
      ("malformed", .number intake.totals.malformed),
      ("queue_drops", .number intake.queue.dropped)]⟩

end Intake

end Framecast.Reception
