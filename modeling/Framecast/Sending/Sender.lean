import Framecast.Datagram.Fragment
import Framecast.Log
import Framecast.Sending.Link
import Framecast.Sending.Plan

/-!
# Sending frames

A sender numbers its frames from one on, cuts each into packets, and gives the planned
ones to its link.  A frame that cannot be cut uses up its number all the same.

The pauses of a sender are left out: between two packets of a frame, and before a datagram
is given to the link again.
-/

namespace Framecast.Sending

variable {σ : Type}

structure Sender where
  options : Options
  /-- How often a datagram is given to the link again after a transient fault. -/
  maxRetries : Nat
  random : Random
  nextFrameId : UInt32
deriving Repr, DecidableEq

structure SendReport where
  frameId : UInt32
  packets : Nat
  sent : Nat
  skipped : Nat
  failed : Nat
  bytes : Nat
deriving Repr, DecidableEq

structure SendError where
  frameId : UInt32
  cause : Datagram.FragmentError
deriving Repr, DecidableEq

def SendError.chain (error : SendError) : List String :=
  [s!"cannot fragment frame {error.frameId.toNat}", error.cause.message]

/-- What a link answered to the datagrams of a frame. -/
structure Transmission where
  sent : Nat
  failed : Nat
  bytes : Nat
  log : List LogRecord
deriving Repr, DecidableEq

/-- Give the link the packets one after the other; a refused one does not stop the others. -/
def transmit (link : Link σ) (retries : Nat) : List Datagram.Packet → σ → Transmission × σ
  | [], state => (⟨0, 0, 0, []⟩, state)
  | packet :: rest, state =>
      let (answer, next) := link.offer packet.encode retries state
      let (later, last) := transmit link retries rest next
      match answer with
      | .ok size => ({ later with sent := later.sent + 1, bytes := size + later.bytes }, last)
      | .error fault =>
          ({ later with
              failed := later.failed + 1
              log :=
                ⟨.warn, "send failed: " ++ fault.message,
                  [("frame_id", .number packet.header.frameId.toNat),
                    ("packet_id", .number packet.header.packetId.toNat)]⟩ :: later.log },
            last)

namespace Sender

def new (options : Options) (maxRetries : Nat) (random : Random) : Sender :=
  ⟨options, maxRetries, random, 1⟩

def checkSize (sender : Sender) (size : Nat) : Except SendError Unit :=
  match Datagram.packetCount size Datagram.maxPayload with
  | .error cause => .error ⟨sender.nextFrameId, cause⟩
  | .ok _ => .ok ()

/-- The answer comes with the log of the call. -/
def send (sender : Sender) (link : Link σ) (frame : Bytes) (state : σ) :
    Except SendError (SendReport × List LogRecord) × Sender × σ :=
  let frameId := sender.nextFrameId
  let sender := { sender with nextFrameId := sender.nextFrameId + 1 }
  match Datagram.fragment frameId frame Datagram.maxPayload with
  | .error cause => (.error ⟨frameId, cause⟩, sender, state)
  | .ok packets =>
      let (random, planned) := plan sender.options sender.random packets
      let (transmission, last) := transmit link sender.maxRetries planned state
      let report : SendReport := {
        frameId
        packets := packets.length
        sent := transmission.sent
        skipped := packets.length - planned.length
        failed := transmission.failed
        bytes := transmission.bytes }
      let summary : LogRecord :=
        ⟨.debug, "frame sent",
          [("frame_id", .number frameId.toNat), ("packets", .number report.packets),
            ("sent", .number report.sent), ("skipped", .number report.skipped)]⟩
      (.ok (report, transmission.log ++ [summary]), { sender with random }, last)

/-- Send the encoded frames of some items in order: what became of each, with the state of
the link after it.  One that cannot be sent does not stop the others. -/
def sendAll {α : Type} (sender : Sender) (link : Link σ) (encode : α → Bytes) :
    List α → σ → List (Except SendError (SendReport × List LogRecord) × σ)
  | [], _ => []
  | item :: rest, state =>
      let (result, next, last) := sender.send link (encode item) state
      (result, last) :: next.sendAll link encode rest last

end Sender

end Framecast.Sending
