import Framecast.Image.Gradient
import Framecast.Datagram.Fragment
import Framecast.Observation.Observer
import Framecast.Reassembly.Basic
import Framecast.Reception.Intake
import Framecast.Sending.Plan

/-!
# Sender and receiver back to back

A loopback sends gradient images through the whole chain without a network:
encoding, packets, loss and reordering, intake, queue, reassembly.  A virtual
clock advances with every packet; after every batch of packets the queue is
emptied into the reassembly and the timers are looked at.
-/

namespace Framecast

open Framecast.Assembly (Frame)
open Framecast.Statistics (Tally)

namespace Loopback

/-- One image to send: its shape, its number in the gradient, and its frame id. -/
structure Picture where
  shape : Image.Shape
  index : Nat
  frameId : UInt32
deriving Repr, DecidableEq

structure Setup where
  settings : Assembly.Settings
  options : Sending.Options
  random : Sending.Random
  /-- Payload bytes for each packet. -/
  budget : Nat
  /-- Nanoseconds between two packets. -/
  spacing : Nat
  /-- Packets between two looks at the queue and the timers; none counts as one. -/
  batch : Nat
  traceCapacity : Nat

inductive Fault where
  | settings (cause : Assembly.SettingsError)
  | encoding (cause : Image.SizeOverflow)
  | fragment (cause : Datagram.FragmentError)
deriving Repr, DecidableEq

structure State where
  random : Sending.Random
  now : Nat
  sent : Nat
  /-- The intake with its queue; the trace watches the reassembly too. -/
  intake : Reception.Intake
  reassembly : Reassembly
  /-- Retired frames, the last in front. -/
  newestFirst : List Frame

def State.absorb (state : State) (signals : List Reassembly.Signal) : State :=
  let events := Reassembly.Signal.events signals
  let frames := Reassembly.Signal.frames signals
  let trace := state.intake.trace.map fun trace => events.foldl Observation.Trace.observe trace
  { state with
    intake := { state.intake with trace }
    newestFirst := frames.reverse ++ state.newestFirst }

def State.pushAll (drops : Nat) : List Reception.Packet → State → State
  | [], state => state
  | packet :: rest, state =>
      let (reassembly, _, signals) := state.reassembly.push packet drops state.now
      State.pushAll drops rest ({ state with reassembly }.absorb signals)

def State.empty (state : State) : State :=
  let queue := state.intake.queue
  let intake := { state.intake with queue := { queue with packets := [] } }
  State.pushAll queue.dropped queue.packets { state with intake }

def State.sweep (state : State) : State :=
  let (reassembly, _, signals) :=
    state.reassembly.sweep state.intake.queue.dropped state.now
  { state with reassembly }.absorb signals

/-- Send one packet, and look after the queue at the end of a batch. -/
def State.sendPacket (setup : Setup) (state : State) (packet : Datagram.Packet) : State :=
  let (intake, _) := state.intake.receive packet.encode
  let state := { state with
    now := state.now + setup.spacing
    sent := state.sent + 1
    intake }
  if state.sent % max setup.batch 1 = 0 then state.empty.sweep else state

def State.sendPicture (setup : Setup) (state : State) (picture : Picture) :
    Except Fault State :=
  match picture.shape.encode (picture.shape.gradient picture.index) with
  | .error cause => .error (.encoding cause)
  | .ok frame =>
      match Datagram.fragment picture.frameId frame setup.budget with
      | .error cause => .error (.fragment cause)
      | .ok packets =>
          let (random, planned) := Sending.plan setup.options state.random packets
          .ok (planned.foldl (State.sendPacket setup) { state with random })

def State.sendAll (setup : Setup) (state : State) : List Picture → Except Fault State
  | [] => .ok state
  | picture :: rest =>
      match state.sendPicture setup picture with
      | .error cause => .error cause
      | .ok next => next.sendAll setup rest

structure Outcome where
  state : State
  drained : Nat
  frames : List Frame
  tally : Tally
  signals : List Reassembly.Signal

def initial (setup : Setup) (reassembly : Reassembly) : State where
  random := setup.random
  now := 0
  sent := 0
  intake :=
    .initial setup.settings.maxPayload setup.settings.queueCapacity
      (some (.new setup.traceCapacity))
  reassembly
  newestFirst := []

/-- A whole loopback: all images, then what is left in the queue, then the drain. -/
def run (setup : Setup) (pictures : List Picture) : Except Fault Outcome :=
  match Reassembly.create setup.settings true with
  | .error cause => .error (.settings cause)
  | .ok reassembly =>
      match (initial setup reassembly).sendAll setup pictures with
      | .error cause => .error cause
      | .ok state =>
          let state := state.empty
          let (reassembly, drained, signals) :=
            state.reassembly.drain state.intake.queue.dropped
          let state := { state with reassembly }.absorb signals
          let frames := state.newestFirst.reverse
          .ok ⟨state, drained, frames, Tally.addAll {} frames, signals⟩

end Loopback

end Framecast
