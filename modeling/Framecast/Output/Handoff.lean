import Framecast.Log
import Framecast.Statistics.Tally

/-!
# Handing frames over to the writer

Retired frames are counted and then put into a bounded channel to the writer.  A
frame that finds the channel full, or the writer gone, is counted as dropped: the
reassembly never waits.
-/

namespace Framecast.Output

open Framecast.Assembly (Frame)
open Framecast.Statistics (Tally)

/-- A bounded channel; once the receiver has gone it holds nothing any more. -/
structure Channel where
  capacity : Nat
  /-- The frames under way, oldest first. -/
  frames : List Frame
  /-- Whether the receiver is still there. -/
  isOpen : Bool
deriving Repr, DecidableEq

/-- The sending side, with the channel if there is a writer at all. -/
structure Handoff where
  channel : Option Channel
  tally : Tally
  dropped : Nat
deriving Repr, DecidableEq

namespace Handoff

def withoutWriter : Handoff := ⟨none, {}, 0⟩

/-- A hand-off to a writer behind a channel of the given capacity, which is at least one. -/
def toWriter (capacity : Nat) : Handoff := ⟨some ⟨max capacity 1, [], true⟩, {}, 0⟩

/-- Count a frame and put it into the channel, or count it as dropped. -/
def send (handoff : Handoff) (frame : Frame) : Handoff × List LogRecord :=
  let counted := { handoff with tally := handoff.tally.add frame }
  let frameField := [("frame_id", LogValue.number frame.id.toNat)]
  match handoff.channel with
  | none => (counted, [])
  | some channel =>
      if channel.isOpen = false then
        ({ counted with dropped := handoff.dropped + 1 },
          [⟨.debug, "writer gone, frame not written", frameField⟩])
      else if channel.capacity ≤ channel.frames.length then
        ({ counted with dropped := handoff.dropped + 1 },
          [⟨.warn, "writer backlog full, frame not written", frameField⟩])
      else
        ({ counted with
            channel := some { channel with frames := channel.frames ++ [frame] } }, [])

def receive (handoff : Handoff) : Handoff × Option Frame :=
  match handoff.channel with
  | some channel =>
      match channel.frames with
      | frame :: rest =>
          ({ handoff with channel := some { channel with frames := rest } }, some frame)
      | [] => (handoff, none)
  | none => (handoff, none)

/-- The writer goes away, with all that is still under way. -/
def close (handoff : Handoff) : Handoff :=
  { handoff with
    channel := handoff.channel.map fun channel =>
      { channel with frames := [], isOpen := false } }

/-- One atomic move of the sending side or of the writer. -/
inductive Move where
  | send (frame : Frame)
  | receive
  | close
deriving Repr, DecidableEq

def step (handoff : Handoff) : Move → Handoff × Option Frame × List LogRecord
  | .send frame =>
      let (next, log) := handoff.send frame
      (next, none, log)
  | .receive =>
      let (next, frame) := handoff.receive
      (next, frame, [])
  | .close => (handoff.close, none, [])

def run (handoff : Handoff) :
    List Move → Handoff × List (Handoff × Option Frame × List LogRecord)
  | [] => (handoff, [])
  | move :: rest =>
      let (next, frame, log) := handoff.step move
      let (last, later) := next.run rest
      (last, (next, frame, log) :: later)

end Handoff

end Framecast.Output
