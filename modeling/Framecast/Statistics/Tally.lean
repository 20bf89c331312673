import Framecast.Assembly.Frame
import Framecast.Decimal.Layout
import Framecast.Log

/-!
# Statistics of a frame stream

A tally counts retired frames, how they fared, and their packets.  An incomplete
frame is put down to the packet queue if the queue dropped packets meanwhile, and
to a gap otherwise.
-/

namespace Framecast.Statistics

open Framecast.Assembly (Frame FrameState)

/-- Totals over a stream of retired frames. -/
structure Tally where
  total : Nat := 0
  complete : Nat := 0
  incomplete : Nat := 0
  incompleteByQueue : Nat := 0
  incompleteByGap : Nat := 0
  packetsExpected : Nat := 0
  packetsReceived : Nat := 0
deriving Repr, DecidableEq

namespace Tally

def add (tally : Tally) (frame : Frame) : Tally :=
  let counted := { tally with
    total := tally.total + 1
    packetsExpected := tally.packetsExpected + frame.expected
    packetsReceived := tally.packetsReceived + frame.received }
  match frame.state, frame.queuePressure with
  | .complete, _ => { counted with complete := tally.complete + 1 }
  | .incomplete, true =>
      { counted with
        incomplete := tally.incomplete + 1
        incompleteByQueue := tally.incompleteByQueue + 1 }
  | .incomplete, false =>
      { counted with
        incomplete := tally.incomplete + 1
        incompleteByGap := tally.incompleteByGap + 1 }

def addAll (tally : Tally) (frames : List Frame) : Tally :=
  frames.foldl add tally

/-- The percentage of complete frames as a double; zero if there are no frames. -/
def successRate (tally : Tally) : Decimal.Dyadic :=
  if tally.total = 0 then .zero
  else ((Decimal.Dyadic.ofNat tally.complete).scale 100).quotient (.ofNat tally.total)

/-- The log record that sums up the stream; nothing before the first frame. -/
def log (tally : Tally) : List LogRecord :=
  if tally.total = 0 then []
  else
    [⟨.info, "frame stream stats (success " ++ tally.successRate.twoPlaces ++ "%)",
      [("frames", .number tally.total), ("complete", .number tally.complete),
        ("partial", .number tally.incomplete), ("queue", .number tally.incompleteByQueue),
        ("gap", .number tally.incompleteByGap),
        ("packets_received", .number tally.packetsReceived),
        ("packets_expected", .number tally.packetsExpected)]⟩]

end Tally

end Framecast.Statistics
