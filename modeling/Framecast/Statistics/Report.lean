import Framecast.Statistics.Tally
import Framecast.Text.Json

/-!
# The summary of a run

What a receiver leaves behind at its end: the totals over frames and datagrams,
as indented JSON.
-/

namespace Framecast.Statistics

structure DatagramTotals where
  packets : Nat := 0
  bytes : Nat := 0
  malformed : Nat := 0
  gapHints : Nat := 0
deriving Repr, DecidableEq

structure Report where
  frames : Tally
  datagrams : DatagramTotals
  queueDrops : Nat
  framesNotWritten : Nat
deriving Repr, DecidableEq

namespace Report

def tallyMembers (tally : Tally) : List (String × Text.Json) :=
  [("frames_total", .natural tally.total),
    ("frames_complete", .natural tally.complete),
    ("frames_partial", .natural tally.incomplete),
    ("partial_due_to_queue", .natural tally.incompleteByQueue),
    ("partial_due_to_gap", .natural tally.incompleteByGap),
    ("packets_expected", .natural tally.packetsExpected),
    ("packets_received", .natural tally.packetsReceived)]

def datagramMembers (totals : DatagramTotals) : List (String × Text.Json) :=
  [("packets", .natural totals.packets),
    ("bytes", .natural totals.bytes),
    ("malformed", .natural totals.malformed),
    ("gap_hints", .natural totals.gapHints)]

def toJson (report : Report) : Text.Json :=
  .object
    [("frames", .object (tallyMembers report.frames)),
      ("success_rate", .decimal report.frames.successRate),
      ("rx", .object (datagramMembers report.datagrams)),
      ("queue_drops", .natural report.queueDrops),
      ("frames_not_written", .natural report.framesNotWritten)]

def text (report : Report) : String :=
  report.toJson.render

end Report

end Framecast.Statistics
