import Mathlib.Algebra.Order.BigOperators.Group.List
import Mathlib.Algebra.Order.Ring.Nat
import Framecast.Statistics.Tally

/-!
# What a tally sums up

A tally is determined by the frames it was given: each of its numbers counts
frames of one kind or sums up one of their numbers.
-/

namespace Framecast.Statistics.Tally

open Framecast.Assembly (Frame FrameState)

structure Totals (tally : Tally) (frames : List Frame) : Prop where
  total_eq : tally.total = frames.length
  complete_eq : tally.complete = frames.countP fun frame => frame.state = .complete
  incomplete_eq : tally.incomplete = frames.countP fun frame => frame.state = .incomplete
  byQueue_eq : tally.incompleteByQueue =
    frames.countP fun frame => frame.state = .incomplete && frame.queuePressure
  byGap_eq : tally.incompleteByGap =
    frames.countP fun frame => frame.state = .incomplete && !frame.queuePressure
  expected_eq : tally.packetsExpected = (frames.map Frame.expected).sum
  received_eq : tally.packetsReceived = (frames.map Frame.received).sum

theorem totals_empty : Totals {} [] := ⟨rfl, rfl, rfl, rfl, rfl, rfl, rfl⟩

theorem Totals.add {tally : Tally} {frames : List Frame} (h : tally.Totals frames)
    (frame : Frame) : (tally.add frame).Totals (frames ++ [frame]) := by
  obtain ⟨htotal, hcomplete, hincomplete, hqueue, hgap, hexpected, hreceived⟩ := h
  cases hstate : frame.state with
  | complete => constructor <;> simp [Tally.add, *]
  | incomplete => cases hpressure : frame.queuePressure <;> constructor <;> simp [Tally.add, *]

theorem Totals.addAll {tally : Tally} {seen : List Frame} (h : tally.Totals seen)
    (frames : List Frame) : (tally.addAll frames).Totals (seen ++ frames) := by
  induction frames generalizing tally seen with
  | nil =>
      rw [List.append_nil]
      exact h
  | cons frame rest ih =>
      rw [List.append_cons]
      exact ih (h.add frame)

theorem totals_addAll (frames : List Frame) : (addAll {} frames).Totals frames :=
  totals_empty.addAll frames

section
variable {tally : Tally} {frames : List Frame} (h : tally.Totals frames)
include h

theorem Totals.total_split : tally.total = tally.complete + tally.incomplete := by
  have hstates : ∀ frame : Frame,
      decide (frame.state = .incomplete) = decide (¬ decide (frame.state = .complete) = true) := by
    intro frame
    cases frame.state <;> rfl
  rw [h.total_eq, h.complete_eq, h.incomplete_eq,
    List.length_eq_countP_add_countP fun frame : Frame => decide (frame.state = .complete)]
  simp only [hstates]

/-- Every incomplete frame is put down to the queue or to a gap. -/
theorem Totals.incomplete_split :
    tally.incomplete = tally.incompleteByQueue + tally.incompleteByGap := by
  rw [h.incomplete_eq, h.byQueue_eq, h.byGap_eq,
    List.countP_eq_countP_filter_add frames _ Frame.queuePressure, List.countP_filter,
    List.countP_filter]

theorem Totals.received_le_expected (hle : ∀ frame ∈ frames, frame.received ≤ frame.expected) :
    tally.packetsReceived ≤ tally.packetsExpected := by
  rw [h.received_eq, h.expected_eq]
  exact List.sum_le_sum hle

end

end Framecast.Statistics.Tally
