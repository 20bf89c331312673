import Framecast.Proofs.Reassembly.Looping

/-!
# The worker ends

Once the shutdown is requested and nobody offers packets any more, the worker gets to
its end as long as the clock goes on: it takes what waits in the queue, one packet in
three moves, and then comes back to the empty queue until the grace period is over.
-/

namespace Framecast

open Framecast.Reception (Packet Queue)

namespace Reassembly

namespace Loop

def acts (clock : Nat → Readings) : Nat → List Move
  | 0 => []
  | count + 1 => .act (clock 0) :: acts (fun index => clock (index + 1)) count

/-- The clock gets past every time and stays there. -/
def Advancing (clock : Nat → Readings) : Prop :=
  ∀ time, ∃ first, ∀ index ≥ first, time ≤ (clock index).second

theorem Advancing.tail {clock : Nat → Readings} (h : Advancing clock) :
    Advancing fun index => clock (index + 1) := by
  intro time
  obtain ⟨first, hfirst⟩ := h time
  exact ⟨first, fun index hindex => hfirst (index + 1) (Nat.le_succ_of_le hindex)⟩

def Ends (loop : Loop) (clock : Nat → Readings) : Prop :=
  ∃ count drained, (loop.after (acts clock count)).stage = .finished drained

theorem ends_of_act {loop : Loop} {clock : Nat → Readings}
    (h : (loop.act (clock 0)).1.Ends fun index => clock (index + 1)) : loop.Ends clock := by
  obtain ⟨count, drained, hstage⟩ := h
  exact ⟨count + 1, drained, hstage⟩

structure Closing (loop : Loop) (grace : Nat) : Prop where
  shutdown : loop.shutdown = true
  sound : loop.worker.reassembly.Sound
  grace_eq : loop.worker.reassembly.settings.shutdownGrace = grace

section
variable {loop : Loop} {grace : Nat} {clock : Nat → Readings}

theorem Closing.act (h : loop.Closing grace) (readings : Readings) :
    (loop.act readings).1.Closing grace := by
  have hstate := (loop.step_spec (.act readings)).1
  have hrun := h.sound.run (loop.asks (.act readings))
  refine ⟨?_, ?_, ?_⟩
  · simp only [Loop.act]
    cases hstage : loop.stage with
    | waiting =>
        obtain ⟨packet, rest, -, hwait⟩ | ⟨-, hwait⟩ | hwait :=
          loop.wait_cases readings.expired <;> simp [hwait, h.shutdown]
    | emptyHanded =>
        obtain ⟨stage, since, -, hidle⟩ := loop.idle_cases readings.first readings.second
        simp [hidle, h.shutdown]
    | timing =>
        simp only [lookAtTimers]
        split <;> exact h.shutdown
    | holding | leaving | finished => exact h.shutdown
  · rw [show (loop.act readings).1.worker.reassembly = _ from hstate]
    exact hrun.sound
  · rw [show (loop.act readings).1.worker.reassembly = _ from hstate, hrun.settings_eq,
      h.grace_eq]

theorem ends_of_leaving (hstage : loop.stage = .leaving) : loop.Ends clock := by
  have hact : (loop.act (clock 0)).1 = loop.drain.1 := by rw [Loop.act, hstage]
  apply ends_of_act
  rw [hact]
  exact ⟨0, _, rfl⟩

/-- From the timers the worker goes back to the queue. -/
theorem ends_of_timing (h : loop.Closing grace) (hstage : loop.stage = .timing)
    (hnext : ∀ next : Loop, next.Closing grace → next.stage = .waiting →
      next.worker.queue = loop.worker.queue → next.emptySince = loop.emptySince →
        next.Ends fun index => clock (index + 1)) :
    loop.Ends clock := by
  refine ends_of_act (hnext _ (h.act (clock 0)) ?_ ?_ ?_) <;>
    simp only [Loop.act, hstage, lookAtTimers] <;> split <;> rfl

/-- With empty hands the worker leaves, or it has remembered since when. -/
theorem ends_of_emptyHanded (h : loop.Closing grace) (hstage : loop.stage = .emptyHanded)
    (hnext : ∀ next : Loop, next.Closing grace → next.stage = .timing →
      next.worker.queue = loop.worker.queue →
      next.emptySince = some (loop.emptySince.getD (clock 0).first) →
      (clock 0).second < loop.emptySince.getD (clock 0).first + grace →
        next.Ends fun index => clock (index + 1)) :
    loop.Ends clock := by
  have hact : (loop.act (clock 0)).1 = loop.idle (clock 0).first (clock 0).second := by
    rw [Loop.act, hstage]
  have hclosing := h.act (clock 0)
  rw [hact] at hclosing
  apply ends_of_act
  rw [hact]
  by_cases hover : grace ≤ (clock 0).second - loop.emptySince.getD (clock 0).first
  · exact ends_of_leaving (by simp [idle, h.shutdown, h.grace_eq, hover])
  · refine hnext _ hclosing ?_ ?_ ?_ (by omega) <;>
      simp [idle, h.shutdown, h.grace_eq, hover]

/-- A look at the empty queue ends the wait. -/
theorem ends_of_waiting_nil (h : loop.Closing grace) (hstage : loop.stage = .waiting)
    (hpackets : loop.worker.queue.packets = [])
    (hnext : ∀ next : Loop, next.Closing grace → next.stage = .emptyHanded →
      next.worker.queue = loop.worker.queue → next.emptySince = loop.emptySince →
        next.Ends fun index => clock (index + 1)) :
    loop.Ends clock := by
  have hgives : Queue.Waiting.bounded.givesUp loop.shutdown (clock 0).expired = true := by
    simp [Queue.Waiting.givesUp, h.shutdown]
  have hact : (loop.act (clock 0)).1 = { loop with stage := .emptyHanded } := by
    rw [Loop.act, hstage]
    simp [wait, Queue.look_of_nil hpackets, hgives]
  have hclosing := h.act (clock 0)
  rw [hact] at hclosing
  apply ends_of_act
  rw [hact]
  exact hnext _ hclosing rfl rfl rfl

/-- At an empty queue the worker ends when the clock has got past the grace period. -/
theorem ends_of_settled {since first : Nat} (h : loop.Closing grace)
    (hstage : loop.stage = .waiting) (hpackets : loop.worker.queue.packets = [])
    (hsince : loop.emptySince = some since)
    (hclock : ∀ index ≥ first, since + grace ≤ (clock index).second) :
    loop.Ends clock := by
  -- one round of three moves brings the time by which the period is over nearer
  induction first using Nat.strongRecOn generalizing loop clock with
  | ind first ih =>
      apply ends_of_waiting_nil h hstage hpackets
      intro next hnext hnextStage hqueue hnextSince
      apply ends_of_emptyHanded hnext hnextStage
      intro idled hidled hidledStage hidledQueue hidledSince hearly
      apply ends_of_timing hidled hidledStage
      intro again hagain hagainStage hagainQueue hagainSince
      rw [hnextSince, hsince, Option.getD_some] at hearly hidledSince
      have hpositive : 1 < first := by
        apply Nat.lt_of_not_le
        exact fun hle => Nat.not_le.mpr hearly (hclock 1 hle)
      refine ih (first - 3) (by omega) hagain hagainStage ?_ (hagainSince.trans hidledSince) ?_
      · rw [hagainQueue, hidledQueue, hqueue, hpackets]
      · exact fun index hindex => hclock (index + 3) (by omega)

theorem ends_of_waiting (h : loop.Closing grace) (hclock : Advancing clock)
    (hstage : loop.stage = .waiting) : loop.Ends clock := by
  generalize hpackets : loop.worker.queue.packets = packets
  induction packets generalizing loop clock with
  | nil =>
      apply ends_of_waiting_nil h hstage hpackets
      intro next hnext hnextStage hqueue _
      apply ends_of_emptyHanded hnext hnextStage
      intro idled hidled hidledStage hidledQueue hidledSince _
      apply ends_of_timing hidled hidledStage
      intro again hagain hagainStage hagainQueue hagainSince
      obtain ⟨first, hfirst⟩ := hclock.tail.tail.tail
        (next.emptySince.getD (clock 1).first + grace)
      refine ends_of_settled hagain hagainStage ?_ (hagainSince.trans hidledSince) hfirst
      rw [hagainQueue, hidledQueue, hqueue, hpackets]
  | cons packet rest ih =>
      have hact : (loop.act (clock 0)).1 =
          { loop with
            worker := { loop.worker with
              queue := { loop.worker.queue with packets := rest } }
            stage := .holding packet } := by
        rw [Loop.act, hstage]
        simp [wait, Queue.look_of_cons hpackets]
      have hheld := h.act (clock 0)
      rw [hact] at hheld
      have hpushed := hheld.act (clock 1)
      apply ends_of_act
      rw [hact]
      apply ends_of_act
      refine ends_of_timing hpushed rfl ?_
      intro next hnext hnextStage hqueue _
      exact ih hnext hclock.tail.tail.tail hnextStage (by rw [hqueue]; rfl)

/-- A worker that is told to shut down comes to its end. -/
theorem Closing.ends (h : loop.Closing grace) (hclock : Advancing clock) : loop.Ends clock := by
  cases hstage : loop.stage with
  | waiting => exact ends_of_waiting h hclock hstage
  | holding packet =>
      have hnext := h.act (clock 0)
      apply ends_of_act
      apply ends_of_timing hnext (by rw [Loop.act, hstage]; rfl)
      exact fun again hagain hagainStage _ _ =>
        ends_of_waiting hagain hclock.tail.tail hagainStage
  | emptyHanded =>
      apply ends_of_emptyHanded h hstage
      intro idled hidled hidledStage _ _ _
      apply ends_of_timing hidled hidledStage
      exact fun again hagain hagainStage _ _ =>
        ends_of_waiting hagain hclock.tail.tail hagainStage
  | timing =>
      apply ends_of_timing h hstage
      exact fun again hagain hagainStage _ _ => ends_of_waiting hagain hclock.tail hagainStage
  | leaving => exact ends_of_leaving hstage
  | finished drained => exact ⟨0, drained, hstage⟩

end

end Loop

end Reassembly

end Framecast
