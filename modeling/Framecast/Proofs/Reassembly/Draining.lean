import Mathlib.Data.List.Induction
import Framecast.Proofs.Reassembly.Balance
import Framecast.Proofs.Reassembly.Ending
import Framecast.Proofs.Reassembly.Room

/-!
# What the worker leaves behind

A drain is the only call that retires frames for the shutdown, and the worker makes it
once, at its end.  Before that it has looked at an empty queue for the last time, so what
it leaves in the queue has entered since.
-/

namespace Framecast

open Framecast.Assembly (Frame FrameState RetireReason Settings)
open Framecast.Reception (Packet Queue)

namespace Reassembly

/-! ## Retirements for the shutdown -/

def Call.isDrain : Call → Bool
  | .drain _ => true
  | _ => false

theorem reason_of_mem_evictMany {limit drops count : Nat} {reassembly : Reassembly}
    {entry : UInt32 × FrameState × RetireReason}
    (hmem : entry ∈ Signal.retirements (evictMany limit drops count reassembly).2) :
    entry.2.2 = .evicted := by
  induction count generalizing reassembly with
  | zero => exact absurd hmem List.not_mem_nil
  | succ count ih =>
      rw [evictMany_succ, Signal.retirements_append] at hmem
      rcases List.mem_append.mp hmem with hfirst | hlater
      · cases hold : oldestFlight reassembly.flights with
        | none =>
            rw [evictOldest, hold] at hfirst
            exact absurd hfirst List.not_mem_nil
        | some flight =>
            rw [evictOldest_of_some hold, retirements_retireAll] at hfirst
            rw [List.mem_singleton.mp hfirst]
            rfl
      · exact ih hlater

theorem reason_of_mem_makeRoom {reassembly : Reassembly} {drops : Nat}
    {entry : UInt32 × FrameState × RetireReason}
    (hmem : entry ∈ Signal.retirements (reassembly.makeRoom drops).2) :
    entry.2.2 = .evicted := by
  unfold makeRoom at hmem
  split at hmem
  · exact absurd hmem List.not_mem_nil
  · exact reason_of_mem_evictMany hmem

/-- Whatever a push retires, it evicts. -/
theorem Sound.reason_of_mem_push {reassembly : Reassembly} (h : reassembly.Sound)
    {packet : Packet} {drops now : Nat} {entry : UInt32 × FrameState × RetireReason}
    (hmem : entry ∈ Signal.retirements (reassembly.push packet drops now).2.2) :
    entry.2.2 = .evicted := by
  cases hfound : reassembly.find? packet.frameId with
  | some flight =>
      rw [push_of_present hfound, deliver_of_some hfound, retirements_packetEvent] at hmem
      exact absurd hmem List.not_mem_nil
  | none =>
      by_cases hlate : packet.frameId ∈ reassembly.evictedIds
      · rw [push_of_refused hfound hlate] at hmem
        exact absurd hmem List.not_mem_nil
      · obtain ⟨outcome, hsignals⟩ := h.signals_push_absent hfound hlate drops now
        rw [hsignals, Signal.retirements_append, retirements_opening, List.append_nil] at hmem
        exact reason_of_mem_makeRoom hmem

theorem Sound.reason_ne_shutdown {reassembly : Reassembly} (h : reassembly.Sound)
    {call : Call} (hcall : call.isDrain = false)
    {entry : UInt32 × FrameState × RetireReason}
    (hmem : entry ∈ Signal.retirements (reassembly.step call).2.2) :
    entry.2.2 ≠ .shutdown := by
  cases call with
  | push packet drops now =>
      rw [h.reason_of_mem_push hmem]
      simp
  | sweep drops now =>
      replace hmem : entry ∈ Signal.retirements (reassembly.sweep drops now).2.2 := hmem
      rw [retirements_sweep] at hmem
      obtain ⟨due, hdue, rfl⟩ := List.mem_map.mp hmem
      rcases reason_of_due hdue with h | h | h <;> simp [retirement, h]
  | drain => exact absurd hcall (by simp [Call.isDrain])

theorem Sound.reasons_ne_shutdown {reassembly : Reassembly} (h : reassembly.Sound)
    {calls : List Call} (hcalls : ∀ call ∈ calls, call.isDrain = false) :
    ∀ entry ∈ Signal.retirements ((reassembly.trail calls).flatMap Step.signals),
      entry.2.2 ≠ .shutdown := by
  induction calls generalizing reassembly with
  | nil => simp
  | cons call rest ih =>
      intro entry hmem
      rw [trail_cons, List.flatMap_cons, Signal.retirements_append] at hmem
      rw [List.forall_mem_cons] at hcalls
      rcases List.mem_append.mp hmem with hfirst | hlater
      · exact h.reason_ne_shutdown hcalls.1 hfirst
      · exact ih (h.step call).sound hcalls.2 entry hlater

/-! ## After a drain -/

/--
A reassembly that was given some packets and told some signals holds nothing any more,
and as many frames as given retired for the shutdown.
-/
structure Emptied (state : Reassembly) (told : List Signal) (packets drained : Nat) :
    Prop where
  flights_eq : state.flights = []
  emitted_eq : state.counters.emitted = state.counters.started
  frames_eq : (Signal.frames told).length = state.counters.emitted
  answered_eq : state.counters.accepted + state.counters.rejected = packets
  received_eq : ((Signal.frames told).map Frame.received).sum = state.counters.accepted
  drained_eq : drained = (Signal.retirements told).countP fun entry => entry.2.2 = .shutdown

theorem flights_drain (reassembly : Reassembly) (drops : Nat) :
    (reassembly.drain drops).1.flights = [] :=
  flights_retireAll ..

section
variable {settings : Settings} {reportsMissing : Bool} {start : Reassembly}
  (hstart : create settings reportsMissing = .ok start)
include hstart

theorem balanced_run (calls : List Call) :
    (start.run calls).1.Balanced ((start.trail calls).flatMap Step.signals)
      (calls.countP Call.isPush) := by
  have hinitial : start.Balanced [] 0 := by
    rw [eq_initial_of_create hstart]
    exact balanced_initial settings reportsMissing
  have hrun := hinitial.run (sound_of_create hstart) calls
  rw [List.nil_append, Nat.zero_add] at hrun
  exact hrun

/-- A run that ends with its only drain leaves nothing in flight and nothing untold. -/
theorem emptied_of_drain {calls : List Call} (hcalls : ∀ call ∈ calls, call.isDrain = false)
    (drops : Nat) :
    Emptied (start.run (calls ++ [.drain drops])).1
      ((start.trail (calls ++ [.drain drops])).flatMap Step.signals)
      (calls.countP Call.isPush) (start.run calls).1.flights.length := by
  have hbalanced := balanced_run hstart (calls ++ [.drain drops])
  have hflights : (start.run (calls ++ [.drain drops])).1.flights = [] := by
    rw [run_append_state]
    exact flights_drain ..
  have hstarted := hbalanced.started_eq
  have haccepted := hbalanced.accepted_eq
  rw [hflights] at hstarted haccepted
  refine ⟨hflights, hstarted.symm, hbalanced.emitted_eq.symm, ?_, haccepted.symm, ?_⟩
  · rw [hbalanced.answered_eq, List.countP_append]
    rfl
  · have hbefore : (Signal.retirements ((start.trail calls).flatMap Step.signals)).countP
        (fun entry => entry.2.2 = .shutdown) = 0 := by
      rw [List.countP_eq_zero]
      intro entry hmem
      simpa using (sound_of_create hstart).reasons_ne_shutdown hcalls entry hmem
    have hlast : (start.run calls).1.trail [.drain drops] =
        [(start.run calls).1.perform (.drain drops)] := rfl
    rw [trail_append, List.flatMap_append, Signal.retirements_append, List.countP_append,
      hbefore, hlast, List.flatMap_singleton, signals_perform]
    show _ = 0 + (Signal.retirements ((start.run calls).1.drain drops).2.2).countP _
    rw [retirements_drain, List.countP_map, Nat.zero_add, List.countP_eq_length.mpr]
    intro flight _
    rfl

end

/-- Whether the worker has found the queue empty and has not gone back to it. -/
def Stage.sawEmpty : Stage → Bool
  | .emptyHanded | .leaving | .finished _ => true
  | _ => false

namespace Loop

def Move.isOffer : Move → Bool
  | .offer _ => true
  | _ => false

/-! ## The last look at the queue -/

theorem pushed_asks_of_sawEmpty {loop : Loop} (h : loop.stage.sawEmpty = true)
    (move : Move) : pushed (loop.asks move) = [] := by
  cases move with
  | offer | shutdown => rfl
  | act readings =>
      cases hstage : loop.stage <;> simp_all [asks, pushed, Stage.sawEmpty]

/-- The worker comes to an empty queue by looking at it. -/
theorem emptyHanded_of_step {loop : Loop} {move : Move} (h : loop.stage.sawEmpty = false)
    (hnext : (loop.step move).1.stage.sawEmpty = true) :
    (loop.step move).1.stage = .emptyHanded ∧ (loop.step move).1.pending = [] := by
  cases move with
  | offer | shutdown => exact absurd hnext (by simp [step, Worker.step, h])
  | act readings =>
      cases hstage : loop.stage with
      | waiting =>
          rw [step, act, hstage] at hnext ⊢
          obtain ⟨packet, rest, -, hwait⟩ | ⟨hpackets, hwait⟩ | hwait :=
            loop.wait_cases readings.expired <;> simp only [hwait] at hnext ⊢
          · exact absurd hnext (by simp [Stage.sawEmpty])
          · simp [pending, Stage.inHand, hpackets]
          · exact absurd hnext (by simp [h])
      | holding packet =>
          rw [step, act, hstage] at hnext
          exact absurd hnext (by simp [handOver, Stage.sawEmpty])
      | timing =>
          rw [step, act, hstage] at hnext
          simp only [lookAtTimers] at hnext
          split at hnext <;> exact absurd hnext (by simp [Stage.sawEmpty])
      | emptyHanded | leaving | finished => simp [hstage, Stage.sawEmpty] at h

theorem exists_last_look (loop : Loop) (hstage : loop.stage.sawEmpty = false)
    {moves : List Move} (h : (loop.after moves).stage.sawEmpty = true) :
    ∃ before later, moves = before ++ later ∧ (loop.after before).stage = .emptyHanded ∧
      (loop.after before).pending = [] ∧ pushed ((loop.after before).calls later) = [] := by
  induction moves using List.reverseRecOn with
  | nil => exact absurd h (by simp [hstage])
  | append_singleton moves move ih =>
      have hlast : loop.after (moves ++ [move]) = ((loop.after moves).step move).1 := by
        rw [after_append]
        rfl
      cases hbefore : (loop.after moves).stage.sawEmpty with
      | true =>
          obtain ⟨before, later, rfl, hthere, hempty, hnone⟩ := ih hbefore
          refine ⟨before, later ++ [move], List.append_assoc _ _ _, hthere, hempty, ?_⟩
          rw [calls_append, pushed_append, hnone, calls_singleton, ← after_append,
            pushed_asks_of_sawEmpty hbefore, List.append_nil]
      | false =>
          rw [hlast] at h
          obtain ⟨hthere, hempty⟩ := emptyHanded_of_step hbefore h
          exact ⟨moves ++ [move], [], (List.append_nil _).symm, hlast ▸ hthere,
            hlast ▸ hempty, rfl⟩

/-! ## The drain at the end -/

theorem step_of_finished {loop : Loop} {drained : Nat} (h : loop.stage = .finished drained)
    (move : Move) : (loop.step move).1.stage = .finished drained ∧ loop.asks move = [] := by
  cases move with
  | offer | shutdown => exact ⟨h, rfl⟩
  | act readings => simp [step, act, asks, h]

/-- The worker finishes with a drain, and drains only to finish. -/
theorem asks_of_step {loop : Loop} (h : ∀ drained, loop.stage ≠ .finished drained)
    (move : Move) :
    (∃ drained, (loop.step move).1.stage = .finished drained ∧
        loop.asks move = [.drain loop.worker.queue.dropped] ∧
        drained = loop.worker.reassembly.flights.length) ∨
      (∀ drained, (loop.step move).1.stage ≠ .finished drained) ∧
        ∀ call ∈ loop.asks move, call.isDrain = false := by
  cases move with
  | offer | shutdown => exact .inr ⟨h, by simp [asks]⟩
  | act readings =>
      simp only [step, act, asks]
      cases hstage : loop.stage with
      | waiting =>
          refine .inr ⟨?_, by simp⟩
          obtain ⟨packet, rest, -, hwait⟩ | ⟨-, hwait⟩ | hwait :=
            loop.wait_cases readings.expired <;> simp [hwait, hstage]
      | holding packet => exact .inr ⟨by simp [handOver], by simp [Call.isDrain]⟩
      | emptyHanded =>
          refine .inr ⟨?_, by simp⟩
          obtain ⟨stage, since, rfl | rfl, hidle⟩ :=
            loop.idle_cases readings.first readings.second <;> simp [hidle]
      | timing =>
          refine .inr ⟨?_, ?_⟩
          · simp only [lookAtTimers]
            split <;> simp
          · simp only
            split <;> simp [Call.isDrain]
      | leaving => exact .inl ⟨_, rfl, rfl, List.length_map _⟩
      | finished drained => exact absurd hstage (h drained)

/-- Up to its end the worker asks for no drain, and it ends with one. -/
theorem calls_of_stage (loop : Loop) (h : ∀ drained, loop.stage ≠ .finished drained)
    (moves : List Move) :
    ((∀ drained, (loop.after moves).stage ≠ .finished drained) ∧
        ∀ call ∈ loop.calls moves, call.isDrain = false) ∨
      ∃ asked drops, loop.calls moves = asked ++ [.drain drops] ∧
        (∀ call ∈ asked, call.isDrain = false) ∧
        (loop.after moves).stage =
          .finished (loop.worker.reassembly.run asked).1.flights.length := by
  induction moves using List.reverseRecOn with
  | nil => exact .inl ⟨h, by simp [calls, gather]⟩
  | append_singleton moves move ih =>
      have hlast : loop.after (moves ++ [move]) = ((loop.after moves).step move).1 := by
        rw [after_append]
        rfl
      rw [calls_append, calls_singleton, hlast]
      rcases ih with ⟨hgoing, hcalls⟩ | ⟨asked, drops, hcalls, hasked, hended⟩
      · rcases asks_of_step hgoing move with ⟨drained, hends, hasks, rfl⟩ | ⟨hon, hasks⟩
        · rw [hasks, (loop.run_spec moves).1] at *
          exact .inr ⟨_, _, rfl, hcalls, hends⟩
        · refine .inl ⟨hon, ?_⟩
          exact List.forall_mem_append.mpr ⟨hcalls, hasks⟩
      · obtain ⟨hends, hasks⟩ := step_of_finished hended move
        rw [hasks, List.append_nil]
        exact .inr ⟨asked, drops, hcalls, hasked, hends⟩

/-! ## Offers before the start -/

theorem worker_after_offers (loop : Loop) (packets : List Packet) :
    loop.after (packets.map .offer) =
      { loop with
        worker := { loop.worker with queue := (loop.worker.queue.pushAll packets).1 } } := by
  induction packets generalizing loop with
  | nil => rfl
  | cons packet rest ih =>
      rw [List.map_cons, after_cons, ih]
      rfl

theorem calls_offers (loop : Loop) (packets : List Packet) :
    loop.calls (packets.map .offer) = [] := by
  induction packets generalizing loop with
  | nil => rfl
  | cons packet rest ih => exact ih _

/-- As many packets enter as there is room for. -/
theorem entered_offers (loop : Loop) (packets : List Packet) :
    loop.entered (packets.map .offer) =
      packets.take (loop.worker.queue.capacity - loop.worker.queue.size) := by
  induction packets generalizing loop with
  | nil => simp [entered, gather]
  | cons packet rest ih =>
      rw [List.map_cons, entered, gather, ← entered, ih]
      by_cases hfull : loop.worker.queue.capacity ≤ loop.worker.queue.packets.length
      · have hroom : loop.worker.queue.capacity - loop.worker.queue.packets.length = 0 := by
          omega
        simp [enters, step, Worker.step, Queue.push, Queue.isFull, Queue.size, hfull, hroom]
      · obtain ⟨room, hroom⟩ : ∃ room,
            loop.worker.queue.capacity - loop.worker.queue.packets.length = room + 1 :=
          ⟨_, (Nat.succ_pred (by omega)).symm⟩
        have hrest :
            loop.worker.queue.capacity - (loop.worker.queue.packets.length + 1) = room := by
          omega
        simp [enters, step, Worker.step, Queue.push, Queue.isFull, Queue.size, hfull, hroom,
          hrest]

/-- Every offer enters or is refused. -/
theorem length_entered_add_refused (loop : Loop) (moves : List Move) :
    (loop.entered moves).length + (loop.refused moves).length =
      moves.countP Move.isOffer := by
  induction moves generalizing loop with
  | nil => rfl
  | cons move rest ih =>
      have hrest := ih (loop.step move).1
      rw [entered, gather, refused, gather, ← entered, ← refused, List.countP_cons]
      cases move with
      | offer => cases hfull : loop.worker.queue.isFull <;>
          simp [enters, refuses, hfull, Move.isOffer] <;> omega
      | shutdown | act => simpa [enters, refuses, Move.isOffer] using hrest

theorem length_refused_offers (loop : Loop) (packets : List Packet) :
    (loop.refused (packets.map .offer)).length =
      packets.length - (loop.worker.queue.capacity - loop.worker.queue.size) := by
  have hall := loop.length_entered_add_refused (packets.map .offer)
  have hoffers : (packets.map Move.offer).countP Move.isOffer = packets.length := by
    rw [List.countP_map, List.countP_eq_length]
    exact fun _ _ => rfl
  rw [hoffers, entered_offers, List.length_take] at hall
  omega

section
variable {loop : Loop} {moves : List Move} (hoffers : ∀ move ∈ moves, move.isOffer = false)
include hoffers

theorem entered_of_no_offers : loop.entered moves = [] ∧ loop.refused moves = [] := by
  have hall := loop.length_entered_add_refused moves
  have hnone : moves.countP Move.isOffer = 0 := by
    rw [List.countP_eq_zero]
    exact fun move hmem => by simp [hoffers move hmem]
  constructor <;> apply List.eq_nil_of_length_eq_zero <;> omega

/-- Without offers every call is made under one drop count. -/
theorem drops_of_no_offers {call : Call} (hmem : call ∈ loop.calls moves) :
    call.drops = loop.worker.queue.dropped := by
  obtain ⟨before, move, later, rfl, hasks⟩ := exists_of_mem_gather hmem
  have hnone : loop.refused before = [] :=
    (entered_of_no_offers fun other hother =>
      hoffers other (List.mem_append_left _ hother)).2
  rw [drops_of_asks hasks, (loop.carries before).dropped_eq, hnone]
  rfl

end

/-! ## What is left in the queue -/

theorem pending_of_finished {loop : Loop} {drained : Nat} (h : loop.stage = .finished drained) :
    loop.pending = loop.worker.queue.packets := by
  rw [pending, h]
  rfl

section
variable {worker : Worker} {shutdown : Bool} {now drained : Nat} {moves : List Move}
  (hqueue : worker.queue.packets = [])
  (hfinished : ((start worker shutdown now).after moves).stage = .finished drained)
include hqueue hfinished

/-- What is left in the queue entered after the worker had looked at it last. -/
theorem exists_left_over :
    let loop := start worker shutdown now
    ∃ before later, moves = before ++ later ∧ (loop.after before).stage = .emptyHanded ∧
      pushed (loop.calls moves) = loop.entered before ∧
      (loop.after moves).worker.queue.packets = (loop.after before).entered later := by
  intro loop
  have hsaw : (loop.after moves).stage.sawEmpty = true := by
    rw [show (loop.after moves).stage = _ from hfinished]
    rfl
  obtain ⟨before, later, rfl, hthere, hempty, hnone⟩ := loop.exists_last_look rfl hsaw
  have hfirst := (loop.carries before).order
  have hsecond := ((loop.after before).carries later).order
  have hpending : loop.pending = [] := hqueue
  rw [hpending, hempty, List.nil_append, List.append_nil] at hfirst
  rw [hempty, hnone, List.nil_append, List.nil_append, ← after_append,
    pending_of_finished hfinished] at hsecond
  refine ⟨before, later, rfl, hthere, ?_, hsecond.symm⟩
  rw [calls_append, pushed_append, hnone, List.append_nil, hfirst]

/-- Nothing is left of packets that were offered before the worker moved. -/
theorem passed_of_offers_first {packets : List Packet} {rest : List Move}
    (hmoves : moves = packets.map .offer ++ rest)
    (hrest : ∀ move ∈ rest, move.isOffer = false) :
    let loop := start worker shutdown now
    (loop.after moves).worker.queue.packets = [] ∧
      pushed (loop.calls moves) = packets.take worker.queue.capacity ∧
      ∀ call ∈ loop.calls moves,
        call.drops = worker.queue.dropped + (packets.length - worker.queue.capacity) := by
  intro loop
  obtain ⟨before, later, hsplit, hthere, hpushed, hleft⟩ := exists_left_over hqueue hfinished
  have hsize : worker.queue.size = 0 := congrArg List.length hqueue
  -- the worker has looked at the queue, so it has moved, and there are no offers any more
  obtain ⟨middle, hbefore, hlater⟩ : ∃ middle, before = packets.map .offer ++ middle ∧
      rest = middle ++ later := by
    rcases List.append_eq_append_iff.mp (hsplit.symm.trans hmoves) with
      ⟨middle, hoffers, -⟩ | ⟨middle, hbefore, hlater⟩
    · obtain ⟨early, -, -, hearly, -⟩ := List.map_eq_append_iff.mp hoffers
      rw [← hearly, worker_after_offers] at hthere
      exact absurd hthere (by simp [start])
    · exact ⟨middle, hbefore, hlater⟩
  subst hlater
  have hnoOffers := List.forall_mem_append.mp hrest
  refine ⟨hleft.trans (entered_of_no_offers hnoOffers.2).1, ?_, ?_⟩
  · rw [hpushed, hbefore, entered_append, (entered_of_no_offers hnoOffers.1).1, List.append_nil,
      entered_offers]
    show packets.take (worker.queue.capacity - worker.queue.size) = _
    rw [hsize, Nat.sub_zero]
  · intro call hcall
    rw [hmoves, calls_append, calls_offers, List.nil_append] at hcall
    rw [drops_of_no_offers hrest hcall, (loop.carries _).dropped_eq, length_refused_offers]
    show worker.queue.dropped + (_ - (worker.queue.capacity - worker.queue.size)) = _
    rw [hsize, Nat.sub_zero]

end

end Loop

/-! ## Every run -/

/-- Packets that go straight to the reassembly, each with a drop count and a time. -/
def straight (early : List (Packet × Nat × Nat)) : List Call :=
  early.map fun (packet, drops, now) => .push packet drops now

theorem straight_not_drain (early : List (Packet × Nat × Nat)) :
    ∀ call ∈ straight early, call.isDrain = false := by
  intro call hmem
  obtain ⟨entry, -, rfl⟩ := List.mem_map.mp hmem
  rfl

theorem countP_isPush_straight (early : List (Packet × Nat × Nat)) :
    (straight early).countP Call.isPush = early.length := by
  rw [straight, List.countP_map, List.countP_eq_length]
  exact fun _ _ => rfl

section
variable {settings : Settings} {reportsMissing : Bool} {start : Reassembly}
  (hstart : create settings reportsMissing = .ok start)
include hstart

/-- A worker that has finished has emptied the reassembly that it was given. -/
theorem emptied_of_finished (early : List (Packet × Nat × Nat)) {loop : Loop}
    (hgiven : loop.worker.reassembly = (start.run (straight early)).1)
    (hgoing : ∀ drained, loop.stage ≠ .finished drained) {moves : List Loop.Move}
    {drained : Nat} (hfinished : (loop.after moves).stage = .finished drained) :
    Emptied (loop.after moves).worker.reassembly
      ((start.trail (straight early)).flatMap Step.signals ++ (loop.run moves).2)
      (early.length + (pushed (loop.calls moves)).length) drained := by
  rcases loop.calls_of_stage hgoing moves with
    ⟨hgoing, -⟩ | ⟨asked, drops, hcalls, hasked, hended⟩
  · exact absurd hfinished (hgoing drained)
  obtain ⟨hstate, hsignals⟩ := loop.run_spec moves
  have hcount : early.length + (pushed (loop.calls moves)).length =
      (straight early ++ asked).countP Call.isPush := by
    rw [hcalls, length_pushed, List.countP_append, List.countP_append, countP_isPush_straight]
    rfl
  have hdrained : drained = (start.run (straight early ++ asked)).1.flights.length := by
    rw [hended] at hfinished
    rw [run_append_state, ← hgiven]
    exact (Stage.finished.inj hfinished).symm
  have hnoDrain : ∀ call ∈ straight early ++ asked, call.isDrain = false :=
    List.forall_mem_append.mpr ⟨straight_not_drain early, hasked⟩
  have hemptied := emptied_of_drain hstart hnoDrain drops
  rw [hstate, hsignals, hcount, hdrained, hgiven, hcalls, ← List.flatMap_append, ← trail_append,
    ← run_append_state, ← List.append_assoc]
  exact hemptied

end

end Reassembly

end Framecast
