import Framecast.Proofs.Reassembly.Draining

/-!
# A shutdown as a run of the loop

A shutdown empties the queue packet by packet and then drains the reassembly.  With a
suitable clock the loop makes the same calls, so what is known of every run of the loop
is known of shutdowns.
-/

namespace Framecast

open Framecast.Reception (Packet Queue)

namespace Reassembly

namespace Loop

/-- Without offers the loop gets from one state to another and makes the given calls. -/
def Leads (loop : Loop) (asked : List Call) (next : Loop) : Prop :=
  ∃ moves, (∀ move ∈ moves, move.isOffer = false) ∧ loop.after moves = next ∧
    loop.calls moves = asked

theorem leads_of_step {loop next : Loop} {asked : List Call} (move : Move)
    (hoffer : move.isOffer = false) (hstep : (loop.step move).1 = next)
    (hasks : loop.asks move = asked) : loop.Leads asked next :=
  ⟨[move], by simp [hoffer], hstep, (calls_singleton ..).trans hasks⟩

theorem Leads.trans {loop middle next : Loop} {asked later : List Call}
    (h : loop.Leads asked middle) (hlater : middle.Leads later next) :
    loop.Leads (asked ++ later) next := by
  obtain ⟨moves, hoffers, rfl, rfl⟩ := h
  obtain ⟨others, hothers, rfl, rfl⟩ := hlater
  exact ⟨moves ++ others, List.forall_mem_append.mpr ⟨hoffers, hothers⟩, after_append ..,
    calls_append ..⟩

structure Open (loop : Loop) : Prop where
  shutdown_eq : loop.shutdown = false
  interval_pos : 0 < loop.worker.reassembly.settings.sweepInterval
  sound : loop.worker.reassembly.Sound

theorem Open.leads {loop next : Loop} {asked : List Call} (h : loop.Open)
    (hleads : loop.Leads asked next) (hshutdown : next.shutdown = false) : next.Open := by
  obtain ⟨moves, -, rfl, -⟩ := hleads
  have hrun := h.sound.run (loop.calls moves)
  refine ⟨hshutdown, ?_, ?_⟩ <;> rw [(loop.run_spec moves).1]
  · rw [hrun.settings_eq]
    exact h.interval_pos
  · exact hrun.sound

/-! ## Rounds -/

def sweeps (sweeping : Sweeping) (drops now : Nat) : List Call :=
  if sweeping = .every then [.sweep drops now] else []

section
variable {loop : Loop} (h : loop.Open) (sweeping : Sweeping) (now : Nat)
include h

/-- The clock decides whether it is time to look at the timers. -/
theorem Open.exists_timed (hstage : loop.stage = .timing) :
    ∃ next, loop.Leads (sweeps sweeping loop.worker.queue.dropped now) next ∧ next.Open ∧
      next.stage = .waiting ∧ next.worker.queue = loop.worker.queue := by
  let interval := loop.worker.reassembly.settings.sweepInterval
  let first := loop.sweptAt + if sweeping = .every then interval else 0
  let move : Move := .act ⟨true, first, now, now⟩
  have hpositive : ¬ interval ≤ 0 := Nat.not_le.mpr h.interval_pos
  have hasks : loop.asks move = sweeps sweeping loop.worker.queue.dropped now := by
    cases sweeping <;> simp [move, first, interval, asks, hstage, isSweepDue, sweeps, hpositive]
  have hleads : loop.Leads _ (loop.step move).1 := leads_of_step move rfl rfl hasks
  have hstep : (loop.step move).1.shutdown = loop.shutdown ∧
      (loop.step move).1.stage = .waiting ∧
      (loop.step move).1.worker.queue = loop.worker.queue := by
    simp only [move, step, act, hstage, lookAtTimers]
    split <;> exact ⟨rfl, rfl, rfl⟩
  exact ⟨_, hleads, h.leads hleads (hstep.1.trans h.shutdown_eq), hstep.2⟩

/-- One round of the loop pushes one packet. -/
theorem Open.exists_round (hstage : loop.stage = .waiting) {packet : Packet}
    {rest : List Packet} (hpackets : loop.worker.queue.packets = packet :: rest) :
    let drops := loop.worker.queue.dropped
    ∃ next, loop.Leads (.push packet drops now :: sweeps sweeping drops now) next ∧ next.Open ∧
      next.stage = .waiting ∧
      next.worker.queue = { loop.worker.queue with packets := rest } := by
  intro drops
  let readings : Readings := ⟨true, now, now, now⟩
  let holding : Loop := { loop with
    worker := { loop.worker with queue := { loop.worker.queue with packets := rest } }
    stage := .holding packet }
  have htaken : loop.Leads [] holding := by
    refine leads_of_step (.act readings) rfl ?_ (by simp [asks, hstage])
    simp [step, act, hstage, wait, Queue.look_of_cons hpackets, holding]
  have hpushed : holding.Leads [.push packet drops now] (holding.handOver packet now).1 :=
    leads_of_step (.act readings) rfl rfl rfl
  have hopen := h.leads (htaken.trans hpushed) h.shutdown_eq
  obtain ⟨next, hleads, hnext⟩ := hopen.exists_timed sweeping now rfl
  exact ⟨next, htaken.trans (hpushed.trans hleads), hnext⟩

/-- At the empty queue the worker may look at the timers once more. -/
theorem Open.exists_lingering (hstage : loop.stage = .waiting)
    (hpackets : loop.worker.queue.packets = []) :
    ∃ next, loop.Leads (sweeps sweeping loop.worker.queue.dropped now) next ∧ next.Open ∧
      next.stage = .waiting ∧ next.worker.queue = loop.worker.queue := by
  let readings : Readings := ⟨true, now, now, now⟩
  have hmissed : loop.Leads [] { loop with stage := .emptyHanded } := by
    refine leads_of_step (.act readings) rfl ?_ (by simp [asks, hstage])
    simp [step, act, hstage, wait, Queue.look_of_nil hpackets, Queue.Waiting.givesUp, readings]
  have hidled : Leads { loop with stage := .emptyHanded } [] { loop with stage := .timing } := by
    refine leads_of_step (.act readings) rfl ?_ rfl
    simp [step, act, idle, h.shutdown_eq]
  have hopen := h.leads (hmissed.trans hidled) h.shutdown_eq
  obtain ⟨next, hleads, hnext⟩ := hopen.exists_timed sweeping now rfl
  exact ⟨next, hmissed.trans (hidled.trans hleads), hnext⟩

omit h in
/-- At the empty queue the shutdown is requested, and the worker drains and finishes. -/
theorem exists_finishing (hstage : loop.stage = .waiting)
    (hpackets : loop.worker.queue.packets = []) :
    ∃ last drained, loop.Leads [.drain loop.worker.queue.dropped] last ∧
      last.stage = .finished drained ∧ last.worker.queue = loop.worker.queue := by
  let told : Loop := { loop with shutdown := true }
  let since := loop.emptySince.getD 0
  let readings : Readings :=
    ⟨true, 0, since + loop.worker.reassembly.settings.shutdownGrace, 0⟩
  let leaving : Loop := { told with stage := .leaving, emptySince := some since }
  have htold : loop.Leads [] told := leads_of_step .shutdown rfl rfl rfl
  have hmissed : told.Leads [] { told with stage := .emptyHanded } := by
    refine leads_of_step (.act readings) rfl ?_ (by simp [told, asks, hstage])
    simp [told, step, act, hstage, wait, Queue.look_of_nil hpackets, Queue.Waiting.givesUp]
  have hidled : Leads { told with stage := .emptyHanded } [] leaving := by
    refine leads_of_step (.act readings) rfl ?_ rfl
    simp [step, act, idle, told, leaving, readings, since]
  have hdrained : leaving.Leads [.drain loop.worker.queue.dropped] leaving.drain.1 :=
    leads_of_step (.act readings) rfl rfl rfl
  exact ⟨_, _, htold.trans (hmissed.trans (hidled.trans hdrained)), rfl, rfl⟩

/-- The loop makes the calls of a shutdown. -/
theorem Open.exists_emptying (lingering : Bool) (hstage : loop.stage = .waiting) :
    let queue := loop.worker.queue
    ∃ last drained,
      loop.Leads (Worker.emptying sweeping lingering queue.dropped now queue.packets ++
        [.drain queue.dropped]) last ∧
      last.stage = .finished drained ∧ last.worker.queue = { queue with packets := [] } := by
  intro queue
  generalize hpackets : queue.packets = packets
  induction packets generalizing loop now with
  | nil =>
      have hempty : { queue with packets := [] } = queue := by rw [← hpackets]
      rw [Worker.emptying, hempty]
      by_cases hlinger : sweeping = .every ∧ lingering = true
      · obtain ⟨next, hleads, -, hnext, hqueue⟩ :=
          h.exists_lingering sweeping now hstage hpackets
        obtain ⟨last, drained, hlast, hfinished⟩ :=
          exists_finishing hnext (by rw [hqueue]; exact hpackets)
        rw [sweeps, if_pos hlinger.1] at hleads
        rw [hqueue] at hlast hfinished
        rw [if_pos hlinger]
        exact ⟨last, drained, hleads.trans hlast, hfinished⟩
      · rw [if_neg hlinger]
        exact exists_finishing hstage hpackets
  | cons packet rest ih =>
      obtain ⟨next, hleads, hopen, hnext, hqueue⟩ :=
        h.exists_round sweeping now hstage hpackets
      obtain ⟨last, drained, hlast, hfinished⟩ :=
        ih hopen (now + 1) hnext (by rw [hqueue])
      rw [hqueue] at hlast hfinished
      refine ⟨last, drained, ?_, hfinished⟩
      rw [Worker.emptying, List.append_assoc]
      exact hleads.trans hlast

end

end Loop

/-! ## Shutdowns -/

namespace Worker

theorem exists_shutdownMoves_eq (sweeping : Sweeping) (lingering : Bool) (now queued : Nat) :
    ∃ moves, shutdownMoves sweeping lingering now queued = moves ++ [.finish] := by
  induction queued generalizing now with
  | zero => exact ⟨_, rfl⟩
  | succ queued ih =>
      obtain ⟨moves, hmoves⟩ := ih (now + 1)
      rw [shutdownMoves, hmoves, List.cons_append, ← List.append_assoc, ← List.cons_append]
      exact ⟨_, rfl⟩

theorem calls_finish (queue : Queue) (moves : List Move) :
    ∃ drops, calls queue (moves ++ [.finish]) = calls queue moves ++ [.drain drops] := by
  induction moves generalizing queue with
  | nil => exact ⟨_, rfl⟩
  | cons move rest ih =>
      obtain ⟨drops, hrest⟩ := ih (ask queue move).1
      refine ⟨drops, ?_⟩
      rw [List.cons_append, calls, hrest, calls, List.append_assoc]

/-- The count at the end of a run that finishes is that of the flights before. -/
theorem drainedCount_run (worker : Worker) (moves : List Move) :
    drainedCount (worker.run (moves ++ [.finish])).2 =
      (worker.run moves).1.reassembly.flights.length := by
  have hlast : ∃ signals, (worker.run (moves ++ [.finish])).2.getLast? =
      some (.retired (worker.run moves).1.reassembly.flights.length, signals) := by
    induction moves generalizing worker with
    | nil => simp [run, step, drain]
    | cons move rest ih =>
        obtain ⟨signals, hsignals⟩ := ih (worker.step move).1
        refine ⟨signals, ?_⟩
        rw [List.cons_append, run, List.getLast?_cons, hsignals]
        rfl
  obtain ⟨signals, hsignals⟩ := hlast
  rw [drainedCount, hsignals]

/-- The worker that empties its queue ends with the count of what is then in flight. -/
theorem drainedCount_shutdownMoves (worker : Worker) (sweeping : Sweeping) (lingering : Bool)
    (now : Nat) :
    let queue := worker.queue
    drainedCount (worker.run (shutdownMoves sweeping lingering now queue.size)).2 =
      (worker.reassembly.run
        (emptying sweeping lingering queue.dropped now queue.packets)).1.flights.length := by
  intro queue
  obtain ⟨moves, hmoves⟩ := exists_shutdownMoves_eq sweeping lingering now queue.size
  obtain ⟨drops, hcalls⟩ := calls_finish queue moves
  rw [← hmoves, calls_shutdownMoves] at hcalls
  rw [hmoves, drainedCount_run, (worker.run_spec moves).1, (List.append_inj' hcalls rfl).1]

theorem queue_shutdownMoves (worker : Worker) (sweeping : Sweeping) (lingering : Bool)
    (now : Nat) :
    (worker.run (shutdownMoves sweeping lingering now worker.queue.size)).1.queue =
      { worker.queue with packets := [] } := by
  obtain ⟨⟨capacity, packets, dropped⟩, reassembly⟩ := worker
  rw [Queue.size]
  induction packets generalizing now reassembly with
  | nil =>
      rw [List.length_nil, shutdownMoves]
      split <;> rfl
  | cons packet rest ih =>
      rw [List.length_cons, shutdownMoves]
      cases sweeping with
      | every => exact ih _ _
      | never => exact ih _ _

end Worker

/--
Whatever goes straight to the reassembly and is offered to the queue, a shutdown leaves
and tells what some run of the loop does that starts with the offers.
-/
theorem Sound.exists_loop_run {reassembly : Reassembly} (h : reassembly.Sound)
    (hinterval : 0 < reassembly.settings.sweepInterval) (early : List (Packet × Nat))
    (packets : List Packet) (sweeping : Sweeping) (lingering : Bool) :
    let loop := Loop.start
      ⟨.empty reassembly.settings.queueCapacity, (reassembly.run (earlyCalls 0 early)).1⟩ false 0
    let shutdown := reassembly.shutDown early packets sweeping lingering
    ∃ rest, (∀ move ∈ rest, move.isOffer = false) ∧
      (loop.after (packets.map .offer ++ rest)).worker = shutdown.worker ∧
      (loop.after (packets.map .offer ++ rest)).stage = .finished shutdown.drained ∧
      (reassembly.trail (earlyCalls 0 early)).flatMap Step.signals ++
        (loop.run (packets.map .offer ++ rest)).2 = shutdown.signals := by
  intro loop shutdown
  have hsettings := (h.run (earlyCalls 0 early)).settings_eq
  have hfilled := (reassembly.pushEach_spec 0 early).1
  let queue := ((Queue.empty reassembly.settings.queueCapacity).pushAll packets).1
  let worker : Worker := ⟨queue, (reassembly.run (earlyCalls 0 early)).1⟩
  have hoffered := loop.worker_after_offers packets
  have hopen : (loop.after (packets.map .offer)).Open := by
    rw [hoffered]
    exact ⟨rfl, hsettings ▸ hinterval, (h.run _).sound⟩
  obtain ⟨last, drained, ⟨rest, hrest, rfl, hcalls⟩, hfinished, hleft⟩ :=
    hopen.exists_emptying sweeping early.length lingering (by rw [hoffered]; rfl)
  rw [hoffered] at hcalls
  let moves := packets.map .offer ++ rest
  have hmade : loop.calls moves =
      Worker.emptying sweeping lingering queue.dropped early.length queue.packets ++
        [.drain queue.dropped] := by
    rw [Loop.calls_append, Loop.calls_offers, hoffered, hcalls]
    rfl
  rw [← Loop.after_append] at hfinished hleft
  obtain ⟨hstate, hsignals⟩ := loop.run_spec moves
  let emptied := worker.run
    (Worker.shutdownMoves sweeping lingering early.length worker.queue.size)
  have hemptied : shutdown.worker = emptied.1 ∧
      shutdown.drained = Worker.drainedCount emptied.2 := by
    simp only [shutdown, shutDown, hfilled, hsettings]
    exact ⟨rfl, rfl⟩
  refine ⟨rest, hrest, ?_, ?_, ?_⟩
  · have hreassembly := (worker.run_spec
      (Worker.shutdownMoves sweeping lingering early.length worker.queue.size)).1
    rw [Worker.calls_shutdownMoves] at hreassembly
    rw [hemptied.1]
    calc (loop.after moves).worker
        = ⟨(loop.after moves).worker.queue, (loop.after moves).worker.reassembly⟩ := rfl
      _ = ⟨emptied.1.queue, emptied.1.reassembly⟩ := by
          rw [hleft, hstate, hmade, hoffered, hreassembly, worker.queue_shutdownMoves]
          rfl
      _ = emptied.1 := rfl
  · rcases loop.calls_of_stage (fun _ => Stage.noConfusion) moves with
      ⟨hgoing, -⟩ | ⟨asked, drops, hasked, -, hended⟩
    · exact absurd hfinished (hgoing drained)
    · rw [hmade] at hasked
      rw [hended, hemptied.2, worker.drainedCount_shutdownMoves,
        ← (List.append_inj' hasked rfl).1]
      rfl
  · rw [h.signals_shutDown, shutdownCalls, List.append_assoc, trail_append, List.flatMap_append,
      hsignals, hmade]
    rfl

end Reassembly

end Framecast
