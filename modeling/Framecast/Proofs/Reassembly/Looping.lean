import Framecast.Proofs.Reassembly.Working
import Framecast.Proofs.Reception.Sharing
import Framecast.Reassembly.Loop

/-!
# What the worker's loop passes on

A move of the loop asks at most one thing of the reassembly, so a run of the loop is a
run of calls.  The packets in these calls are the ones that entered the queue, in order,
up to the one in hand and those that still wait.
-/

namespace Framecast

open Framecast.Reception (Packet Queue)

namespace Reassembly

def pushed (calls : List Call) : List Packet :=
  calls.filterMap fun
    | .push packet _ _ => some packet
    | _ => none

theorem pushed_append (calls later : List Call) :
    pushed (calls ++ later) = pushed calls ++ pushed later :=
  List.filterMap_append

theorem length_pushed (calls : List Call) :
    (pushed calls).length = calls.countP Call.isPush := by
  induction calls with
  | nil => rfl
  | cons call rest ih =>
      rw [List.countP_cons, ← ih]
      cases call <;> simp [pushed, Call.isPush]

def Stage.inHand : Stage → List Packet
  | .holding packet => [packet]
  | _ => []

namespace Loop

/-! ## Runs -/

def after (loop : Loop) (moves : List Move) : Loop :=
  (loop.run moves).1

@[simp] theorem after_nil (loop : Loop) : loop.after [] = loop := rfl

theorem after_cons (loop : Loop) (move : Move) (rest : List Move) :
    loop.after (move :: rest) = (loop.step move).1.after rest := rfl

theorem after_append (loop : Loop) (moves later : List Move) :
    loop.after (moves ++ later) = (loop.after moves).after later := by
  induction moves generalizing loop with
  | nil => rfl
  | cons move rest ih => rw [List.cons_append, after_cons, after_cons, ih]

/-- What the moves of a run show, one after the other. -/
def gather {α : Type} (shows : Loop → Move → List α) (loop : Loop) : List Move → List α
  | [] => []
  | move :: rest => shows loop move ++ gather shows (loop.step move).1 rest

section
variable {α : Type} (shows : Loop → Move → List α) (loop : Loop)

theorem gather_append (moves later : List Move) :
    gather shows loop (moves ++ later) =
      gather shows loop moves ++ gather shows (loop.after moves) later := by
  induction moves generalizing loop with
  | nil => rfl
  | cons move rest ih =>
      rw [List.cons_append, gather, ih, gather, after_cons, List.append_assoc]

theorem gather_singleton (move : Move) : gather shows loop [move] = shows loop move :=
  List.append_nil _

end

def asks (loop : Loop) : Move → List Call
  | .act readings =>
      let drops := loop.worker.queue.dropped
      match loop.stage with
      | .holding packet => [.push packet drops readings.first]
      | .timing =>
          if loop.isSweepDue readings.first then [.sweep drops readings.second] else []
      | .leaving => [.drain drops]
      | _ => []
  | _ => []

def enters (loop : Loop) : Move → List Packet
  | .offer packet => if loop.worker.queue.isFull then [] else [packet]
  | _ => []

def refuses (loop : Loop) : Move → List Packet
  | .offer packet => if loop.worker.queue.isFull then [packet] else []
  | _ => []

def calls : Loop → List Move → List Call := gather asks

def entered : Loop → List Move → List Packet := gather enters

def refused : Loop → List Move → List Packet := gather refuses

theorem calls_append (loop : Loop) (moves later : List Move) :
    loop.calls (moves ++ later) = loop.calls moves ++ (loop.after moves).calls later :=
  gather_append ..

theorem entered_append (loop : Loop) (moves later : List Move) :
    loop.entered (moves ++ later) = loop.entered moves ++ (loop.after moves).entered later :=
  gather_append ..

theorem refused_append (loop : Loop) (moves later : List Move) :
    loop.refused (moves ++ later) = loop.refused moves ++ (loop.after moves).refused later :=
  gather_append ..

@[simp] theorem calls_singleton (loop : Loop) (move : Move) :
    loop.calls [move] = loop.asks move := gather_singleton ..

@[simp] theorem entered_singleton (loop : Loop) (move : Move) :
    loop.entered [move] = loop.enters move := gather_singleton ..

@[simp] theorem refused_singleton (loop : Loop) (move : Move) :
    loop.refused [move] = loop.refuses move := gather_singleton ..

/-- What a run shows, one of its moves shows. -/
theorem exists_of_mem_gather {α : Type} {shows : Loop → Move → List α} {loop : Loop}
    {moves : List Move} {entry : α} (hmem : entry ∈ gather shows loop moves) :
    ∃ before move later, moves = before ++ move :: later ∧
      entry ∈ shows (loop.after before) move := by
  induction moves generalizing loop with
  | nil => exact absurd hmem List.not_mem_nil
  | cons move rest ih =>
      rcases List.mem_append.mp hmem with hfirst | hlater
      · exact ⟨[], move, rest, rfl, hfirst⟩
      · obtain ⟨before, next, later, rfl, hthere⟩ := ih hlater
        exact ⟨move :: before, next, later, rfl, hthere⟩

/-! ## The reassembly behind the loop -/

theorem step_spec (loop : Loop) (move : Move) :
    (loop.step move).1.worker.reassembly =
        (loop.worker.reassembly.run (loop.asks move)).1 ∧
      (loop.step move).2 =
        (loop.worker.reassembly.trail (loop.asks move)).flatMap Step.signals := by
  cases move with
  | offer | shutdown => exact ⟨rfl, rfl⟩
  | act readings =>
      rw [step, act, asks]
      cases loop.stage with
      | waiting =>
          simp only [wait]
          split <;> exact ⟨rfl, rfl⟩
      | holding packet => exact ⟨rfl, (List.append_nil _).symm⟩
      | emptyHanded =>
          simp only [idle]
          split <;> exact ⟨rfl, rfl⟩
      | timing =>
          simp only [lookAtTimers]
          split
          · exact ⟨rfl, (List.append_nil _).symm⟩
          · exact ⟨rfl, rfl⟩
      | leaving => exact ⟨rfl, (List.append_nil _).symm⟩
      | finished => exact ⟨rfl, rfl⟩

/-- A run of the loop leaves and tells what the run of its calls does. -/
theorem run_spec (loop : Loop) (moves : List Move) :
    (loop.after moves).worker.reassembly =
        (loop.worker.reassembly.run (loop.calls moves)).1 ∧
      (loop.run moves).2 =
        (loop.worker.reassembly.trail (loop.calls moves)).flatMap Step.signals := by
  induction moves generalizing loop with
  | nil => exact ⟨rfl, rfl⟩
  | cons move rest ih =>
      obtain ⟨hstate, hsignals⟩ := loop.step_spec move
      obtain ⟨hlast, hlater⟩ := ih (loop.step move).1
      rw [hstate] at hlast hlater
      rw [calls, gather, run_append_state, trail_append, List.flatMap_append, ← hsignals]
      exact ⟨hlast, congrArg (_ ++ ·) hlater⟩

/-! ## The queue in front of the loop -/

/-- The packets that are still to be pushed, the next one in front. -/
def pending (loop : Loop) : List Packet :=
  loop.stage.inHand ++ loop.worker.queue.packets

/-- A stretch of a run passes packets on and neither adds nor loses any. -/
structure Carries (loop : Loop) (moves : List Move) : Prop where
  order : loop.pending ++ loop.entered moves =
    pushed (loop.calls moves) ++ (loop.after moves).pending
  dropped_eq : (loop.after moves).worker.queue.dropped =
    loop.worker.queue.dropped + (loop.refused moves).length
  capacity_eq : (loop.after moves).worker.queue.capacity = loop.worker.queue.capacity

theorem carries_offer (loop : Loop) (packet : Packet) : loop.Carries [.offer packet] := by
  cases hfull : loop.worker.queue.isFull <;> constructor <;>
    simp [after, run, step, Worker.step, Queue.push, pending, enters, refuses, asks, pushed,
      hfull]

/-- A wait takes the oldest packet, or it ends at an empty queue, or it goes on. -/
theorem wait_cases (loop : Loop) (expired : Bool) :
    (∃ packet rest, loop.worker.queue.packets = packet :: rest ∧
        loop.wait expired =
          { loop with
            worker := { loop.worker with
              queue := { loop.worker.queue with packets := rest } }
            stage := .holding packet }) ∨
      (loop.worker.queue.packets = [] ∧
        loop.wait expired = { loop with stage := .emptyHanded }) ∨
      loop.wait expired = loop := by
  cases hpackets : loop.worker.queue.packets with
  | cons packet rest =>
      refine .inl ⟨packet, rest, rfl, ?_⟩
      rw [wait, Queue.look_of_cons hpackets]
  | nil =>
      rw [wait, Queue.look_of_nil hpackets]
      cases Queue.Waiting.bounded.givesUp loop.shutdown expired with
      | true => exact .inr (.inl ⟨rfl, rfl⟩)
      | false => exact .inr (.inr rfl)

/-- The worker's own moves change the queue by what they take out of it only. -/
theorem carries_act {loop next : Loop} {readings : Readings}
    (hnext : (loop.act readings).1 = next)
    (horder : loop.pending = pushed (loop.asks (.act readings)) ++ next.pending)
    (hdropped : next.worker.queue.dropped = loop.worker.queue.dropped)
    (hcapacity : next.worker.queue.capacity = loop.worker.queue.capacity) :
    loop.Carries [.act readings] := by
  have hafter : loop.after [.act readings] = next := hnext
  refine ⟨?_, ?_, ?_⟩
  · rw [entered_singleton, calls_singleton, hafter]
    exact (List.append_nil _).trans horder
  · rw [refused_singleton, hafter]
    exact hdropped
  · rw [hafter]
    exact hcapacity

theorem carries_wait {loop : Loop} (hstage : loop.stage = .waiting) (readings : Readings) :
    loop.Carries [.act readings] := by
  have hact : (loop.act readings).1 = loop.wait readings.expired := by rw [act, hstage]
  obtain ⟨packet, rest, hpackets, hwait⟩ | ⟨hpackets, hwait⟩ | hwait :=
    loop.wait_cases readings.expired
  · refine carries_act (hact.trans hwait) ?_ rfl rfl
    simp [pending, asks, pushed, Stage.inHand, hstage, hpackets]
  · refine carries_act (hact.trans hwait) ?_ rfl rfl
    simp [pending, asks, pushed, Stage.inHand, hstage]
  · refine carries_act (hact.trans hwait) ?_ rfl rfl
    simp [pending, asks, pushed, hstage]

/-- A worker with empty hands goes on or leaves. -/
theorem idle_cases (loop : Loop) (first second : Nat) :
    ∃ stage since, (stage = .timing ∨ stage = .leaving) ∧
      loop.idle first second = { loop with stage, emptySince := since } := by
  simp only [idle]
  split
  · refine ⟨_, _, ?_, rfl⟩
    split
    · exact .inr rfl
    · exact .inl rfl
  · exact ⟨_, _, .inl rfl, rfl⟩

theorem carries_step (loop : Loop) (move : Move) : loop.Carries [move] := by
  cases move with
  | offer packet => exact loop.carries_offer packet
  | shutdown => constructor <;> simp [after, run, step, pending, enters, refuses, asks, pushed]
  | act readings =>
      cases hstage : loop.stage with
      | waiting => exact carries_wait hstage readings
      | holding packet =>
          have hact : loop.act readings = loop.handOver packet readings.first := by
            rw [act, hstage]
          refine carries_act (congrArg Prod.fst hact) ?_ rfl rfl
          simp [pending, asks, pushed, Stage.inHand, hstage, handOver]
      | emptyHanded =>
          have hact : (loop.act readings).1 = loop.idle readings.first readings.second := by
            rw [act, hstage]
          obtain ⟨stage, since, hnext, hidle⟩ :=
            loop.idle_cases readings.first readings.second
          refine carries_act (hact.trans hidle) ?_ rfl rfl
          rcases hnext with rfl | rfl <;>
            simp [pending, asks, pushed, Stage.inHand, hstage]
      | timing =>
          have hact : loop.act readings = loop.lookAtTimers readings := by rw [act, hstage]
          cases hdue : loop.isSweepDue readings.first <;>
            refine carries_act (congrArg Prod.fst hact) ?_ ?_ ?_ <;>
              simp [lookAtTimers, hdue, Worker.step, pending, asks, pushed, Stage.inHand, hstage]
      | leaving =>
          have hact : loop.act readings = loop.drain := by rw [act, hstage]
          refine carries_act (congrArg Prod.fst hact) ?_ rfl rfl
          simp [pending, asks, pushed, Stage.inHand, hstage, drain]
      | finished count =>
          refine carries_act (by rw [act, hstage]) ?_ rfl rfl
          simp [pending, asks, pushed, hstage]

theorem Carries.append {loop : Loop} {moves later : List Move} (h : loop.Carries moves)
    (hlater : (loop.after moves).Carries later) : loop.Carries (moves ++ later) where
  order := by
    rw [entered_append, calls_append, pushed_append, after_append]
    exact Reception.flow_append h.order hlater.order
  dropped_eq := by
    rw [refused_append, after_append, hlater.dropped_eq, h.dropped_eq, List.length_append,
      Nat.add_assoc]
  capacity_eq := by rw [after_append, hlater.capacity_eq, h.capacity_eq]

theorem carries (loop : Loop) (moves : List Move) : loop.Carries moves := by
  induction moves generalizing loop with
  | nil => exact ⟨by simp [entered, calls, gather, pushed], rfl, rfl⟩
  | cons move rest ih => exact (loop.carries_step move).append (ih _)

/-- Whatever a move asks, it asks with the queue's drop count. -/
theorem drops_of_asks {loop : Loop} {move : Move} {call : Call}
    (hcall : call ∈ loop.asks move) : call.drops = loop.worker.queue.dropped := by
  unfold asks at hcall
  split at hcall
  · split at hcall <;> (try split at hcall) <;> simp_all [Call.drops]
  · exact absurd hcall List.not_mem_nil

end Loop

end Reassembly

end Framecast
