import Framecast.Proofs.Reassembly.Trail
import Framecast.Reassembly.Worker

/-!
# What a worker asks of its reassembly

A worker reaches its reassembly through calls alone, so a run of moves is a run of calls
with the packets and the drop counts of the queue put in.  A whole shutdown is then the
run of the early pushes and of what empties the queue, with a drain at its end.
-/

namespace Framecast

open Framecast.Reception (Packet Queue)

namespace Reassembly

/-! ## Moves as calls -/

namespace Worker

/-- What a move makes of the queue, and the calls it makes on the reassembly. -/
def ask (queue : Queue) : Move → Queue × List Call
  | .offer packet => ((queue.push packet).1, [])
  | .take now =>
      match queue.pop with
      | (queue, none) => (queue, [])
      | (queue, some packet) => (queue, [.push packet queue.dropped now])
  | .sweep now => (queue, [.sweep queue.dropped now])
  | .finish => (queue, [.drain queue.dropped])

def calls (queue : Queue) : List Move → List Call
  | [] => []
  | move :: rest => (ask queue move).2 ++ calls (ask queue move).1 rest

theorem step_spec (worker : Worker) (move : Move) :
    (worker.step move).1.queue = (ask worker.queue move).1 ∧
      (worker.step move).1.reassembly =
        (worker.reassembly.run (ask worker.queue move).2).1 ∧
      (worker.step move).2.2 =
        (worker.reassembly.trail (ask worker.queue move).2).flatMap Step.signals := by
  cases move with
  | offer => exact ⟨rfl, rfl, rfl⟩
  | take now =>
      rw [step, ask]
      rcases worker.queue.pop with ⟨queue, _ | packet⟩
      · exact ⟨rfl, rfl, rfl⟩
      · exact ⟨rfl, rfl, (List.append_nil _).symm⟩
  | sweep => exact ⟨rfl, rfl, (List.append_nil _).symm⟩
  | finish => exact ⟨rfl, rfl, (List.append_nil _).symm⟩

/-- A worker's run leaves and tells what the run of its calls does. -/
theorem run_spec (worker : Worker) (moves : List Move) :
    (worker.run moves).1.reassembly =
        (worker.reassembly.run (calls worker.queue moves)).1 ∧
      (worker.run moves).2.flatMap Prod.snd =
        (worker.reassembly.trail (calls worker.queue moves)).flatMap Step.signals := by
  induction moves generalizing worker with
  | nil => exact ⟨rfl, rfl⟩
  | cons move rest ih =>
      obtain ⟨hqueue, hstate, hsignals⟩ := worker.step_spec move
      obtain ⟨hlast, hlater⟩ := ih (worker.step move).1
      rw [hqueue, hstate] at hlast hlater
      rw [calls, run_append_state, trail_append, List.flatMap_append]
      refine ⟨hlast, ?_⟩
      rw [← hlater, ← hsignals]
      rfl

/-! ## Emptying a queue -/

def emptying (sweeping : Sweeping) (lingering : Bool) (drops : Nat) :
    Nat → List Packet → List Call
  | now, [] => if sweeping = .every ∧ lingering = true then [.sweep drops now] else []
  | now, packet :: rest =>
      .push packet drops now :: (if sweeping = .every then [.sweep drops now] else []) ++
        emptying sweeping lingering drops (now + 1) rest

theorem calls_shutdownMoves (sweeping : Sweeping) (lingering : Bool) (queue : Queue)
    (now : Nat) :
    calls queue (shutdownMoves sweeping lingering now queue.size) =
      emptying sweeping lingering queue.dropped now queue.packets ++
        [.drain queue.dropped] := by
  obtain ⟨capacity, packets, dropped⟩ := queue
  rw [Queue.size]
  induction packets generalizing now with
  | nil =>
      rw [List.length_nil, shutdownMoves, emptying]
      split <;> rfl
  | cons packet rest ih =>
      rw [List.length_cons, shutdownMoves, emptying]
      have hrest := ih (now + 1)
      cases sweeping <;> simp [calls, ask, Queue.pop, hrest]

end Worker

/-! ## Whole shutdowns -/

def earlyCalls : Nat → List (Packet × Nat) → List Call
  | _, [] => []
  | now, (packet, drops) :: rest => .push packet drops now :: earlyCalls (now + 1) rest

theorem pushEach_spec (reassembly : Reassembly) (now : Nat) (early : List (Packet × Nat)) :
    (reassembly.pushEach now early).1 = (reassembly.run (earlyCalls now early)).1 ∧
      (reassembly.pushEach now early).2.flatMap Prod.snd =
        (reassembly.trail (earlyCalls now early)).flatMap Step.signals := by
  induction early generalizing reassembly now with
  | nil => exact ⟨rfl, rfl⟩
  | cons entry rest ih =>
      obtain ⟨packet, drops⟩ := entry
      obtain ⟨hlast, hlater⟩ := ih (reassembly.push packet drops now).1 (now + 1)
      exact ⟨hlast, congrArg ((reassembly.push packet drops now).2.2 ++ ·) hlater⟩

/-- The queue of a shutdown before the worker takes packets out of it. -/
def shutdownQueue (reassembly : Reassembly) (packets : List Packet) : Queue :=
  ((Queue.empty reassembly.settings.queueCapacity).pushAll packets).1

def shutdownCalls (reassembly : Reassembly) (early : List (Packet × Nat))
    (packets : List Packet) (sweeping : Sweeping) (lingering : Bool) : List Call :=
  let queue := reassembly.shutdownQueue packets
  earlyCalls 0 early ++
    Worker.emptying sweeping lingering queue.dropped early.length queue.packets

/-- A shutdown tells what its calls and the drain tell. -/
theorem Sound.signals_shutDown {reassembly : Reassembly} (h : reassembly.Sound)
    (early : List (Packet × Nat)) (packets : List Packet) (sweeping : Sweeping)
    (lingering : Bool) :
    (reassembly.shutDown early packets sweeping lingering).signals =
      (reassembly.trail (reassembly.shutdownCalls early packets sweeping lingering ++
        [.drain (reassembly.shutdownQueue packets).dropped])).flatMap Step.signals := by
  obtain ⟨hstate, hpushed⟩ := reassembly.pushEach_spec 0 early
  have hqueue : ((Queue.empty (reassembly.pushEach 0 early).1.settings.queueCapacity).pushAll
      packets).1 = reassembly.shutdownQueue packets := by
    rw [hstate, (h.run _).settings_eq, shutdownQueue]
  let worker : Worker := ⟨reassembly.shutdownQueue packets, (reassembly.pushEach 0 early).1⟩
  have hworker := (worker.run_spec
    (Worker.shutdownMoves sweeping lingering early.length worker.queue.size)).2
  rw [Worker.calls_shutdownMoves] at hworker
  rw [shutdownCalls, List.append_assoc, trail_append, List.flatMap_append, ← hpushed, ← hstate]
  refine Eq.trans ?_ (congrArg (_ ++ ·) hworker)
  simp only [shutDown, hqueue, worker]

end Reassembly

end Framecast
