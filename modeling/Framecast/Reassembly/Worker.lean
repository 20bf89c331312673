import Framecast.Reassembly.Basic
import Framecast.Reception.Queue

/-!
# From the queue to the reassembly

The worker takes packets out of the queue, pushes them into the reassembly, looks
at the timers now and then, and drains the reassembly when it is told to finish.
Its moves are labels, so that any interleaving with a producer that offers
packets is a list of moves.
-/

namespace Framecast

open Framecast.Assembly (Event Frame Outcome)

namespace Reassembly

/-- One atomic move of the producer or of the worker. -/
inductive Move where
  /-- A packet is offered to the queue. -/
  | offer (packet : Reception.Packet)
  /-- The oldest packet is taken out and pushed into the reassembly. -/
  | take (now : Nat)
  /-- The timers are looked at. -/
  | sweep (now : Nat)
  /-- The remaining frames are drained. -/
  | finish
deriving Repr, DecidableEq

inductive MoveReply where
  | offered (taken : Bool)
  | outcome (outcome : Option Outcome)
  | retired (count : Nat)
deriving Repr, DecidableEq

structure Worker where
  queue : Reception.Queue
  reassembly : Reassembly
deriving Repr

inductive Sweeping where
  /-- After every packet. -/
  | every
  /-- Never. -/
  | never
deriving Repr, DecidableEq

namespace Worker

def step (worker : Worker) : Move → Worker × MoveReply × List Signal
  | .offer packet =>
      let (queue, taken) := worker.queue.push packet
      ({ worker with queue }, .offered taken, [])
  | .take now =>
      match worker.queue.pop with
      | (queue, none) => ({ worker with queue }, .outcome none, [])
      | (queue, some packet) =>
          let (reassembly, outcome, signals) :=
            worker.reassembly.push packet queue.dropped now
          (⟨queue, reassembly⟩, .outcome (some outcome), signals)
  | .sweep now =>
      let (reassembly, count, signals) := worker.reassembly.sweep worker.queue.dropped now
      ({ worker with reassembly }, .retired count, signals)
  | .finish =>
      let (reassembly, count, signals) := worker.reassembly.drain worker.queue.dropped
      ({ worker with reassembly }, .retired count, signals)

def run (worker : Worker) : List Move → Worker × List (MoveReply × List Signal)
  | [] => (worker, [])
  | move :: rest =>
      let (next, reply, signals) := worker.step move
      let (last, later) := next.run rest
      (last, (reply, signals) :: later)

/--
The moves that empty a queue of the given size from time `now` on, one packet in
each unit of time, and then drain the reassembly.  `lingering` asks for a last
look at the timers once the queue is empty.
-/
def shutdownMoves (sweeping : Sweeping) (lingering : Bool) : Nat → Nat → List Move
  | now, 0 =>
      (if sweeping = .every ∧ lingering = true then [.sweep now] else []) ++ [.finish]
  | now, queued + 1 =>
      .take now :: (if sweeping = .every then [.sweep now] else []) ++
        shutdownMoves sweeping lingering (now + 1) queued

/-- The last count of retired frames among the answers. -/
def drainedCount (replies : List (MoveReply × List Signal)) : Nat :=
  match replies.getLast? with
  | some (.retired count, _) => count
  | _ => 0

def closingLog (worker : Worker) (drained : Nat) : LogRecord :=
  let counters := worker.reassembly.counters
  ⟨.info, "reassembly worker stopped",
    [("drained", .number drained), ("frames", .number counters.emitted),
      ("complete", .number counters.complete), ("partial", .number counters.incomplete),
      ("queue_drops", .number worker.queue.dropped)]⟩

end Worker

/-- Push packets straight into the reassembly, one in each unit of time from zero on. -/
def pushEach (reassembly : Reassembly) (now : Nat) :
    List (Reception.Packet × Nat) → Reassembly × List (Outcome × List Signal)
  | [] => (reassembly, [])
  | (packet, drops) :: rest =>
      let (next, outcome, signals) := reassembly.push packet drops now
      let (last, later) := pushEach next (now + 1) rest
      (last, (outcome, signals) :: later)

structure Shutdown where
  worker : Worker
  early : List Outcome
  offered : List Bool
  drained : Nat
  signals : List Signal

/--
A whole shutdown: some packets go straight to the reassembly, the others are
offered to the queue, and then the worker empties it and finishes.
-/
def shutDown (reassembly : Reassembly) (early : List (Reception.Packet × Nat))
    (packets : List Reception.Packet) (sweeping : Sweeping) (lingering : Bool) : Shutdown :=
  let (reassembly, pushed) := reassembly.pushEach 0 early
  let (queue, offered) :=
    (Reception.Queue.empty reassembly.settings.queueCapacity).pushAll packets
  let moves := Worker.shutdownMoves sweeping lingering early.length queue.size
  let (worker, replies) := Worker.run ⟨queue, reassembly⟩ moves
  { worker
    early := pushed.map Prod.fst
    offered
    drained := Worker.drainedCount replies
    signals := pushed.flatMap Prod.snd ++ replies.flatMap Prod.snd }

end Reassembly

end Framecast
