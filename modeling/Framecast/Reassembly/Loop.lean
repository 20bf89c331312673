import Framecast.Reassembly.Worker
import Framecast.Reception.Sharing

/-!
# The loop of the worker

The worker waits for a packet, pushes it into the reassembly, looks at the timers when
it is time to, and starts over.  Once the shutdown is requested and the queue has stayed
empty for the grace period, it drains the reassembly and ends.  Producers may offer
packets and the shutdown may be requested between any two of its moves.
-/

namespace Framecast

namespace Reassembly

inductive Stage where
  | waiting
  | holding (packet : Reception.Packet)
  /-- The wait has ended without a packet. -/
  | emptyHanded
  /-- Past the wait, about to see whether it is time to look at the timers. -/
  | timing
  /-- Past the loop, about to drain the reassembly. -/
  | leaving
  | finished (drained : Nat)
deriving Repr, DecidableEq

/--
What the clock shows the worker during one move: whether the wait for a packet has
taken too long, and the times in the order in which they are read.
-/
structure Readings where
  expired : Bool
  first : Nat
  second : Nat
  third : Nat
deriving Repr, DecidableEq

structure Loop where
  worker : Worker
  shutdown : Bool
  stage : Stage
  /-- Since when the queue has been seen empty after the shutdown was requested. -/
  emptySince : Option Nat
  /-- When the timers were looked at last. -/
  sweptAt : Nat
deriving Repr

namespace Loop

/-- A move of a producer, the request to shut down, or a move of the worker. -/
inductive Move where
  | offer (packet : Reception.Packet)
  | shutdown
  | act (readings : Readings)
deriving Repr, DecidableEq

def start (worker : Worker) (shutdown : Bool) (now : Nat) : Loop where
  worker
  shutdown
  stage := .waiting
  emptySince := none
  sweptAt := now

/-- Whether it is time to look at the timers. -/
def isSweepDue (loop : Loop) (now : Nat) : Bool :=
  decide (loop.worker.reassembly.settings.sweepInterval ≤ now - loop.sweptAt)

def wait (loop : Loop) (expired : Bool) : Loop :=
  match loop.worker.queue.look .bounded loop.shutdown expired with
  | none => loop
  | some (_, none) => { loop with stage := .emptyHanded }
  | some (queue, some packet) =>
      { loop with worker := { loop.worker with queue }, stage := .holding packet }

/-- The worker has a packet, which goes to the reassembly with the queue's drop count. -/
def handOver (loop : Loop) (packet : Reception.Packet) (now : Nat) : Loop × List Signal :=
  let worker := loop.worker
  let (reassembly, _, signals) := worker.reassembly.push packet worker.queue.dropped now
  ({ loop with worker := { worker with reassembly }, stage := .timing, emptySince := none },
    signals)

/-- The worker has no packet: it leaves its loop, or goes on. -/
def idle (loop : Loop) (first second : Nat) : Loop :=
  if loop.shutdown then
    let since := loop.emptySince.getD first
    let stage : Stage :=
      if loop.worker.reassembly.settings.shutdownGrace ≤ second - since then .leaving
      else .timing
    { loop with stage, emptySince := some since }
  else { loop with stage := .timing }

/-- The worker looks at the timers, if it is time to. -/
def lookAtTimers (loop : Loop) (readings : Readings) : Loop × List Signal :=
  if loop.isSweepDue readings.first then
    let (worker, _, signals) := loop.worker.step (.sweep readings.second)
    ({ loop with worker, stage := .waiting, sweptAt := readings.third }, signals)
  else ({ loop with stage := .waiting }, [])

def drain (loop : Loop) : Loop × List Signal :=
  let worker := loop.worker
  let (reassembly, count, signals) := worker.reassembly.drain worker.queue.dropped
  ({ loop with worker := { worker with reassembly }, stage := .finished count }, signals)

def act (loop : Loop) (readings : Readings) : Loop × List Signal :=
  match loop.stage with
  | .waiting => (loop.wait readings.expired, [])
  | .holding packet => loop.handOver packet readings.first
  | .emptyHanded => (loop.idle readings.first readings.second, [])
  | .timing => loop.lookAtTimers readings
  | .leaving => loop.drain
  | .finished _ => (loop, [])

def step (loop : Loop) : Move → Loop × List Signal
  | .offer packet =>
      let (worker, _, signals) := loop.worker.step (.offer packet)
      ({ loop with worker }, signals)
  | .shutdown => ({ loop with shutdown := true }, [])
  | .act readings => loop.act readings

def run (loop : Loop) : List Move → Loop × List Signal
  | [] => (loop, [])
  | move :: rest =>
      let (next, signals) := loop.step move
      let (last, later) := next.run rest
      (last, signals ++ later)

end Loop

end Reassembly

end Framecast
