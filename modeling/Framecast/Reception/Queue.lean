import Framecast.Reception.Packet

/-!
# The packet queue

A bounded first-in first-out queue between the network and the reassembly.  A
packet that finds the queue full is dropped and counted; the count only grows.
-/

namespace Framecast.Reception

/-- Waiting packets, oldest first, and how many were dropped so far. -/
structure Queue where
  capacity : Nat
  packets : List Packet
  dropped : Nat
deriving Repr

namespace Queue

def empty (capacity : Nat) : Queue := ⟨capacity, [], 0⟩

def size (queue : Queue) : Nat := queue.packets.length

def isFull (queue : Queue) : Bool := decide (queue.capacity ≤ queue.size)

/-- Append a packet, or drop it and count it; the answer tells whether it was appended. -/
def push (queue : Queue) (packet : Packet) : Queue × Bool :=
  if queue.isFull then ({ queue with dropped := queue.dropped + 1 }, false)
  else ({ queue with packets := queue.packets ++ [packet] }, true)

/-- Take the oldest packet, if there is one. -/
def pop (queue : Queue) : Queue × Option Packet :=
  match queue.packets with
  | [] => (queue, none)
  | packet :: rest => ({ queue with packets := rest }, some packet)

def pushAll (queue : Queue) : List Packet → Queue × List Bool
  | [] => (queue, [])
  | packet :: rest =>
      let (queue, taken) := queue.push packet
      let (queue, answers) := queue.pushAll rest
      (queue, taken :: answers)

inductive Waiting where
  /-- Not at all. -/
  | never
  /-- Until the given time has passed or the shutdown is requested. -/
  | bounded
  /-- Until the shutdown is requested. -/
  | untilShutdown
deriving Repr, DecidableEq

/--
The end of a wait: the oldest packet, or nothing.  An empty queue holds back a
consumer without a time limit until the shutdown is requested; then there is no
next state yet.
-/
def take? (queue : Queue) (waiting : Waiting) (shutdown : Bool) :
    Option (Queue × Option Packet) :=
  match queue.pop, waiting, shutdown with
  | (queue, some packet), _, _ => some (queue, some packet)
  | (_, none), .untilShutdown, false => none
  | (queue, none), _, _ => some (queue, none)

/--
A consumer waits; then a packet arrives, if one is given, and the shutdown is
requested.  The answers are whether the packet was appended and what the
consumer got.
-/
def popWaiting (queue : Queue) (arrival : Option Packet) :
    Queue × Option Bool × Option Packet :=
  let (queue, early) := queue.pop
  let (queue, pushed) := match arrival with
    | none => (queue, none)
    | some packet =>
        let (queue, taken) := queue.push packet
        (queue, some taken)
  match early with
  | some packet => (queue, pushed, some packet)
  | none =>
      let (queue, popped) := queue.pop
      (queue, pushed, popped)

end Queue

end Framecast.Reception
