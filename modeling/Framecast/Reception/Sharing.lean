import Framecast.Reception.Queue

/-!
# A queue and its users

Any number of producers and consumers use one queue, one at a time under its lock.  What
one of them does while it holds the lock is one move, so every interleaving is a list of
moves.  A consumer that finds the queue empty may let go of the lock and look again as
often as it likes, whatever woke it.
-/

namespace Framecast.Reception

namespace Queue

/-- Whether a consumer that finds the queue empty returns with nothing. -/
def Waiting.givesUp (waiting : Waiting) (shutdown expired : Bool) : Bool :=
  match waiting with
  | .never => true
  | .bounded => shutdown || expired
  | .untilShutdown => shutdown

/--
One look of a consumer whose time may have run out: how its call ends, or nothing if it
is to look again.
-/
def look (queue : Queue) (waiting : Waiting) (shutdown expired : Bool) :
    Option (Queue × Option Packet) :=
  match queue.pop with
  | (queue, some packet) => some (queue, some packet)
  | (queue, none) => if waiting.givesUp shutdown expired then some (queue, none) else none

/-- A wait ends with what a look finds once the time has run out. -/
theorem look_expired (queue : Queue) (waiting : Waiting) (shutdown : Bool) :
    queue.look waiting shutdown true = queue.take? waiting shutdown := by
  unfold look take?
  rcases queue.pop with ⟨queue, _ | packet⟩ <;> cases waiting <;> cases shutdown <;> rfl

end Queue

inductive Activity where
  | idle
  /-- It found the queue empty and is to look again. -/
  | waiting (waiting : Queue.Waiting)
deriving Repr, DecidableEq

structure Shared (User : Type) where
  queue : Queue
  shutdown : Bool
  activity : User → Activity

namespace Shared

variable {User : Type}

/-- What a user does while it holds the lock, or the request to shut down. -/
inductive Move (User : Type) where
  | push (user : User) (packet : Packet)
  /-- A consumer looks at the queue for the first time in its call, or again. -/
  | look (user : User) (waiting : Queue.Waiting) (expired : Bool)
  | shutdown
deriving Repr, DecidableEq

inductive Reply where
  | pushed (taken : Bool)
  /-- The end of a consumer's call. -/
  | popped (packet : Option Packet)
  /-- The consumer is to look again. -/
  | again
  | requested
deriving Repr, DecidableEq

/-- An empty queue that nobody uses yet. -/
def fresh (capacity : Nat) : Shared User :=
  ⟨.empty capacity, false, fun _ => .idle⟩

variable [DecidableEq User]

def occupy (shared : Shared User) (user : User) (activity : Activity) : Shared User :=
  { shared with
    activity := fun other => if other = user then activity else shared.activity other }

/-- One move, unless the user is in the middle of something else. -/
def step (shared : Shared User) : Move User → Option (Shared User × Reply)
  | .push user packet =>
      if shared.activity user = .idle then
        let (queue, taken) := shared.queue.push packet
        some ({ shared with queue }, .pushed taken)
      else none
  | .look user waiting expired =>
      if shared.activity user = .idle ∨ shared.activity user = .waiting waiting then
        match shared.queue.look waiting shared.shutdown expired with
        | none => some (shared.occupy user (.waiting waiting), .again)
        | some (queue, packet) =>
            some ({ shared with queue }.occupy user .idle, .popped packet)
      else none
  | .shutdown => some ({ shared with shutdown := true }, .requested)

inductive Run : Shared User → List (Move User × Reply) → Shared User → Prop where
  | nil {shared : Shared User} : Run shared [] shared
  | cons {shared next last : Shared User} {move : Move User} {reply : Reply}
      {log : List (Move User × Reply)} (hstep : shared.step move = some (next, reply))
      (hrest : Run next log last) : Run shared ((move, reply) :: log) last

end Shared

end Framecast.Reception
