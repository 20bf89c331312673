import Framecast.Bytes

/-!
# Links

A link carries datagrams to a receiver: it answers each with the number of bytes that it
took, or with a fault, and what it answers may depend on all that it was given before.
-/

namespace Framecast.Sending

inductive FaultKind where
  | wouldBlock
  | interrupted
  | other
deriving Repr, DecidableEq

/-- Why a link refuses a datagram; a fault of the system comes with its number. -/
structure LinkFault where
  kind : FaultKind
  number : Option Nat
  text : String
deriving Repr, DecidableEq

namespace LinkFault

def message (fault : LinkFault) : String :=
  match fault.number with
  | some number => fault.text ++ s!" (os error {number})"
  | none => fault.text

def unreachable : LinkFault := ⟨.other, some 101, "Network is unreachable"⟩

def invalidAddress : LinkFault := ⟨.other, some 22, "Invalid argument"⟩

/-- The number of the fault that the queue of a link has no room for the moment. -/
def noRoom : Nat := 105

/-- Whether the same datagram may be taken a moment later. -/
def isTransient (fault : LinkFault) : Bool :=
  fault.kind == .wouldBlock || fault.kind == .interrupted || fault.number == some noRoom

end LinkFault

/-- A link with states of type `σ`. -/
structure Link (σ : Type) where
  carry : σ → Bytes → Except LinkFault Nat × σ

/-- A datagram that was given to a link, and what the link answered. -/
structure Exchange where
  datagram : Bytes
  answer : Except LinkFault Nat
deriving Repr

def Exchange.taken? (exchange : Exchange) : Option Bytes :=
  match exchange.answer with
  | .ok _ => some exchange.datagram
  | .error _ => none

/-- The datagrams that a link took, in order. -/
def wire (record : Array Exchange) : List Bytes :=
  record.toList.filterMap Exchange.taken?

namespace Link

variable {σ : Type}

def up : Link σ where
  carry state datagram := (.ok datagram.length, state)

def down (fault : LinkFault) : Link σ where
  carry state _ := (.error fault, state)

/-- The same link, with a record of all that it was given. -/
def recorded (link : Link σ) : Link (σ × Array Exchange) where
  carry state datagram :=
    let (answer, next) := link.carry state.1 datagram
    (answer, next, state.2.push ⟨datagram, answer⟩)

/-- Give a datagram to the link, and again after a transient fault, at most `retries` times. -/
def offer (link : Link σ) (datagram : Bytes) : Nat → σ → Except LinkFault Nat × σ
  | 0, state => link.carry state datagram
  | retries + 1, state =>
      match link.carry state datagram with
      | (.ok size, next) => (.ok size, next)
      | (.error fault, next) =>
          if fault.isTransient then link.offer datagram retries next
          else (.error fault, next)

end Link

end Framecast.Sending
