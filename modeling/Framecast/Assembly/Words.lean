import Framecast.Assembly.Basic

/-!
# Assembling in machine words

A frame buffer is addressed in machine words of 64 bits.  The place of a packet is a
product and a sum, either of which may not fit; what comes of that depends on how the
program was built.  Every access looks at its bounds: one that misses them breaks the
program off, and so has no result.
-/

namespace Framecast.Assembly

/-- What comes of a number that does not fit into a machine word. -/
inductive Overflow where
  /-- Its last 64 bits are kept. -/
  | wraps
  /-- The program breaks off. -/
  | panics
deriving Repr, DecidableEq

def Overflow.word? (overflow : Overflow) (number : Nat) : Option Nat :=
  match overflow with
  | .wraps => some (number % UInt64.size)
  | .panics => if number < UInt64.size then some number else none

def start? (assembly : Assembly) (frameId : UInt32) (packetCount : UInt16) : Option Assembly :=
  if assembly.dirty ≤ assembly.capacity then some (assembly.start frameId packetCount)
  else none

def damage? (assembly : Assembly) (packetId : UInt16) : Option Assembly :=
  if packetId.toNat < assembly.damaged.size then some (assembly.damage packetId) else none

/-- Copy a payload to the cells from `offset` to `finish`, which must be cells of the
buffer, and as many as there are bytes. -/
def storeAt? (assembly : Assembly) (offset finish : Nat) (packetId : UInt16) (payload : Bytes)
    (gapHint : Bool) : Option Assembly :=
  if offset ≤ finish ∧ finish ≤ assembly.capacity ∧ finish - offset = payload.length ∧
      packetId.toNat < assembly.present.size then
    some (assembly.storeAt offset packetId payload gapHint)
  else none

/-- Copy a payload to its place, or refuse it if the place is not in the buffer. -/
def place? (overflow : Overflow) (assembly : Assembly) (packetId : UInt16) (payload : Bytes)
    (gapHint : Bool) : Option (Assembly × Outcome) := do
  let offset ← overflow.word? (packetId.toNat * assembly.stride)
  let finish ← overflow.word? (offset + payload.length)
  if assembly.capacity < finish then
    (assembly.damage? packetId).map (·, .rejected .overflow)
  else
    (assembly.storeAt? offset finish packetId payload gapHint).map (·, .accepted)

/-- The push that is decided in machine words, step by step as its checks come. -/
def push? (overflow : Overflow) (assembly : Assembly) (header : Datagram.Header)
    (payload : Bytes) (gapHint : Bool) : Option (Assembly × Outcome) :=
  if assembly.phase = .empty then some (assembly, .rejected .notStarted)
  else if header.frameId ≠ assembly.frameId then some (assembly, .rejected .wrongFrame)
  else if assembly.present.size ≤ header.packetId.toNat then
    some ({ assembly with corrupted := true }, .rejected .outOfRange)
  else
    match assembly.present[header.packetId.toNat]? with
    | none => none
    | some true => some (assembly, .rejected .duplicate)
    | some false =>
        if assembly.stride < payload.length then
          (assembly.damage? header.packetId).map (·, .rejected .oversize)
        else assembly.place? overflow header.packetId payload gapHint

def frameData? (assembly : Assembly) : Option Bytes :=
  if assembly.frameSize ≤ assembly.capacity then some assembly.frameData else none

end Framecast.Assembly
