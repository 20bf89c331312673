import Framecast.Datagram.Header

/-!
# Continuity of the packet stream

A packet follows its predecessor if it has the next number of the same frame, or
number zero of another frame.  A packet that does not is preceded by a gap.  This
is a hint only: reordering shows as a gap too.
-/

namespace Framecast.Reception

/-- The frame and the number of the packet seen last. -/
structure Continuity where
  last : Option (UInt32 × UInt16)
deriving Repr, DecidableEq

namespace Continuity

def initial : Continuity := ⟨none⟩

def gapBefore (continuity : Continuity) (header : Datagram.Header) : Bool :=
  match continuity.last with
  | some (frameId, packetId) =>
      if frameId = header.frameId then header.packetId != packetId + 1
      else header.packetId != 0
  | none => header.packetId != 0

def after (header : Datagram.Header) : Continuity :=
  ⟨some (header.frameId, header.packetId)⟩

def gaps : Continuity → List Datagram.Header → List Bool
  | _, [] => []
  | continuity, header :: rest =>
      continuity.gapBefore header :: (after header).gaps rest

end Continuity

end Framecast.Reception
