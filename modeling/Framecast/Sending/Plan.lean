import Framecast.Decimal.Literal
import Framecast.Sending.Random

/-!
# What is put on the wire

For tests of the receiving side a sender may leave packets out and send the
others in random order.  All choices of packets to leave out are made before any
choice of order, so both use the generator independently of each other.
-/

namespace Framecast.Sending

open Framecast.Decimal (Double)

inductive Loss where
  /-- None, and nothing is drawn. -/
  | never
  /-- A packet for which the next word is below the threshold. -/
  | below (threshold : Nat)
  /-- All, and nothing is drawn. -/
  | always
deriving Repr, DecidableEq

namespace Loss

/-- The loss that leaves out the given fraction of the packets. -/
def ofRate : Double → Loss
  | .nan => .never
  | .infinite negative => if negative then .never else .always
  | .finite negative rate =>
      if negative ∨ rate.mantissa = 0 then .never
      else if rate.denominator ≤ rate.numerator then .always
      else .below (rate.numerator * UInt64.size / rate.denominator)

/-- The items that are not left out, in order. -/
def thin {α : Type} (loss : Loss) (random : Random) (items : List α) : Random × List α :=
  match loss with
  | .never => (random, items)
  | .always => (random, [])
  | .below threshold => thinBelow threshold random items
where
  /-- The items for which the drawn word is not below the threshold. -/
  thinBelow (threshold : Nat) (random : Random) : List α → Random × List α
    | [] => (random, [])
    | item :: rest =>
        let (random, word) := random.word
        let (random, kept) := thinBelow threshold random rest
        (random, if word.toNat < threshold then kept else item :: kept)

end Loss

structure Options where
  loss : Loss
  shuffle : Bool
deriving Repr, DecidableEq

/-- The packets to send, in the order in which they are sent. -/
def plan {α : Type} (options : Options) (random : Random) (packets : List α) :
    Random × List α :=
  let (random, kept) := options.loss.thin random packets
  if options.shuffle then random.shuffle kept else (random, kept)

end Framecast.Sending
