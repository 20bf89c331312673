/-!
# Pseudo-random choices

A small generator of 64-bit words, and the two kinds of choices made from them: a
number below a bound, every one equally likely, and a random order of a list.
-/

namespace Framecast.Sending

structure Random where
  state : UInt64
deriving Repr, DecidableEq

namespace Random

def ofSeed (seed : UInt64) : Random := ⟨seed⟩

/-- The word that a state stands for. -/
def mix (state : UInt64) : UInt64 :=
  let z := (state ^^^ (state >>> 30)) * 0xBF58476D1CE4E5B9
  let z := (z ^^^ (z >>> 27)) * 0x94D049BB133111EB
  z ^^^ (z >>> 31)

def word (random : Random) : Random × UInt64 :=
  let state := random.state + 0x9E3779B97F4A7C15
  (⟨state⟩, mix state)

def halfWord (random : Random) : Random × Nat :=
  let (random, word) := random.word
  (random, word.toNat % UInt32.size)

/-- The greatest multiple of a power of two times `range` below `2 ^ 32`, less one. -/
def acceptedZone (range : Nat) : Nat :=
  range * 2 ^ (31 - range.log2) - 1

/--
A number below `range`.  A half word that would favour some numbers is refused
and the next one is tried; at most one in two is refused, and after `tries`
refusals the last one is taken nevertheless.
-/
def belowWithin (range : Nat) : Nat → Random → Random × Nat
  | 0, random =>
      let (random, half) := random.halfWord
      (random, half * range / UInt32.size)
  | tries + 1, random =>
      let (next, half) := random.halfWord
      if half * range % UInt32.size ≤ acceptedZone range then (next, half * range / UInt32.size)
      else belowWithin range tries next

def below (random : Random) (range : Nat) : Random × Nat :=
  belowWithin range 1024 random

def exchange {α : Type} (items : Array α) (i j : Nat) : Array α :=
  items.swapIfInBounds i j

/-- Exchange each of the first `count` elements, from the last on, with one up to itself. -/
def shuffleFirst {α : Type} : Nat → Random → Array α → Random × Array α
  | 0, random, items => (random, items)
  | 1, random, items => (random, items)
  | count + 2, random, items =>
      let drawn := random.below (count + 2)
      shuffleFirst (count + 1) drawn.1 (exchange items (count + 1) drawn.2)

def shuffle {α : Type} (random : Random) (items : List α) : Random × List α :=
  let (random, shuffled) := shuffleFirst items.length random items.toArray
  (random, shuffled.toList)

end Random

end Framecast.Sending
