import Disclosure.Random.Stream

/-!
# Draws

The random values that the simulator asks for, each as a function from the
stream before to the value and the stream after: a 53-bit fraction, a coin of
given bias, an index below a bound, an element of a list and a shuffled list.
-/

namespace Disclosure.RandomStream

/-- A uniform numerator below `2 ^ 53` of a fraction of one. -/
def nextFraction (stream : RandomStream) : UInt64 × RandomStream :=
  let (word, stream) := stream.next64
  (word >>> 11, stream)

theorem nextFraction_lt (stream : RandomStream) :
    stream.nextFraction.1.toNat < 1 <<< 53 := by
  have bound := stream.next64.1.toNat_lt
  simp only [nextFraction, UInt64.toNat_shiftRight, UInt64.toNat_ofNat,
    Nat.reducePow, Nat.reduceMod, Nat.reduceShiftLeft,
    Nat.shiftRight_eq_div_pow]
  omega

/-- Heads when the next 64 bits are below the bound. -/
def flip (stream : RandomStream) (bound : UInt64) : Bool × RandomStream :=
  let (word, stream) := stream.next64
  (word < bound, stream)

/-- How often an index is drawn again before the last candidate is taken. -/
def indexAttempts : Nat := 512

/--
Draw candidates for an index below `bound` until one falls into the part of the
word range that all indices share evenly.
-/
def indexLoop (bound zone : UInt32) :
    Nat → RandomStream → UInt32 × RandomStream
  | 0, stream =>
    let (word, stream) := stream.next32
    (((word.toUInt64 * bound.toUInt64) >>> 32).toUInt32, stream)
  | attempts + 1, stream =>
    let (word, stream) := stream.next32
    let product := word.toUInt64 * bound.toUInt64
    if product.toUInt32 ≤ zone then ((product >>> 32).toUInt32, stream)
    else indexLoop bound zone attempts stream

/-- The number of leading zero bits of a word. -/
def leadingZeros (word : UInt32) : UInt32 :=
  if word = 0 then 32 else 31 - word.toNat.log2.toUInt32

/-- An index below a positive bound. -/
def nextIndex (stream : RandomStream) (bound : UInt32) :
    UInt32 × RandomStream :=
  indexLoop bound ((bound <<< leadingZeros bound) - 1) indexAttempts stream

/-- Settle the places from `last` down to the second, each by one swap. -/
def shuffleFrom : Nat → Array α → RandomStream → Array α × RandomStream
  | 0, items, stream => (items, stream)
  | last + 1, items, stream =>
    let (index, stream) := stream.nextIndex (last + 2).toUInt32
    shuffleFrom last (items.swapIfInBounds (last + 1) index.toNat) stream

/-- The items in a random order. -/
def shuffle (stream : RandomStream) (items : List α) :
    List α × RandomStream :=
  let (items, stream) := shuffleFrom (items.length - 1) items.toArray stream
  (items.toList, stream)

/-- One of the items; an empty list draws nothing. -/
def choose (stream : RandomStream) : List α → Option α × RandomStream
  | [] => (none, stream)
  | items =>
    let (index, stream) := stream.nextIndex items.length.toUInt32
    (items[index.toNat]?, stream)

end Disclosure.RandomStream
