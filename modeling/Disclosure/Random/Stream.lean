/-!
# Streams of random words

The decisions of an actor are drawn from a stream of 32-bit words: the ChaCha
key stream with twelve rounds, block after block.  In a seeded run the key is
spread out from a 64-bit seed by a permuted congruential generator; in any other
the operating system gives it.  Identifiers always come from the operating
system.

A grid of sixteen words is kept as four rows, so that a quarter round acts on
all four columns at once and a diagonal round is a column round between two
turns of the rows.
-/

namespace Disclosure

/-- Four words side by side. -/
structure Row where
  w0 : UInt32
  w1 : UInt32
  w2 : UInt32
  w3 : UInt32
  deriving DecidableEq, Repr, Inhabited

namespace Row

/-- Apply a word operation in each of the four places. -/
@[inline]
def zipWith (f : UInt32 → UInt32 → UInt32) (x y : Row) : Row :=
  ⟨f x.w0 y.w0, f x.w1 y.w1, f x.w2 y.w2, f x.w3 y.w3⟩

instance : Add Row := ⟨zipWith (· + ·)⟩

instance : XorOp Row := ⟨zipWith (· ^^^ ·)⟩

/-- Rotate the bits of each word to the left. -/
@[inline]
def rotateBits (row : Row) (bits : UInt32) : Row :=
  let rotate (word : UInt32) := word <<< bits ||| word >>> (32 - bits)
  ⟨rotate row.w0, rotate row.w1, rotate row.w2, rotate row.w3⟩

/-- Move every word one place to the left, the first one to the end. -/
@[inline]
def turn (row : Row) : Row := ⟨row.w1, row.w2, row.w3, row.w0⟩

/-- The words from left to right. -/
def toList (row : Row) : List UInt32 := [row.w0, row.w1, row.w2, row.w3]

end Row

/-- Sixteen words in four rows. -/
structure Grid where
  a : Row
  b : Row
  c : Row
  d : Row
  deriving DecidableEq, Repr, Inhabited

namespace Grid

instance : Add Grid where
  add x y := ⟨x.a + y.a, x.b + y.b, x.c + y.c, x.d + y.d⟩

/-- One quarter round on each of the four columns. -/
def mixColumns (grid : Grid) : Grid :=
  let a := grid.a + grid.b
  let d := (grid.d ^^^ a).rotateBits 16
  let c := grid.c + d
  let b := (grid.b ^^^ c).rotateBits 12
  let a := a + b
  let d := (d ^^^ a).rotateBits 8
  let c := c + d
  let b := (b ^^^ c).rotateBits 7
  ⟨a, b, c, d⟩

/-- Turn the rows so that the diagonals become the columns. -/
def toDiagonals (grid : Grid) : Grid :=
  ⟨grid.a, grid.b.turn, grid.c.turn.turn, grid.d.turn.turn.turn⟩

/-- Turn the rows back, so that the columns are the columns again. -/
def ofDiagonals (grid : Grid) : Grid :=
  ⟨grid.a, grid.b.turn.turn.turn, grid.c.turn.turn, grid.d.turn⟩

@[simp]
theorem ofDiagonals_toDiagonals (grid : Grid) :
    grid.toDiagonals.ofDiagonals = grid := rfl

/-- A column round and then a diagonal round. -/
def doubleRound (grid : Grid) : Grid :=
  grid.mixColumns.toDiagonals.mixColumns.ofDiagonals

/-- The given number of double rounds. -/
def doubleRounds : Nat → Grid → Grid
  | 0, grid => grid
  | count + 1, grid => doubleRounds count grid.doubleRound

/-- The words of all rows, top row first. -/
def toList (grid : Grid) : List UInt32 :=
  grid.a.toList ++ grid.b.toList ++ grid.c.toList ++ grid.d.toList

@[simp]
theorem length_toList (grid : Grid) : grid.toList.length = 16 := rfl

end Grid

/-- Where a run stands in its stream of random words. -/
structure RandomStream where
  /-- The first half of the key. -/
  lowKey : Row
  /-- The second half of the key. -/
  highKey : Row
  /-- The number of the next block. -/
  block : UInt64
  /-- Words of the last block that are not used up yet. -/
  pending : List UInt32
  deriving DecidableEq, Repr, Inhabited

namespace RandomStream

/-- The grid that a numbered block starts from: constants, key, number. -/
def header (stream : RandomStream) : Grid where
  a := ⟨0x61707865, 0x3320646e, 0x79622d32, 0x6b206574⟩
  b := stream.lowKey
  c := stream.highKey
  d := ⟨stream.block.toUInt32, (stream.block >>> 32).toUInt32, 0, 0⟩

/-- The sixteen words of the next block: twelve rounds, then the start added. -/
def nextBlock (stream : RandomStream) : Grid :=
  stream.header.doubleRounds 6 + stream.header

/-- The next word of the stream. -/
def next32 (stream : RandomStream) : UInt32 × RandomStream :=
  match stream.pending with
  | word :: rest => (word, { stream with pending := rest })
  | [] =>
    let grid := stream.nextBlock
    (grid.a.w0,
      { stream with block := stream.block + 1, pending := grid.toList.tail })

/-- The next two words, the first one in the low half. -/
def next64 (stream : RandomStream) : UInt64 × RandomStream :=
  let (low, stream) := stream.next32
  let (high, stream) := stream.next32
  (high.toUInt64 <<< 32 ||| low.toUInt64, stream)

/-- One step of the generator that spreads a seed over the key. -/
def stepSeed (seed : UInt64) : UInt64 :=
  seed * 6364136223846793005 + 11634580027462260723

/-- The key word read off a state of that generator. -/
def keyWord (seed : UInt64) : UInt32 :=
  let word := (((seed >>> 18) ^^^ seed) >>> 27).toUInt32
  let turns := (seed >>> 59).toUInt32
  word >>> turns ||| word <<< ((32 - turns) % 32)

/-- Four key words in a row, and the state after them. -/
def keyRow (seed : UInt64) : Row × UInt64 :=
  let s0 := stepSeed seed
  let s1 := stepSeed s0
  let s2 := stepSeed s1
  let s3 := stepSeed s2
  (⟨keyWord s0, keyWord s1, keyWord s2, keyWord s3⟩, s3)

/-- The start of the stream that belongs to a seed. -/
def ofSeed (seed : UInt64) : RandomStream :=
  let (lowKey, seed) := keyRow seed
  let (highKey, _) := keyRow seed
  ⟨lowKey, highKey, 0, []⟩

end RandomStream

/-- Where the chance of an actor comes from. -/
structure Chance where
  /-- What its decisions are drawn from. -/
  stream : RandomStream
  /-- What the operating system holds ready for its identifiers. -/
  identifiers : RandomStream
  deriving Inhabited

namespace Chance

/-- A seed determines the stream, if there is one, but no identifiers. -/
def seeded (seed : Option UInt64) (chance : Chance) : Chance :=
  { chance with
    stream := (seed.map RandomStream.ofSeed).getD chance.stream }

/-- The stream of a seed, and identifiers that do not matter. -/
def ofSeed (seed : UInt64) : Chance := ⟨.ofSeed seed, default⟩

/-- The chance of the actor of some number in a run: seeded runs give each actor
the next seed, and `entropy` is what the operating system gives to each. -/
def ofNumber (seed : Option UInt64) (entropy : Nat → Chance) (number : Nat) :
    Chance :=
  (entropy number).seeded (seed.map (· + number.toUInt64))

end Chance

end Disclosure
