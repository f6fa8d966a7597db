import Transport.Random.ChaCha
/-!
# Random streams

A `Stream` reads the ChaCha keystream of a key and a stream number, word after word and
block after block. It holds the words of the current block not read yet and the counter
of the block after them, so a block is computed once however its words are read; what it
reads next is `buffer` followed by the blocks from `counter` on. The key comes from a
64-bit seed by the seed expansion of the PCG32 generator: each of the eight key words is
one PCG32 output, the state advanced before each. `next64` joins two words, the first as
the low half. `uniform` is a double in `[0, 1)`: the top 53 bits of `next64`, times
`2^-53`.

Every track owns a stream on the run's key, numbered by its track id, so its draws do not
depend on which other tracks exist or where they are stepped.
-/
namespace Transport.Random

/-- One step of the PCG32 seed expansion: the advanced state and its output word. -/
def pcgStep (state : UInt64) : UInt64 × UInt32 :=
  let state := state * 6364136223846793005 + 11634580027462260723
  let xorshifted := (((state >>> 18) ^^^ state) >>> 27).toUInt32
  let rot := (state >>> 59).toUInt32
  let word := (xorshifted >>> rot) ||| (xorshifted <<< ((32 - rot) % 32))
  (state, word)

/-- The eight key words expanded from a 64-bit seed. -/
def keyOfSeed (seed : UInt64) : Array UInt32 :=
  let step (acc : UInt64 × Array UInt32) (_ : Nat) :=
    let (state, word) := pcgStep acc.1
    (state, acc.2.push word)
  ((List.range 8).foldl step (seed, #[])).2

/-- A reader of the keystream of a key and a stream number: the unread words of the
current block, and the counter of the next block. -/
structure Stream where
  key : Array UInt32
  stream : UInt64
  counter : UInt64
  buffer : List UInt32
  deriving Inhabited

namespace Stream

/-- The start of stream 0 of the key expanded from `seed`. -/
def ofSeed (seed : UInt64) : Stream :=
  { key := keyOfSeed seed, stream := 0, counter := 0, buffer := [] }

/-- The same key at the start of stream `n`. -/
def withStream (s : Stream) (n : UInt64) : Stream :=
  { s with stream := n, counter := 0, buffer := [] }

/-- The next keystream word; an empty buffer is refilled with the next block. -/
def nextWord (s : Stream) : UInt32 × Stream :=
  match s.buffer with
  | w :: rest => (w, { s with buffer := rest })
  | [] =>
    match (block s.key s.counter s.stream).toList with
    | w :: rest => (w, { s with counter := s.counter + 1, buffer := rest })
    | [] => (0, { s with counter := s.counter + 1 })

/-- The next two words as one 64-bit value, the first word low. -/
def next64 (s : Stream) : UInt64 × Stream :=
  let (low, s) := s.nextWord
  let (high, s) := s.nextWord
  ((high.toUInt64 <<< 32) ||| low.toUInt64, s)

/-- A double uniform on `[0, 1)`: the top 53 bits of the next 64-bit value, scaled. -/
def uniform (s : Stream) : Float × Stream :=
  let (v, s) := s.next64
  ((v >>> 11).toFloat * Float.scaleB 1 (-53), s)

end Stream

end Transport.Random
