/-!
# The ChaCha block function

The ChaCha block function (RFC 8439 §2.3) with eight rounds. A block is sixteen 32-bit
words: four constants, eight key words, a 64-bit block counter in words 12 and 13 (low
first) and a 64-bit stream number in words 14 and 15. Four double rounds, each a column
round then a diagonal round of quarter rounds, scramble the words, and the input is
added back word by word.
-/
namespace Transport.Random

/-- The four constant words, the text `expand 32-byte k`. -/
def constants : List UInt32 := [0x61707865, 0x3320646e, 0x79622d32, 0x6b206574]

/-- One quarter round on the words at `a`, `b`, `c`, `d`. -/
def quarterRound (x : Array UInt32) (a b c d : Nat) : Array UInt32 :=
  let rotl (v : UInt32) (n : UInt32) : UInt32 := (v <<< n) ||| (v >>> (32 - n))
  let xa := x.getD a 0
  let xb := x.getD b 0
  let xc := x.getD c 0
  let xd := x.getD d 0
  let xa := xa + xb
  let xd := rotl (xd ^^^ xa) 16
  let xc := xc + xd
  let xb := rotl (xb ^^^ xc) 12
  let xa := xa + xb
  let xd := rotl (xd ^^^ xa) 8
  let xc := xc + xd
  let xb := rotl (xb ^^^ xc) 7
  ((x.set! a xa).set! b xb |>.set! c xc).set! d xd

/-- A column round followed by a diagonal round. -/
def doubleRound (x : Array UInt32) : Array UInt32 :=
  let x := quarterRound x 0 4 8 12
  let x := quarterRound x 1 5 9 13
  let x := quarterRound x 2 6 10 14
  let x := quarterRound x 3 7 11 15
  let x := quarterRound x 0 5 10 15
  let x := quarterRound x 1 6 11 12
  let x := quarterRound x 2 7 8 13
  quarterRound x 3 4 9 14

/-- The sixteen input words of a block. -/
def blockInput (key : Array UInt32) (counter stream : UInt64) : Array UInt32 :=
  (constants ++ (List.range 8).map (key.getD · 0) ++
    [counter.toUInt32, (counter >>> 32).toUInt32, stream.toUInt32, (stream >>> 32).toUInt32]).toArray

/-- The eight-round block for a key, block counter and stream: four double rounds, then
the input added back. -/
def block (key : Array UInt32) (counter stream : UInt64) : Array UInt32 :=
  let input := blockInput key counter stream
  let mixed := (List.range 4).foldl (fun x _ => doubleRound x) input
  (List.range 16).toArray.map fun i => mixed.getD i 0 + input.getD i 0

end Transport.Random
