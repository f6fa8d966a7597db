/-!
# Fingerprints

A `Fingerprint` is a 64-bit FNV-1a hash fed incrementally: each byte is XORed into the
hash, which is then multiplied by the FNV prime. Words go in as eight little-endian bytes,
a double by its bit pattern (so `0.0` and `-0.0` differ, and a NaN that an invalid
operation produced differs from one that was given), and strings and lists behind
their length, so that neighbouring values cannot run into each other.
-/
namespace Transport

/-- The running value of an FNV-1a hash. -/
structure Fingerprint where
  value : UInt64
  deriving Inhabited, DecidableEq, Repr

namespace Fingerprint

def offsetBasis : UInt64 := 0xcbf29ce484222325

def prime : UInt64 := 0x100000001B3

def new : Fingerprint := ⟨offsetBasis⟩

def byte (h : Fingerprint) (b : UInt8) : Fingerprint :=
  ⟨(h.value ^^^ b.toUInt64) * prime⟩

def bytes (h : Fingerprint) (bs : List UInt8) : Fingerprint :=
  bs.foldl byte h

/-- The eight little-endian bytes of a word. -/
def wordBytes (v : UInt64) : List UInt8 :=
  (List.range 8).map fun i => (v >>> (8 * i).toUInt64).toUInt8

def word (h : Fingerprint) (v : UInt64) : Fingerprint :=
  h.bytes (wordBytes v)

def count (h : Fingerprint) (n : Nat) : Fingerprint :=
  h.word n.toUInt64

def double (h : Fingerprint) (x : Float) : Fingerprint :=
  h.word x.toBits

/-- The bit pattern of the NaN that an invalid operation such as infinity times zero yields:
the quiet NaN with the sign set. -/
def invalidNaN : UInt64 := 0xFFF8000000000000

def computed (h : Fingerprint) (x : Float) : Fingerprint :=
  h.word (if x.isNaN then invalidNaN else x.toBits)

def text (h : Fingerprint) (s : String) : Fingerprint :=
  (h.count s.utf8ByteSize).bytes s.toUTF8.toList

def words (h : Fingerprint) (vs : List UInt64) : Fingerprint :=
  vs.foldl word (h.count vs.length)

def doubles (h : Fingerprint) (xs : List Float) : Fingerprint :=
  xs.foldl double (h.count xs.length)

def computedList (h : Fingerprint) (xs : List Float) : Fingerprint :=
  xs.foldl computed (h.count xs.length)

end Fingerprint

end Transport
