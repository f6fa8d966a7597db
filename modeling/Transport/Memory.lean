/-!
# Room for buffers

A buffer of `n` elements is laid out as one block of memory, `n` times the size of an
element, and a block may span at most `2^63 - 1` bytes less the slack of its alignment.
A request for a buffer whose block would be larger is refused before any memory is asked
for, and the program stops with `capacity overflow`. `Layout.fits` is that test.

The engine asks for buffers whose lengths come from its settings: bin edges and bin counts
(doubles and 64-bit counters), the cells of the step arena (a secondary and the flag that
guards its one write), pending initializers, the geometric state of the slots, and the
cells of an arena of 64-bit words.
-/
namespace Transport

/-- The size and alignment, in bytes, of the elements of a buffer. -/
structure Layout where
  size : Nat
  align : Nat
  deriving DecidableEq, Repr

namespace Layout

/-- Whether a buffer of `count` elements can be laid out. -/
def fits (l : Layout) (count : Nat) : Bool :=
  count * l.size + l.align ≤ Nat.pow 2 63

def word : Layout := ⟨8, 8⟩

/-- A cell of the step arena: a secondary of 40 bytes and its write-once flag. -/
def secondaryCell : Layout := ⟨48, 8⟩

def initializer : Layout := ⟨88, 8⟩

/-- The geometric state of a slot: position, direction, and three optional ids. -/
def slotGeometry : Layout := ⟨72, 8⟩

/-- A cell of an arena of 64-bit words: the word and its write-once flag. -/
def wordCell : Layout := ⟨16, 8⟩

end Layout

/-- The message of a buffer that cannot be laid out. -/
def overflowMessage : String := "capacity overflow"

theorem word_fits_iff (n : Nat) : Layout.word.fits n = true ↔ n < Nat.pow 2 60 := by
  unfold Layout.fits Layout.word
  simp only [Nat.pow_eq, Nat.reducePow, decide_eq_true_iff]
  omega

end Transport
