/-!
# Sets of code points as ranges

A property of characters taken from a standard is carried as a list of closed ranges of code
points, ascending and apart. `inRanges` looks a code point up, stopping at the first range
that starts above it; `wellFormed` and `count` check the data.
-/
namespace Transport.Text

/-- Whether a code point lies in one of the ascending closed ranges. -/
def inRanges (n : Nat) : List (Nat × Nat) → Bool
  | [] => false
  | (lo, hi) :: rest => if n < lo then false else n ≤ hi || inRanges n rest

/-- The ranges are non-empty, ascending, and neither overlap nor touch. -/
def wellFormed : List (Nat × Nat) → Bool
  | [] => true
  | [r] => r.1 ≤ r.2
  | r :: s :: t => r.1 ≤ r.2 && r.2 + 1 < s.1 && wellFormed (s :: t)

def count (rs : List (Nat × Nat)) : Nat :=
  rs.foldl (fun n r => n + (r.2 + 1 - r.1)) 0

end Transport.Text
