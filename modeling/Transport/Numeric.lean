/-!
# Arithmetic rules on doubles

The engine's few rules on doubles that IEEE operations do not fix by themselves:

* `maxNum` and `minNum` ignore a NaN argument and order `-0.0` below `0.0`, so the
  maximum of the two zeros is `0.0` and their minimum `-0.0`;
* `sumFrom` adds left to right from `-0.0`, so an empty sum is `-0.0` and a sum of
  zeros keeps the sign of `-0.0 + 0.0`;
* `toIndex` truncates toward zero and saturates: NaN and negatives give 0.
-/
namespace Transport

def infinity : Float := 1.0 / 0.0

def isNegZero (x : Float) : Bool := x == 0.0 && x.toBits != (0.0 : Float).toBits

/-- The larger of two doubles; a NaN first argument gives the second, a NaN second the
first; `0.0` is above `-0.0`, and of other equal values the first is kept. -/
def maxNum (x y : Float) : Float :=
  if x.isNaN then y else if y > x || (y == x && isNegZero x) then y else x

/-- The smaller of two doubles; a NaN first argument gives the second, a NaN second the
first; `-0.0` is below `0.0`, and of other equal values the first is kept. -/
def minNum (x y : Float) : Float :=
  if x.isNaN then y else if y < x || (y == x && isNegZero y) then y else x

/-- The sum of doubles added left to right, starting from `-0.0`. -/
def sumFrom (xs : List Float) : Float :=
  xs.foldl (· + ·) (-0.0)

/-- Truncation toward zero to a natural number, saturating at `2^64 - 1`; NaN and
negative values give 0. -/
def toIndex (x : Float) : Nat :=
  x.toUInt64.toNat

end Transport
