/-!
# Decimal numbers as doubles

A JSON number is read as a decimal significand and a power of ten. `fromParts` turns the
two into a double the way the reader of the run-input format does: the significand, at
most a 64-bit word (further digits are dropped, the exponent counting them), is rounded
to the nearest double and then multiplied or divided once by the nearest double to
`10^|e|`, in double arithmetic. So a literal of more than fifteen digits need not read as
its nearest double: `0.9999999999999999` reads as `1.0`. A value that overflows is
refused; one that underflows reads as zero. A decimal exponent is held in a 32-bit word,
past which it saturates.
-/
namespace Transport.Json

def wordMax : Nat := Nat.pow 2 64 - 1

/-- The largest 32-bit signed word, the bound of a decimal exponent. -/
def exponentMax : Nat := Nat.pow 2 31 - 1

/-- Whether `n · 10 + d` would pass `bound`. -/
def overflows (n d bound : Nat) : Bool :=
  n ≥ bound / 10 && (n > bound / 10 || d > bound % 10)

/-- The nearest double to a natural number. -/
def nearestDouble (n : Nat) : Float :=
  let bits := n.log2 + 1
  if bits ≤ 53 then n.toUInt64.toFloat
  else
    let s := bits - 53
    let q := n >>> s
    let r := n - (q <<< s)
    let half := 1 <<< (s - 1)
    let q := if r > half || (r == half && q % 2 == 1) then q + 1 else q
    q.toUInt64.toFloat.scaleB s

def powTen (k : Nat) : Float :=
  (nearestDouble (Nat.pow 5 k)).scaleB k

/-- The doubles nearest to `10^0`, …, `10^308`. -/
def powTenTable : Array Float :=
  (List.range 309).toArray.map powTen

/-- The nearest double to `10^k` for `k ≤ 308`. -/
def powTenAt (k : Nat) : Float :=
  powTenTable.getD k 0

/-- `significand · 10^exponent` in double arithmetic: the significand rounded to a double,
then one multiplication or division by a power of ten; exponents past the table divide by
`10^308` first. `none` when the result overflows. -/
def fromParts (positive : Bool) (significand : Nat) (exponent : Int) : Option Float :=
  let rec scale : Nat → Float → Int → Option Float
    | 0, _, _ => some 0
    | fuel + 1, f, e =>
      if e.natAbs ≤ 308 then
        if 0 ≤ e then
          let g := f * powTenAt e.toNat
          if g.isInf then none else some g
        else some (f / powTenAt e.natAbs)
      else if f == 0 then some f
      else if 0 ≤ e then none
      else scale fuel (f / powTenAt 308) (e + 308)
  (scale 8 (nearestDouble significand) exponent).map fun f => if positive then f else -f

def clampExponent (e : Int) : Int :=
  max (-((Nat.pow 2 31 : Nat) : Int)) (min e (exponentMax : Int))

end Transport.Json
