/-!
# Shortest decimal digits of a double

A finite nonzero double is `m · 2^e` with an integer significand `m`. The reals that
round to it under round-to-nearest-even form an interval around it: half the gap to each
neighbour, the ends included exactly when `m` is even. `Decimal.shortest` returns the
decimal `c · 10^p` with the fewest significant digits inside that interval, and of two
such decimals the one nearer to the double. An exact tie, a double halfway between them,
goes by a `Tie` rule: to the even `c`, or up to the larger one.

All comparisons are exact: both sides are scaled to natural numbers by the powers of
two and ten that the exponents ask for, so no rounding enters the search.
-/
namespace Transport.Decimal

/-- The exact value of a positive finite double: `mantissa · 2^exponent`, and whether the
gap to the double below is half the gap above (at a power of two past the subnormals). -/
structure Binary where
  mantissa : Nat
  exponent : Int
  narrowBelow : Bool
  deriving Repr, DecidableEq

/-- The bits of a double without its sign: the biased exponent field and the fraction. -/
def Binary.ofBits (bits : UInt64) : Binary :=
  let field := ((bits >>> 52) &&& 0x7FF).toNat
  let fraction := (bits &&& 0xFFFFFFFFFFFFF).toNat
  if field = 0 then
    { mantissa := fraction, exponent := -1074, narrowBelow := false }
  else
    { mantissa := fraction + Nat.pow 2 52, exponent := (field : Int) - 1075,
      narrowBelow := fraction = 0 && field > 1 }

/-- Which of two decimals equally near a double is chosen. -/
inductive Tie where
  /-- The one whose last digit is even. -/
  | even
  /-- The larger one. -/
  | up
  deriving Repr, DecidableEq

structure Scaled where
  digits : Nat
  exponent : Int
  deriving Repr, DecidableEq

/-- Scales `n · 2^q` against `c · 10^p` so that both become natural numbers: the first
component is `n · 2^q · D` and the second `c · 10^p · D` for one common factor `D`. -/
def scaleLeft (n : Nat) (q p : Int) : Nat :=
  n * Nat.pow 2 q.toNat * Nat.pow 10 (-p).toNat

/-- The partner of `scaleLeft`: `c · 10^p` times the same common factor. -/
def scaleRight (c : Nat) (q p : Int) : Nat :=
  c * Nat.pow 10 p.toNat * Nat.pow 2 (-q).toNat

def powTenLe (n : Nat) (q t : Int) : Bool :=
  scaleRight 1 q t ≤ scaleLeft n q t

/-- The decimal exponent `t` with `10^t ≤ n · 2^q < 10^(t+1)`, for `n > 0`: an estimate
from the bit length, corrected by at most a few exact comparisons. -/
def decimalExponent (n : Nat) (q : Int) : Int :=
  let estimate : Int := ((n.log2 : Int) + q) * 30103 / 100000
  let rec up : Nat → Int → Int
    | 0, t => t
    | fuel + 1, t => if powTenLe n q (t + 1) then up fuel (t + 1) else t
  let rec down : Nat → Int → Int
    | 0, t => t
    | fuel + 1, t => if powTenLe n q t then t else down fuel (t - 1)
  up 4 (down 4 estimate)

/-- Removes trailing zero digits, raising the exponent to match. -/
def Scaled.trim : Nat → Scaled → Scaled
  | 0, d => d
  | fuel + 1, d =>
    if d.digits ≠ 0 ∧ d.digits % 10 = 0 then
      Scaled.trim fuel { digits := d.digits / 10, exponent := d.exponent + 1 }
    else d

/-- The value's two neighbours on the grid of spacing `10^p`, where `p` gives them `k`
significant digits, each with whether it lies in the rounding interval, and which of the
two is nearer. Quantities are in units of `2^q` with `q = e - 2`: the value is `4m`, and
the interval runs from `4m - 1` or `4m - 2` up to `4m + 2`. -/
structure Neighbours where
  below : Scaled
  above : Scaled
  belowInside : Bool
  aboveInside : Bool
  nearer : Scaled

/-- The neighbours of `b` at `k` significant digits, given its decimal exponent `t`; a tie
between them goes by `tie`. -/
def neighbours (tie : Tie) (b : Binary) (t : Int) (k : Nat) : Neighbours :=
  let q := b.exponent - 2
  let p := t + 1 - (k : Int)
  let value := 4 * b.mantissa
  let low := value - (if b.narrowBelow then 1 else 2)
  let high := value + 2
  let closed := b.mantissa % 2 == 0
  let inside (c : Nat) : Bool :=
    let x := scaleRight c q p
    let lo := scaleLeft low q p
    let hi := scaleLeft high q p
    if closed then lo ≤ x && x ≤ hi else lo < x && x < hi
  let below := scaleLeft value q p / scaleRight 1 q p
  let above := below + 1
  -- twice the distance from the value to each neighbour
  let v2 := 2 * scaleLeft value q p
  let toBelow := v2 - scaleRight (2 * below) q p
  let toAbove := scaleRight (2 * above) q p - v2
  let nearer :=
    if toBelow < toAbove then below
    else if toAbove < toBelow then above
    else if tie == .even && below % 2 = 0 then below else above
  { below := ⟨below, p⟩, above := ⟨above, p⟩, belowInside := inside below,
    aboveInside := inside above, nearer := ⟨nearer, p⟩ }

/-- The decimal at `k` digits that lies in the interval, the nearer one if both do. -/
def Neighbours.pick (n : Neighbours) : Option Scaled :=
  match n.belowInside, n.aboveInside with
  | true, true => some n.nearer
  | true, false => some n.below
  | false, true => some n.above
  | false, false => none

/-- Tries `k`, `k + 1`, … significant digits and keeps the first hit; when the digits run
out, the nearer neighbour at the last count tried. -/
def searchDigits (tie : Tie) (b : Binary) (t : Int) : Nat → Nat → Scaled
  | 0, k => (neighbours tie b t k).nearer
  | fuel + 1, k =>
    match (neighbours tie b t k).pick with
    | some d => d
    | none => searchDigits tie b t fuel (k + 1)

/-- The shortest decimal in the rounding interval of a positive finite double, with no
trailing zero digits, a tie going by `tie`. Seventeen digits always suffice for a double. -/
def shortest (tie : Tie) (b : Binary) : Scaled :=
  if b.mantissa = 0 then ⟨0, 0⟩
  else Scaled.trim 24 (searchDigits tie b (decimalExponent b.mantissa b.exponent) 16 1)

/-- The decimal digits of a natural number, most significant first. -/
def digitString (n : Nat) : String :=
  String.ofList (Nat.toDigits 10 n)

end Transport.Decimal
