/-!
# Numbers written as text

`Decimal.parseDoubleBits?` reads a double from its text as the standard reader of doubles
does, and `Decimal.parseWord?` reads a 64-bit unsigned word.

A double is an optional sign, then either `inf`, `infinity` or `nan` in any case, or a
decimal: digits, a point and more digits if there is a point, with at least one digit in
all, and then perhaps an exponent mark `e` or `E`, an optional sign and at least one digit.
Nothing else may stand in the text, not even blanks. The value is the double nearest to the
decimal, a tie going to the even significand; a decimal too large for a double reads as
infinity, and one below half the least double as zero, each with the sign it was written
with. A NaN keeps its sign as well, which a `Float` cannot carry, so the reader gives the
bit pattern.

A word is an optional `+` and at least one decimal digit, with a value below `2^64`.

The rounding is exact: the decimal is a ratio of natural numbers, the ratio is scaled by a
power of two until its quotient has at least 55 bits, and the bits past the significand,
with whether the division left a remainder, decide the rounding.
-/
namespace Transport.Decimal

/-- The bit pattern of infinity without its sign. -/
def infinityBits : UInt64 := 0x7FF0000000000000

/-- The bit pattern of the quiet NaN, with the sign bit set for a negative one. -/
def nanBits (negative : Bool) : UInt64 :=
  if negative then 0xFFF8000000000000 else 0x7FF8000000000000

/-- The bits of the double nearest to `num / den` (for `den > 0`), a tie going to the even
significand: zero below half the least double, infinity past the greatest. -/
def nearestBits (num den : Nat) : UInt64 :=
  if num = 0 then 0
  else
    let shift : Int := 55 + (den.log2 : Int) - (num.log2 : Int)
    let top := if 0 ≤ shift then num <<< shift.toNat else num
    let bottom := if 0 ≤ shift then den else den <<< shift.natAbs
    let q := top / bottom
    let exact := top % bottom == 0
    let unit : Int := max ((q.log2 : Int) - shift - 52) (-1074)
    let drop := (unit + shift).toNat
    let m := q >>> drop
    let rest := q % (1 <<< drop)
    let half := 1 <<< (drop - 1)
    let m := if rest > half || (rest == half && (!exact || m % 2 == 1)) then m + 1 else m
    let (m, unit) := if m = Nat.pow 2 53 then (Nat.pow 2 52, unit + 1) else (m, unit)
    if m < Nat.pow 2 52 then m.toUInt64
    else
      let field := unit + 1075
      if field ≥ 2047 then infinityBits
      else ((field.toNat <<< 52) ||| (m - Nat.pow 2 52)).toUInt64

/-- The bits of the double nearest to `digits · 10^exponent`, without a sign. A decimal of
more than 309 places before the point is past the greatest double, and one whose first
digit lies more than 324 places after it is below half the least. -/
def decimalBits (digits : Nat) (exponent : Int) : UInt64 :=
  if digits = 0 then 0
  else
    let size : Int := ((toString digits).length : Int) + exponent
    if size > 309 then infinityBits
    else if size < -323 then 0
    else if 0 ≤ exponent then nearestBits (digits * Nat.pow 10 exponent.toNat) 1
    else nearestBits digits (Nat.pow 10 exponent.natAbs)

def digitOf? (c : Char) : Option Nat :=
  if '0' ≤ c && c ≤ '9' then some (c.toNat - '0'.toNat) else none

/-- Takes leading decimal digits onto `value`: the new value, how many digits were taken,
and the rest of the text. -/
def digitsFrom : List Char → Nat → Nat → Nat × Nat × List Char
  | c :: cs, value, count =>
    match digitOf? c with
    | some d => digitsFrom cs (value * 10 + d) (count + 1)
    | none => (value, count, c :: cs)
  | [], value, count => (value, count, [])

/-- A decimal without its sign, as its digits and power of ten, if the text is one. -/
def decimalParts? (cs : List Char) : Option (Nat × Int) :=
  let (whole, wholeCount, rest) := digitsFrom cs 0 0
  let (digits, fractionCount, rest) :=
    match rest with
    | '.' :: r => digitsFrom r whole 0
    | r => (whole, 0, r)
  if wholeCount + fractionCount = 0 then none
  else
    match rest with
    | [] => some (digits, -(fractionCount : Int))
    | c :: r =>
      if c == 'e' || c == 'E' then
        let (negative, r) : Bool × List Char :=
          match r with
          | '-' :: t => (true, t)
          | '+' :: t => (false, t)
          | t => (false, t)
        let (e, count, r) := digitsFrom r 0 0
        if count = 0 || !r.isEmpty then none
        else some (digits, (if negative then -(e : Int) else (e : Int)) - fractionCount)
      else none

/-- The bits of a double written as text, if the text is one. -/
def parseDoubleBits? (s : String) : Option UInt64 :=
  let (negative, rest) : Bool × List Char :=
    match s.toList with
    | '-' :: r => (true, r)
    | '+' :: r => (false, r)
    | r => (false, r)
  let signed (bits : UInt64) : UInt64 := if negative then bits ||| 0x8000000000000000 else bits
  if rest.isEmpty then none
  else
    match decimalParts? rest with
    | some (digits, exponent) => some (signed (decimalBits digits exponent))
    | none =>
      let word := String.ofList (rest.map Char.toLower)
      if word == "inf" || word == "infinity" then some (signed infinityBits)
      else if word == "nan" then some (nanBits negative)
      else none

/-- A double written as text, if the text is one. -/
def parseDouble? (s : String) : Option Float :=
  (parseDoubleBits? s).map Float.ofBits

/-- A 64-bit unsigned word written as text, if the text is one. -/
def parseWord? (s : String) : Option Nat :=
  let cs := match s.toList with
    | '+' :: r => r
    | r => r
  if cs.isEmpty then none
  else
    match digitsFrom cs 0 0 with
    | (n, _, []) => if n < Nat.pow 2 64 then some n else none
    | _ => none

end Transport.Decimal
