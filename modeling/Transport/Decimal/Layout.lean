import Transport.Decimal.Shortest
/-!
# Writing a double

A `Layout` fixes the decisions that turn the shortest digits of a double into text:
which decimal exponents are written positionally, whether an integral value keeps a
`.0`, the words for the special values, and which digits a double halfway between two
shortest decimals gets. Three layouts are used:

* `Layout.message`, for numbers inside messages: always positional, no `.0` on integral
  values (`1`, `-0`, `0.00001`), a tie going up;
* `Layout.field`, for numbers inside structural descriptions and data: positional from
  `1e-4` up to below `1e16`, `.0` kept (`1.0`, `1e-5`, `1.5e16`), a tie going up;
* `Layout.json`, for numbers in JSON text and numbers quoted in an error about settings
  text: positional from `1e-5` up to below `1e16`, `.0` kept, a tie going to the even
  digit.

An exponent is written as `e` followed by the signed decimal exponent, with no `+` and
no padding.
-/
namespace Transport.Decimal

/-- The format decisions for a double's text. -/
structure Layout where
  /-- Smallest decimal exponent written positionally (`none`: no bound). -/
  positionalFrom : Option Int
  /-- Decimal exponents below this are written positionally (`none`: no bound). -/
  positionalBelow : Option Int
  /-- An integral value keeps a trailing `.0`. -/
  pointZero : Bool
  nan : String
  infinity : String
  /-- Which of two equally near shortest decimals is written. -/
  tie : Tie

/-- Numbers in messages: positional always, and integral values without `.0`. -/
def Layout.message : Layout :=
  { positionalFrom := none, positionalBelow := none, pointZero := false,
    nan := "NaN", infinity := "inf", tie := .up }

/-- Numbers in descriptions and data: positional for `1e-4 ≤ |x| < 1e16`, `.0` kept. -/
def Layout.field : Layout :=
  { positionalFrom := some (-4), positionalBelow := some 16, pointZero := true,
    nan := "NaN", infinity := "inf", tie := .up }

/-- Numbers in JSON text and in reading errors: positional for `1e-5 ≤ |x| < 1e16`, `.0`
kept. -/
def Layout.json : Layout :=
  { positionalFrom := some (-5), positionalBelow := some 16, pointZero := true,
    nan := "NaN", infinity := "inf", tie := .even }

def zeros (n : Nat) : String :=
  String.ofList (List.replicate n '0')

/-- Whether the decimal exponent `t` of a nonzero value is written positionally. -/
def Layout.positional (l : Layout) (t : Int) : Bool :=
  (match l.positionalFrom with | some lo => lo ≤ t | none => true) &&
  (match l.positionalBelow with | some hi => t < hi | none => true)

/-- Positional text of `digits · 10^exponent` (digits without trailing zeros). -/
def Layout.positionalText (l : Layout) (d : Scaled) : String :=
  let s := digitString d.digits
  let n := s.length
  if 0 ≤ d.exponent then
    s ++ zeros d.exponent.toNat ++ (if l.pointZero then ".0" else "")
  else
    let point : Int := n + d.exponent
    if 0 < point then
      String.ofList (s.toList.take point.toNat) ++ "." ++ String.ofList (s.toList.drop point.toNat)
    else
      "0." ++ zeros (-point).toNat ++ s

/-- Exponent text of `digits · 10^exponent`: one digit, the rest after a point, `e`, and the
decimal exponent of the leading digit. -/
def exponentText (d : Scaled) : String :=
  let s := digitString d.digits
  let lead := s.toList.take 1
  let rest := s.toList.drop 1
  let e : Int := (s.length : Int) - 1 + d.exponent
  String.ofList lead ++ (if rest.isEmpty then "" else "." ++ String.ofList rest) ++ "e" ++ toString e

/-- The text of a double under a layout. -/
def Layout.render (l : Layout) (x : Float) : String :=
  if x.isNaN then l.nan
  else
    let negative := (x.toBits >>> 63) == 1
    let sign := if negative then "-" else ""
    if x.isInf then sign ++ l.infinity
    else
      let d := shortest l.tie (Binary.ofBits x.toBits)
      if d.digits = 0 then sign ++ (if l.pointZero then "0.0" else "0")
      else
        let t : Int := ((digitString d.digits).length : Int) - 1 + d.exponent
        if l.positional t then sign ++ l.positionalText d
        else sign ++ exponentText d

end Transport.Decimal
