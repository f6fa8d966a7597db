import Transport.Json.Skip
import Transport.Json.Document
import Transport.Engine.Input
/-!
# Reading run settings from JSON bytes

`RunInput.read` reads the settings of a run from the bytes of a JSON text, one byte at a
time, and reports the first problem with its line and column.

* The settings are an object or an array. In an object, a known key sets its field and may
  not come twice; another key's value is skipped with its form checked only. An array
  gives the fields in declaration order; it may stop early, but may not go on. A field not
  given keeps its default.
* The energy histogram is an object with each of `lower`, `upper` and `bins`, or an array
  of exactly those three.
* A count is a non-negative integer of at most 64 bits; `threads` may also be `null`. A
  bound is any number. The execution space is `"host"` or `"device"`, or an object holding
  one of them as its only key, with `null` as its value.
* Only blanks may follow the settings.

A value of the wrong kind is named in the error (`invalid type: string "x", expected
usize`), a number by its own text. A message about a record's fields takes the place
where the record was left, after its closing bracket was looked for.
-/
namespace Transport

open Json Reading

namespace Json.Number

def unexpected : Number → String
  | .unsigned n => s!"integer `{n}`"
  | .signed n => s!"integer `{n}`"
  | .real x => "floating point `" ++ Decimal.Layout.json.render x ++ "`"

end Json.Number

namespace Settings

/-- Reads the value that is there instead of one of kind `expected`, and raises the
error naming it. -/
def mistyped {α : Type} (expected : String) : Reading α := do
  let b := (← peek).getD 0
  let what ← do
    if b == 0x6E then do skip; word (Byte.ofString "ull"); pure "null"
    else if b == 0x74 then do skip; word (Byte.ofString "rue"); pure "boolean `true`"
    else if b == 0x66 then do skip; word (Byte.ofString "alse"); pure "boolean `false`"
    else if b == Byte.minus then do skip; pure (← number false).unexpected
    else if Byte.isDigit b then pure (← number true).unexpected
    else if b == Byte.quote then do skip; pure ("string " ++ Describe.quoted (← string))
    else if b == Byte.openList then pure "sequence"
    else if b == Byte.openObject then pure "map"
    else fail .expectedValue
  fail (.message s!"invalid type: {what}, expected {expected}")

/-- Reads a number and hands it to `accept`, whose refusal takes the place after the
number; `expected` names the kind for any other value. -/
def numeric {α : Type} (expected : String) (accept : Number → Except String α) : Reading α :=
  placed do
    match ← blanks with
    | none => fail .endInValue
    | some b =>
      let n ← if b == Byte.minus then do skip; number false
        else if Byte.isDigit b then number true
        else mistyped expected
      match accept n with
      | .ok a => pure a
      | .error text => raise text

/-- Reads a count of kind `name`: a non-negative integer of at most 64 bits. -/
def count (name : String) : Reading Nat :=
  numeric name fun
    | .unsigned n => .ok n
    | .signed n => .error s!"invalid value: integer `{n}`, expected {name}"
    | .real x => .error s!"invalid type: {(Number.real x).unexpected}, expected {name}"

/-- Reads a bound: any number, an integer taken as its nearest double. -/
def bound : Reading Float :=
  numeric "f64" fun
    | .unsigned n => .ok (nearestDouble n)
    | .signed n => .ok (-(nearestDouble n.natAbs))
    | .real x => .ok x

/-- Reads `null` or a count. -/
def optionalCount (name : String) : Reading (Option Nat) := do
  match ← blanks with
  | some b =>
    if b == 0x6E then do skip; word (Byte.ofString "ull"); pure none
    else some <$> count name
  | none => some <$> count name

/-- Reads the name of an execution space. -/
def spaceName : Reading Space :=
  placed do
    match ← blanks with
    | none => fail .endInValue
    | some b =>
      if b == Byte.quote then do
        skip
        let name ← string
        if name == "host" then pure .host
        else if name == "device" then pure .device
        else raise s!"unknown variant `{name}`, expected `host` or `device`"
      else mistyped "variant identifier"

/-- Reads the `null` that an execution space's key holds. -/
def nothing : Reading Unit :=
  placed do
    match ← blanks with
    | none => fail .endInValue
    | some b => if b == 0x6E then do skip; word (Byte.ofString "ull") else mistyped "unit"

/-- Reads an execution space: its name, or an object of its name mapped to `null`. -/
def space : Reading Space := do
  match ← blanks with
  | none => fail .endInValue
  | some b =>
    if b == Byte.openObject then do
      skip
      let s ← spaceName
      colon
      nothing
      match ← blanks with
      | some b => if b == Byte.closeObject then do skip; pure s else fail .expectedValue
      | none => fail .endInObject
    else if b == Byte.quote then spaceName
    else fail .expectedValue

/-- Takes the closing bracket of an array, or finds what is there instead. -/
def listEnd : Reading Unit := do
  match ← blanks with
  | some b =>
    if b == Byte.closeList then skip
    else if b == Byte.comma then do
      skip
      match ← blanks with
      | some x => if x == Byte.closeList then fail .trailingComma else fail .trailingCharacters
      | none => fail .trailingCharacters
    else fail .trailingCharacters
  | none => fail .endInList

/-- Takes the closing brace of an object, or finds what is there instead. -/
def objectEnd : Reading Unit := do
  match ← blanks with
  | some b =>
    if b == Byte.closeObject then skip
    else if b == Byte.comma then fail .trailingComma
    else fail .trailingCharacters
  | none => fail .endInObject

/-- Reads a record of kind `expected`, as an array (`items`) or an object (`members`).
The closing bracket is looked for even when the fields fail, and a message takes the
place where that left the cursor. -/
def record {α : Type} (expected : String) (items members : Reading α) : Reading α :=
  placed do
    match ← blanks with
    | none => fail .endInValue
    | some b =>
      if b == Byte.openList then do skip; closing listEnd (← attempt items)
      else if b == Byte.openObject then do skip; closing objectEnd (← attempt members)
      else mistyped expected
where
  /-- Closes the record after its fields were read, the fields' error first. -/
  closing (close : Reading Unit) : Except ReadError α → Reading α
    | .ok a => do close; pure a
    | .error e => do let _ ← attempt close; throw e

/-- The next item of an array read by `read`, or `fallback` when the array has ended.
`first` tells whether no item has come yet; it comes back updated for the next item. -/
def item {α : Type} (first : Bool) (read fallback : Reading α) : Reading (Bool × α) := do
  if ← nextItem first then pure (false, ← read) else pure (first, ← fallback)

end Settings

namespace HistogramSpec

open Settings

/-- The fields of a binning given as an array: all three are needed. -/
def items : Reading HistogramSpec := do
  let short {β : Type} (n : Nat) : Reading β :=
    raise s!"invalid length {n}, expected struct HistogramInput with 3 elements"
  let (first, lower) ← item true bound (short 0)
  let (first, upper) ← item first bound (short 1)
  let (_, bins) ← item first (count "usize") (short 2)
  pure ⟨lower, upper, bins⟩

/-- The binning once its object has ended; a missing field is named. -/
def complete : Option Float → Option Float → Option Nat → Reading HistogramSpec
  | some lower, some upper, some bins => pure ⟨lower, upper, bins⟩
  | none, _, _ => raise "missing field `lower`"
  | _, none, _ => raise "missing field `upper`"
  | _, _, none => raise "missing field `bins`"

/-- The members of a binning's object, the fields found so far given. Each round takes a
key, so the bytes left bound the rounds (`fuel`). -/
def membersFrom : Nat → Bool → Option Float → Option Float → Option Nat → Reading HistogramSpec
  | 0, _, lower, upper, bins => complete lower upper bins
  | fuel + 1, first, lower, upper, bins => do
    match ← nextKey first with
    | none => complete lower upper bins
    | some key =>
      if key == "lower" then
        if lower.isSome then raise "duplicate field `lower`"
        else do colon; membersFrom fuel false (some (← bound)) upper bins
      else if key == "upper" then
        if upper.isSome then raise "duplicate field `upper`"
        else do colon; membersFrom fuel false lower (some (← bound)) bins
      else if key == "bins" then
        if bins.isSome then raise "duplicate field `bins`"
        else do colon; membersFrom fuel false lower upper (some (← count "usize"))
      else do colon; skipValue; membersFrom fuel false lower upper bins

/-- The fields of a binning given as an object: all three are needed. -/
def members : Reading HistogramSpec := fun c =>
  membersFrom (c.rest.length + 1) true none none none c

def read : Reading HistogramSpec :=
  record "struct HistogramInput" items members

end HistogramSpec

namespace RunInput

open Settings

/-- Reads the value of the field named `key` into the settings. -/
def readField (r : RunInput) (key : String) : Reading RunInput :=
  if key == "track_slots" then do pure { r with trackSlots := ← count "usize" }
  else if key == "initializer_capacity" then do pure { r with initializerCapacity := ← count "usize" }
  else if key == "secondary_capacity" then do pure { r with secondaryCapacity := ← count "usize" }
  else if key == "max_steps" then do pure { r with maxSteps := ← count "u64" }
  else if key == "seed" then do pure { r with seed := ← count "u64" }
  else if key == "threads" then do pure { r with threads := ← optionalCount "usize" }
  else if key == "execution_space" then do pure { r with space := ← Settings.space }
  else if key == "energy_histogram" then do pure { r with energyHistogram := ← HistogramSpec.read }
  else do pure { r with stepHistogramBins := ← count "usize" }

/-- The fields of the settings given as an array, in declaration order; the fields after
the array's end keep their defaults. -/
def items : Reading RunInput := do
  let d := standard
  let (first, trackSlots) ← item true (count "usize") (pure d.trackSlots)
  let (first, initializerCapacity) ← item first (count "usize") (pure d.initializerCapacity)
  let (first, secondaryCapacity) ← item first (count "usize") (pure d.secondaryCapacity)
  let (first, maxSteps) ← item first (count "u64") (pure d.maxSteps)
  let (first, seed) ← item first (count "u64") (pure d.seed)
  let (first, threads) ← item first (optionalCount "usize") (pure d.threads)
  let (first, space) ← item first Settings.space (pure d.space)
  let (first, energyHistogram) ← item first HistogramSpec.read (pure d.energyHistogram)
  let (_, stepHistogramBins) ← item first (count "usize") (pure d.stepHistogramBins)
  pure { trackSlots, initializerCapacity, secondaryCapacity, maxSteps, seed, threads, space,
         energyHistogram, stepHistogramBins }

/-- The members of the settings' object; `seen` holds the known keys read so far. Each
round takes a key, so the bytes left bound the rounds (`fuel`). -/
def membersFrom : Nat → Bool → List String → RunInput → Reading RunInput
  | 0, _, _, r => pure r
  | fuel + 1, first, seen, r => do
    match ← nextKey first with
    | none => pure r
    | some key =>
      if fieldNames.contains key then
        if seen.contains key then raise s!"duplicate field `{key}`"
        else do
          colon
          let r ← readField r key
          membersFrom fuel false (key :: seen) r
      else do colon; skipValue; membersFrom fuel false seen r

/-- The fields of the settings given as an object. -/
def members : Reading RunInput := fun c =>
  membersFrom (c.rest.length + 1) true [] standard c

/-- Reads the settings and checks that only blanks follow them. -/
def reading : Reading RunInput := do
  let r ← record "struct RunInput" items members
  match ← blanks with
  | some _ => fail .trailingCharacters
  | none => pure r

/-- Reads settings from the bytes of a JSON text. On failure, the error comes with the
number of bytes looked at, which tells whether more bytes could have changed it. -/
def read (bytes : List UInt8) : Except (ReadError × Nat) RunInput :=
  match reading (Cursor.ofBytes bytes) with
  | .ok r _ => .ok r
  | .error e c => .error (e, c.place.counted)

end RunInput

end Transport
