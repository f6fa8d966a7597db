import Transport.Json.Token
/-!
# Skipping a JSON value

`Reading.skipValue` takes one whole value and checks only its form: numbers of any size,
strings with any escaped code units, and containers nested to any depth. The containers
still open are kept as a list, innermost first, so nesting costs no recursion.

The checks come in the order the bytes arrive. A value must start with a byte that can
start one. After a value inside a container comes a comma or the container's closing
bracket; right after an opening bracket may come its closing bracket or the first item.
An object's item is a string key, a colon and a value.
-/
namespace Transport.Json

inductive Frame where
  | list
  | object
  deriving DecidableEq

namespace Frame

def closer : Frame → UInt8
  | .list => Byte.closeList
  | .object => Byte.closeObject

/-- The fault of a byte that neither continues nor closes a container. -/
def commaOrEnd : Frame → Fault
  | .list => .expectedListCommaOrEnd
  | .object => .expectedObjectCommaOrEnd

/-- The fault of a text that ends inside a container. -/
def unclosed : Frame → Fault
  | .list => .endInList
  | .object => .endInObject

end Frame

/-- Where the skipping stands: a value is due, a container may close or go on (`more`
when a value has just been taken, so that a comma may follow), or an item of the
innermost container starts. -/
inductive SkipStep where
  | value
  | close (more : Bool)
  | item

namespace Reading

/-- Takes a key and its colon, after the comma or opening brace of an object. -/
def skipKey : Reading Unit := do
  match ← blanks with
  | some b =>
    if b == Byte.quote then do
      skip
      skipString
      colon
    else fail .keyNotString
  | none => fail .endInObject

/-- Skips from a step with `opened` the containers still open, innermost first. Every three
rounds take at least one byte, so three rounds for each byte left and three more are
enough `fuel`. -/
def skipFrom : Nat → SkipStep → List Frame → Reading Unit
  | 0, _, _ => pure ()
  | fuel + 1, .value, opened => do
    match ← blanks with
    | none => fail .endInValue
    | some b =>
      if b == 0x6E then do skip; word (Byte.ofString "ull"); skipFrom fuel (.close true) opened
      else if b == 0x74 then do skip; word (Byte.ofString "rue"); skipFrom fuel (.close true) opened
      else if b == 0x66 then do skip; word (Byte.ofString "alse"); skipFrom fuel (.close true) opened
      else if b == Byte.minus then do skip; skipNumber; skipFrom fuel (.close true) opened
      else if Byte.isDigit b then do skipNumber; skipFrom fuel (.close true) opened
      else if b == Byte.quote then do skip; skipString; skipFrom fuel (.close true) opened
      else if b == Byte.openList then do skip; skipFrom fuel (.close false) (.list :: opened)
      else if b == Byte.openObject then do skip; skipFrom fuel (.close false) (.object :: opened)
      else fail .expectedValue
  | _ + 1, .close _, [] => pure ()
  | fuel + 1, .close more, f :: outer => do
    match ← blanks with
    | none => fail f.unclosed
    | some b =>
      if more && b == Byte.comma then do skip; skipFrom fuel .item (f :: outer)
      else if b == f.closer then do skip; skipFrom fuel (.close true) outer
      else if more then fail f.commaOrEnd
      else skipFrom fuel .item (f :: outer)
  | fuel + 1, .item, opened => do
    if opened.head? == some .object then skipKey
    skipFrom fuel .value opened

/-- Skips one value, checking its form only. -/
def skipValue : Reading Unit := fun c =>
  skipFrom (3 * c.rest.length + 3) .value [] c

end Reading

end Transport.Json
