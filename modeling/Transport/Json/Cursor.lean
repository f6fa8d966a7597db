import Transport.Json.Scale
/-!
# Reading JSON bytes one at a time

A `Cursor` walks the bytes of a JSON text the way a streaming reader does: it can look at
the next byte without taking it, take it, or take the next byte outright. A byte counts
into the reported place as soon as it is first looked at, so an error found while looking
at a byte names the place just after it. Lines count from 1 and columns from 0; a line feed
starts a new line at column 0.

A `ReadError` is a `Fault` and the place where it was found. A fault of the text's form
always carries a place. A `message`, raised while reading typed settings, carries none
until `Reading.placed` gives it the place where the enclosing value was left. A reader of
text held in memory counts a byte only once it is taken; the few faults that it reports
at the bytes taken, rather than at the byte looked at, are marked `early`, so that such a
reader names the place one byte sooner when a byte was looked at but not taken.

Reading steps are `Reading` actions with the cursor as their state. An error leaves the
cursor where the reading stopped, since a later step (closing the enclosing container)
may still move it before the error is reported.
-/
namespace Transport.Json

/-- A place in the text: the bytes counted so far, the line (from 1) and the column
(from 0). -/
structure Place where
  counted : Nat
  line : Nat
  column : Nat
  deriving Inhabited, DecidableEq, Repr

namespace Place

def start : Place := ⟨0, 1, 0⟩

def count (p : Place) (b : UInt8) : Place :=
  if b == 10 then ⟨p.counted + 1, p.line + 1, 0⟩ else ⟨p.counted + 1, p.line, p.column + 1⟩

end Place

/-- What is wrong with a JSON text, or with the value it holds. -/
inductive Fault where
  | endInList
  | endInObject
  | endInString
  | endInValue
  | expectedColon
  | expectedListCommaOrEnd
  | expectedObjectCommaOrEnd
  | expectedIdent
  | expectedValue
  | invalidEscape
  | invalidNumber
  | numberOutOfRange
  | recursionLimit
  | invalidCodePoint
  | controlCharacter
  | keyNotString
  | loneSurrogate
  | trailingComma
  | trailingCharacters
  | unfinishedSurrogatePair
  | message (text : String)
  deriving Inhabited, DecidableEq, Repr

/-- The text of a fault. -/
def Fault.text : Fault → String
  | .endInList => "EOF while parsing a list"
  | .endInObject => "EOF while parsing an object"
  | .endInString => "EOF while parsing a string"
  | .endInValue => "EOF while parsing a value"
  | .expectedColon => "expected `:`"
  | .expectedListCommaOrEnd => "expected `,` or `]`"
  | .expectedObjectCommaOrEnd => "expected `,` or `\x7d`"
  | .expectedIdent => "expected ident"
  | .expectedValue => "expected value"
  | .invalidEscape => "invalid escape"
  | .invalidNumber => "invalid number"
  | .numberOutOfRange => "number out of range"
  | .recursionLimit => "recursion limit exceeded"
  | .invalidCodePoint => "invalid unicode code point"
  | .controlCharacter => "control character (\\u0000-\\u001F) found while parsing a string"
  | .keyNotString => "key must be a string"
  | .loneSurrogate => "lone leading surrogate in hex escape"
  | .trailingComma => "trailing comma"
  | .trailingCharacters => "trailing characters"
  | .unfinishedSurrogatePair => "unexpected end of hex escape"
  | .message text => text

/-- A fault, the place where it was found once known, and whether it was found at the
bytes taken while a further byte had been looked at (`early`). -/
structure ReadError where
  fault : Fault
  place : Option Place
  early : Bool
  deriving Inhabited, DecidableEq, Repr

def ReadError.text (e : ReadError) : String :=
  match e.place with
  | some p => e.fault.text ++ s!" at line {p.line} column {p.column}"
  | none => e.fault.text

/-- The bytes still to read, whether the first of them has been looked at, and the place
reached (which counts a byte looked at). -/
structure Cursor where
  rest : List UInt8
  looked : Bool
  place : Place
  deriving Inhabited

namespace Cursor

/-- A cursor before the first of `bytes`. -/
def ofBytes (bytes : List UInt8) : Cursor := ⟨bytes, false, Place.start⟩

/-- The cursor after looking at its next byte `b`. -/
def look (c : Cursor) (b : UInt8) : Cursor :=
  if c.looked then c else { c with looked := true, place := c.place.count b }

/-- The cursor past its next byte `b`, `r` being the bytes after it. -/
def pass (c : Cursor) (b : UInt8) (r : List UInt8) : Cursor :=
  ⟨r, false, if c.looked then c.place else c.place.count b⟩

@[simp] theorem pass_rest (c : Cursor) (b : UInt8) (r : List UInt8) : (c.pass b r).rest = r := rfl

end Cursor

/-! The bytes of JSON's punctuation, and the classes of bytes that the reader tells apart. -/
namespace Byte

def quote : UInt8 := 0x22
def backslash : UInt8 := 0x5C
def comma : UInt8 := 0x2C
def colon : UInt8 := 0x3A
def openList : UInt8 := 0x5B
def closeList : UInt8 := 0x5D
def openObject : UInt8 := 0x7B
def closeObject : UInt8 := 0x7D
def minus : UInt8 := 0x2D
def plus : UInt8 := 0x2B
def point : UInt8 := 0x2E
def zero : UInt8 := 0x30

def ofString (s : String) : List UInt8 := s.toUTF8.toList

/-- Whether a byte is a decimal digit. -/
def isDigit (b : UInt8) : Bool := 0x30 ≤ b && b ≤ 0x39

def digit (b : UInt8) : Nat := b.toNat - 0x30

/-- Whether a byte is a blank between tokens: space, tab, line feed or carriage return. -/
def isBlank (b : UInt8) : Bool := b == 0x20 || b == 0x09 || b == 0x0A || b == 0x0D

def isExponentMark (b : UInt8) : Bool := b == 0x65 || b == 0x45

/-- The value of a hexadecimal digit. -/
def hexValue (b : UInt8) : Option Nat :=
  if isDigit b then some (digit b)
  else if 0x61 ≤ b && b ≤ 0x66 then some (b.toNat - 0x61 + 10)
  else if 0x41 ≤ b && b ≤ 0x46 then some (b.toNat - 0x41 + 10)
  else none

end Byte

/-- A reading step: the cursor is its state and stays where reading stopped on an error. -/
abbrev Reading (α : Type) := EStateM ReadError Cursor α

/-- The outcome of a reading step run from a cursor. -/
abbrev Outcome (α : Type) := EStateM.Result ReadError Cursor α

namespace Reading

/-- Raises a fault at the current place. -/
def fail {α : Type} (f : Fault) : Reading α := fun c => .error ⟨f, some c.place, false⟩ c

/-- Raises a fault found at the bytes taken, before the byte looked at, if any. -/
def failTaken {α : Type} (f : Fault) : Reading α := fun c => .error ⟨f, some c.place, c.looked⟩ c

/-- Raises a message whose place is the one where the enclosing value will be left. -/
def raise {α : Type} (text : String) : Reading α := fun c => .error ⟨.message text, none, false⟩ c

/-- Gives an error without a place the place where the step left the cursor. -/
def placed {α : Type} (r : Reading α) : Reading α := fun c =>
  match r c with
  | .error e d =>
    .error (if e.place.isNone then { e with place := some d.place, early := d.looked } else e) d
  | .ok a d => .ok a d

/-- Runs a step and hands back its error as a value, keeping the cursor where it stopped. -/
def attempt {α : Type} (r : Reading α) : Reading (Except ReadError α) := fun c =>
  match r c with
  | .error e d => .ok (.error e) d
  | .ok a d => .ok (.ok a) d

/-- Looks at the next byte, if any. -/
def peek : Reading (Option UInt8) := fun c =>
  match c.rest with
  | [] => .ok none c
  | b :: _ => .ok (some b) (c.look b)

def skip : Reading Unit := fun c =>
  match c.rest with
  | [] => .ok () c
  | b :: r => .ok () (c.pass b r)

/-- Takes the next byte and returns it, if any. -/
def next : Reading (Option UInt8) := fun c =>
  match c.rest with
  | [] => .ok none c
  | b :: r => .ok (some b) (c.pass b r)

/-- Takes blanks and looks at the first byte after them, if any. -/
def blanksFrom : Cursor → Outcome (Option UInt8)
  | c@⟨[], _, _⟩ => .ok none c
  | c@⟨b :: r, _, _⟩ => if Byte.isBlank b then blanksFrom (c.pass b r) else .ok (some b) (c.look b)
termination_by c => c.rest.length

/-- Takes blanks and looks at the first byte after them, if any. -/
def blanks : Reading (Option UInt8) := blanksFrom

/-- Takes the bytes of `w` one by one: a missing byte ends the value, a different byte is
not the expected word. -/
def word : List UInt8 → Reading Unit
  | [] => pure ()
  | x :: xs => do
    match ← next with
    | none => fail .endInValue
    | some b => if b == x then word xs else fail .expectedIdent

/-- Takes the colon between a key and its value. -/
def colon : Reading Unit := do
  match ← blanks with
  | some b => if b == Byte.colon then skip else fail .expectedColon
  | none => fail .endInObject

end Reading

end Transport.Json
