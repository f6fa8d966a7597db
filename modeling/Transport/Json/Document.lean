import Transport.Json.Value
import Transport.Json.Token
/-!
# Reading a JSON document

`Json.parse` reads one JSON document as a tree, from a text held in memory. Numbers follow
`Reading.number`: an integer that fits a 64-bit word stays `int`, and every other number is
a double. An object keeps its members in document order, duplicates included. Only blanks
may follow the document.

Containers nest at most 127 deep: the bracket that would open a 128th is refused where it
stands, before anything inside it is read.

The steps are those of the typed readers: `nextItem` and `nextKey` find what comes after an
opening bracket or an item (a comma, the closing bracket, or the first item), and refuse a
comma before a closing bracket. The first problem is reported with its line and column as
a reader of text held in memory counts them: a fault found at the bytes taken does not
count a byte looked at beyond them (`ReadError.memoryText`).
-/
namespace Transport.Json

namespace Reading

/-- Whether another item of an array follows; `first` tells whether none has yet. -/
def nextItem (first : Bool) : Reading Bool := do
  let b ← match ← blanks with
    | some b =>
      if b == Byte.closeList then return false
      else if b == Byte.comma && !first then do skip; blanks
      else if first then pure (some b)
      else fail .expectedListCommaOrEnd
    | none => fail .endInList
  match b with
  | some b => if b == Byte.closeList then fail .trailingComma else pure true
  | none => fail .endInValue

/-- The next key of an object, if any; `first` tells whether none has come yet. -/
def nextKey (first : Bool) : Reading (Option String) := do
  let b ← match ← blanks with
    | some b =>
      if b == Byte.closeObject then return none
      else if b == Byte.comma && !first then do skip; blanks
      else if first then pure (some b)
      else fail .expectedObjectCommaOrEnd
    | none => fail .endInObject
  match b with
  | some b =>
    if b == Byte.quote then do skip; some <$> string
    else if b == Byte.closeObject then fail .trailingComma
    else fail .keyNotString
  | none => fail .endInValue

def Number.toJson : Number → Json
  | .unsigned n => .int n
  | .signed n => .int n
  | .real x => .num x

/-- How many containers may be open at once, one inside another, plus one. -/
def depthLimit : Nat := 128

mutual

/-- A value, after blanks, where `depth - 1` more containers may open. Every step that
calls another takes a byte or lowers `fuel`, so a step for each byte of the text and one
more is enough. -/
def valueFrom : Nat → Nat → Reading Json
  | 0, _ => fail .endInValue
  | fuel + 1, depth => do
    match ← blanks with
    | none => fail .endInValue
    | some b =>
      if b == 0x6E then do skip; word (Byte.ofString "ull"); pure .null
      else if b == 0x74 then do skip; word (Byte.ofString "rue"); pure (.bool true)
      else if b == 0x66 then do skip; word (Byte.ofString "alse"); pure (.bool false)
      else if b == Byte.minus then do skip; Number.toJson <$> number false
      else if Byte.isDigit b then Number.toJson <$> number true
      else if b == Byte.quote then do skip; .str <$> string
      else if b == Byte.openList then
        if depth ≤ 1 then fail .recursionLimit
        else do
          skip
          let items ← itemsFrom fuel (depth - 1) true []
          skip
          pure (.arr items)
      else if b == Byte.openObject then
        if depth ≤ 1 then fail .recursionLimit
        else do
          skip
          let members ← membersFrom fuel (depth - 1) true []
          skip
          pure (.obj members)
      else fail .expectedValue

/-- The items of an array up to its closing bracket, which is looked at but not taken;
`acc` holds those read so far, last first. -/
def itemsFrom : Nat → Nat → Bool → List Json → Reading (List Json)
  | 0, _, _, acc => pure acc.reverse
  | fuel + 1, depth, first, acc => do
    if ← nextItem first then
      let v ← valueFrom fuel depth
      itemsFrom fuel depth false (v :: acc)
    else pure acc.reverse

/-- The members of an object up to its closing brace, which is looked at but not taken;
`acc` holds those read so far, last first. -/
def membersFrom : Nat → Nat → Bool → List (String × Json) → Reading (List (String × Json))
  | 0, _, _, acc => pure acc.reverse
  | fuel + 1, depth, first, acc => do
    match ← nextKey first with
    | none => pure acc.reverse
    | some key =>
      colon
      let v ← valueFrom fuel depth
      membersFrom fuel depth false ((key, v) :: acc)

end

/-- One document: a value, then nothing but blanks. -/
def document (fuel : Nat) : Reading Json := do
  let v ← valueFrom fuel depthLimit
  match ← blanks with
  | some _ => fail .trailingCharacters
  | none => pure v

end Reading

/-- The text of an error as a reader of text held in memory reports it: when the fault was
found at the bytes taken, a byte looked at beyond them is not counted. -/
def ReadError.memoryText (bytes : List UInt8) (e : ReadError) : String :=
  match e.place with
  | some p =>
    if e.early then
      ReadError.text ⟨e.fault, some ((bytes.take (p.counted - 1)).foldl Place.count Place.start), false⟩
    else e.text
  | none => e.text

/-- Reads one JSON document from a text; only blanks may follow it. -/
def parse (text : String) : Except String Json :=
  let bytes := text.toUTF8.toList
  match Reading.document (2 * bytes.length + 2) (Cursor.ofBytes bytes) with
  | .ok v _ => .ok v
  | .error e _ => .error (e.memoryText bytes)

end Transport.Json
