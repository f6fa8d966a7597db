import Transport.Memory
/-!
# The step arena

A bump allocator over a fixed number of cells. `allocate n` hands out the next `n` cells
as a `Span`, or refuses when they would run past the capacity. Either way the cursor
moves on by `n` (saturating at `2^64 - 1`), so after one refusal every later non-empty
request is refused too, until `clear`. `allocate 0` always succeeds with the empty span
and leaves the cursor alone.

Each cell of a granted span is written at most once (`write`); `get` returns the values
written in the cells of a span, in cell order, skipping unwritten cells and cells past the
capacity.
-/
namespace Transport

/-- A contiguous range of arena cells: `len` cells from `start`. -/
structure Span where
  start : Nat
  len : Nat
  deriving Inhabited, DecidableEq, Repr

def Span.empty : Span := ⟨0, 0⟩

/-- The span of `len` cells from `start`, if its end, one past its last cell, is a 64-bit
index. -/
def Span.ofBounds? (start len : Nat) : Option Span :=
  if start + len < Nat.pow 2 64 then some ⟨start, len⟩ else none

/-- Why an arena operation was refused. -/
inductive ArenaError where
  /-- `requested` cells do not fit in an arena of `capacity` cells. -/
  | exhausted (requested capacity : Nat)
  /-- Cell `index` of a span of `len` cells does not exist. -/
  | outOfSpan (index len : Nat)
  /-- Cell `index` of the span already holds a value. -/
  | alreadyWritten (index : Nat)
  deriving DecidableEq, Repr

def ArenaError.message : ArenaError → String
  | .exhausted n c => s!"stack allocator exhausted: requested {n}, capacity {c}"
  | .outOfSpan i len => s!"index {i} outside reservation of length {len}"
  | .alreadyWritten i => s!"reservation cell {i} already written"

/-- The largest value of a 64-bit cursor. -/
def cursorMax : Nat := Nat.pow 2 64 - 1

/-- A bump allocator of `capacity` cells; `cells` has one entry per cell. -/
structure Arena (α : Type) where
  capacity : Nat
  cursor : Nat
  cells : Array (Option α)

namespace Arena

variable {α : Type}

def new (capacity : Nat) : Arena α :=
  { capacity, cursor := 0, cells := Array.replicate capacity none }

instance : Inhabited (Arena α) := ⟨new 0⟩

def create (cell : Layout) (capacity : Nat) : Option (Arena α) :=
  if cell.fits capacity then some (new capacity) else none

/-- Cells handed out, at most the capacity. -/
def size (a : Arena α) : Nat := min a.cursor a.capacity

/-- Whether a request was refused since the last clear. -/
def isExhausted (a : Arena α) : Bool := decide (a.capacity < a.cursor)

/-- Reserves `n` cells: the span, or the refusal, and the arena with its cursor moved. -/
def allocate (a : Arena α) (n : Nat) : Except ArenaError Span × Arena α :=
  if n = 0 then (.ok Span.empty, a)
  else
    let start := a.cursor
    let a' := { a with cursor := min (start + n) cursorMax }
    if start + n ≤ a.capacity then (.ok ⟨start, n⟩, a')
    else (.error (.exhausted n a.capacity), a')

/-- Stores `v` in cell `index` of `span`. -/
def write (a : Arena α) (span : Span) (index : Nat) (v : α) : Except ArenaError (Arena α) :=
  if index < span.len then
    match a.cells[span.start + index]? with
    | some (some _) => .error (.alreadyWritten index)
    | _ => .ok { a with cells := a.cells.set! (span.start + index) (some v) }
  else .error (.outOfSpan index span.len)

/-- Stores the values in successive cells of `span` from cell `first`, stopping at the
first refusal; the arena keeps the cells written before it. -/
def writeFrom (span : Span) : Nat → List α → Arena α → Arena α × Except ArenaError Unit
  | _, [], a => (a, .ok ())
  | i, v :: vs, a =>
    match a.write span i v with
    | .ok a' => writeFrom span (i + 1) vs a'
    | .error e => (a, .error e)

/-- Stores the values in the cells of `span` from its first cell on. -/
def writeAll (a : Arena α) (span : Span) (vs : List α) : Arena α × Except ArenaError Unit :=
  writeFrom span 0 vs a

/-- The values written in the cells of `span` that lie inside the arena, in cell order. -/
def get (a : Arena α) (span : Span) : List α :=
  let stop := min (span.start + span.len) a.capacity
  let start := min span.start stop
  ((List.range (stop - start)).map fun i => a.cells[start + i]?).filterMap fun c => c.join

/-- Drops every value and resets the cursor. -/
def clear (a : Arena α) : Arena α :=
  let used := a.size
  { a with cursor := 0,
           cells := (List.range used).foldl (fun cs i => cs.set! i none) a.cells }

def describe (a : Arena α) : String :=
  s!"StackAllocator \x7b size: {a.size}, capacity: {a.capacity}, exhausted: {a.isExhausted} \x7d"

end Arena

end Transport
