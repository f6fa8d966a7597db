import Mathlib
import Transport.Proofs.Secondaries
/-!
# The energy books of a step, over any scalars

A step moves energy between the slots, the pending initializers, the step's secondaries and
the energy-deposition histogram; a track that leaves the world takes its energy with it, and
a pair conversion spends `2 mₑ`. `Books.step` is that bookkeeping written once over a
`Scalar`: the engine keeps it in doubles (`Scalar.double`), and the same step over the reals
is the step in exact arithmetic.

Every decision the step takes on an energy is taken by the books, in their own scalars: the
tracking and production cutoffs, the clamp of a loss at the energy left, the pair threshold,
the positive depositions that reach the histogram, the energies admitted into slots. What the
geometry and the random streams decide is given to the books as a `Round`: which slots are
filled, and per slot its `Motion` (how far it travels and why), its `Draw` (what the model does,
with the fraction drawn and whether the arena had room) and the `Bin` its deposition lands in.

* `Books`: the slots (`Cell`: held or not, status, particle, energy), the pending
  initializers and the histogram.
* `Books.step`: admit the top initializers into the filled slots, start the step, one
  `Cell.turn` per slot (along-step, model, post-step), fill, queue the secondaries at or above
  their production cutoff, reclaim the stopped slots. It gives the books after the step, the
  energy the reclaimed slots still held, and the number of pair conversions; no books when
  a filled slot is not free, an admitted energy is below zero or a pair conversion is below
  threshold.
* `Books.run`: loads of primaries and steps, one after the other.
* `Books.view`, `Round.ofStep`: the books of an engine state and histogram over doubles, and
  the round a step of the engine takes.
-/
namespace Transport

/-- The arithmetic the books are kept in. -/
structure Scalar (α : Type) where
  zero : α
  /-- Where sums start: `-0.0` for doubles, so that an empty sum is `-0.0`. -/
  sumStart : α
  one : α
  add : α → α → α
  sub : α → α → α
  mul : α → α → α
  /-- The smaller of a loss and the energy it is taken from. -/
  min : α → α → α
  lt : α → α → Bool
  le : α → α → Bool

namespace Scalar

variable {α : Type}

def sum (A : Scalar α) (xs : List α) : α := xs.foldl A.add A.sumStart

/-- The engine's doubles. -/
def double : Scalar Float where
  zero := 0.0
  sumStart := -0.0
  one := 1.0
  add := (· + ·)
  sub := (· - ·)
  mul := (· * ·)
  min := minNum
  lt x y := decide (x < y)
  le x y := decide (x ≤ y)

end Scalar

/-- What the books read of the physics: the stopping power and the two cutoffs of each
particle type, and the mass `2 mₑ` a pair conversion spends. -/
structure Rates (α : Type) where
  stoppingPower : Nat → α
  tracking : Nat → α
  production : Nat → α
  pairMass : α

def Rates.ofSetup (p : Setup) : Rates Float where
  stoppingPower := p.physics.stoppingPower
  tracking n := (p.cutoffs.get n).tracking
  production n := (p.cutoffs.get n).production
  pairMass := 2.0 * electronMass

/-- A slot in the books. -/
structure Cell (α : Type) where
  held : Bool
  status : Status
  particle : Nat
  energy : α

/-- What an interaction gives a slot: its outcome, the energy it leaves the track, what it
deposits on the spot and its secondaries as `(particle, energy)`. -/
structure Yield (α : Type) where
  outcome : Outcome
  energy : α
  deposit : α
  secondaries : List (Nat × α)

/-- How a slot moves in its along-step. -/
inductive Motion (α : Type) where
  /-- Not stepped, or stepped in place to retry its interaction. -/
  | rest
  /-- A step nothing limits: the track leaves the world with its energy. -/
  | leave
  /-- A step of length `step`, to the end of its range or not, out of the world or not. -/
  | travel (step : α) (range exits : Bool)

/-- What the model the step ended in does. -/
inductive Draw (α : Type) where
  | none
  | absorb
  | scatter
  /-- A conversion into `electron` and `positron` sharing the energy above threshold by
  `fraction`; `granted` when the arena had room for the pair. -/
  | pair (electron positron : Nat) (fraction : α) (granted : Bool)

/-- Where a deposition lands in the histogram. -/
inductive Bin where
  | cell (i : Nat)
  | under
  | over

/-- What the geometry and the random stream decide for one slot in a step. -/
structure Turn (α : Type) where
  motion : Motion α
  draw : Draw α
  bin : Bin

/-- What the geometry and the random streams decide in a step: the slots filled, from the
top initializer on, and each slot's turn. -/
structure Round (α : Type) where
  filled : List Nat
  turns : Nat → Turn α

/-- The energy books: the slots, the pending initializers as `(particle, energy)` with the
top last, and the histogram's bins, underflow and overflow. -/
structure Books (α : Type) where
  cells : List (Cell α)
  pending : List (Nat × α)
  bins : List α
  underflow : α
  overflow : α

/-- What a run does to the books: load primaries, as `(particle, energy)`, or take a step. -/
inductive Event (α : Type) where
  | load (ps : List (Nat × α))
  | step (r : Round α)

/-- One slot's step in the books: the slot after the post-step, its deposition, its outcome,
the pair conversions it made, its bin, and whether it was refused. -/
structure Tally (α : Type) where
  cell : Cell α
  deposit : α
  yield : Option (Yield α)
  pairs : Nat
  bin : Bin
  refused : Bool

section Step

variable {α : Type} (A : Scalar α) (k : Rates α)

namespace Cell

def isAlive (c : Cell α) : Bool := c.held && c.status == .alive

/-- A slot filled from an initializer. -/
def enter (x : Nat × α) : Cell α := ⟨true, .initializing, x.1, x.2⟩

/-- The start of a step: a new track becomes alive. -/
def begin (c : Cell α) : Cell α :=
  if c.held then { c with status := if c.status == .initializing then .alive else c.status }
  else c

/-- The track is spent when nothing, or less than its tracking cutoff, is left. -/
def spent (c : Cell α) (energy : α) : Bool :=
  A.le energy A.zero || A.lt energy (k.tracking c.particle)

/-- The along-step: the slot and the deposition of the step so far. A track that travels
loses its energy at the end of its range, and otherwise the stopping power times the step,
but no more than its energy; it stops when it leaves the world, and when what is left is
spent it deposits that too. -/
def move (m : Motion α) (c : Cell α) : Cell α × α :=
  if !c.isAlive then (c, A.zero)
  else match m with
    | .rest => (c, A.zero)
    | .leave => ({ c with status := .killed }, A.zero)
    | .travel step range exits =>
      let loss := if range then c.energy else A.min (A.mul (k.stoppingPower c.particle) step) c.energy
      let rest := if range then A.zero else A.sub c.energy loss
      let dep := A.add A.zero loss
      let status := if exits then Status.killed else c.status
      if status == .alive && c.spent A k rest then
        ({ c with status := .killed, energy := A.zero }, A.add dep rest)
      else ({ c with status, energy := rest }, dep)

/-- The model's interaction: its outcome and the pair conversions it made, or nothing when
a conversion is below threshold. -/
def draw (d : Draw α) (c : Cell α) : Option (Option (Yield α) × Nat) :=
  if !c.isAlive then some (none, 0)
  else match d with
    | .none => some (none, 0)
    | .absorb => some (some ⟨.absorbed, A.zero, c.energy, []⟩, 0)
    | .scatter => some (some ⟨.scattered, c.energy, A.zero, []⟩, 0)
    | .pair electron positron fraction granted =>
      let available := A.sub c.energy k.pairMass
      if A.lt available A.zero then none
      else if granted then
        some (some ⟨.absorbed, A.zero, A.zero,
          [(electron, A.mul fraction available),
           (positron, A.mul (A.sub A.one fraction) available)]⟩, 1)
      else some (some ⟨.failed, A.zero, A.zero, []⟩, 0)

/-- An outcome taken: a scattered track goes on with the energy the outcome leaves it, an
absorbed one stops with none, and any other outcome leaves the slot as it is. -/
def take (c : Cell α) (y : Yield α) : Cell α :=
  match y.outcome with
  | .scattered => { c with energy := y.energy }
  | .absorbed => { c with energy := A.zero, status := .killed }
  | _ => c

/-- The post-step: the outcome is taken, the secondaries below their production cutoff are
deposited with the outcome's own deposit, and a track left spent deposits the rest. -/
def settle (c : Cell α) (dep : α) (y : Option (Yield α)) : Cell α × α :=
  if !c.isAlive then (c, dep)
  else match y with
    | none => (c, dep)
    | some o =>
      let below := o.secondaries.filter fun x => A.lt x.2 (k.production x.1)
      let deposit := A.add o.deposit (A.sum (below.map (·.2)))
      let c := c.take A o
      if c.isAlive && c.spent A k c.energy then
        ({ c with energy := A.zero, status := .killed }, A.add dep (A.add deposit c.energy))
      else (c, A.add dep deposit)

/-- One slot's step. -/
def turn (t : Turn α) (c : Cell α) : Tally α :=
  let (c, dep) := c.move A k t.motion
  match c.draw A k t.draw with
  | none => ⟨c, dep, none, 0, t.bin, true⟩
  | some (y, n) =>
    let (c, dep) := c.settle A k dep y
    ⟨c, dep, y, n, t.bin, false⟩

/-- Cleanup: a stopped track leaves its slot. -/
def reclaim (c : Cell α) : Cell α :=
  if c.held && c.status == .killed then { c with held := false, status := .inactive } else c

end Cell

/-- A weight added to the histogram's bins, underflow and overflow where it lands. -/
def Bin.add (b : Bin) (w : α) (h : List α × α × α) : List α × α × α :=
  match b with
  | .cell i => (h.1.modify i (A.add · w), h.2.1, h.2.2)
  | .under => (h.1, A.add h.2.1 w, h.2.2)
  | .over => (h.1, h.2.1, A.add h.2.2 w)

namespace Tally

/-- The secondaries queued from a slot: those at or above their production cutoff. -/
def promoted (t : Tally α) : List (Nat × α) :=
  if t.cell.held then
    match t.yield with
    | some y => y.secondaries.filter fun x => A.le (k.production x.1) x.2
    | none => []
  else []

/-- What a slot adds to the histogram: its positive deposition, if it holds a track. -/
def fill (h : List α × α × α) (t : Tally α) : List α × α × α :=
  if t.cell.held && A.lt A.zero t.deposit then t.bin.add A t.deposit h else h

/-- The energy a slot still holds when cleanup reclaims it. -/
def escaped (t : Tally α) : α :=
  if t.cell.held && t.cell.status == .killed then t.cell.energy else A.zero

end Tally

namespace Books

/-- The filled slots take the top initializers, the first filled slot the top one. Nothing is
admitted when a filled slot is named twice, is not an empty slot of the books, or is to take
an energy below zero. -/
def seat (b : Books α) (filled : List Nat) : Option (Books α) :=
  let entering := filled.zip b.pending.reverse
  if filled.Nodup ∧ (∀ i ∈ filled, b.cells[i]?.map (·.held) = some false) ∧
      (entering.all fun e => A.le A.zero e.2.2) then
    some { b with cells := entering.foldl (fun cs e => cs.set e.1 (Cell.enter e.2)) b.cells,
                  pending := b.pending.take (b.pending.length - filled.length) }
  else none

/-- The tallies of the slots after admission. -/
def tallies (r : Round α) (b : Books α) : List (Tally α) :=
  (b.cells.map Cell.begin).mapIdx fun i c => c.turn A k (r.turns i)

/-- One step of the books: the books after it, the energy the reclaimed slots still held,
and the number of pair conversions. -/
def step (r : Round α) (b : Books α) : Option (Books α × α × Nat) :=
  match b.seat A r.filled with
  | none => none
  | some b =>
    let ts := tallies A k r b
    if ts.any (·.refused) then none
    else
      let h := ts.foldl (Tally.fill A) (b.bins, b.underflow, b.overflow)
      some (⟨ts.map (·.cell.reclaim), b.pending ++ ts.flatMap (Tally.promoted A k), h.1, h.2.1,
          h.2.2⟩, A.sum (ts.map (Tally.escaped A)), (ts.map (·.pairs)).sum)

/-- Loading primaries, as `(particle, energy)`, puts them on the pending stack, the first one
on top. -/
def load (b : Books α) (ps : List (Nat × α)) : Books α :=
  { b with pending := b.pending ++ ps.reverse }

/-- A run of the books: the books after it, the energy its steps found in reclaimed slots and
its pair conversions; nothing once a step refuses. -/
def run : List (Event α) → Books α → Option (Books α × α × Nat)
  | [], b => some (b, A.zero, 0)
  | .load ps :: es, b => run es (b.load ps)
  | .step r :: es, b =>
    match b.step A k r with
    | none => none
    | some (b', e, n) => (run es b').map fun (b'', e', n') => (b'', A.add e e', n + n')

end Books

end Step

/-- The primaries a run loads. -/
def Event.loaded {α : Type} : List (Event α) → List (Nat × α)
  | [] => []
  | .load ps :: es => ps ++ Event.loaded es
  | .step _ :: es => Event.loaded es

/-- The rounds of a run's steps. -/
def Event.rounds {α : Type} : List (Event α) → List (Round α)
  | [] => []
  | .load _ :: es => Event.rounds es
  | .step r :: es => r :: Event.rounds es

/-! ## The engine's books -/

/-- The models whose interactions the books follow: absorption and kill deposit the energy
they take, isotropic scattering keeps it, and pair conversion passes it to the pair less
`2 mₑ`. -/
def Model.keepsEnergy : Model → Bool
  | .absorption .. | .isotropic .. | .pair .. | .kill .. => true
  | _ => false

def Cell.ofSlot (s : Slot) : Cell Float := ⟨s.track.isSome, s.status, s.particle, s.energy⟩

@[simp] theorem Cell.ofSlot_held (s : Slot) : (Cell.ofSlot s).held = s.track.isSome := rfl
@[simp] theorem Cell.ofSlot_status (s : Slot) : (Cell.ofSlot s).status = s.status := rfl
@[simp] theorem Cell.ofSlot_particle (s : Slot) : (Cell.ofSlot s).particle = s.particle := rfl
@[simp] theorem Cell.ofSlot_energy (s : Slot) : (Cell.ofSlot s).energy = s.energy := rfl
@[simp] theorem Cell.isAlive_ofSlot (s : Slot) : (Cell.ofSlot s).isAlive = s.isAlive := rfl

/-- The books of an engine state and its energy histogram. -/
def Books.view (st : CoreState) (h : Histogram) : Books Float where
  cells := st.slots.toList.map Cell.ofSlot
  pending := st.init.initializers.toList.map fun x => (x.particle, x.energy)
  bins := h.values.toList
  underflow := h.underflow
  overflow := h.overflow

/-- An outcome of the engine, its secondaries read from the arena. -/
def Yield.ofInteraction (arena : Arena Secondary) (o : Interaction) : Yield Float :=
  ⟨o.outcome, o.energy, o.deposition, (arena.get o.secondaries).map fun x => (x.particle, x.energy)⟩

/-- The motion of an along-step that took slot `s` to `t`. -/
def Motion.ofSlots (s t : Slot) : Motion Float :=
  if !s.isAlive || s.retry then .rest
  else if !t.limit.step.isFinite then .leave
  else .travel t.limit.step (t.limit.action == some .range) t.volume.isNone

/-- The draw of the model the step of `t` ended in; `l` is the slot after the models ran. -/
def Draw.ofSlots (physics : PhysicsParams) (t l : Slot) : Draw Float :=
  match t.limit.action with
  | some (.interact id) =>
    match physics.model? id with
    | some (.isotropic ..) => .scatter
    | some (.pair _ electron positron _) =>
      .pair electron positron t.rng.uniform.1 (l.interaction.any (·.outcome != .failed))
    | some _ => .absorb
    | Option.none => .none
  | _ => .none

/-- Whether a slot, as the models left it, made a pair conversion: an alive track whose step
ended in a pair-conversion model, with an outcome that did not fail. -/
def Slot.converted (physics : PhysicsParams) (s : Slot) : Bool :=
  s.isAlive && match s.limit.action with
    | some (.interact id) =>
      match physics.model? id with
      | some (.pair ..) => s.interaction.any (·.outcome != .failed)
      | _ => false
    | _ => false

/-- Where the histogram puts a deposition at `x`. -/
def Bin.of (h : Histogram) (x : Float) : Bin :=
  match h.bin x with
  | some i => .cell i
  | none => if x < h.edges.getD 0 0.0 then .under else .over

/-- The state a step with the standard actions hands to the along-step: its slots filled and
reset for the step. -/
def CoreState.started (p : Setup) (st : CoreState) : CoreState :=
  (startStep p.space p.dispatch (initializeTracks p.geometry p.seed p.space p.dispatch st).1).1

theorem CoreState.moved_eq (p : Setup) (st : CoreState) :
    st.moved p = (alongStepSweep p (st.started p)).1 := rfl

/-- The round of a step of the engine with the standard actions, read off the states the
step passes through: the slots its initialization fills, and for each slot how its along-step
took it, what its model did and where the histogram puts its deposition. -/
def Round.ofStep (s : Stepper) (h : Histogram) : Round Float :=
  let p := s.setup
  { filled := s.state.init.popPairs.1.map (·.1)
    turns := fun i =>
      { motion := Motion.ofSlots ((s.state.started p).slots.getD i default)
          ((s.state.moved p).slots.getD i default)
        draw := Draw.ofSlots p.physics ((s.state.moved p).slots.getD i default)
          ((s.state.launched p).slots.getD i default)
        bin := Bin.of h ((s.state.staged p).slots.getD i default).pos.x } }

end Transport
