import Transport.Track.Error
/-!
# The state of record

`CoreState` holds every slot, the step arena of secondaries and the initializer buffer.
The buffer keeps two stacks, both consumed from the top: pending initializers and vacant
slots. It starts with every slot vacant, stacked so that slot 0 is on top and filled
first, and it issues track ids in increasing order from `nextTrack`.

Occupancy is recorded twice: in the vacancy stack and in each slot's `track`. The
operations of `Transport.Track.Population` keep the two in step.
-/
namespace Transport

/-- Pending initializers and vacant slots, both stacks with their top last. -/
structure InitBuffer where
  initializers : Array Initializer
  capacity : Nat
  vacancies : Array Nat
  nextTrack : Nat
  deriving Inhabited

namespace InitBuffer

/-- A buffer of `capacity` initializers for `slots` slots, all vacant, slot 0 on top. -/
def new (slots capacity : Nat) : InitBuffer :=
  { initializers := #[], capacity,
    vacancies := ((List.range slots).reverse).toArray, nextTrack := 0 }

/-- Queues primaries so that the first is on top; refuses all of them if they do not
fit. -/
def extendFromPrimaries (b : InitBuffer) (ps : List Primary) : Except InitError InitBuffer :=
  let requested := b.initializers.size + ps.length
  if requested > b.capacity then .error (.capacityExceeded requested b.capacity)
  else .ok { b with initializers := b.initializers ++ (ps.reverse.map Primary.toInitializer).toArray }

/-- The `(slot, track id, initializer)` triples of the next initialization: the `i`-th
vacancy from the top with the `i`-th initializer from the top and id `nextTrack + i`,
for as many as both stacks allow; and the buffer with them popped. -/
def popPairs (b : InitBuffer) : List (Nat × Nat × Initializer) × InitBuffer :=
  let n := min b.vacancies.size b.initializers.size
  let vTop := b.vacancies.size
  let iTop := b.initializers.size
  let pairs := (List.range n).map fun i =>
    (b.vacancies.getD (vTop - 1 - i) 0, b.nextTrack + i, b.initializers.getD (iTop - 1 - i) default)
  (pairs, { b with vacancies := b.vacancies.extract 0 (vTop - n),
                   initializers := b.initializers.extract 0 (iTop - n),
                   nextTrack := b.nextTrack + n })

end InitBuffer

/-- The state of every slot of a run, the step arena and the initializer buffer. -/
structure CoreState where
  slots : Array Slot
  secondaries : Arena Secondary
  init : InitBuffer
  deriving Inhabited

namespace CoreState

/-- `slots` vacant slots, an initializer buffer of `initCapacity` and an arena of
`arenaCapacity` cells; `none` when the slots, the arena or the buffer would not fit in
memory. -/
def new (slots initCapacity arenaCapacity : Nat) : Option CoreState :=
  if Layout.slotGeometry.fits slots && Layout.secondaryCell.fits arenaCapacity &&
      Layout.initializer.fits initCapacity then
    some { slots := Array.replicate slots Slot.vacant, secondaries := Arena.new arenaCapacity,
           init := InitBuffer.new slots initCapacity }
  else none

def capacity (s : CoreState) : Nat := s.slots.size

/-- Occupied slots by the vacancy count: slots less vacancies. -/
def numAlive (s : CoreState) : Nat := s.capacity - s.init.vacancies.size

def numInitializers (s : CoreState) : Nat := s.init.initializers.size

/-- Occupied slots by the slots themselves: those holding a track. -/
def countOccupied (s : CoreState) : Nat := (s.slots.toList.filter (·.track.isSome)).length

def describe (s : CoreState) : String :=
  Describe.record "CoreState"
    [("capacity", toString s.capacity), ("num_alive", toString s.numAlive),
     ("num_initializers", toString s.numInitializers), ("secondaries", s.secondaries.describe)]

end CoreState

end Transport
