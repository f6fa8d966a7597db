import Transport.Track.Sweep
import Transport.Geometry
import Transport.Particle
/-!
# Filling, resetting and reclaiming slots

The population of the slots changes at four points of a step:

* `initializeTracks` pairs the top vacancies with the top initializers, issues their
  track ids in order, and fills each paired slot: kinematics from the initializer, fresh
  physics and bookkeeping, status `initializing`, and a random stream keyed by the run's
  seed and the track id. Only then is the slot checked: energy finite and not negative, a
  unit direction, a finite position that the geometry locates. The pairing is fixed before
  the sweep, so a failing slot keeps the track it was given.
* `startStep` turns new tracks alive and clears the previous step's deposition and
  interaction; a track that must retry its interaction keeps its step limit.
* `extendFromSecondaries` turns this step's secondaries at or above their production
  cutoff into initializers, slot by slot and in arena order within a slot, all or none.
* `cleanup` vacates the slots of stopped tracks, pushing them on the vacancy stack in slot
  order, and clears the arena.
-/
namespace Transport

/-- Fills a slot from an initializer, as track `track` with the stream `rng`. -/
def Slot.fill (s : Slot) (track : Nat) (x : Initializer) (rng : Random.Stream) : Slot :=
  { s with particle := x.particle, energy := x.energy, pos := x.position, dir := x.direction,
           volume := none, nextVolume := none, surface := none,
           numMfp := none, deposition := 0.0, retry := false,
           track := some track, parent := x.parent, event := x.event, numSteps := 0,
           time := x.time, status := .initializing, limit := StepLimit.initial,
           interaction := none, rng }

/-- Why a newly filled track cannot be stepped, checked in order: its energy, its
direction, its position, and where the geometry puts it. -/
def initialCheck (g : Geometry) (x : Initializer) : Except TrackError Nat :=
  if !(x.energy.isFinite && x.energy ≥ 0.0) then .error (.invalidEnergy x.energy)
  else if !x.direction.isUnit then .error (.invalidDirection x.direction)
  else if !x.position.isFinite then .error (.outsideGeometry x.position)
  else match g.locate x.position with
    | some v => .ok v
    | none => .error (.outsideGeometry x.position)

/-- The initialization kernel for an assignment of tracks to slots. -/
def initKernel (g : Geometry) (base : Random.Stream)
    (assignment : Array (Option (Nat × Initializer))) : Kernel :=
  fun i s arena =>
    match assignment.getD i none with
    | none => (s, arena, none)
    | some (track, x) =>
      let s := s.fill track x (base.withStream track.toUInt64)
      match initialCheck g x with
      | .ok v => ({ s with volume := some v }, arena, none)
      | .error e => (s, arena, some e)

def assignmentOf (slots : Nat) (pairs : List (Nat × Nat × Initializer)) :
    Array (Option (Nat × Initializer)) :=
  pairs.foldl (fun a (thread, track, x) => a.set! thread (some (track, x)))
    (Array.replicate slots none)

/-- Fills vacant slots from pending initializers; the number of tracks started. -/
def initializeTracks (g : Geometry) (seed : UInt64) (space : Space) (dispatch : Dispatch)
    (st : CoreState) : CoreState × Except SweepError Nat :=
  let (pairs, init) := st.init.popPairs
  let st := { st with init }
  if pairs.isEmpty then (st, .ok 0)
  else
    let kernel := initKernel g (Random.Stream.ofSeed seed) (assignmentOf st.slots.size pairs)
    let (st, err) := sweep "initialize-tracks" space dispatch kernel st
    match err with
    | some e => (st, .error e)
    | none => (st, .ok pairs.length)

/-- The start-of-step reset of one slot. -/
def Slot.startStep (s : Slot) : Slot :=
  if s.track.isNone then s
  else
    { s with status := if s.status == .initializing then .alive else s.status,
             deposition := 0.0, interaction := none,
             limit := if s.retry then s.limit else StepLimit.initial }

def startStep (space : Space) (dispatch : Dispatch) (st : CoreState) :
    CoreState × Option SweepError :=
  sweep "pre-step" space dispatch (fun _ s arena => (s.startStep, arena, none)) st

/-- The initializers of one slot's secondaries that reach their production cutoff. -/
def Slot.promoted (s : Slot) (cutoffs : CutoffTable) (arena : Arena Secondary) :
    List Initializer :=
  match s.interaction, s.track with
  | some outcome, some track =>
    ((arena.get outcome.secondaries).filter fun x => x.energy ≥ (cutoffs.get x.particle).production).map
      fun x => ⟨x.particle, x.energy, s.pos, x.direction, s.time, some track, s.event⟩
  | _, _ => []

/-- Queues this step's surviving secondaries as initializers: the number added, or the
overflow, with the state unchanged. -/
def extendFromSecondaries (cutoffs : CutoffTable) (st : CoreState) :
    Except InitError (Nat × CoreState) :=
  let promoted := st.slots.toList.flatMap fun s => s.promoted cutoffs st.secondaries
  let requested := st.init.initializers.size + promoted.length
  if requested > st.init.capacity then .error (.capacityExceeded requested st.init.capacity)
  else .ok (promoted.length,
    { st with init := { st.init with initializers := st.init.initializers ++ promoted.toArray } })

/-- Vacates stopped tracks and clears the arena; the number of slots reclaimed. -/
def cleanup (st : CoreState) : CoreState × Nat :=
  let step (acc : Array Slot × Array Nat × Nat) (i : Nat) :=
    let (slots, vacancies, n) := acc
    let s := slots.getD i default
    if s.track.isSome && s.status == .killed then
      (slots.set! i { s with track := none, status := .inactive, interaction := none },
        vacancies.push i, n + 1)
    else acc
  let (slots, vacancies, n) :=
    (List.range st.slots.size).foldl step (st.slots, st.init.vacancies, 0)
  ({ st with slots, init := { st.init with vacancies }, secondaries := st.secondaries.clear }, n)

end Transport
