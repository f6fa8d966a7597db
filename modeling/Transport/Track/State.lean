import Transport.Arena
import Transport.Kinematics
import Transport.Random.Stream
/-!
# The state of a track slot

A run steps a fixed number of slots. A slot holds a track exactly when its `track` is
set; everything else in it describes that track, or, once the slot is vacated, keeps the
values of its last track. Per slot the state records:

* the particle type and kinetic energy (MeV);
* position, direction, current volume, the volume beyond the boundary found by the last
  along-step, and the surface the track last stopped on;
* the mean free paths left before the next discrete interaction (unset until sampled),
  the energy deposited this step, and whether the last interaction must be retried;
* the track id, its parent, its event, the completed steps, the lab time (s), the
  lifecycle status and the last step limit;
* the outcome of this step's discrete interaction;
* the track's random stream.
-/
namespace Transport

/-- The lifecycle of a slot. -/
inductive Status where
  /-- No track. -/
  | inactive
  /-- Filled from an initializer, not yet stepped. -/
  | initializing
  /-- Being stepped. -/
  | alive
  /-- Stopped this step; reclaimed at cleanup. -/
  | killed
  deriving DecidableEq, Repr, Inhabited

/-- What limited a step. -/
inductive LimitAction where
  /-- The next geometry boundary. -/
  | boundary
  /-- A discrete interaction of the given model. -/
  | interact (model : Nat)
  /-- The range left under continuous energy loss. -/
  | range
  /-- The maximum step length. -/
  | userLimit
  /-- An interaction was sampled, but no model applies at the energy left. -/
  | rejected
  deriving DecidableEq, Repr

/-- The length and cause of the last step; no cause before the first along-step. -/
structure StepLimit where
  step : Float
  action : Option LimitAction
  deriving Inhabited

def StepLimit.initial : StepLimit := ⟨0.0, none⟩

/-- What a discrete interaction does to the incident track. -/
inductive Outcome where
  /-- The track continues unchanged. -/
  | unchanged
  /-- The track continues with a new energy and direction. -/
  | scattered
  /-- The track stops. -/
  | absorbed
  /-- The arena could not hold the secondaries; the interaction is retried. -/
  | failed
  deriving DecidableEq, Repr, Inhabited

/-- The result of one discrete interaction. -/
structure Interaction where
  outcome : Outcome
  /-- Outgoing kinetic energy (MeV). -/
  energy : Float
  /-- Outgoing direction. -/
  direction : Vec3
  /-- Secondaries written to the step arena. -/
  secondaries : Span
  /-- Energy deposited on the spot (MeV). -/
  deposition : Float
  deriving Inhabited

namespace Interaction

def absorbed (deposition : Float) : Interaction :=
  ⟨.absorbed, 0.0, Vec3.zero, Span.empty, deposition⟩

/-- The secondaries did not fit; the interaction is retried next step. -/
def failed : Interaction :=
  ⟨.failed, 0.0, Vec3.zero, Span.empty, 0.0⟩

/-- The track continues with a new energy and direction. -/
def scattered (energy : Float) (direction : Vec3) : Interaction :=
  ⟨.scattered, energy, direction, Span.empty, 0.0⟩

end Interaction

/-- A particle emitted by an interaction; position, time and lineage come from the
emitting slot. -/
structure Secondary where
  particle : Nat
  energy : Float
  direction : Vec3
  deriving Inhabited

/-- Everything needed to fill a vacant slot. -/
structure Initializer where
  particle : Nat
  energy : Float
  position : Vec3
  direction : Vec3
  time : Float
  /-- The track that produced this one; none for a primary. -/
  parent : Option Nat
  event : Nat
  deriving Inhabited

/-- A particle from the event source. -/
structure Primary where
  particle : Nat
  energy : Float
  position : Vec3
  direction : Vec3
  time : Float
  event : Nat
  deriving Inhabited

/-- The initializer of a primary: no parent. -/
def Primary.toInitializer (p : Primary) : Initializer :=
  ⟨p.particle, p.energy, p.position, p.direction, p.time, none, p.event⟩

/-- The state of one slot. -/
structure Slot where
  particle : Nat
  energy : Float
  pos : Vec3
  dir : Vec3
  volume : Option Nat
  nextVolume : Option Nat
  surface : Option Nat
  numMfp : Option Float
  /-- Energy deposited this step (MeV). -/
  deposition : Float
  retry : Bool
  track : Option Nat
  parent : Option Nat
  event : Nat
  numSteps : Nat
  time : Float
  status : Status
  limit : StepLimit
  interaction : Option Interaction
  rng : Random.Stream
  deriving Inhabited

namespace Slot

/-- A slot that never held a track. -/
def vacant : Slot :=
  { particle := 0, energy := 0.0, pos := Vec3.zero, dir := Vec3.zero, volume := none,
    nextVolume := none, surface := none, numMfp := none, deposition := 0.0, retry := false,
    track := none, parent := none, event := 0, numSteps := 0, time := 0.0,
    status := .inactive, limit := StepLimit.initial, interaction := none,
    rng := Random.Stream.ofSeed 0 }

/-- Whether the slot holds a track that is being stepped. -/
def isAlive (s : Slot) : Bool :=
  s.track.isSome && s.status == .alive

/-- Stops the track at the end of this step. -/
def kill (s : Slot) : Slot := { s with status := .killed }

end Slot

end Transport
