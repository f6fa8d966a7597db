import Transport.Track.State
import Transport.Describe
/-!
# Failures of tracks and sweeps

A `TrackError` is why one track could not be stepped. A `TrackFailure` adds the slot's
context: the sweep's label, the slot, and the track's identity and kinematics as the
sweep left them. A sweep that fails reports a `KernelError`: the failure of the
lowest-numbered failing slot and how many other slots failed. An `InitError` is an
initializer buffer that would overflow.

Each type has its message (numbers in the message layout, vectors as lists in the field
layout) and its structural description.
-/
namespace Transport

/-- Why a track could not be stepped. -/
inductive TrackError where
  | invalidEnergy (energy : Float)
  | invalidDirection (direction : Vec3)
  | outsideGeometry (position : Vec3)
  | noApplicableModel (particle : Nat) (energy : Float)
  | model (label reason : String)
  deriving Inhabited

namespace TrackError

def num (x : Float) : String := Decimal.Layout.message.render x

/-- The text of a track error. -/
def message : TrackError → String
  | .invalidEnergy e => "invalid kinetic energy " ++ num e ++ " MeV"
  | .invalidDirection d => "direction " ++ d.describe ++ " is not a unit vector"
  | .outsideGeometry p => "position " ++ p.describe ++ " is outside the geometry"
  | .noApplicableModel p e => s!"no model applies to particle {p} at " ++ num e ++ " MeV"
  | .model label reason => s!"model '{label}' failed: {reason}"

/-- The name of the error's kind. -/
def kind : TrackError → String
  | .invalidEnergy _ => "InvalidEnergy"
  | .invalidDirection _ => "InvalidDirection"
  | .outsideGeometry _ => "OutsideGeometry"
  | .noApplicableModel _ _ => "NoApplicableModel"
  | .model _ _ => "Model"

/-- The error as a structural description. -/
def describe : TrackError → String
  | .invalidEnergy e => Describe.record "InvalidEnergy" [("energy", Describe.real e)]
  | .invalidDirection d => Describe.record "InvalidDirection" [("direction", d.describe)]
  | .outsideGeometry p => Describe.record "OutsideGeometry" [("position", p.describe)]
  | .noApplicableModel p e => Describe.record "NoApplicableModel"
      [("particle", Describe.tagged "ParticleId" (toString p)), ("energy", Describe.real e)]
  | .model label reason => Describe.record "Model"
      [("model", Describe.quoted label), ("reason", Describe.quoted reason)]

end TrackError

/-- A track error with the context of the slot it happened in. -/
structure TrackFailure where
  label : String
  thread : Nat
  event : Nat
  track : Option Nat
  parent : Option Nat
  numSteps : Nat
  particle : Nat
  energy : Float
  position : Vec3
  direction : Vec3
  volume : Option Nat
  nextVolume : Option Nat
  error : TrackError
  deriving Inhabited

namespace TrackFailure

/-- The failure of `error` in slot `thread`, whose state is `s`, during sweep `label`. -/
def ofSlot (label : String) (thread : Nat) (s : Slot) (error : TrackError) : TrackFailure :=
  { label, thread, event := s.event, track := s.track, parent := s.parent,
    numSteps := s.numSteps, particle := s.particle, energy := s.energy, position := s.pos,
    direction := s.dir, volume := s.volume, nextVolume := s.nextVolume, error }

/-- An optional number in a message: its digits, or `-`. -/
def opt : Option Nat → String
  | some n => toString n
  | none => "-"

/-- The text of a failure: the error, then the slot's context. -/
def message (f : TrackFailure) : String :=
  f.error.message ++ s!" in '{f.label}' (thread={f.thread}, event={f.event}, track=" ++
    opt f.track ++ ", parent=" ++ opt f.parent ++ s!", steps={f.numSteps}, particle={f.particle}, energy=" ++
    TrackError.num f.energy ++ " MeV, pos=" ++ f.position.describe ++ ", dir=" ++
    f.direction.describe ++ ", volume=" ++ opt f.volume ++ ", next_volume=" ++
    opt f.nextVolume ++ ")"

/-- The failure as a structural description. -/
def describe (f : TrackFailure) : String :=
  let tag (name : String) (n : Nat) := Describe.tagged name (toString n)
  Describe.record "TrackFailure"
    [("label", Describe.quoted f.label), ("thread", tag "ThreadId" f.thread),
     ("event", tag "EventId" f.event), ("track", Describe.optional (tag "TrackId") f.track),
     ("parent", Describe.optional (tag "TrackId") f.parent),
     ("num_steps", toString f.numSteps), ("particle", tag "ParticleId" f.particle),
     ("energy", Describe.real f.energy), ("position", f.position.describe),
     ("direction", f.direction.describe), ("volume", Describe.optional (tag "VolumeId") f.volume),
     ("next_volume", Describe.optional (tag "VolumeId") f.nextVolume),
     ("error", f.error.describe)]

end TrackFailure

/-- A failed sweep: the failure of its lowest failing slot and the number of others. -/
structure KernelError where
  first : TrackFailure
  suppressed : Nat
  deriving Inhabited

namespace KernelError

def message (e : KernelError) : String :=
  e.first.message ++ (if e.suppressed > 0 then s!" (+{e.suppressed} more)" else "")

def describe (e : KernelError) : String :=
  Describe.record "KernelError"
    [("first", e.first.describe), ("suppressed", toString e.suppressed)]

end KernelError

/-- An initializer buffer that would overflow: `requested` entries, room for `capacity`. -/
inductive InitError where
  | capacityExceeded (requested capacity : Nat)
  deriving DecidableEq, Repr, Inhabited

namespace InitError

def message : InitError → String
  | .capacityExceeded r c => s!"track initializer capacity exceeded: {r} requested, capacity {c}"

def describe : InitError → String
  | .capacityExceeded r c => Describe.record "CapacityExceeded"
      [("requested", toString r), ("capacity", toString c)]

end InitError

end Transport
